import Mathlib.Data.List.Chain
import TranscodeConsole.Proofs.Listing.Step
import TranscodeConsole.Proofs.Quick.Step

/-!
The flag by which a machine asks to be drawn again. Whenever it is read, which takes it back, it
tells of every change of what is shown since it was read before; that of a listing tells of nothing
else.
-/
namespace TranscodeConsole

/-! ### Reading the flag -/

inductive Use (μ : Type) where
  | tell (m : μ)
  | ask
  deriving DecidableEq, Repr

section

variable {σ μ : Type} (tell : σ → μ → σ) (ask : σ → Bool × σ)

/-- What the flag says each time it is read, with the machine behind that. -/
def readings (s : σ) : List (Use μ) → List (Bool × σ)
  | [] => []
  | .tell m :: uses => readings (tell s m) uses
  | .ask :: uses => ask s :: readings (ask s).2 uses

/-- Each time the flag is read, `rule` holds of the machine behind the time before, or else at the
start, and of what is read now. -/
def Reads (start : σ) (rule : σ → Bool × σ → Prop) : Prop :=
  ∀ uses, List.IsChain (fun earlier later => rule earlier.2 later)
    ((false, start) :: readings tell ask start uses)

variable {tell ask}

theorem reads_of_since {start : σ} {rule : σ → Bool × σ → Prop} (since : σ → σ → Prop)
    (first : since start start) (told : ∀ base s m, since base s → since base (tell s m))
    (asked : ∀ base s, since base s → rule base (ask s) ∧ since (ask s).2 (ask s).2) :
    Reads tell ask start rule := by
  intro uses
  suffices chain : ∀ base s, since base s → ∀ answer,
      List.IsChain (fun earlier later => rule earlier.2 later)
        ((answer, base) :: readings tell ask s uses) from chain start start first false
  induction uses with
  | nil => exact fun base s _ answer => .singleton _
  | cons use uses ih =>
    intro base s between answer
    cases use with
    | tell m => exact ih base (tell s m) (told base s m between) answer
    | ask =>
      obtain ⟨holds, afresh⟩ := asked base s between
      exact List.isChain_cons_cons.mpr ⟨holds, ih (ask s).2 (ask s).2 afresh (ask s).1⟩

end

/-! ### Listings -/

namespace Listing

namespace State

def stage (s : State) : Nat :=
  if s.status = .loading then 1 else if s.moreAvailable then 0 else 2

/-- How far a load has come. The end of a page counts more than a change of stage. -/
def course (s : State) : Nat := 3 * s.pages + s.entries.length + s.malformed + s.stage

def Precedes (s t : State) : Prop :=
  s.generation < t.generation ∨ s.generation = t.generation ∧ s.course < t.course

theorem Precedes.trans {s t u : State} (first : s.Precedes t) (second : t.Precedes u) :
    s.Precedes u := by
  unfold Precedes at *
  omega

theorem Precedes.ne {s t : State} (precedes : s.Precedes t) :
    t.consumeDirty.2 ≠ s.consumeDirty.2 := by
  intro same
  have generation : t.generation = s.generation := (congrArg State.generation same :)
  have course : t.course = s.course := (congrArg State.course same :)
  unfold Precedes at precedes
  omega

end State

variable {s after : State} {m : Msg} {effects : List Effect}

theorem Step.further (step : Step s m after effects) :
    after = s ∨ after.dirty = true ∧ s.Precedes after := by
  cases step with
  | ignores => exact .inl rfl
  | loads | cancels => exact .inr ⟨rfl, .inl (Nat.lt_succ_self _)⟩
  | resumes idle more =>
    refine .inr ⟨rfl, .inr ⟨rfl, ?_⟩⟩
    simp [State.course, State.stage, idle, more]
  | shows loading | counts loading | fails loading =>
    refine .inr ⟨rfl, .inr ⟨rfl, ?_⟩⟩
    simp [State.course, State.stage, loading]
  | fills loading | exhausts loading =>
    refine .inr ⟨rfl, .inr ⟨rfl, ?_⟩⟩
    simp only [State.course, State.stage, State.finishPage, loading, ite_true, reduceCtorEq,
      ite_false, Bool.false_eq_true]
    omega

theorem further_update (s : State) (m : Msg) :
    (update s m).1 = s ∨ (update s m).1.dirty = true ∧ s.Precedes (update s m).1 :=
  (step_update s m).further

/-- A listing whose flag was just read, and what became of it since. -/
structure Since (base s : State) : Prop where
  clean : base.consumeDirty.2 = base
  moved : s = base ∨ s.dirty = true ∧ base.Precedes s

theorem since_consumeDirty (s : State) : Since s.consumeDirty.2 s.consumeDirty.2 := ⟨rfl, .inl rfl⟩

theorem Since.update {base : State} (since : Since base s) (m : Msg) :
    Since base (update s m).1 := by
  refine ⟨since.clean, ?_⟩
  rcases since.moved with rfl | ⟨dirty, before⟩
  · exact further_update s m
  · rcases further_update s m with kept | ⟨dirty', later⟩
    · rw [kept]
      exact .inr ⟨dirty, before⟩
    · exact .inr ⟨dirty', before.trans later⟩

theorem Since.dirty_iff {base : State} (since : Since base s) :
    s.dirty = true ↔ s.consumeDirty.2 ≠ base := by
  rw [← since.clean]
  rcases since.moved with rfl | ⟨dirty, before⟩
  · have unset : s.dirty = false := (congrArg State.dirty since.clean).symm
    simp [unset]
  · simp [dirty, before.ne]

theorem update_eq_self (same : (update s m).1.consumeDirty.2 = s.consumeDirty.2) :
    (update s m).1 = s :=
  (further_update s m).resolve_right fun further => further.2.ne same

end Listing

/-! ### Quick transcodes -/

namespace QuickTranscode

variable {s after : State} {m : Msg} {effects : List Effect}

theorem Step.view_or_dirty (step : Step s m after effects) :
    after.dirty = true ∨ after.view = s.view ∧ after.dirty = s.dirty := by
  cases step with
  | rejects | submits | progresses | creates | uploads | loads | fails | resets => exact .inl rfl
  | forgets | ignores => exact .inr ⟨rfl, rfl⟩
  | @looks status | @unnames status | @names status =>
    by_cases known : s.jobStatus = some status
    · exact .inr (by simp [State.sees, State.view, known])
    · exact .inl (by simp [State.sees, known])

def Since (base s : State) : Prop := s.dirty = true ∨ s.view = base.view

theorem Since.update {base : State} (since : Since base s) (m : Msg) :
    Since base (update s m).1 := by
  rcases (step_update s m).view_or_dirty with dirty | ⟨view, flag⟩
  · exact .inl dirty
  · rw [Since, view, flag]
    exact since

end QuickTranscode

/-- However a listing or a quick transcode is used: if it shows something else when its flag is read
than when it was read before, or at first, then the flag is set. That of a listing is set only
if the listing has changed since, so that a message which changes nothing does not set it. -/
theorem redraw_flag_misses_nothing :
    Reads (fun s m => (Listing.update s m).1) Listing.State.consumeDirty {}
      (fun before now => (now.2.view ≠ before.view → now.1 = true) ∧
        (now.1 = true ↔ now.2 ≠ before)) ∧
    (∀ (s : Listing.State) (m : Listing.Msg),
      (Listing.update s m).1.consumeDirty.2 = s.consumeDirty.2 → (Listing.update s m).1 = s) ∧
    Reads (fun s m => (QuickTranscode.update s m).1) QuickTranscode.State.consumeDirty {}
      (fun before now => now.2.view ≠ before.view → now.1 = true) := by
  refine ⟨?_, fun _ _ => Listing.update_eq_self, ?_⟩
  · refine reads_of_since Listing.Since (Listing.since_consumeDirty {})
      (fun _ _ m since => since.update m) ?_
    intro base s since
    refine ⟨⟨?_, since.dirty_iff⟩, Listing.since_consumeDirty s⟩
    intro seen
    exact since.dirty_iff.mpr fun same => seen (congrArg Listing.State.view same)
  · refine reads_of_since QuickTranscode.Since (.inr rfl) (fun _ _ m since => since.update m) ?_
    intro base s since
    exact ⟨fun seen => since.resolve_right seen, .inr rfl⟩

end TranscodeConsole
