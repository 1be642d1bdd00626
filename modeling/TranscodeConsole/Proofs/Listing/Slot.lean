import TranscodeConsole.Proofs.Listing.Step

/-!
The one place for a session that a listing has, seen from the effects alone: it is empty, or a
session is read there, or one is parked. The status of the listing tells which, after any run of
messages, and no effect ever finds the slot otherwise than it has to be.
-/
namespace TranscodeConsole.Listing

inductive Slot where
  | empty
  | reading (generation : Nat)
  | parked (generation : Nat)
  deriving DecidableEq, Repr

namespace Slot

/-- A session that is read moves its slot when it says that its page or its feed is over. What
other sessions say, or one that is parked, moves nothing. -/
def hear : Slot → Msg → Slot
  | .reading generation, .pageFilled g =>
    if g = generation then .parked generation else .reading generation
  | .reading generation, .exhausted g | .reading generation, .failed g _ =>
    if g = generation then .empty else .reading generation
  | slot, _ => slot

/-- Carries out an effect. A stream is opened only in an empty slot and resumed only from one that
is parked at its generation; otherwise there is no slot after it. -/
def carryOut : Slot → Effect → Option Slot
  | _, .cancelStream => some .empty
  | .empty, .openStream generation _ _ => some (.reading generation)
  | .parked kept, .resumeStream generation =>
    if kept = generation then some (.reading generation) else none
  | _, .openStream .. | _, .resumeStream _ => none

def after (s : State) (slot : Slot) (m : Msg) : Option Slot :=
  (update s m).2.foldlM carryOut (slot.hear m)

def run (s : State) (slot : Slot) : List Msg → Option Slot
  | [] => some slot
  | m :: ms => (slot.after s m).bind fun slot => run (update s m).1 slot ms

end Slot

def opened (effects : List Effect) : List Nat :=
  effects.filterMap fun
    | .openStream generation _ _ => some generation
    | _ => none

inductive Mirrors (s : State) : Slot → Prop where
  | empty (idle : s.status = .idle) (none_ : s.moreAvailable = false) : Mirrors s .empty
  | reading (loading : s.status = .loading) (none_ : s.moreAvailable = false) :
      Mirrors s (.reading s.generation)
  | parked (idle : s.status = .idle) (more : s.moreAvailable = true) :
      Mirrors s (.parked s.generation)

theorem Mirrors.loading_iff {s : State} {slot : Slot} (mirrors : Mirrors s slot) :
    s.status = .loading ↔ slot = .reading s.generation := by
  cases mirrors with
  | empty idle none_ => simp [idle]
  | reading loading none_ => simp [loading]
  | parked idle more => simp [idle]

theorem Mirrors.more_iff {s : State} {slot : Slot} (mirrors : Mirrors s slot) :
    s.moreAvailable = true ↔ slot = .parked s.generation := by
  cases mirrors with
  | empty idle none_ => simp [none_]
  | reading loading none_ => simp [none_]
  | parked idle more => simp [more]

theorem Mirrors.hear_ignored {s : State} {slot : Slot} {m : Msg} (mirrors : Mirrors s slot)
    (deaf : s.heeds m = false) : slot.hear m = slot := by
  cases mirrors with
  | empty idle none_ => cases m <;> rfl
  | parked idle more => cases m <;> rfl
  | reading loading none_ =>
    have other : ∀ g, s.accepts g = false → g ≠ s.generation := by
      rintro g refused rfl
      simp [State.accepts, loading] at refused
    cases m with
    | pageFilled g => simp [Slot.hear, other g deaf]
    | exhausted g => simp [Slot.hear, other g deaf]
    | failed g message => simp [Slot.hear, other g deaf]
    | _ => rfl

theorem Mirrors.slot_of_loading {s : State} {slot : Slot} (mirrors : Mirrors s slot)
    (loading : s.status = .loading) : slot = .reading s.generation :=
  mirrors.loading_iff.mp loading

theorem mirrors_after {s : State} {slot : Slot} {m : Msg} (mirrors : Mirrors s slot) :
    ∃ next, slot.after s m = some next ∧ Mirrors (update s m).1 next := by
  unfold Slot.after
  have step := step_update s m
  generalize (update s m).1 = s', (update s m).2 = effects at step
  cases step with
  | loads asked => exact ⟨_, rfl, .reading rfl rfl⟩
  | resumes idle more =>
    have parked := mirrors.more_iff.mp more
    subst parked
    exact ⟨.reading s.generation, by simp [Slot.hear, Slot.carryOut], .reading rfl rfl⟩
  | cancels => exact ⟨.empty, rfl, .empty rfl rfl⟩
  | shows loading =>
    have reading := mirrors.slot_of_loading loading
    subst reading
    cases mirrors with
    | reading _ none_ => exact ⟨_, rfl, .reading loading none_⟩
  | counts loading =>
    have reading := mirrors.slot_of_loading loading
    subst reading
    cases mirrors with
    | reading _ none_ => exact ⟨_, rfl, .reading loading none_⟩
  | fills loading =>
    have reading := mirrors.slot_of_loading loading
    subst reading
    exact ⟨.parked s.generation, by simp [Slot.hear], .parked rfl rfl⟩
  | exhausts loading =>
    have reading := mirrors.slot_of_loading loading
    subst reading
    exact ⟨.empty, by simp [Slot.hear], .empty rfl rfl⟩
  | fails loading => exact ⟨.empty, rfl, .empty rfl rfl⟩
  | ignores deaf =>
    exact ⟨slot, by rw [mirrors.hear_ignored deaf]; rfl, mirrors⟩

theorem mirrors_run (ms : List Msg) :
    ∀ {s : State} {slot : Slot}, Mirrors s slot →
      ∃ last, slot.run s ms = some last ∧ Mirrors (run s ms).1 last := by
  induction ms with
  | nil => intro s slot mirrors; exact ⟨slot, rfl, mirrors⟩
  | cons m ms ih =>
    intro s slot mirrors
    obtain ⟨next, moved, still⟩ := mirrors_after (m := m) mirrors
    obtain ⟨last, ran, mirrorsLast⟩ := ih still
    exact ⟨last, by rw [Slot.run, moved, Option.bind_some, ran], mirrorsLast⟩

theorem opened_update (s : State) (m : Msg) :
    (opened (update s m).2 = [] ∧ s.generation ≤ (update s m).1.generation) ∨
      (opened (update s m).2 = [s.generation + 1] ∧
        (update s m).1.generation = s.generation + 1) := by
  have step := step_update s m
  generalize (update s m).1 = s', (update s m).2 = effects at step
  cases step with
  | loads asked => exact .inr ⟨rfl, rfl⟩
  | cancels => exact .inl ⟨rfl, Nat.le_succ _⟩
  | _ => exact .inl ⟨rfl, Nat.le_refl _⟩

theorem opened_append (first second : List Effect) :
    opened (first ++ second) = opened first ++ opened second := by
  simp [opened]

theorem opened_run (ms : List Msg) :
    ∀ s : State, (∀ g ∈ opened (run s ms).2, s.generation < g) ∧
      (opened (run s ms).2).Pairwise (· < ·) := by
  induction ms with
  | nil => intro s; simp [run, opened]
  | cons m ms ih =>
    intro s
    obtain ⟨later, sorted⟩ := ih (update s m).1
    have whole : opened (run s (m :: ms)).2 =
        opened (update s m).2 ++ opened (run (update s m).1 ms).2 := opened_append _ _
    rw [whole]
    rcases opened_update s m with ⟨none_, le⟩ | ⟨one, next⟩
    · rw [none_, List.nil_append]
      exact ⟨fun g member => Nat.lt_of_le_of_lt le (later g member), sorted⟩
    · rw [one, List.singleton_append]
      rw [next] at later
      refine ⟨?_, List.pairwise_cons.mpr ⟨later, sorted⟩⟩
      intro g member
      rcases List.mem_cons.mp member with rfl | member
      · exact Nat.lt_succ_self _
      · have := later g member
        omega

/-- Whatever the messages, every effect finds the slot as it has to be, the status tells what the
slot holds, and each stream is opened under a later generation than those before. -/
theorem status_mirrors_slot (ms : List Msg) :
    (∃ slot, Slot.run {} .empty ms = some slot ∧
      ((run {} ms).1.status = .loading ↔ slot = .reading (run {} ms).1.generation) ∧
      ((run {} ms).1.moreAvailable = true ↔ slot = .parked (run {} ms).1.generation)) ∧
    (opened (run {} ms).2).Pairwise (· < ·) := by
  have first : Mirrors {} .empty := .empty rfl rfl
  obtain ⟨slot, ran, mirrors⟩ := mirrors_run ms first
  exact ⟨⟨slot, ran, mirrors.loading_iff, mirrors.more_iff⟩, (opened_run ms {}).2⟩

end TranscodeConsole.Listing
