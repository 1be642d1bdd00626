import TranscodeConsole.Proofs.Listing.Slot

/-!
What a listing was before a load makes no difference behind it. Two listings that are told the same
from a load on, each under generations counted from its own, ask for the same streams and show the
same, but for the last error: it stays until a page or a feed comes to an end.
-/
namespace TranscodeConsole.Listing

def Msg.renumber (f : Nat → Nat) : Msg → Msg
  | .record generation entry => .record (f generation) entry
  | .malformed generation message => .malformed (f generation) message
  | .pageFilled generation => .pageFilled (f generation)
  | .exhausted generation => .exhausted (f generation)
  | .failed generation message => .failed (f generation) message
  | m => m

def Effect.renumber (f : Nat → Nat) : Effect → Effect
  | .cancelStream => .cancelStream
  | .openStream generation batch filter => .openStream (f generation) batch filter
  | .resumeStream generation => .resumeStream (f generation)

/-- The generation that is as far from `b` as the given one is from `a`. Of those that would come
before all others it is the first. -/
def recount (a b generation : Nat) : Nat := generation + b - a

def Msg.isClosing : Msg → Bool
  | .pageFilled _ | .exhausted _ | .failed _ _ => true
  | _ => false

namespace State

/-- Whether a page or a feed is brought to its end by a message, and not by one that is dropped. -/
def closes (s : State) (m : Msg) : Bool := m.isClosing && s.heeds m

def withPast (s : State) (generation : Nat) (error : Option String) (dirty : Bool) : State :=
  { s with generation, lastError := error, dirty }

theorem view_withPast (s : State) (generation : Nat) (error : Option String) (dirty : Bool) :
    (s.withPast generation error dirty).view = { s.view with lastError := error } := rfl

end State

def closed (s : State) : List Msg → Bool
  | [] => false
  | m :: ms => s.closes m || closed (update s m).1 ms

/-! ### Counting anew -/

variable {a b n : Nat}

theorem recount_succ (later : a ≤ n) : recount a b (n + 1) = recount a b n + 1 := by
  simp only [recount]
  omega

theorem recount_eq_iff (later : a < n) (generation : Nat) :
    recount a b generation = recount a b n ↔ generation = n := by
  simp only [recount]
  omega

variable {s : State}

theorem accepts_withPast (later : a < s.generation) (error : Option String) (dirty : Bool)
    (generation : Nat) :
    (s.withPast (recount a b s.generation) error dirty).accepts (recount a b generation) =
      s.accepts generation := by
  rw [Bool.eq_iff_iff, State.accepts_iff, State.accepts_iff]
  exact and_congr_left' (recount_eq_iff later generation)

theorem heeds_withPast (later : a < s.generation) (error : Option String) (dirty : Bool) (m : Msg) :
    (s.withPast (recount a b s.generation) error dirty).heeds (m.renumber (recount a b)) =
      s.heeds m := by
  cases m with
  | load batch filter | changeFilter filter | more | cancel => rfl
  | record generation _ | malformed generation _ | pageFilled generation | exhausted generation
  | failed generation _ => exact accepts_withPast later error dirty generation

theorem asked_withPast (generation : Nat) (error : Option String) (dirty : Bool) (f : Nat → Nat)
    (m : Msg) : (s.withPast generation error dirty).asked (m.renumber f) = s.asked m := by
  cases m <;> rfl

/-! ### One message -/

theorem update_withPast (later : a < s.generation) (error : Option String) (dirty : Bool) (m : Msg) :
    ∃ dirty', update (s.withPast (recount a b s.generation) error dirty) (m.renumber (recount a b)) =
      ((update s m).1.withPast (recount a b (update s m).1.generation)
          (if s.closes m then (update s m).1.lastError else error) dirty',
        (update s m).2.map (·.renumber (recount a b))) := by
  have heeds := heeds_withPast (b := b) later error dirty m
  have counted := recount_succ (b := b) (Nat.le_of_lt later)
  have step := step_update s m
  generalize (update s m).1 = after, (update s m).2 = effects at step
  cases step with
  | loads asked =>
    refine ⟨true, ?_⟩
    have open_ : s.closes m = false := by
      cases m <;> first | rfl | simp [State.asked] at asked
    rw [update_asked ((asked_withPast _ error dirty _ m).trans asked), open_]
    simp [startLoad, State.beginLoad, State.withPast, Effect.renumber, counted]
  | resumes idle more =>
    exact ⟨true, by simp [update, Msg.renumber, State.withPast, idle, more, Effect.renumber,
      State.closes, Msg.isClosing]⟩
  | cancels =>
    exact ⟨true, by simp [update, Msg.renumber, State.withPast, Effect.renumber, State.closes,
      Msg.isClosing, counted]⟩
  | shows loading | counts loading =>
    exact ⟨true, by simp [update, Msg.renumber, State.accepts, State.withPast, loading,
      State.closes, Msg.isClosing]⟩
  | fills loading | exhausts loading =>
    exact ⟨true, by simp [update, Msg.renumber, State.accepts, State.withPast, loading,
      State.finishPage, State.closes, Msg.isClosing, State.heeds]⟩
  | fails loading =>
    exact ⟨true, by simp [update, Msg.renumber, State.accepts, State.withPast, loading,
      Effect.renumber, State.closes, Msg.isClosing, State.heeds]⟩
  | ignores deaf =>
    refine ⟨dirty, ?_⟩
    rw [update_ignored (heeds.trans deaf)]
    simp [State.closes, deaf]

theorem lastError_update {m : Msg} (goesOn : s.closes m = false) :
    (update s m).1.lastError = s.lastError := by
  have step := step_update s m
  generalize (update s m).1 = after, (update s m).2 = effects at step
  cases step with
  | loads | resumes | cancels | shows | counts | ignores => rfl
  | fills loading | exhausts loading | fails loading =>
    simp [State.closes, Msg.isClosing, State.heeds, State.accepts, loading] at goesOn

/-! ### A course of messages -/

theorem lastError_run (ms : List Msg) :
    ∀ s : State, closed s ms = false → (run s ms).1.lastError = s.lastError := by
  induction ms with
  | nil => intro s goesOn; rfl
  | cons m ms ih =>
    intro s goesOn
    rw [closed, Bool.or_eq_false_iff] at goesOn
    exact (ih _ goesOn.2).trans (lastError_update goesOn.1)

theorem run_withPast (ms : List Msg) :
    ∀ {s : State} (_ : a < s.generation) (error : Option String) (dirty : Bool), ∃ dirty',
      run (s.withPast (recount a b s.generation) error dirty) (ms.map (.renumber (recount a b))) =
        ((run s ms).1.withPast (recount a b (run s ms).1.generation)
            (if closed s ms then (run s ms).1.lastError else error) dirty',
          (run s ms).2.map (·.renumber (recount a b))) := by
  induction ms with
  | nil =>
    intro s later error dirty
    exact ⟨dirty, rfl⟩
  | cons m ms ih =>
    intro s later error dirty
    obtain ⟨dirty', here⟩ := update_withPast (b := b) later error dirty m
    have onward : a < (update s m).1.generation := by
      rcases opened_update s m with ⟨_, le⟩ | ⟨_, next⟩ <;> omega
    obtain ⟨dirty'', rest⟩ :=
      ih onward (if s.closes m then (update s m).1.lastError else error) dirty'
    refine ⟨dirty'', ?_⟩
    have error_ : (if closed (update s m).1 ms then (run (update s m).1 ms).1.lastError
          else if s.closes m then (update s m).1.lastError else error) =
        if closed s (m :: ms) then (run (update s m).1 ms).1.lastError else error := by
      rw [closed]
      cases later : closed (update s m).1 ms with
      | true => simp
      | false => simp [lastError_run ms _ later]
    simp only [List.map_cons, run, here, rest, error_, List.map_append]

/-- A load, and whatever messages behind it: a listing asks for the same streams and shows the same
as any other that is told the same under its own count of generations. Only the last error of before
is still shown, and no longer than until a page or a feed comes to its end. -/
theorem load_forgets (s t : State) (batch : Uuid) (filter : Filter) (ms : List Msg) :
    let count := recount s.generation t.generation
    let here := Msg.load batch filter :: ms
    let there := here.map (.renumber count)
    (run t there).2 = (run s here).2.map (·.renumber count) ∧
      (run t there).1.view = { (run s here).1.view with
        lastError := if closed s here then (run s here).1.view.lastError else t.lastError } := by
  intro count here there
  have onward : s.generation < (s.beginLoad batch filter).generation := Nat.lt_succ_self _
  have begun : t.beginLoad batch filter =
      (s.beginLoad batch filter).withPast (count (s.beginLoad batch filter).generation)
        t.lastError true := by
    simp [State.beginLoad, State.withPast, count, recount]
    omega
  obtain ⟨dirty, after⟩ := run_withPast (b := t.generation) ms onward t.lastError true
  rw [← begun] at after
  have opens : closed s here = closed (s.beginLoad batch filter) ms := rfl
  simp only [here, there, List.map_cons, Msg.renumber, run, update, startLoad, opens]
  rw [after]
  refine ⟨?_, State.view_withPast _ _ _ _⟩
  simp [Effect.renumber, count, recount]
  omega

/-- The error of a feed that failed is still shown while the next one is loaded. -/
example : (run {} [.load .nil none, .failed 1 "lost", .load .nil none]).1.view.lastError =
    some "lost" := rfl

end TranscodeConsole.Listing
