import TranscodeConsole.Listing

/-!
What one message can do to a listing. Every fact about all messages is proved by these cases; a
message that is not heeded changes nothing and has no effect.
-/
namespace TranscodeConsole.Listing

namespace State

def asked (s : State) : Msg → Option (Uuid × Filter)
  | .load batch filter => some (batch, filter)
  | .changeFilter filter => if filter = s.filter then none else s.batch.map (·, filter)
  | _ => none

def heeds (s : State) : Msg → Bool
  | .load _ _ | .cancel => true
  | .changeFilter filter => (s.asked (.changeFilter filter)).isSome
  | .more => s.status = .idle && s.moreAvailable
  | .record generation _ | .malformed generation _ | .pageFilled generation
  | .exhausted generation | .failed generation _ => s.accepts generation

theorem accepts_iff (s : State) (generation : Nat) :
    s.accepts generation = true ↔ generation = s.generation ∧ s.status = .loading := by
  simp [accepts]

end State

inductive Step (s : State) : Msg → State → List Effect → Prop where
  | loads {m : Msg} {batch : Uuid} {filter : Filter} (asked : s.asked m = some (batch, filter)) :
      Step s m (s.beginLoad batch filter)
        [.cancelStream, .openStream (s.generation + 1) batch filter]
  | resumes (idle : s.status = .idle) (more : s.moreAvailable = true) :
      Step s .more { s with status := .loading, moreAvailable := false, dirty := true }
        [.resumeStream s.generation]
  | cancels :
      Step s .cancel
        { s with
          generation := s.generation + 1, status := .idle, moreAvailable := false, dirty := true }
        [.cancelStream]
  | shows {entry : BatchEntry} (loading : s.status = .loading) :
      Step s (.record s.generation entry)
        { s with entries := s.entries ++ [entry], dirty := true } []
  | counts {message : String} (loading : s.status = .loading) :
      Step s (.malformed s.generation message)
        { s with malformed := s.malformed + 1, lastDiagnostic := some message, dirty := true } []
  | fills (loading : s.status = .loading) :
      Step s (.pageFilled s.generation) (s.finishPage true) []
  | exhausts (loading : s.status = .loading) :
      Step s (.exhausted s.generation) (s.finishPage false) []
  | fails {message : String} (loading : s.status = .loading) :
      Step s (.failed s.generation message)
        { s with status := .idle, moreAvailable := false, lastError := some message, dirty := true }
        [.cancelStream]
  | ignores {m : Msg} (deaf : s.heeds m = false) : Step s m s []

theorem step_accepted {s : State} {m : Msg} {generation : Nat} {heard : State × List Effect}
    (guard : s.heeds m = s.accepts generation)
    (heeded : generation = s.generation → s.status = .loading → Step s m heard.1 heard.2) :
    Step s m (if s.accepts generation then heard else (s, [])).1
      (if s.accepts generation then heard else (s, [])).2 := by
  by_cases accepted : s.accepts generation = true
  · obtain ⟨same, loading⟩ := (s.accepts_iff generation).mp accepted
    simpa only [accepted, ite_true] using heeded same loading
  · have refused : s.accepts generation = false := by simpa using accepted
    simpa only [refused, Bool.false_eq_true, ite_false] using Step.ignores (guard.trans refused)

theorem step_update (s : State) (m : Msg) : Step s m (update s m).1 (update s m).2 := by
  cases m with
  | load batch filter => exact .loads rfl
  | changeFilter filter =>
    simp only [update]
    split
    · rename_i batch shown
      split
      · rename_i same
        exact .ignores (by simp [State.heeds, State.asked, same])
      · rename_i other
        exact .loads (by simp [State.asked, other, shown])
    · rename_i shown
      exact .ignores (by simp [State.heeds, State.asked, shown])
  | more =>
    simp only [update]
    split
    · rename_i parked
      exact .resumes parked.1 parked.2
    · rename_i busy
      exact .ignores (by simpa [State.heeds] using busy)
  | cancel => exact .cancels
  | record generation entry => exact step_accepted rfl (by rintro rfl loading; exact .shows loading)
  | malformed generation message =>
    exact step_accepted rfl (by rintro rfl loading; exact .counts loading)
  | pageFilled generation => exact step_accepted rfl (by rintro rfl loading; exact .fills loading)
  | exhausted generation => exact step_accepted rfl (by rintro rfl loading; exact .exhausts loading)
  | failed generation message =>
    exact step_accepted rfl (by rintro rfl loading; exact .fails loading)

theorem heeds_of_asked {s : State} {m : Msg} {load : Uuid × Filter} (asked : s.asked m = some load) :
    s.heeds m = true := by
  cases m with
  | load => rfl
  | changeFilter => simp [State.heeds, asked]
  | _ => simp [State.asked] at asked

theorem update_asked {s : State} {m : Msg} {batch : Uuid} {filter : Filter}
    (asked : s.asked m = some (batch, filter)) : update s m = startLoad s batch filter := by
  cases m with
  | load =>
    simp only [State.asked, Option.some.injEq, Prod.mk.injEq] at asked
    obtain ⟨rfl, rfl⟩ := asked
    rfl
  | changeFilter wanted =>
    simp only [State.asked, Option.ite_none_left_eq_some, Option.map_eq_some_iff,
      Prod.mk.injEq] at asked
    obtain ⟨other, shown, known, rfl, rfl⟩ := asked
    simp [update, known, other]
  | _ => simp [State.asked] at asked

theorem update_ignored {s : State} {m : Msg} (deaf : s.heeds m = false) : update s m = (s, []) := by
  have step := step_update s m
  apply Prod.ext_iff.mpr
  generalize (update s m).1 = s', (update s m).2 = effects at step
  cases step with
  | ignores => exact ⟨rfl, rfl⟩
  | loads asked => simp [heeds_of_asked asked] at deaf
  | resumes idle more => simp [State.heeds, idle, more] at deaf
  | cancels => simp [State.heeds] at deaf
  | shows loading => simp [State.heeds, State.accepts, loading] at deaf
  | counts loading => simp [State.heeds, State.accepts, loading] at deaf
  | fills loading => simp [State.heeds, State.accepts, loading] at deaf
  | exhausts loading => simp [State.heeds, State.accepts, loading] at deaf
  | fails loading => simp [State.heeds, State.accepts, loading] at deaf

end TranscodeConsole.Listing
