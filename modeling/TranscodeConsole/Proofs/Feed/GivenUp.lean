import TranscodeConsole.Proofs.Feed.Hearing

/-!
A call in the midst of which its session is given up. The mark is looked at before every line but
the one behind a line that is too long: what that one says is still found, and nothing else.
-/
namespace TranscodeConsole.Feed

open Json

variable {ρ : Type}

def Heard.isReport : Heard ρ → Bool
  | .rejected _ | .cancelled => true
  | _ => false

def Framing.nextLine (f : Framing) : Option Bytes :=
  match _h : f.take with
  | (some (.line line), _) => some line
  | (some .oversized, later) | (some .nothing, later) => later.nextLine
  | (none, _) => none
termination_by f.buffer.length
decreasing_by
  all_goals
    have lt := length_take (f := f) (by rw [_h])
    rw [_h] at lt
    exact lt

namespace Framing

variable {f later : Framing}

theorem nextLine_line {line : Bytes} (taken : f.take = (some (.line line), later)) :
    f.nextLine = some line := by
  rw [nextLine]
  split <;> simp_all

theorem nextLine_oversized (taken : f.take = (some .oversized, later)) :
    f.nextLine = later.nextLine := by
  rw [nextLine]
  split <;> simp_all

theorem nextLine_nothing (taken : f.take = (some .nothing, later)) :
    f.nextLine = later.nextLine := by
  rw [nextLine]
  split <;> simp_all

theorem nextLine_none (taken : f.take = (none, later)) : f.nextLine = none := by
  rw [nextLine]
  split <;> simp_all

end Framing

namespace Session

/-- The record that a call still comes to once the session is given up: behind a line that is too
long, `passing`, it looks on in what is at hand. -/
def finds (read : Reader ρ) (passing : Bool) (s : Session) : Option ρ :=
  if passing && s.live then s.framing.nextLine.bind fun line => (readLine read line).toOption
  else none

inductive Lags (read : Reader ρ) (passing : Bool) (s : Session) : Pull ρ → Session → Prop where
  | done (nothing : s.finds read passing = none) : Lags read passing s .done s.finish
  | record {r : ρ} {after : Session} (finds : s.finds read passing = some r)
      (body : after.body = s.body) : Lags read passing s (.record r) after
  | passed {pull : Pull ρ} {after : Session} (behind : passing = true)
      (passes : pull = .moved ∨ ∃ error, pull = .rejected error)
      (finds : after.finds read (s.passes passing) = s.finds read passing)
      (body : after.body = s.body) : Lags read passing s pull after

theorem lags_pull (read : Reader ρ) (now : Nat) (passing : Bool) (s : Session) :
    Lags read passing s (s.pull read (!s.looksOn passing) now).1
      (s.pull read (!s.looksOn passing) now).2 := by
  cases live : s.live with
  | false =>
    have pulled : s.pull read (!s.looksOn passing) now = (.done, s.finish) := by simp [pull, live]
    rw [pulled]
    exact .done (by simp [finds, live])
  | true =>
  cases passing with
  | false => exact .done (by simp [finds])
  | true =>
  -- Behind an over-long line the mark is not looked at as long as something can be cut off.
  have looks : s.looksOn true = s.framing.take.1.isSome := rfl
  cases taken : s.framing.take with
  | mk piece framing =>
  rw [looks, taken]
  cases piece with
  | none => exact .done (by simp [finds, Framing.nextLine_none taken])
  | some piece =>
  have valid : (false || !s.live) = false := by simp [live]
  simp only [Option.isSome_some, Bool.not_true, pull, valid, Bool.false_eq_true, ite_false, taken]
  cases piece with
  | line line =>
    have next := Framing.nextLine_line taken
    simp only
    split
    · rename_i r found
      exact .record (by simp [finds, live, next, found, Except.toOption]) rfl
    · rename_i error found
      exact .passed rfl (.inr ⟨_, rfl⟩)
        (by simp [finds, passes, live, next, taken, found, Except.toOption]) rfl
  | oversized =>
    have next := Framing.nextLine_oversized taken
    exact .passed rfl (.inr ⟨_, rfl⟩) (by simp [finds, passes, taken, next]) rfl
  | nothing =>
    have next := Framing.nextLine_nothing taken
    exact .passed rfl (.inl rfl) (by simp [finds, passes, taken, next]) rfl

end Session

theorem Habit.log_reject (habit : Habit ρ) (error : ServiceError) (e : Ear ρ) :
    ∃ reports, (habit.sink.reject error e).log = e.log ++ reports ∧
      ∀ h ∈ reports, h.isReport = true := by
  simp only [Habit.sink]
  split
  · exact ⟨[.rejected error, .cancelled], by simp, by simp [Heard.isReport]⟩
  · exact ⟨[.rejected error], by simp, by simp [Heard.isReport]⟩

theorem Habit.cancelled_reject (habit : Habit ρ) (error : ServiceError) {e : Ear ρ}
    (gone : e.cancelled = true) : (habit.sink.reject error e).cancelled = true := by
  simp only [Habit.sink]
  split
  · rfl
  · exact gone

/-- What the rest of a call comes to once the session is given up: lines at hand may still be told
of, but at most one record is found, and the body is left alone. -/
structure Cut (read : Reader ρ) (m : Moment (Ear ρ)) (outcome : Session.Outcome ρ) (after : Session)
    (heard : Ear ρ) : Prop where
  cancelled : heard.cancelled = true
  body : after.body = m.session.body
  reports : ∃ reports, heard.log = m.heard.log ++ reports ∧ (∀ h ∈ reports, h.isReport = true) ∧
    (m.passing = false → reports = [])
  outcome : outcome = (m.session.finds read m.passing).elim .done .record

theorem Cut.earlier {read : Reader ρ} {m later : Moment (Ear ρ)} {outcome : Session.Outcome ρ}
    {after : Session} {heard : Ear ρ} (cut : Cut read later outcome after heard)
    (behind : m.passing = true)
    (finds : later.session.finds read later.passing = m.session.finds read m.passing)
    (body : later.session.body = m.session.body)
    (reports : ∃ reports, later.heard.log = m.heard.log ++ reports ∧
      ∀ h ∈ reports, h.isReport = true) : Cut read m outcome after heard := by
  obtain ⟨before, log, each⟩ := reports
  obtain ⟨further, log', each', _⟩ := cut.reports
  refine ⟨cut.cancelled, cut.body.trans body, ⟨before ++ further, ?_, ?_, by simp [behind]⟩,
    finds ▸ cut.outcome⟩
  · rw [log', log, List.append_assoc]
  · simpa [or_imp, forall_and] using ⟨each, each'⟩

theorem cut_rest (read : Reader ρ) (habit : Habit ρ) (now : Nat) {m : Moment (Ear ρ)}
    (gone : m.heard.cancelled = true) :
    let ran := m.rest read habit.sink now
    Cut read m ran.1 ran.2.1 ran.2.2 := by
  have lags : ∀ {passing s} {e : Ear ρ} {pull after}, e.cancelled = true →
      s.pull read (habit.sink.cancelled e && !s.looksOn passing) now = (pull, after) →
      Session.Lags read passing s pull after := by
    intro passing s e pull after gone same
    have lags := s.lags_pull read now passing
    rwa [← Bool.true_and (!_), ← gone, show e.cancelled = habit.sink.cancelled e from rfl, same]
      at lags
  obtain ⟨s, e, passing⟩ := m
  simp only [Moment.rest] at gone ⊢
  -- Pull by pull: once given up it stays so, and what can still be found stays the same.
  fun_induction Session.seek read habit.sink now passing s e with
  | case1 passing s e r after pulled =>
    cases lags gone pulled with
    | record finds body => exact ⟨gone, body, ⟨[], by simp⟩, by simp [finds]⟩
    | passed _ passes => simp at passes
  | case2 passing s e _ after pulled | case4 passing s e _ after pulled =>
    cases lags gone pulled with
    | passed _ passes => simp at passes
  | case3 passing s e after pulled =>
    cases lags gone pulled with
    | done nothing => exact ⟨gone, s.body_finish, ⟨[], by simp⟩, by simp [nothing]⟩
    | passed _ passes => simp at passes
  | case5 passing s e after pulled ih =>
    cases lags gone pulled with
    | passed behind _ finds body => exact (ih gone).earlier behind finds body ⟨[], by simp⟩
  | case6 passing s e error after pulled ih =>
    cases lags gone pulled with
    | passed behind _ finds body =>
      exact (ih (habit.cancelled_reject error gone)).earlier behind finds body
        (habit.log_reject error e)

/-! ### A call on a session that is valid -/

inductive Sought (habit : Habit ρ) (e : Ear ρ) : Session.Outcome ρ → Ear ρ → Prop where
  | valid {outcome : Session.Outcome ρ} {lines : List (Heard ρ)} (none : Heard.cancelled ∉ lines) :
      Sought habit e outcome { e with log := e.log ++ lines }
  | quit {lines : List (Heard ρ)} {error : ServiceError} (none : Heard.cancelled ∉ lines)
      (gives : habit.quits (e.log ++ lines) error = true) :
      Sought habit e .done
        { cancelled := true, log := e.log ++ lines ++ [.rejected error, .cancelled] }
  | late {lines reports : List (Heard ρ)} {limit : Nat} {found : Option ρ}
      (none : Heard.cancelled ∉ lines)
      (gives : habit.quits (e.log ++ lines) (Session.oversized limit) = true)
      (each : ∀ h ∈ reports, h.isReport = true) :
      Sought habit e (found.elim .done .record)
        { cancelled := true
          log := e.log ++ lines ++ .rejected (Session.oversized limit) :: .cancelled :: reports }

theorem Sought.earlier {habit : Habit ρ} {e : Ear ρ} {error : ServiceError}
    {outcome : Session.Outcome ρ} {heard : Ear ρ}
    (sought : Sought habit (e.hear (.rejected error)) outcome heard) :
    Sought habit e outcome heard := by
  have shift : ∀ lines,
      (e.hear (.rejected error)).log ++ lines = e.log ++ .rejected error :: lines := by
    simp
  cases sought with
  | valid none =>
    simp only [shift]
    exact .valid (by simp [none])
  | quit none gives =>
    rw [shift] at gives ⊢
    exact .quit (by simp [none]) gives
  | late none gives each =>
    rw [shift] at gives ⊢
    exact .late (by simp [none]) gives each

theorem Session.oversized_of_passes {read : Reader ρ} {gone passing : Bool} {now : Nat}
    {s after : Session} {error : ServiceError}
    (pulled : s.pull read gone now = (.rejected error, after)) (passes : s.passes passing = true) :
    error = oversized s.framing.limit := by
  unfold Session.passes at passes
  unfold pull at pulled
  split at pulled
  · cases pulled
  · cases taken : s.framing.take with
    | mk piece framing =>
    rw [taken] at passes pulled
    cases piece with
    | none => simp at passes
    | some piece =>
    cases piece with
    | line => simp at passes
    | oversized => simp at pulled; exact pulled.1.symm
    | nothing => simp at pulled

theorem sought_seek (read : Reader ρ) (habit : Habit ρ) (now : Nat) (passing : Bool) (s : Session)
    {e : Ear ρ} (valid : e.cancelled = false) :
    let ran := s.seek read habit.sink now passing e
    Sought habit e ran.1 ran.2.2 := by
  have nothing : ∀ {e : Ear ρ} outcome, Sought habit e outcome e := by
    intro e outcome
    have same : Sought habit e outcome { e with log := e.log ++ [] } := .valid (by simp)
    rwa [List.append_nil] at same
  fun_induction Session.seek read habit.sink now passing s e with
  | case1 | case2 | case3 | case4 => exact nothing _
  | case5 passing s e after pulled ih => exact ih valid
  | case6 passing s e error after pulled ih =>
    cases gives : habit.quits e.log error with
    | false =>
      have heard : habit.sink.reject error e = e.hear (.rejected error) := by
        simp [Habit.sink, gives]
      rw [heard] at ih ⊢
      exact (ih valid).earlier
    | true =>
      have heard : habit.sink.reject error e = (e.hear (.rejected error)).cancel := by
        simp [Habit.sink, gives]
      have cut := cut_rest read habit now
        (m := ⟨after, (e.hear (.rejected error)).cancel, s.passes passing⟩) rfl
      rw [heard]
      simp only [Moment.rest] at cut
      generalize after.seek read habit.sink now (s.passes passing)
        (e.hear (.rejected error)).cancel = ran at cut ⊢
      obtain ⟨outcome, last, gone, log⟩ := ran
      obtain ⟨rfl, _, ⟨reports, rfl, each, quiet⟩, rfl⟩ := cut
      cases passes : s.passes passing with
      | false =>
        have same : Sought habit e .done
            { cancelled := true, log := e.log ++ [] ++ [.rejected error, .cancelled] } :=
          .quit (by simp) (by simpa using gives)
        simpa [Session.finds, quiet passes] using same
      | true =>
        obtain rfl := Session.oversized_of_passes pulled passes
        have same : Sought habit e ((after.finds read true).elim .done .record)
            { cancelled := true
              log := e.log ++ [] ++ .rejected (Session.oversized s.framing.limit) ::
                .cancelled :: reports } :=
          .late (by simp) (by simpa using gives) each
        simpa using same

end TranscodeConsole.Feed
