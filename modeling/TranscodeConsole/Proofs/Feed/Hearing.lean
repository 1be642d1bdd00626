import TranscodeConsole.Proofs.Feed.Ageing

/-!
Callers who read a session, and all that they hear of it. A caller is told by what he does, which
may depend on everything that he has heard: he may break off a page, and he may give up the session,
on a record as well as on a line that is passed over.
-/
namespace TranscodeConsole.Feed

open Json

inductive Heard (ρ : Type) where
  | record (r : ρ)
  | rejected (error : ServiceError)
  | cancelled
  | done
  | ended (how : PageEnd)
  | failed (error : ServiceError)

structure Ear (ρ : Type) where
  cancelled : Bool := false
  log : List (Heard ρ) := []

structure Habit (ρ : Type) where
  goesOn : List (Heard ρ) → ρ → Bool
  cancels : List (Heard ρ) → ρ → Bool
  /-- Whether he gives up the session when he hears of a line that is passed over. -/
  quits : List (Heard ρ) → ServiceError → Bool

variable {ρ σ : Type}

namespace Ear

def hear (h : Heard ρ) (e : Ear ρ) : Ear ρ := { e with log := e.log ++ [h] }

def cancel (e : Ear ρ) : Ear ρ := { cancelled := true, log := e.log ++ [.cancelled] }

@[simp] theorem cancelled_hear (e : Ear ρ) (h : Heard ρ) : (e.hear h).cancelled = e.cancelled := rfl

@[simp] theorem cancelled_cancel (e : Ear ρ) : e.cancel.cancelled = true := rfl

@[simp] theorem log_hear (e : Ear ρ) (h : Heard ρ) : (e.hear h).log = e.log ++ [h] := rfl

@[simp] theorem log_cancel (e : Ear ρ) : e.cancel.log = e.log ++ [.cancelled] := rfl

end Ear

namespace Habit

def sink (habit : Habit ρ) : Session.Sink (Ear ρ) where
  cancelled e := e.cancelled
  reject error e :=
    let heard := e.hear (.rejected error)
    if habit.quits e.log error then heard.cancel else heard

def consumer (habit : Habit ρ) : Page.Consumer (Ear ρ) ρ where
  toSink := habit.sink
  take r e :=
    let heard := e.hear (.record r)
    (habit.goesOn e.log r, if habit.cancels e.log r then heard.cancel else heard)

end Habit

/-! ### In the midst of a call -/

/-- Where a call stands before it pulls again. -/
structure Moment (σ : Type) where
  session : Session
  heard : σ
  /-- The line before was too long. -/
  passing : Bool := false

def Moment.rest (read : Reader ρ) (sink : Session.Sink σ) (now : Nat) (m : Moment σ) :
    Session.Outcome ρ × Session × σ :=
  m.session.seek read sink now m.passing m.heard

namespace Session

/-- The moments that a call goes through, pull by pull. -/
def trail (read : Reader ρ) (sink : Sink σ) (now : Nat) (m : Moment σ) : List (Moment σ) :=
  match _h : m.session.pull read (sink.cancelled m.heard && !m.session.looksOn m.passing) now with
  | (.moved, after) => m :: trail read sink now ⟨after, m.heard, m.session.passes m.passing⟩
  | (.rejected error, after) =>
    m :: trail read sink now ⟨after, sink.reject error m.heard, m.session.passes m.passing⟩
  | (.record _, _) | (.waiting _, _) | (.done, _) | (.failed _, _) => [m]
termination_by m.session.size
decreasing_by
  all_goals
    have lt := size_pull_lt read (sink.cancelled m.heard && !m.session.looksOn m.passing) now
      m.session (by rw [_h]; rfl)
    rw [_h] at lt
    exact lt

theorem mem_trail (read : Reader ρ) (sink : Sink σ) (now : Nat) (m : Moment σ) :
    m ∈ trail read sink now m := by
  unfold trail
  split <;> simp

theorem rest_trail (read : Reader ρ) (sink : Sink σ) (now : Nat) (m : Moment σ) :
    ∀ later ∈ trail read sink now m, later.rest read sink now = m.rest read sink now := by
  fun_induction trail read sink now m with
  | case1 m after pulled ih | case2 m error after pulled ih =>
    intro later member
    rcases List.mem_cons.mp member with rfl | further
    · rfl
    · rw [ih later further]
      simp only [Moment.rest]
      rw [seek.eq_def read sink now m.passing, pulled]
  | case3 | case4 | case5 | case6 =>
    intro later member
    rw [List.mem_singleton.mp member]

end Session

structure Hearing (ρ : Type) where
  page : Page
  reading : Bool := false
  ear : Ear ρ := {}

namespace Hearing

inductive Act where
  | next (now : Nat)
  | beginPage
  | turn (now : Nat)
  | hangUp
  | cancel
  /-- The session is given up by the one who reads it. -/
  | close

def start (s : Session) : Hearing ρ := { page := { session := s } }

def told : Session.Outcome ρ × Session × Ear ρ → Hearing ρ
  | (outcome, session, ear) =>
    { page := { session }
      ear := match outcome with
        | .record r => ear.hear (.record r)
        | .waiting _ => ear
        | .done => ear.hear .done
        | .failed error => ear.hear (.failed error) }

def rested : Page.Rest × Page × Ear ρ → Hearing ρ
  | (.ended how, page, ear) => { page, ear := ear.hear (.ended how) }
  | (.failed error, page, ear) => { page, ear := ear.hear (.failed error) }
  | (.waiting _, page, ear) | (.yielding, page, ear) => { page, reading := true, ear }

def next (read : Reader ρ) (habit : Habit ρ) (now : Nat) (c : Hearing ρ) : Hearing ρ :=
  told (c.page.session.seek read habit.sink now false c.ear)

def turn (read : Reader ρ) (habit : Habit ρ) (now : Nat) (c : Hearing ρ) : Hearing ρ :=
  if c.reading then rested (Page.run read habit.consumer now c.page c.ear) else c

def act (read : Reader ρ) (habit : Habit ρ) (c : Hearing ρ) : Act → Hearing ρ
  | .next now => c.next read habit now
  | .beginPage => { c with page := .start c.page.session, reading := true }
  | .turn now => c.turn read habit now
  | .hangUp => { c with reading := false }
  | .cancel => { c with ear := c.ear.cancel }
  | .close => { c with page := { session := c.page.session.finish }, ear := c.ear.cancel }

def run (read : Reader ρ) (habit : Habit ρ) (c : Hearing ρ) (acts : List Act) : Hearing ρ :=
  acts.foldl (act read habit) c

def moments (read : Reader ρ) (habit : Habit ρ) (now : Nat) (c : Hearing ρ) :
    List (Moment (Ear ρ)) :=
  Session.trail read habit.sink now { session := c.page.session, heard := c.ear }

end Hearing

namespace Moment

def next (read : Reader ρ) (habit : Habit ρ) (now : Nat) (m : Moment (Ear ρ)) : Hearing ρ :=
  .told (m.rest read habit.sink now)

def turn (read : Reader ρ) (habit : Habit ρ) (now : Nat) (m : Moment (Ear ρ)) : Hearing ρ :=
  let (outcome, session, ear) := m.rest read habit.sink now
  .rested (Page.proceed habit.consumer now { session } outcome ear)

end Moment

def PagePhase.isDue (now : Nat) : PagePhase → Bool
  | .pulling | .yielding => true
  | .pausing till => till ≤ now

namespace Hearing

variable {c : Hearing ρ}

theorem next_moment (read : Reader ρ) (habit : Habit ρ) (now : Nat) (c : Hearing ρ) :
    ∀ m ∈ c.moments read habit now, c.next read habit now = m.next read habit now := by
  intro m member
  simp only [Moment.next, Session.rest_trail read habit.sink now _ m member]
  rfl

theorem turn_moment (read : Reader ρ) (habit : Habit ρ) {now : Nat} (reading : c.reading = true)
    (valid : c.ear.cancelled = false) (due : c.page.phase.isDue now = true) :
    ∀ m ∈ c.moments read habit now, c.turn read habit now = m.turn read habit now := by
  intro m member
  have pulls : Page.run read habit.consumer now c.page c.ear =
      Page.pullOn read habit.consumer now c.page.session c.ear := by
    have valid : habit.consumer.cancelled c.ear = false := valid
    unfold Page.run
    split
    · rfl
    · rename_i till phase
      have late : till ≤ now := by simpa [phase, PagePhase.isDue] using due
      rw [if_neg (by simp [valid]), if_pos late]
    · rw [if_neg (by simp [valid])]
  simp only [Moment.turn, Session.rest_trail read habit.sink now _ m member]
  rw [turn, if_pos reading, pulls]
  rfl

end Hearing
end TranscodeConsole.Feed
