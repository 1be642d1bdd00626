import TranscodeConsole.Cancellation
import TranscodeConsole.Feed.Body
import TranscodeConsole.Feed.Framing
import TranscodeConsole.Json.Read
import TranscodeConsole.Settings

/-!
One open feed, read record by record. Lines that are no records are reported and passed over. A
session that is cancelled before a call reads nothing; whether it was cancelled in the midst of one
is looked at between two lines, but not behind a line that is too long.
-/
namespace TranscodeConsole.Feed

open Json

structure Options where
  pageLimit : Nat
  pace : Nat
  lineLimit : Nat := 1024 * 1024
  deriving DecidableEq, Repr

def Options.ofSettings (paging : PagingSettings) : Options :=
  { pageLimit := max paging.pageLimit 1, pace := paging.pace }

structure Session where
  id : Nat
  source : String
  mark : Mark
  body : Body
  framing : Framing
  /-- The feed has neither ended nor failed, and was not given up. -/
  live : Bool := true
  pageLimit : Nat
  pace : Nat
  onPage : Nat := 0
  deriving DecidableEq, Repr

structure Diagnostic where
  session : Nat
  source : String
  error : ServiceError
  deriving DecidableEq, Repr

def sessionName (id : Nat) : String := "session-" ++ toString id

inductive Pull (ρ : Type) where
  | record (r : ρ)
  | rejected (error : ServiceError)
  /-- Something was passed over or taken in; there may be more at once. -/
  | moved
  | waiting (time : Option Nat)
  | done
  | failed (error : ServiceError)
  deriving DecidableEq, Repr

def Pull.goesOn {ρ : Type} : Pull ρ → Bool
  | .rejected _ | .moved => true
  | _ => false

namespace Session

def start (id : Nat) (source : String) (mark : Mark) (items : List BodyItem) (options : Options) :
    Session :=
  { id
    source
    mark
    body := ⟨items, none⟩
    framing := { limit := max options.lineLimit 1 }
    pageLimit := max options.pageLimit 1
    pace := options.pace }

def isActive (marks : Marks) (s : Session) : Bool := s.live && !marks.isCancelled s.mark

def finish (s : Session) : Session :=
  if s.live then
    { s with live := false, framing := { s.framing with buffer := [], discarding := false } }
  else s

def oversized (limit : Nat) : ServiceError :=
  .malformedRecord ("line exceeds " ++ toString limit ++ " bytes")

variable {ρ : Type}

def readLine (read : Reader ρ) (line : Bytes) : Except ServiceError ρ :=
  match readDocument read (Framing.withoutReturn line) with
  | .ok record => .ok record
  | .error problem => .error (.malformedRecord problem.message)

/-- Takes in what the body has at the moment, once nothing can be cut off the buffer. -/
def receive (now : Nat) (s : Session) : Pull ρ × Session :=
  if s.framing.ended then (.done, s.finish)
  else match s.body.poll now with
    | (.chunk bytes, body) => (.moved, { s with body, framing := s.framing.receive bytes })
    | (.failure error, body) => (.failed error, { s with body }.finish)
    | (.closed, body) => (.moved, { s with body, framing := { s.framing with ended := true } })
    | (.later time, body) => (.waiting time, { s with body })

def pull (read : Reader ρ) (cancelled : Bool) (now : Nat) (s : Session) : Pull ρ × Session :=
  if cancelled || !s.live then (.done, s.finish)
  else match s.framing.take with
    | (some (.line line), framing) =>
      match readLine read line with
      | .ok record => (.record record, { s with framing, onPage := s.onPage + 1 })
      | .error error => (.rejected error, { s with framing })
    | (some .oversized, framing) => (.rejected (oversized s.framing.limit), { s with framing })
    | (some .nothing, framing) => (.moved, { s with framing })
    | (none, framing) => receive now { s with framing }

def size (s : Session) : Nat :=
  Body.size s.body.items + s.framing.buffer.length + (if s.framing.ended then 0 else 1)

theorem length_take_le (f : Framing) : f.take.2.buffer.length ≤ f.buffer.length := by
  cases h : f.take.1 with
  | some piece => exact Nat.le_of_lt (Framing.length_take h)
  | none =>
    obtain ⟨limit, buffer, discarding, ended⟩ := f
    revert h
    simp only [Framing.take]
    split
    · split
      · simp
      · split <;> simp
    · split
      · simp
      · split
        · simp
        · split <;> simp

theorem ended_take (f : Framing) : f.take.2.ended = f.ended := by
  unfold Framing.take
  simp only
  split
  · split
    · rfl
    · split <;> rfl
  · split
    · rfl
    · split
      · rfl
      · split <;> rfl

theorem size_receive_lt (now : Nat) (s : Session)
    (h : Pull.goesOn (receive (ρ := ρ) now s).1 = true) :
    (receive (ρ := ρ) now s).2.size < s.size := by
  have bound := Body.size_pollItems now s.body.items s.body.pauseEnd
  revert h
  unfold receive
  split
  · simp [Pull.goesOn]
  · rename_i notEnded
    have isOpen : s.framing.ended = false := by simpa using notEnded
    unfold Body.poll
    generalize Body.pollItems now s.body.pauseEnd s.body.items = arrived at bound ⊢
    obtain ⟨arrival, body⟩ := arrived
    cases arrival with
    | chunk bytes =>
      intro _
      simp only [Arrival.weight] at bound
      simp only [size, Framing.receive, List.length_append, isOpen, Bool.false_eq_true, ite_false]
      omega
    | failure error => simp [Pull.goesOn]
    | closed =>
      intro _
      simp only [Arrival.weight, Nat.add_zero] at bound
      simp only [size, isOpen, Bool.false_eq_true, ite_false, ite_true]
      omega
    | later time => simp [Pull.goesOn]

theorem size_pull_lt (read : Reader ρ) (cancelled : Bool) (now : Nat) (s : Session)
    (h : Pull.goesOn (pull read cancelled now s).1 = true) :
    (pull read cancelled now s).2.size < s.size := by
  have shorter := length_take_le s.framing
  have same := ended_take s.framing
  have cut : ∀ piece, s.framing.take.1 = some piece →
      s.framing.take.2.buffer.length < s.framing.buffer.length := fun _ => Framing.length_take
  revert h
  unfold pull
  split
  · simp [Pull.goesOn]
  · generalize s.framing.take = taken at shorter same cut ⊢
    obtain ⟨piece, framing⟩ := taken
    simp only at shorter same cut
    cases piece with
    | none =>
      intro h
      refine Nat.lt_of_lt_of_le (size_receive_lt now _ h) ?_
      simp only [size, same]
      omega
    | some piece =>
      have lt := cut piece rfl
      cases piece with
      | line line =>
        simp only
        split
        · simp [Pull.goesOn]
        · intro _; simp only [size, same]; omega
      | oversized => intro _; simp only [size, same]; omega
      | nothing => intro _; simp only [size, same]; omega

inductive Outcome (ρ : Type) where
  | record (r : ρ)
  | waiting (time : Option Nat)
  | done
  | failed (error : ServiceError)
  deriving DecidableEq, Repr

/-- Who hears of the lines that are passed over. He may give up the session when he does. -/
structure Sink (σ : Type) where
  cancelled : σ → Bool
  reject : ServiceError → σ → σ

/-- Behind an over-long line, `passing`, the next line is looked for in all that is at hand before
anyone looks at the mark again. -/
def looksOn (passing : Bool) (s : Session) : Bool := passing && s.framing.take.1.isSome

/-- Whether it was an over-long line that was passed over last, once `s` was pulled. -/
def passes (passing : Bool) (s : Session) : Bool :=
  match s.framing.take.1 with
  | some .oversized => true
  | some .nothing => passing
  | some (.line _) | none => false

/-- Reads up to the next record, or as far as the body has come. -/
def seek {σ : Type} (read : Reader ρ) (sink : Sink σ) (now : Nat) (passing : Bool) (s : Session)
    (heard : σ) : Outcome ρ × Session × σ :=
  match _h : s.pull read (sink.cancelled heard && !s.looksOn passing) now with
  | (.record r, after) => (.record r, after, heard)
  | (.waiting time, after) => (.waiting time, after, heard)
  | (.done, after) => (.done, after, heard)
  | (.failed error, after) => (.failed error, after, heard)
  | (.moved, after) => after.seek read sink now (s.passes passing) heard
  | (.rejected error, after) =>
    after.seek read sink now (s.passes passing) (sink.reject error heard)
termination_by s.size
decreasing_by
  all_goals
    have lt := size_pull_lt read (sink.cancelled heard && !s.looksOn passing) now s
      (by rw [_h]; rfl)
    rw [_h] at lt
    exact lt

end Session
end TranscodeConsole.Feed
