import TranscodeConsole.Cancellation

/-!
The owner of at most one running poll. A poll is called off by its mark: by the owner, by anyone
who holds a control of it, or because nobody waits for its end any more.
-/
namespace TranscodeConsole.Poll

def pollName (id : Nat) : String := "poll-" ++ toString id

/-- What a poll can be stopped by. -/
structure Control where
  id : Nat
  mark : Mark
  deriving DecidableEq, Repr

namespace Control

def stop (marks : Marks) (c : Control) : Marks := marks.cancel c.mark

def isStopped (marks : Marks) (c : Control) : Bool := marks.isCancelled c.mark

end Control

structure AlreadyRunning where
  id : Nat
  deriving DecidableEq, Repr

def AlreadyRunning.message (e : AlreadyRunning) : String :=
  pollName e.id ++ " is still running; stop it before starting another"

structure Owner where
  lastId : Nat := 0
  held : Option Control := none
  deriving DecidableEq, Repr

namespace Owner

def control (marks : Marks) (o : Owner) : Option Control := o.held.filter (!·.isStopped marks)

def isRunning (marks : Marks) (o : Owner) : Bool := (o.control marks).isSome

def start (marks : Marks) (o : Owner) : Except AlreadyRunning (Control × Owner × Marks) :=
  match o.control marks with
  | some running => .error ⟨running.id⟩
  | none =>
    let (mark, marks) := marks.issue
    let control : Control := ⟨o.lastId + 1, mark⟩
    .ok (control, ⟨control.id, some control⟩, marks)

def stop (marks : Marks) (o : Owner) : Marks :=
  match o.held with
  | some control => control.stop marks
  | none => marks

def release (o : Owner) : Option Control × Owner := (o.held, { o with held := none })

end Owner
end TranscodeConsole.Poll
