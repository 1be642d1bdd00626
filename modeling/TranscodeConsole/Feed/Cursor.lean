import TranscodeConsole.Feed.Page

/-!
The owner of feeds: it has at most one session open, and gives up the former one before it opens
another.
-/
namespace TranscodeConsole.Feed

structure ActiveSession where
  id : Nat
  mark : Mark
  deriving DecidableEq, Repr

structure Cursor where
  marks : Marks := {}
  lastId : Nat := 0
  current : Option ActiveSession := none
  deriving DecidableEq, Repr

namespace Cursor

def cancel (c : Cursor) : Cursor :=
  match c.current with
  | some active => { c with marks := c.marks.cancel active.mark, current := none }
  | none => c

/-- Begins to open a session: the former one is given up, and the new one has its number. -/
def connect (c : Cursor) : ActiveSession × Cursor :=
  let c := c.cancel
  let (mark, marks) := c.marks.issue
  let active : ActiveSession := ⟨c.lastId + 1, mark⟩
  (active, { marks, lastId := c.lastId + 1, current := some active })

def release (c : Cursor) (id : Nat) : Cursor :=
  if (c.current.map (·.id)) = some id then { c with current := none } else c

def activeSession (c : Cursor) : Option Nat :=
  (c.current.filter fun active => !c.marks.isCancelled active.mark).map (·.id)

def cancelMark (c : Cursor) (mark : Mark) : Cursor := { c with marks := c.marks.cancel mark }

def cancelledWhileConnecting (id : Nat) : ServiceError :=
  .connection (sessionName id ++ " cancelled while connecting")

end Cursor
end TranscodeConsole.Feed
