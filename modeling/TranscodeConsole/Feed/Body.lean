import TranscodeConsole.Service.Error
import TranscodeConsole.Text.Bytes

/-!
The body of a feed as it arrives: chunks, and pauses between them, up to an end or a failure.
-/
namespace TranscodeConsole.Feed

inductive BodyItem where
  | chunk (bytes : Bytes)
  | pause (length : Nat)
  | failure (error : ServiceError)
  /-- Nothing comes any more, and no end either. -/
  | silence
  deriving DecidableEq, Repr

structure Body where
  items : List BodyItem
  pauseEnd : Option Nat := none
  deriving DecidableEq, Repr

inductive Arrival where
  | chunk (bytes : Bytes)
  | failure (error : ServiceError)
  | closed
  /-- Nothing before the given time; without one, nothing at all. -/
  | later (time : Option Nat)
  deriving DecidableEq, Repr

def Arrival.weight : Arrival → Nat
  | .chunk bytes => bytes.length + 1
  | _ => 0

namespace Body

/-- Looks at the items from the first one on; a pause begins when it is first met. -/
def pollItems (now : Nat) (pauseEnd : Option Nat) : List BodyItem → Arrival × Body
  | [] => (.closed, ⟨[], none⟩)
  | .chunk bytes :: rest => (.chunk bytes, ⟨rest, none⟩)
  | .failure error :: rest => (.failure error, ⟨rest, none⟩)
  | .silence :: rest => (.later none, ⟨.silence :: rest, none⟩)
  | .pause length :: rest =>
    let time := pauseEnd.getD (now + length)
    if time ≤ now then pollItems now none rest
    else (.later (some time), ⟨.pause length :: rest, some time⟩)

def poll (now : Nat) (body : Body) : Arrival × Body := pollItems now body.pauseEnd body.items

def size : List BodyItem → Nat
  | [] => 0
  | .chunk bytes :: rest => bytes.length + 1 + size rest
  | _ :: rest => 1 + size rest

theorem size_pollItems (now : Nat) (items : List BodyItem) :
    ∀ pauseEnd, size (pollItems now pauseEnd items).2.items
      + Arrival.weight (pollItems now pauseEnd items).1 ≤ size items := by
  induction items with
  | nil => intro pauseEnd; simp [pollItems, size, Arrival.weight]
  | cons item rest ih =>
    intro pauseEnd
    cases item with
    | chunk bytes => simp only [pollItems, size, Arrival.weight]; omega
    | failure error => simp only [pollItems, size, Arrival.weight]; omega
    | silence => simp [pollItems, size, Arrival.weight]
    | pause length =>
      simp only [pollItems]
      split
      · have := ih none
        simp only [size]
        omega
      · simp [size, Arrival.weight]

end Body
end TranscodeConsole.Feed
