/-!
Marks by which work is called off. Whoever starts a piece of work issues a mark for it; anyone who
knows the mark can cancel it, once and for all.
-/
namespace TranscodeConsole

abbrev Mark := Nat

structure Marks where
  issued : Nat := 0
  cancelled : List Mark := []
  deriving DecidableEq, Repr

namespace Marks

def issue (m : Marks) : Mark × Marks := (m.issued, { m with issued := m.issued + 1 })

def isCancelled (m : Marks) (mark : Mark) : Bool := m.cancelled.contains mark

def cancel (m : Marks) (mark : Mark) : Marks :=
  if m.isCancelled mark then m else { m with cancelled := mark :: m.cancelled }

@[simp] theorem isCancelled_cancel (m : Marks) (a b : Mark) :
    (m.cancel a).isCancelled b = (m.isCancelled b || b == a) := by
  unfold cancel isCancelled
  split
  · rename_i h
    by_cases same : b = a
    · subst same; simp_all
    · simp [same]
  · simp only [List.contains_cons, Bool.or_comm]

@[simp] theorem issued_cancel (m : Marks) (mark : Mark) : (m.cancel mark).issued = m.issued := by
  unfold cancel
  split <;> rfl

end Marks
end TranscodeConsole
