/-!
A ticker: due at once, and then on a grid of its interval. A tick that is taken late moves the
next one to the next point of the grid, so late ticks are left out and never made up for.
-/
namespace TranscodeConsole.Poll

structure Ticker where
  due : Nat
  interval : Nat
  interval_pos : 0 < interval
  deriving DecidableEq, Repr

namespace Ticker

def start (now interval : Nat) : Ticker := ⟨now, max interval 1, by omega⟩

/-- A tick so little late counts as taken in time. -/
def tolerance : Nat := 5

def isDue (now : Nat) (t : Ticker) : Bool := t.due ≤ now

def take (now : Nat) (t : Ticker) : Ticker :=
  if now - t.due ≤ tolerance then { t with due := t.due + t.interval }
  else { t with due := now + t.interval - (now - t.due) % t.interval }

theorem due_lt_due_take (now : Nat) (t : Ticker) (h : t.isDue now = true) :
    t.due < (t.take now).due := by
  have pos := t.interval_pos
  have below := Nat.mod_lt (now - t.due) pos
  simp only [isDue, decide_eq_true_eq] at h
  unfold take
  split <;> simp only <;> omega

end Ticker
end TranscodeConsole.Poll
