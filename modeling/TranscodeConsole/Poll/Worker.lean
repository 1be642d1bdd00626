import TranscodeConsole.Poll.Ticker

/-!
The work of one poll: refresh after refresh, each at a tick of its own. The next tick is looked for
only when the refresh before it is complete, so refreshes never overlap.
-/
namespace TranscodeConsole.Poll

inductive Phase (ω : Type) where
  | ticking
  | refreshing (work : ω)
  | over
  deriving DecidableEq, Repr

structure Worker (ω : Type) where
  ticker : Ticker
  phase : Phase ω := .ticking
  deriving DecidableEq, Repr

/-- What a poll does at its ticks; without work left over a refresh is complete. -/
structure Refresh (σ ω : Type) where
  begin : Nat → σ → Option ω × σ
  resume : Nat → ω → σ → Option ω × σ
  cancelled : σ → Bool

namespace Worker

variable {σ ω : Type}

def size (now : Nat) (t : Worker ω) : Nat :=
  2 * (now + 1 - t.ticker.due) + match t.phase with
    | .refreshing _ => 1
    | _ => 0

/-- Runs a poll until it waits. A poll that is called off drops the refresh that it is in. -/
def run (refresh : Refresh σ ω) (now : Nat) (t : Worker ω) (s : σ) : Worker ω × σ :=
  if refresh.cancelled s then ({ t with phase := .over }, s)
  else match _h : t.phase with
    | .over => (t, s)
    | .refreshing work =>
      match refresh.resume now work s with
      | (some work, s) => ({ t with phase := .refreshing work }, s)
      | (none, s) => run refresh now { t with phase := .ticking } s
    | .ticking =>
      if _due : t.ticker.isDue now then
        match refresh.begin now s with
        | (some work, s) => ({ ticker := t.ticker.take now, phase := .refreshing work }, s)
        | (none, s) => run refresh now { ticker := t.ticker.take now, phase := .ticking } s
      else (t, s)
termination_by t.size now
decreasing_by
  · simp [size, _h]
  · have later := Ticker.due_lt_due_take now t.ticker _due
    simp only [Ticker.isDue, decide_eq_true_eq] at _due
    simp only [size, _h]
    omega

end Worker
end TranscodeConsole.Poll
