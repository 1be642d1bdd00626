import TranscodeConsole.Job
import TranscodeConsole.Figures

/-!
Following a resource that is fetched again and again until its value is final, a fetch fails, or
the tracker is pointed at something else. The machine is the same for every kind of resource.
-/
namespace TranscodeConsole

class LiveResource (τ : Type) where
  isFinal : τ → Bool
  failure : τ → Option String

instance : LiveResource JobSnapshot where
  isFinal s := s.status.isFinal
  failure s := match s.status with
    | .failed | .aborted | .lost => s.failureMessage
    | _ => none

instance : LiveResource BatchSummary where
  isFinal s := s.isSettled
  failure _ := none

instance : LiveResource QueueStats where
  isFinal _ := false
  failure _ := none

instance : LiveResource JobTotals where
  isFinal _ := false
  failure _ := none

namespace Tracking

structure State (κ τ : Type) where
  key : Option κ := none
  generation : Nat := 0
  polling : Bool := false
  latest : Option τ := none
  lastError : Option String := none
  refreshes : Nat := 0
  deriving DecidableEq, Repr

inductive Msg (κ τ : Type) where
  | track (key : κ)
  | refreshed (generation : Nat) (value : τ)
  | failed (generation : Nat) (message : String)
  | stop
  deriving DecidableEq, Repr

inductive Effect (κ τ : Type) where
  | startPolling (generation : Nat) (key : κ)
  | stopPolling
  | publish (value : τ)
  | reportFailure (message : String)
  deriving DecidableEq, Repr

structure View (κ τ : Type) where
  key : Option κ
  polling : Bool
  latest : Option τ
  lastError : Option String
  refreshes : Nat
  deriving DecidableEq, Repr

variable {κ τ : Type}

def State.view (s : State κ τ) : View κ τ :=
  ⟨s.key, s.polling, s.latest, s.lastError, s.refreshes⟩

def State.accepts (s : State κ τ) (generation : Nat) : Bool :=
  s.polling && generation = s.generation

/-- Stopping starts a new generation as well, so a fetch on its way is dropped when it arrives. -/
def update [LiveResource τ] (s : State κ τ) : Msg κ τ → State κ τ × List (Effect κ τ)
  | .track key =>
    let started : State κ τ :=
      { key := some key, generation := s.generation + 1, polling := true }
    (started,
      (if s.polling then [.stopPolling] else []) ++ [.startPolling (s.generation + 1) key])
  | .refreshed generation value =>
    if s.accepts generation then
      let final := LiveResource.isFinal value
      ({ s with
          polling := !final
          latest := some value
          lastError := LiveResource.failure value
          refreshes := s.refreshes + 1 },
        .publish value :: if final then [.stopPolling] else [])
    else (s, [])
  | .failed generation message =>
    if s.accepts generation then
      ({ s with polling := false, lastError := some message },
        [.stopPolling, .reportFailure message])
    else (s, [])
  | .stop => ({ s with generation := s.generation + 1, polling := false }, [.stopPolling])

def run [LiveResource τ] (s : State κ τ) : List (Msg κ τ) → State κ τ × List (Effect κ τ)
  | [] => (s, [])
  | m :: ms =>
    let (s, effects) := update s m
    let (s, later) := run s ms
    (s, effects ++ later)

end Tracking
end TranscodeConsole
