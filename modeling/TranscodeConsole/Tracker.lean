import TranscodeConsole.Tracking
import TranscodeConsole.Poll.Owner
import TranscodeConsole.Service.Error

/-!
A tracker: the tracking machine together with the poll that feeds it. Answers to fetches are
applied to the machine, and its effects stop the poll and tell an observer.
-/
namespace TranscodeConsole

open Poll Tracking

inductive TrackEvent (τ : Type) where
  | refreshed (value : τ)
  | failed (message : String)
  deriving DecidableEq, Repr

structure Tracker (κ τ : Type) where
  state : Tracking.State κ τ := {}
  marks : Marks := {}
  owner : Owner := {}
  observed : Bool := true
  events : List (TrackEvent τ) := []
  deriving DecidableEq, Repr

structure TrackedPoll (κ : Type) where
  control : Control
  generation : Nat
  key : κ
  deriving DecidableEq, Repr

/-- Stops a tracker for someone who does not own it: the machine, and the poll that was running when
the stopper was taken. -/
structure Stopper where
  control : Option Control
  deriving DecidableEq, Repr

namespace Tracker

variable {κ τ : Type}

def isPolling (t : Tracker κ τ) : Bool := t.owner.isRunning t.marks

def control (t : Tracker κ τ) : Option Control := t.owner.control t.marks

def notify (t : Tracker κ τ) (event : TrackEvent τ) : Tracker κ τ :=
  if t.observed then { t with events := t.events ++ [event] } else t

def stopPoll (t : Tracker κ τ) : Tracker κ τ := { t with marks := t.owner.stop t.marks }

def startPoll (t : Tracker κ τ) (generation : Nat) (key : κ) :
    Except AlreadyRunning (TrackedPoll κ) × Tracker κ τ :=
  match t.owner.start t.marks with
  | .error e => (.error e, t)
  | .ok (control, owner, marks) => (.ok ⟨control, generation, key⟩, { t with owner, marks })

def runRequest (t : Tracker κ τ) :
    List (Effect κ τ) → Except AlreadyRunning (Option (TrackedPoll κ)) × Tracker κ τ
  | [] => (.ok none, t)
  | .stopPolling :: effects => runRequest t.stopPoll effects
  | .startPolling generation key :: effects =>
    match t.startPoll generation key with
    | (.error e, t) => (.error e, t)
    | (.ok poll, t) =>
      let (later, t) := runRequest t effects
      (later.map fun other => some (other.getD poll), t)
  | .publish _ :: effects | .reportFailure _ :: effects => runRequest t effects

/-- Turns to another key. The machine has turned to it even if the poll cannot be started. -/
def track [LiveResource τ] (t : Tracker κ τ) (key : κ) :
    Except AlreadyRunning (Option (TrackedPoll κ)) × Tracker κ τ :=
  let (state, effects) := Tracking.update t.state (.track key)
  runRequest { t with state } effects

def stop [LiveResource τ] (t : Tracker κ τ) : Tracker κ τ :=
  let (state, effects) := Tracking.update t.state .stop
  effects.foldl (fun t effect => match effect with
    | .stopPolling => t.stopPoll
    | _ => t) { t with state }

def runAnswer (control : Control) (t : Tracker κ τ) : Effect κ τ → Tracker κ τ
  | .stopPolling => { t with marks := control.stop t.marks }
  | .publish value => t.notify (.refreshed value)
  | .reportFailure message => t.notify (.failed message)
  | .startPolling .. => t

def answer [LiveResource τ] (t : Tracker κ τ) (poll : TrackedPoll κ)
    (result : Except ServiceError τ) : Tracker κ τ :=
  let (state, effects) := Tracking.update t.state <| match result with
    | .ok value => .refreshed poll.generation value
    | .error e => .failed poll.generation e.userMessage
  effects.foldl (runAnswer poll.control) { t with state }

def stopper (t : Tracker κ τ) : Stopper := ⟨t.control⟩

end Tracker

def Stopper.stop {κ τ : Type} [LiveResource τ] (s : Stopper) (t : Tracker κ τ) : Tracker κ τ :=
  let (state, effects) := Tracking.update t.state .stop
  effects.foldl (fun t effect => match effect, s.control with
    | .stopPolling, some control => { t with marks := control.stop t.marks }
    | _, _ => t) { t with state }

end TranscodeConsole
