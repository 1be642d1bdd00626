import TranscodeConsole.Poll.Worker
import TranscodeConsole.Rehearsal.Polls
import TranscodeConsole.Rehearsal.Script
import TranscodeConsole.Tracker

/-!
A tracker at work against a scripted service.
-/
namespace TranscodeConsole.Rehearsal

open Poll

structure Source (κ τ : Type) where
  call : Nat → κ → Script → Pending τ × Script

namespace Source

def jobs : Source Uuid JobSnapshot := ⟨Script.callJobStatus⟩
def counters : Source Uuid BatchSummary := ⟨Script.callBatchSummary⟩
def queues : Source Unit QueueStats := ⟨fun now _ => Script.callQueueStats now⟩
def totals : Source Unit JobTotals := ⟨fun now _ => Script.callJobSummary now⟩

end Source

structure TrackedWorker (κ τ : Type) where
  poll : TrackedPoll κ
  worker : Worker (Pending τ)

structure Tracked (κ τ : Type) where
  tracker : Tracker κ τ := {}
  workers : List (TrackedWorker κ τ) := []

namespace Tracked

variable {κ τ : Type} [LiveResource τ]

def find? (t : Tracked κ τ) (mark : Mark) : Option (TrackedWorker κ τ) :=
  t.workers.find? (·.poll.control.mark = mark)

def track (now interval : Nat) (key : κ) (t : Tracked κ τ) :
    Except AlreadyRunning Unit × Tracked κ τ :=
  match t.tracker.track key with
  | (.error e, tracker) => (.error e, { t with tracker })
  | (.ok none, tracker) => (.ok (), { t with tracker })
  | (.ok (some poll), tracker) =>
    let worker : Worker (Pending τ) := { ticker := Ticker.start now interval }
    (.ok (), { tracker, workers := t.workers ++ [{ poll, worker }] })

def stop (t : Tracked κ τ) : Tracked κ τ := { t with tracker := t.tracker.stop }

def answer (poll : TrackedPoll κ) (result : Except ServiceError τ) (t : Tracked κ τ) :
    Tracked κ τ :=
  { t with tracker := t.tracker.answer poll result }

def refresh (source : Source κ τ) (poll : TrackedPoll κ) :
    Refresh (Tracked κ τ × Script) (Pending τ) where
  cancelled w := poll.control.isStopped w.1.tracker.marks
  begin now := fun (t, script) =>
    let (pending, script) := source.call now poll.key script
    if pending.due ≤ now then (none, t.answer poll pending.result, script)
    else (some pending, t, script)
  resume _ pending := fun (t, script) => (none, t.answer poll pending.result, script)

def turn (source : Source κ τ) (now : Nat) (mark : Mark) (t : Tracked κ τ) (script : Script) :
    Tracked κ τ × Script :=
  match t.find? mark with
  | none => (t, script)
  | some w =>
    let (worker, t, script) := w.worker.run (refresh source w.poll) now (t, script)
    let others := t.workers.filter (·.poll.control.mark ≠ mark)
    match worker.phase with
    | .over => ({ t with workers := others }, script)
    | _ => ({ t with workers := others ++ [{ w with worker }] }, script)

def tasks (t : Tracked κ τ) : List Mark := t.workers.map (·.poll.control.mark)

def wake (t : Tracked κ τ) (mark : Mark) : Wake :=
  match t.find? mark with
  | some w => pollWake (w.poll.control.isStopped t.tracker.marks) Pending.due w.worker
  | none => .never

def release (t : Tracked κ τ) : Option Control × Tracked κ τ :=
  let (control, owner) := t.tracker.owner.release
  (control, { t with tracker := { t.tracker with owner } })

def hasEnded (control : Control) (t : Tracked κ τ) : Bool := (t.find? control.mark).isNone

def abandon (control : Control) (t : Tracked κ τ) : Tracked κ τ :=
  { t with tracker := { t.tracker with marks := control.stop t.tracker.marks } }

end Tracked

structure Following (κ τ : Type) where
  tracked : Tracked κ τ := {}
  script : Script

namespace Following

variable {κ τ : Type} [LiveResource τ]

def plan (source : Source κ τ) : Plan (Following κ τ) Mark where
  tasks w := w.tracked.tasks
  wake w mark := w.tracked.wake mark
  turn now mark w :=
    let (tracked, script) := w.tracked.turn source now mark w.script
    { tracked, script }

def stopped (source : Source κ τ) (timeout : Nat) (s : Stage (Following κ τ) Mark) :
    Bool × Stage (Following κ τ) Mark :=
  match s.world.tracked.release with
  | (none, _) => (true, s)
  | (some control, tracked) =>
    let (ended, s) := { s with world := { s.world with tracked } }.run (plan source)
      { holds := fun _ w => w.tracked.hasEnded control, limit := some (s.within timeout) }
    (ended, { s with world := { s.world with tracked := s.world.tracked.abandon control } })

end Following
end TranscodeConsole.Rehearsal
