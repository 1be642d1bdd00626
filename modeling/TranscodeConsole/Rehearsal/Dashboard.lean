import TranscodeConsole.Rehearsal.Tracked

/-!
Two trackers side by side, of the queues and of the job totals, against one scripted service.
-/
namespace TranscodeConsole.Rehearsal

structure Dashboard where
  script : Script
  queues : Tracked Unit QueueStats := {}
  totals : Tracked Unit JobTotals := {}

inductive DashboardTask where
  | queues (mark : Mark)
  | totals (mark : Mark)
  deriving DecidableEq, Repr

namespace Dashboard

def tasks (w : Dashboard) : List DashboardTask :=
  w.queues.tasks.map .queues ++ w.totals.tasks.map .totals

def wake (w : Dashboard) : DashboardTask → Wake
  | .queues mark => w.queues.wake mark
  | .totals mark => w.totals.wake mark

def turn (now : Nat) (task : DashboardTask) (w : Dashboard) : Dashboard :=
  match task with
  | .queues mark =>
    let (queues, script) := w.queues.turn .queues now mark w.script
    { w with queues, script }
  | .totals mark =>
    let (totals, script) := w.totals.turn .totals now mark w.script
    { w with totals, script }

def plan : Plan Dashboard DashboardTask where
  tasks := tasks
  wake := wake
  turn := turn

def track (now queueInterval totalsInterval : Nat) (w : Dashboard) :
    Except Poll.AlreadyRunning Dashboard := do
  let (started, queues) := w.queues.track now queueInterval ()
  started
  let (started, totals) := w.totals.track now totalsInterval ()
  started
  return { w with queues, totals }

end Dashboard
end TranscodeConsole.Rehearsal
