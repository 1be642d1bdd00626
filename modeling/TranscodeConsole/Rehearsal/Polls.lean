import TranscodeConsole.Poll.Owner
import TranscodeConsole.Poll.Worker
import TranscodeConsole.Rehearsal.Stage

/-!
Polls whose refreshes do nothing but take their time. A poll may stop itself from inside one of its
refreshes.
-/
namespace TranscodeConsole.Rehearsal

open Poll

def pollWake {ω : Type} (cancelled : Bool) (due : ω → Nat) (worker : Worker ω) : Wake :=
  match worker.phase with
  | .over => .never
  | .ticking => if cancelled then .now else .at worker.ticker.due
  | .refreshing work => if cancelled then .now else .at (due work)

structure Costs where
  /-- The time that each refresh takes; the last entry counts for all that follow. -/
  times : List Nat := []
  stopOn : Option Nat := none

def Costs.time (c : Costs) (n : Nat) : Nat := c.times[min n c.times.length - 1]?.getD 0

structure Nap where
  number : Nat
  till : Nat

structure RunningPoll where
  control : Control
  costs : Costs
  count : Nat := 0
  worker : Worker Nap

inductive PollNote where
  | tick (number : Nat)
  | done (number : Nat) (stopped : Bool)

structure Polls where
  marks : Marks := {}
  owner : Owner := {}
  running : List RunningPoll := []
  /-- What happened, and when, and to which poll; the latest first. -/
  notes : List (Nat × Nat × PollNote) := []

namespace Polls

def note (now id : Nat) (what : PollNote) (w : Polls) : Polls :=
  { w with notes := (now, id, what) :: w.notes }

def refresh (p : RunningPoll) : Refresh (Nat × Polls) Nap where
  cancelled w := p.control.isStopped w.2.marks
  begin now := fun (count, w) =>
    let number := count + 1
    let w := w.note now p.control.id (.tick number)
    let w := if p.costs.stopOn = some number then { w with marks := p.control.stop w.marks } else w
    let time := p.costs.time number
    (if time = 0 then none else some ⟨number, now + time⟩, number, w)
  resume now nap := fun (count, w) =>
    (none, count, w.note now p.control.id (.done nap.number (p.control.isStopped w.marks)))

def find? (w : Polls) (mark : Mark) : Option RunningPoll :=
  w.running.find? (·.control.mark = mark)

def turn (now : Nat) (mark : Mark) (w : Polls) : Polls :=
  match w.find? mark with
  | none => w
  | some p =>
    let (worker, count, w) := p.worker.run (refresh p) now (p.count, w)
    let others := w.running.filter (·.control.mark ≠ mark)
    match worker.phase with
    | .over => { w with running := others }
    | _ => { w with running := others ++ [{ p with worker, count }] }

def plan : Plan Polls Mark where
  tasks w := w.running.map (·.control.mark)
  wake w mark := match w.find? mark with
    | some p => pollWake (p.control.isStopped w.marks) Nap.till p.worker
    | none => .never
  turn := turn

def start (now interval : Nat) (costs : Costs) (w : Polls) : Except AlreadyRunning Nat × Polls :=
  match w.owner.start w.marks with
  | .error e => (.error e, w)
  | .ok (control, owner, marks) =>
    let worker : Worker Nap := { ticker := Ticker.start now interval }
    (.ok control.id, { w with marks, owner, running := w.running ++ [{ control, costs, worker }] })

def stop (w : Polls) : Polls := { w with marks := w.owner.stop w.marks }

def replace (w : Polls) : Polls := { w.stop with owner := {} }

def stopped (timeout : Nat) (s : Stage Polls Mark) : Bool × Stage Polls Mark :=
  match s.world.owner.release with
  | (none, _) => (true, s)
  | (some control, owner) =>
    let (ended, s) := { s with world := { s.world with owner } }.run plan
      { holds := fun _ w => (w.find? control.mark).isNone, limit := some (s.within timeout) }
    (ended, { s with world := { s.world with marks := control.stop s.world.marks } })

end Polls
end TranscodeConsole.Rehearsal
