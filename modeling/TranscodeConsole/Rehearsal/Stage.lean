/-!
Work in the background, rehearsed on a clock of its own. Code takes no time; the clock moves only
when nothing can run, and then straight to the next moment at which something can. Tasks that can
run take turns in the order in which they became able to.
-/
namespace TranscodeConsole.Rehearsal

inductive Wake where
  | now
  /-- As soon as nothing else can run. -/
  | later
  | at (time : Nat)
  | never
  deriving DecidableEq, Repr

namespace Wake

def isReady (time : Nat) : Wake → Bool
  | .now => true
  | .at t => t ≤ time
  | .later | .never => false

def time? : Wake → Option Nat
  | .at t => some t
  | _ => none

end Wake

structure Plan (σ κ : Type) where
  tasks : σ → List κ
  wake : σ → κ → Wake
  /-- Runs a task at a time until it can go on no further. -/
  turn : Nat → κ → σ → σ

structure Stage (σ κ : Type) where
  world : σ
  now : Nat := 0
  queue : List κ := []
  /-- All tasks, those first that ran longest ago. -/
  order : List κ := []

structure Deadline where
  time : Nat
  /-- Whether tasks still run at that moment; else the foreground only looks once more. -/
  tasksRun : Bool := true

namespace Stage

variable {σ κ : Type} [DecidableEq κ]

def notice (plan : Plan σ κ) (s : Stage σ κ) : Stage σ κ :=
  let tasks := plan.tasks s.world
  let known := s.order.filter (tasks.contains ·)
  let order := known ++ tasks.filter (!known.contains ·)
  let queue := s.queue.filter (tasks.contains ·)
  let ready := order.filter fun k =>
    !queue.contains k && (plan.wake s.world k).isReady s.now
  { s with queue := queue ++ ready, order }

def turn (plan : Plan σ κ) (s : Stage σ κ) (k : κ) (rest : List κ) : Stage σ κ :=
  { s with
    world := plan.turn s.now k s.world
    queue := rest
    order := s.order.erase k ++ [k] }

def yielded (plan : Plan σ κ) (s : Stage σ κ) : List κ :=
  s.order.filter fun k => plan.wake s.world k = .later

def earliest (times : List Nat) : Option Nat :=
  times.foldl (fun best t => some (match best with
    | some b => min b t
    | none => t)) none

def nextTime (plan : Plan σ κ) (alarm : Option Nat) (s : Stage σ κ) : Option Nat :=
  earliest (((s.order.filterMap fun k => (plan.wake s.world k).time?) ++ alarm.toList).filter
    (s.now < ·))

structure Await (σ : Type) where
  holds : Nat → σ → Bool
  alarm : Option Nat := none
  limit : Option Deadline := none

def Await.isOver {σ : Type} (await : Await σ) (now : Nat) : Bool :=
  await.limit.any fun deadline => !deadline.tasksRun && deadline.time ≤ now

def within (s : Stage σ κ) (timeout : Nat) : Deadline := { time := s.now + timeout }

/-- Runs the tasks. The foreground looks whether it can go on when no task can run, and when the
clock has moved. The flag tells whether it can. Nothing comes of it when the tasks never rest. -/
def runFrom (plan : Plan σ κ) (await : Await σ) (look : Bool) (s : Stage σ κ) :
    Option (Bool × Stage σ κ) :=
  let s := s.notice plan
  if look && await.holds s.now s.world then some (true, s)
  else if await.isOver s.now then some (false, s)
  else match s.queue with
    | k :: rest => s.turn plan k rest |>.runFrom plan await false
    | [] =>
      if await.holds s.now s.world then some (true, s)
      else match s.yielded plan with
        | k :: rest => { s with queue := k :: rest } |>.runFrom plan await false
        | [] => match s.nextTime plan await.alarm with
          | some t =>
            if await.limit.all (t ≤ ·.time) then { s with now := t } |>.runFrom plan await true
            else some (false, { s with now := (await.limit.map (·.time)).getD s.now })
          | none => some (false, { s with now := (await.limit.map (·.time)).getD s.now })
partial_fixpoint

def run (plan : Plan σ κ) (await : Await σ) (s : Stage σ κ) : Bool × Stage σ κ :=
  (runFrom plan await true s).getD (false, s)

def pass (plan : Plan σ κ) (length : Nat) (s : Stage σ κ) : Stage σ κ :=
  (s.run plan { holds := fun _ _ => false, limit := some (s.within length) }).2

def sleep (plan : Plan σ κ) (till : Nat) (limit : Deadline) (s : Stage σ κ) : Bool × Stage σ κ :=
  s.run plan { holds := fun now _ => till ≤ now, alarm := some till, limit := some limit }

end Stage
end TranscodeConsole.Rehearsal
