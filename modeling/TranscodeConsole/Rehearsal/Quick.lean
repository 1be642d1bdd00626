import TranscodeConsole.QuickTranscode
import TranscodeConsole.Rehearsal.Tracked

/-!
A quick transcode at work against a scripted service: a submission in the foreground, and behind it
the poll that follows the job, and an observer that feeds what the poll finds into the machine.
-/
namespace TranscodeConsole

theorem Stopper.events_stop {κ τ : Type} [LiveResource τ] (s : Stopper) (t : Tracker κ τ) :
    (s.stop t).events = t.events := by
  simp only [Stopper.stop, Tracking.update, List.foldl_cons, List.foldl_nil]
  split <;> rfl

end TranscodeConsole

namespace TranscodeConsole.Rehearsal

open Poll QuickTranscode

structure Observer where
  stopper : Stopper
  queue : List Effect := []
  fetching : Option (Uuid × Pending (Option FileFormat)) := none

structure Quick where
  script : Script
  jobInterval : Nat
  state : State := {}
  tracked : Tracked Uuid JobSnapshot := { tracker := { observed := false } }
  replaced : Nat := 0
  observer : Option Observer := none

/-- The work in the background; a tracker is known by the number of those before it. -/
inductive QuickTask where
  | poll (tracker : Nat) (mark : Mark)
  | observer (tracker : Nat)
  deriving DecidableEq, Repr

namespace Quick

def step (msg : Msg) (w : Quick) : List Effect × Quick :=
  let (state, effects) := update w.state msg
  (effects, { w with state })

def analysisMsg (result : Uuid) : Except ServiceError (Option FileFormat) → Msg
  | .ok (some info) => .analysisLoaded result info
  | .ok none => .analysisUnavailable result
  | .error e => .failed e.userMessage

def eventMsg : TrackEvent JobSnapshot → Msg
  | .refreshed snapshot => .observed snapshot.status snapshot.analysisResult
  | .failed message => .failed message

theorem weight_analysisMsg_le (result : Uuid) (answer : Except ServiceError (Option FileFormat)) :
    (analysisMsg result answer).weight ≤ 1 := by
  unfold analysisMsg
  split <;> simp [Msg.weight]

theorem weight_eventMsg_le (event : TrackEvent JobSnapshot) : (eventMsg event).weight ≤ 2 := by
  cases event <;> simp [eventMsg, Msg.weight]

/-! ### The observer -/

def stopTracked (s : Stopper) (w : Quick) : Quick :=
  { w with tracked := { w.tracked with tracker := s.stop w.tracked.tracker } }

def analysed (result : Uuid) (answer : Except ServiceError (Option FileFormat)) (o : Observer)
    (w : Quick) : Observer × Quick :=
  let (effects, w) := w.step (analysisMsg result answer)
  ({ o with queue := o.queue ++ effects, fetching := none }, w)

def outstanding (o : Observer) (w : Quick) : Nat :=
  weight o.queue + 3 * w.tracked.tracker.events.length

theorem outstanding_analysed_le (result : Uuid)
    (answer : Except ServiceError (Option FileFormat)) (o : Observer) (w : Quick) :
    outstanding (analysed result answer o w).1 (analysed result answer o w).2
      ≤ outstanding o w + 1 := by
  have effects := weight_update_le w.state (analysisMsg result answer)
  have message := weight_analysisMsg_le result answer
  simp only [outstanding, analysed, step, weight_append]
  omega

def observeStep (now : Nat) (o : Observer) (w : Quick) : Bool × Observer × Quick :=
  match o.queue with
  | .fetchAnalysis result :: queue =>
    let (pending, script) := w.script.callAnalysis now result
    if pending.due ≤ now then
      (true, analysed result pending.result { o with queue } { w with script })
    else (false, { o with queue, fetching := some (result, pending) }, { w with script })
  | .stopTracking :: queue => (true, { o with queue }, w.stopTracked o.stopper)
  | _ :: queue => (true, { o with queue }, w)
  | [] => match w.tracked.tracker.events with
    | event :: events =>
      let tracker := { w.tracked.tracker with events }
      let (queue, w) := { w with tracked := { w.tracked with tracker } }.step (eventMsg event)
      (true, { o with queue }, w)
    | [] => (false, o, w)

theorem outstanding_observeStep_lt (now : Nat) (o : Observer) (w : Quick)
    (h : (observeStep now o w).1 = true) :
    outstanding (observeStep now o w).2.1 (observeStep now o w).2.2 < outstanding o w := by
  revert h
  unfold observeStep
  cases queue : o.queue with
  | nil =>
    cases events : w.tracked.tracker.events with
    | nil => simp
    | cons event events =>
      intro _
      have effects := weight_update_le w.state (eventMsg event)
      have message := weight_eventMsg_le event
      simp only [outstanding, step, queue, events, List.length_cons]
      simp only [weight] at effects ⊢
      omega
  | cons effect rest =>
    have whole : outstanding o w = effect.weight + outstanding { o with queue := rest } w := by
      simp only [outstanding, queue, weight]
      omega
    cases effect with
    | fetchAnalysis result =>
      simp only [whole, Effect.weight]
      split
      · intro _
        have bound := outstanding_analysed_le result
          (w.script.callAnalysis now result).1.result { o with queue := rest }
          { w with script := (w.script.callAnalysis now result).2 }
        simp only [outstanding] at bound ⊢
        omega
      · simp
    | stopTracking =>
      intro _
      rw [whole]
      simp only [outstanding, stopTracked, Stopper.events_stop, Effect.weight]
      omega
    | _ => intro _; simp only [whole, Effect.weight]; omega

def observe (now : Nat) (o : Observer) (w : Quick) : Observer × Quick :=
  match _step : observeStep now o w with
  | (true, next, after) => observe now next after
  | (false, next, after) => (next, after)
termination_by outstanding o w
decreasing_by
  have lt := outstanding_observeStep_lt now o w (by rw [_step])
  rw [_step] at lt
  exact lt

def observerTurn (now : Nat) (o : Observer) (w : Quick) : Observer × Quick :=
  match o.fetching with
  | some (result, pending) =>
    let (o, w) := analysed result pending.result o w
    observe now o w
  | none => observe now o w

def observerWake (o : Observer) (w : Quick) : Wake :=
  match o.fetching with
  | some (_, pending) => .at pending.due
  | none => if w.tracked.tracker.events.isEmpty then .never else .now

def stopObserver (w : Quick) : Quick :=
  { w with
    observer := none
    tracked := { w.tracked with
      tracker := { w.tracked.tracker with observed := false, events := [] } } }

/-! ### The background -/

def tasks (w : Quick) : List QuickTask :=
  w.tracked.tasks.map (.poll w.replaced) ++ (w.observer.map fun _ => .observer w.replaced).toList

def wake (w : Quick) : QuickTask → Wake
  | .poll _ mark => w.tracked.wake mark
  | .observer _ => w.observer.elim .never w.observerWake

def turn (now : Nat) (task : QuickTask) (w : Quick) : Quick :=
  match task with
  | .poll _ mark =>
    let (tracked, script) := w.tracked.turn .jobs now mark w.script
    { w with tracked, script }
  | .observer _ => match w.observer with
    | some o =>
      let (o, w) := observerTurn now o w
      { w with observer := some o }
    | none => w

def plan : Plan Quick QuickTask where
  tasks := tasks
  wake := wake
  turn := turn

abbrev QuickStage := Stage Quick QuickTask

/-! ### The foreground -/

def onWorld (f : Quick → Quick) (s : QuickStage) : QuickStage := { s with world := f s.world }

def stopTracking (w : Quick) : Quick := { w with tracked := w.tracked.stop }

def teardown (w : Quick) : Quick := w.stopTracking.stopObserver

def startTracking (now : Nat) (job : Uuid) (w : Quick) : List Effect × Quick :=
  let w := { w.teardown with tracked := {}, replaced := w.replaced + 1 }
  match w.tracked.track now w.jobInterval job with
  | (.error e, tracked) => { w with tracked }.step (.failed e.message)
  | (.ok (), tracked) =>
    ([], { w with tracked, observer := some { stopper := tracked.tracker.stopper } })

/-- Makes a call and applies its answer; no effects if there is none in time. -/
def callAndStep {α : Type} (call : Nat → Script → Pending α × Script)
    (msg : Except ServiceError α → Msg) (limit : Deadline) (s : QuickStage) :
    Option (List Effect) × QuickStage :=
  let (pending, script) := call s.now s.world.script
  match (s |> onWorld fun w => { w with script }).sleep plan pending.due limit with
  | (true, s) =>
    let (effects, world) := s.world.step (msg pending.result)
    (some effects, { s with world })
  | (false, s) => (none, s)

def createdMsg : Except ServiceError Uuid → Msg
  | .ok job => .jobCreated job
  | .error e => .failed e.userMessage

def uploadedMsg : Except ServiceError Unit → Msg
  | .ok () => .uploadCompleted
  | .error e => .failed e.userMessage

def carryOut (limit : Deadline) (byteLength : Nat) (effect : Effect) (s : QuickStage) :
    Option (List Effect) × QuickStage :=
  match effect with
  | .createJob template =>
    s |> callAndStep (fun now => Script.callCreateJob now template) createdMsg limit
  | .startTracking job =>
    let (effects, world) := s.world.startTracking s.now job
    (some effects, { s with world })
  | .upload job =>
    s |> callAndStep (fun now => Script.callUpload now job byteLength) uploadedMsg limit
  | .fetchAnalysis result =>
    s |> callAndStep (fun now => Script.callAnalysis now result) (analysisMsg result) limit
  | .stopTracking => (some [], s |> onWorld stopTracking)

theorem weight_callAndStep_le {α : Type} {call : Nat → Script → Pending α × Script}
    {msg : Except ServiceError α → Msg} {limit : Deadline} {bound : Nat} {s : QuickStage}
    {effects : List Effect} (light : ∀ answer, (msg answer).weight ≤ bound)
    (h : (callAndStep call msg limit s).1 = some effects) : weight effects ≤ bound := by
  revert h
  simp only [callAndStep]
  split
  · intro h
    simp only [step, Option.some.injEq] at h
    subst h
    exact Nat.le_trans (weight_update_le _ _) (light _)
  · simp

theorem weight_carryOut_lt {limit : Deadline} {byteLength : Nat} {effect : Effect} {s : QuickStage}
    {effects : List Effect} (h : (carryOut limit byteLength effect s).1 = some effects) :
    weight effects < effect.weight := by
  cases effect with
  | createJob template =>
    exact Nat.lt_succ_of_le <| weight_callAndStep_le
      (fun answer => by cases answer <;> simp [createdMsg, Msg.weight]) h
  | upload job =>
    exact Nat.lt_succ_of_le <| weight_callAndStep_le
      (fun answer => by cases answer <;> simp [uploadedMsg, Msg.weight]) h
  | fetchAnalysis result =>
    exact Nat.lt_succ_of_le <| weight_callAndStep_le (weight_analysisMsg_le result) h
  | startTracking job =>
    revert h
    simp only [carryOut, startTracking]
    split
    · intro h
      simp only [step, Option.some.injEq] at h
      subst h
      exact Nat.lt_succ_of_le (weight_update_le _ _)
    · intro h
      simp only [Option.some.injEq] at h
      subst h
      simp [weight, Effect.weight]
  | stopTracking =>
    simp only [carryOut, Option.some.injEq] at h
    subst h
    decide

def carryOutAll (limit : Deadline) (byteLength : Nat) (effects : List Effect) (s : QuickStage) :
    Bool × QuickStage :=
  match effects with
  | [] => (true, s)
  | effect :: rest =>
    match _done : carryOut limit byteLength effect s with
    | (some more, s) => carryOutAll limit byteLength (rest ++ more) s
    | (none, s) => (false, s)
termination_by weight effects
decreasing_by
  have lt := weight_carryOut_lt (congrArg Prod.fst _done)
  simp only [weight_append]
  simp only [weight] at lt ⊢
  omega

def submit (limit : Deadline) (template : Uuid) (byteLength : Nat) (s : QuickStage) :
    Bool × QuickStage :=
  let (effects, world) := s.world.step (.buffer template byteLength)
  carryOutAll limit byteLength effects { s with world }

def progress (fraction : Single) (w : Quick) : Quick := (w.step (.progress fraction)).2

def reset (w : Quick) : Quick :=
  let (effects, w) := w.stopObserver.step .reset
  effects.foldl (fun w effect => match effect with
    | .stopTracking => w.stopTracking
    | _ => w) w

def trackingStopped (timeout : Nat) (s : QuickStage) : Bool × QuickStage :=
  match s.world.tracked.release with
  | (none, _) => (true, s)
  | (some control, tracked) =>
    let (ended, s) := (s |> onWorld fun w => { w with tracked }).run plan
      { holds := fun _ w => w.tracked.hasEnded control, limit := some (s.within timeout) }
    (ended, s |> onWorld fun w => { w with tracked := w.tracked.abandon control })

end Quick
end TranscodeConsole.Rehearsal
