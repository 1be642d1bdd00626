import TranscodeConsole.Display
import TranscodeConsole.Proofs.Quick.Step
import TranscodeConsole.Rehearsal.Quick

/-!
A quick transcode with its three tasks side by side: the command, which submits a file and then
looks how it goes; the poll that follows the job; and the observer, which passes on to the machine
what the poll finds. A step of a task ends where it takes a lock or waits for the service, and
between any two steps of one task the others may do anything. How long the service takes for an
answer, and when the poll ticks, is for the list of moves to say.
-/
namespace TranscodeConsole.QuickTranscode

open Rehearsal.Quick (eventMsg analysisMsg createdMsg uploadedMsg)

inductive PollStand where
  | ticking
  | fetching
  | telling (effects : List (Tracking.Effect Uuid JobSnapshot))
  | gone

structure JobPoll where
  poll : TrackedPoll Uuid
  stand : PollStand := .ticking

inductive ObserverStand where
  | waiting
  | hearing (event : TrackEvent JobSnapshot)
  | fetching (result : Uuid)

structure Observer where
  stopper : Stopper
  stand : ObserverStand := .waiting
  queue : List Effect := []

inductive Front where
  | working (queue : List Effect)
  | calling (effect : Effect) (queue : List Effect)
  | looking
  /-- It has looked at the machine, and is going to ask whether the job is still followed. -/
  | judging (view : View)
  | ended (ending : Display.Ending)

structure Relay where
  state : State := {}
  tracker : Tracker Uuid JobSnapshot := { observed := false }
  poll : Option JobPoll := none
  observer : Option Observer := none
  front : Front
  shown : String := ""
  printed : String := ""
  /-- Every analysis that was there when it was asked for. -/
  found : List (Uuid × FileFormat) := []

inductive Reply where
  | created (job : Except ServiceError Uuid)
  | uploaded (done : Except ServiceError Unit)
  | analysed (info : Except ServiceError (Option FileFormat))

def Reply.msg? : Effect → Reply → Option Msg
  | .createJob _, .created job => some (createdMsg job)
  | .upload _, .uploaded done => some (uploadedMsg done)
  | .fetchAnalysis result, .analysed info => some (analysisMsg result info)
  | _, _ => none

inductive Move where
  /-- The poll asks for the job. It may overlook that it was called off. -/
  | fetch
  | status (answer : Except ServiceError JobSnapshot)
  | tell
  | leave
  | take
  | hear
  | attend
  | analysis (answer : Except ServiceError (Option FileFormat))
  | work
  | reply (answer : Reply)
  | look
  | judge

def statusMsg (poll : TrackedPoll Uuid) :
    Except ServiceError JobSnapshot → Tracking.Msg Uuid JobSnapshot
  | .ok snapshot => .refreshed poll.generation snapshot
  | .error e => .failed poll.generation e.userMessage

namespace Relay

def start (template : Uuid) (byteLength : Nat) : Relay :=
  let (state, effects) := update {} (.buffer template byteLength)
  { state, front := .working effects }

/-! ### The poll -/

def fetch (r : Relay) : Relay :=
  match r.poll with
  | some ⟨poll, .ticking⟩ => { r with poll := some ⟨poll, .fetching⟩ }
  | _ => r

def status (answer : Except ServiceError JobSnapshot) (r : Relay) : Relay :=
  match r.poll with
  | some ⟨poll, .fetching⟩ =>
    let (state, effects) := Tracking.update r.tracker.state (statusMsg poll answer)
    { r with tracker := { r.tracker with state }, poll := some ⟨poll, .telling effects⟩ }
  | _ => r

def tell (r : Relay) : Relay :=
  match r.poll with
  | some ⟨poll, .telling (effect :: effects)⟩ =>
    { r with
      tracker := r.tracker.runAnswer poll.control effect, poll := some ⟨poll, .telling effects⟩ }
  | some ⟨poll, .telling []⟩ => { r with poll := some ⟨poll, .ticking⟩ }
  | _ => r

def leave (r : Relay) : Relay :=
  match r.poll with
  | some ⟨poll, .ticking⟩ | some ⟨poll, .fetching⟩ =>
    if poll.control.isStopped r.tracker.marks then { r with poll := some ⟨poll, .gone⟩ } else r
  | _ => r

/-! ### The observer -/

def take (r : Relay) : Relay :=
  match r.observer, r.tracker.events with
  | some ⟨stopper, .waiting, []⟩, event :: events =>
    { r with
      tracker := { r.tracker with events }, observer := some ⟨stopper, .hearing event, []⟩ }
  | _, _ => r

def hear (r : Relay) : Relay :=
  match r.observer with
  | some ⟨stopper, .hearing event, _⟩ =>
    let (state, queue) := update r.state (eventMsg event)
    { r with state, observer := some ⟨stopper, .waiting, queue⟩ }
  | _ => r

def attend (r : Relay) : Relay :=
  match r.observer with
  | some ⟨stopper, .waiting, .fetchAnalysis result :: queue⟩ =>
    { r with observer := some ⟨stopper, .fetching result, queue⟩ }
  | some ⟨stopper, .waiting, .stopTracking :: queue⟩ =>
    { r with
      tracker := stopper.stop r.tracker, observer := some ⟨stopper, .waiting, queue⟩ }
  | some ⟨stopper, .waiting, _ :: queue⟩ =>
    { r with observer := some ⟨stopper, .waiting, queue⟩ }
  | _ => r

def analysis (answer : Except ServiceError (Option FileFormat)) (r : Relay) : Relay :=
  match r.observer with
  | some ⟨stopper, .fetching result, queue⟩ =>
    let (state, effects) := update r.state (analysisMsg result answer)
    { r with
      state
      observer := some ⟨stopper, .waiting, queue ++ effects⟩
      found := r.found ++ (answer.toOption.bind id).toList.map (result, ·) }
  | _ => r

/-! ### The command -/

def startTracking (job : Uuid) (queue : List Effect) (r : Relay) : Relay :=
  match ({} : Tracker Uuid JobSnapshot).track job with
  | (.error e, tracker) =>
    let (state, effects) := update r.state (.failed e.message)
    { r with state, tracker, poll := none, observer := none, front := .working (queue ++ effects) }
  | (.ok poll, tracker) =>
    { r with
      tracker
      poll := poll.map ({ poll := · })
      observer := some { stopper := tracker.stopper }
      front := .working queue }

def work (r : Relay) : Relay :=
  match r.front with
  | .working [] => { r with front := .looking }
  | .working (.startTracking job :: queue) => r.startTracking job queue
  | .working (.stopTracking :: queue) =>
    { r with tracker := r.tracker.stop, front := .working queue }
  | .working (effect :: queue) => { r with front := .calling effect queue }
  | _ => r

def reply (answer : Reply) (r : Relay) : Relay :=
  match r.front with
  | .calling effect queue =>
    match answer.msg? effect with
    | some m =>
      let (state, effects) := update r.state m
      { r with state, front := .working (queue ++ effects) }
    | none => r
  | _ => r

def look (r : Relay) : Relay :=
  match r.front with
  | .looking => { r with front := .judging r.state.view }
  | _ => r

def judge (r : Relay) : Relay :=
  match r.front with
  | .judging view =>
    let (reaction, shown) := Display.quick r.shown view r.tracker.state.polling
    { r with
      shown
      printed := r.printed ++ reaction.printed
      front := reaction.ending.elim .looking .ended }
  | _ => r

def step (r : Relay) : Move → Relay
  | .fetch => r.fetch
  | .status answer => r.status answer
  | .tell => r.tell
  | .leave => r.leave
  | .take => r.take
  | .hear => r.hear
  | .attend => r.attend
  | .analysis answer => r.analysis answer
  | .work => r.work
  | .reply answer => r.reply answer
  | .look => r.look
  | .judge => r.judge

def run (r : Relay) (moves : List Move) : Relay := moves.foldl step r

@[simp] theorem run_nil (r : Relay) : r.run [] = r := rfl

@[simp] theorem run_cons (r : Relay) (move : Move) (moves : List Move) :
    r.run (move :: moves) = (r.step move).run moves := rfl

@[simp] theorem run_append (r : Relay) (moves further : List Move) :
    r.run (moves ++ further) = (r.run moves).run further :=
  List.foldl_append ..

end Relay
end TranscodeConsole.QuickTranscode
