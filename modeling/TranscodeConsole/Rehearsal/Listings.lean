import TranscodeConsole.Listing.Desk
import TranscodeConsole.Rehearsal.Script
import TranscodeConsole.Rehearsal.Stage

/-!
The desk of a listing at work against a scripted service, with its readers in the background.
-/
namespace TranscodeConsole.Rehearsal

open Feed Listing

structure PageReader where
  id : Nat
  generation : Nat
  page : Page
  wake : Wake := .now

structure Listings where
  script : Script
  options : Options
  desk : Desk := {}
  readers : List PageReader := []
  started : Nat := 0
  current : Option Nat := none

namespace Listings

def onDesk (f : Desk → Desk) (w : Listings) : Listings := { w with desk := f w.desk }

def find? (w : Listings) (id : Nat) : Option PageReader := w.readers.find? (·.id = id)

def mark (r : PageReader) : Mark := r.page.session.mark

def wakeOf (w : Listings) (id : Nat) : Wake :=
  match w.find? id with
  | some r => if w.desk.cursor.marks.isCancelled (mark r) then .now else r.wake
  | none => .never

def startReader (generation : Nat) (session : Session) (w : Listings) : Listings :=
  let reader : PageReader := { id := w.started, generation, page := Page.start session }
  { w with
    readers := w.readers ++ [reader], started := w.started + 1, current := some reader.id }

def turn (now id : Nat) (w : Listings) : Listings :=
  match w.find? id with
  | none => w
  | some r =>
    let (rest, page, desk) :=
      Page.run BatchEntry.read (Desk.consumer r.generation (mark r)) now r.page w.desk
    let others := w.readers.filter (·.id ≠ id)
    let waits (wake : Wake) : Listings :=
      { w with desk, readers := others ++ [{ r with page, wake }] }
    match rest with
    | .waiting time => waits (time.elim .never .at)
    | .yielding => waits .later
    | .ended how =>
      { w with desk := desk.pageOver r.generation page.session how, readers := others }
    | .failed error =>
      { w with desk := desk.feedFailed r.generation page.session error, readers := others }

def plan : Plan Listings Nat where
  tasks w := w.readers.map (·.id)
  wake := wakeOf
  turn := turn

abbrev Desktop := Stage Listings Nat

/-- Opens the feed of a batch and starts its reader; whether this was done in time. -/
def openFeed (limit : Deadline) (generation : Nat) (batch : Uuid) (filter : Filter) (s : Desktop) :
    Bool × Desktop :=
  let w := s.world
  match w.script.base.resolve Service.batchContent (Desk.query batch filter) with
  | .error e => (true, { s with world := w.onDesk (·.openFailed generation e) })
  | .ok url =>
    let (active, cursor) := w.desk.cursor.connect
    let (reply, script) := w.script.callOpenStream s.now url
    let (done, s) := { s with world := { w with script, desk := { w.desk with cursor } } }.sleep
      plan reply.due limit
    if !done then (false, s)
    else
      let w := s.world
      (true, { s with world := match reply.result with
        | .ok items =>
          let session := Session.start active.id url.render active.mark items w.options
          w.startReader generation session
        | .error e =>
          let cursor := w.desk.cursor.release active.id
          { w with desk := { w.desk with cursor } }.onDesk (·.openFailed generation e) })

def runErrands (limit : Deadline) : List Errand → Desktop → Bool × Desktop
  | [], s => (true, s)
  | .openFeed generation batch filter :: errands, s =>
    match openFeed limit generation batch filter s with
    | (true, s) => runErrands limit errands s
    | (false, s) => (false, s)
  | .read generation session :: errands, s =>
    runErrands limit errands { s with world := s.world.startReader generation session }

def request (limit : Deadline) (msg : Msg) (s : Desktop) : Bool × Desktop :=
  let (errands, desk) := s.world.desk.request msg
  runErrands limit errands { s with world := { s.world with desk } }

def settled (limit : Deadline) (s : Desktop) : Bool × Desktop :=
  match s.world.current with
  | none => (true, s)
  | some id => { s with world := { s.world with current := none } }.run plan
      { holds := fun _ w => (w.find? id).isNone, limit := some limit }

def cancel (w : Listings) : Listings := w.onDesk fun d => (d.request .cancel).2

/-- Stops for good: the reader of the current page ends where it is. -/
def teardown (w : Listings) : Listings :=
  let w := w.cancel
  match w.current.bind w.find? with
  | some r =>
    { w with readers := w.readers.filter (·.id ≠ r.id), current := none }.onDesk
      (·.letGo r.page.session)
  | none => { w with current := none }

end Listings
end TranscodeConsole.Rehearsal
