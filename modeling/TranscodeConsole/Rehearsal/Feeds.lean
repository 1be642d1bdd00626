import TranscodeConsole.Feed.Cursor
import TranscodeConsole.Rehearsal.Script
import TranscodeConsole.Rehearsal.Stage

/-!
Feeds read by hand, one call at a time: a cursor opens sessions one after another, and of every
session that was ever opened records or pages can be read.
-/
namespace TranscodeConsole.Rehearsal

open Feed Json

inductive FeedCall where
  | opening (active : ActiveSession) (source : String) (reply : Pending (List BodyItem))
  | next (index : Nat)
  /-- The consumer breaks off when it has `stopAfter` records. -/
  | page (index : Nat) (phase : PagePhase) (stopAfter : Option Nat)

inductive FeedAnswer (ρ : Type) where
  | opened (session : Nat)
  | record (r : ρ)
  | done
  | pageEnd (how : PageEnd)
  | failed (error : ServiceError)

structure Feeds (ρ : Type) where
  script : Script
  options : Options
  cursor : Cursor := {}
  /-- Every session opened so far; none in the place of one that was let go. -/
  sessions : List (Option Session) := []
  heard : Bool := true
  diagnostics : List Diagnostic := []
  call : Option FeedCall := none
  wake : Wake := .now
  records : List ρ := []
  answer : Option (FeedAnswer ρ) := none

namespace Feeds

variable {ρ : Type}

def session? (w : Feeds ρ) (index : Nat) : Option Session := w.sessions[index]?.join

def setSession (w : Feeds ρ) (index : Nat) (s : Session) : Feeds ρ :=
  { w with sessions := w.sessions.set index (some s) }

def isCancelled (w : Feeds ρ) (mark : Mark) : Bool := w.cursor.marks.isCancelled mark

def reject (s : Session) (error : ServiceError) (w : Feeds ρ) : Feeds ρ :=
  if w.heard then { w with diagnostics := ⟨s.id, s.source, error⟩ :: w.diagnostics } else w

def finish (w : Feeds ρ) (answer : FeedAnswer ρ) : Feeds ρ :=
  { w with call := none, answer := some answer }

def opened (w : Feeds ρ) (active : ActiveSession) (source : String)
    (result : Except ServiceError (List BodyItem)) : Feeds ρ :=
  if w.isCancelled active.mark then w.finish (.failed (Cursor.cancelledWhileConnecting active.id))
  else match result with
    | .ok items =>
      let session := Session.start active.id source active.mark items w.options
      { w with sessions := w.sessions ++ [some session] }.finish (.opened active.id)
    | .error error =>
      { w with cursor := w.cursor.release active.id }.finish (.failed error)

def sink (s : Session) : Session.Sink (Feeds ρ) where
  cancelled w := w.isCancelled s.mark
  reject error w := w.reject s error

def readNext (read : Reader ρ) (now index : Nat) (s : Session) (w : Feeds ρ) : Feeds ρ :=
  let (outcome, s', w) := s.seek read (sink s) now false w
  let w := w.setSession index s'
  match outcome with
  | .record r => w.finish (.record r)
  | .done => w.finish .done
  | .failed error => w.finish (.failed error)
  | .waiting time => { w with wake := time.elim .never .at }

def consumer (s : Session) (stopAfter : Option Nat) : Page.Consumer (Feeds ρ) ρ where
  toSink := sink s
  take record w :=
    let records := record :: w.records
    (stopAfter.all (records.length < ·), { w with records })

def readPage (read : Reader ρ) (now index : Nat) (s : Session) (phase : PagePhase)
    (stopAfter : Option Nat) (w : Feeds ρ) : Feeds ρ :=
  let (rest, page, w) := Page.run read (consumer s stopAfter) now { session := s, phase } w
  let w := w.setSession index page.session
  let w := { w with call := some (.page index page.phase stopAfter) }
  match rest with
  | .ended how => w.finish (.pageEnd how)
  | .failed error => w.finish (.failed error)
  | .waiting time => { w with wake := time.elim .never .at }
  | .yielding => { w with wake := .later }

def callMark? (w : Feeds ρ) : FeedCall → Option Mark
  | .opening active _ _ => some active.mark
  | .next index | .page index _ _ => (w.session? index).map (·.mark)

def wakeOf (w : Feeds ρ) (call : FeedCall) : Wake :=
  if (w.callMark? call).any w.isCancelled then .now else w.wake

def turn (read : Reader ρ) (now : Nat) (w : Feeds ρ) : Feeds ρ :=
  match w.call with
  | none => w
  | some (.opening active source reply) => w.opened active source reply.result
  | some (.next index) => match w.session? index with
    | some s => w.readNext read now index s
    | none => w.finish .done
  | some (.page index phase stopAfter) => match w.session? index with
    | some s => w.readPage read now index s phase stopAfter
    | none => w.finish (.pageEnd .exhausted)

def plan (read : Reader ρ) : Plan (Feeds ρ) Unit where
  tasks w := if w.call.isSome then [()] else []
  wake w _ := w.call.elim .never w.wakeOf
  turn now _ w := w.turn read now

def path : String := "feed"

def beginOpen (now : Nat) (w : Feeds ρ) : Feeds ρ :=
  match w.script.base.resolve path [("n", toString (w.sessions.length + 1))] with
  | .error error => w.finish (.failed error)
  | .ok url =>
    let (active, cursor) := w.cursor.connect
    let (reply, script) := w.script.callOpenStream now url
    { w with
      script, cursor, answer := none, wake := .at reply.due
      call := some (.opening active url.render reply) }

def beginNext (index : Nat) (w : Feeds ρ) : Feeds ρ :=
  { w with call := some (.next index), wake := .now, answer := none }

def beginPage (index : Nat) (stopAfter : Option Nat) (w : Feeds ρ) : Feeds ρ :=
  let sessions := w.sessions.modify index (·.map fun s => (Page.start s).session)
  { w with
    sessions, wake := .now, answer := none, records := []
    call := some (.page index .pulling stopAfter) }

def cancelCursor (w : Feeds ρ) : Feeds ρ := { w with cursor := w.cursor.cancel }

def cancelSession (index : Nat) (w : Feeds ρ) : Feeds ρ :=
  match w.session? index with
  | some s => { w with cursor := w.cursor.cancelMark s.mark }.setSession index s.finish
  | none => w

def dropSession (index : Nat) (w : Feeds ρ) : Feeds ρ :=
  match w.session? index with
  | some s =>
    { w with cursor := w.cursor.cancelMark s.mark, sessions := w.sessions.set index none }
  | none => w

/-- Runs the call in progress for at most `timeout`, and drops it then. With `cancelAfter`, the
cursor gives up its session that long after the call began, whether or not it is answered. -/
def await (read : Reader ρ) (timeout : Nat) (cancelAfter : Option Nat)
    (s : Stage (Feeds ρ) Unit) : Stage (Feeds ρ) Unit :=
  let deadline := s.now + timeout
  let answered (limit : Nat) (s : Stage (Feeds ρ) Unit) : Stage (Feeds ρ) Unit :=
    (s.run (plan read) { holds := fun _ w => w.call.isNone, limit := some { time := limit } }).2
  let dropped (s : Stage (Feeds ρ) Unit) : Stage (Feeds ρ) Unit :=
    { s with world := { s.world with call := none } }
  match cancelAfter with
  | none => dropped (answered deadline s)
  | some length =>
    let time := s.now + length
    let s := answered (min time deadline) s
    let s := if deadline < time then dropped s else s
    let s := s.pass (plan read) (time - s.now)
    dropped (answered deadline { s with world := s.world.cancelCursor })

end Feeds
end TranscodeConsole.Rehearsal
