import TranscodeConsole.Proofs.Feed.Paging
import TranscodeConsole.Proofs.Listing.Desk

/-!
A desk and every reader that ever worked for it, all at once. Between any two steps of a reader
anything else may happen: readers that were given up go on until they notice, and the operator
asks for whatever he likes. Which of them is next is for the list of moves to say.
-/
namespace TranscodeConsole.Listing

open Feed

inductive LastWord where
  | pageFilled
  | exhausted
  | failed (error : ServiceError)

def LastWord.msg (generation : Nat) : LastWord → Msg
  | .pageFilled => .pageFilled generation
  | .exhausted => .exhausted generation
  | .failed error => .failed generation error.userMessage

/-- Where a reader stands. What it does at one go ends where it takes the desk's state or its
parking place, since either has a lock of its own. -/
inductive Stand where
  /-- Reading on. Only here can the reader be made to drop everything. -/
  | reading (page : Page)
  /-- It has read a record, and is going to ask whether its generation is the present one. -/
  | asking (page : Page) (entry : BatchEntry)
  | handing (page : Page) (entry : BatchEntry)
  | reporting (page : Page) (error : ServiceError)
  | parking (session : Session)
  | ending (word : LastWord) (session : Option Session)
  | leaving (session : Session)
  | gone

structure Worker where
  generation : Nat
  stand : Stand
  /-- It drops everything when it next reads on. -/
  aborted : Bool := false

structure Opening where
  generation : Nat
  active : ActiveSession
  url : Url

structure Crew where
  base : Service.Base
  options : Options
  desk : Desk := {}
  workers : List Worker := []
  opening : Option Opening := none
  current : Option Nat := none
  /-- The body of the feed that the latest load has opened; none as long as it is not open. -/
  feed : List BodyItem := []

inductive Request where
  | load (batch : Uuid) (filter : Filter)
  | changeFilter (filter : Filter)
  | more
  | cancel
  deriving DecidableEq, Repr

def Request.msg : Request → Msg
  | .load batch filter => .load batch filter
  | .changeFilter filter => .changeFilter filter
  | .more => .more
  | .cancel => .cancel

inductive Move where
  /-- A request; one that still waits for its feed to open is abandoned. -/
  | call (request : Request)
  | teardown
  | reply (result : Except ServiceError (List BodyItem))
  /-- The reader of the current page is waited for from now on. -/
  | settle
  /-- A reader takes its next step. It may overlook that its session was cancelled. -/
  | work (index now : Nat) (heeds : Bool)
  | abort (index : Nat)

def Stand.close (session : Session) : PageEnd → Stand
  | .limitReached => .parking session
  | .exhausted => .ending .exhausted (some session)
  | .cancelled | .stopped => .leaving session

def Stand.after (page : Page) : PageStep BatchEntry → Stand
  | .offer entry => .asking page entry
  | .rejected error => .reporting page error
  | .moved | .waiting _ => .reading page
  | .ended how => .close page.session how
  | .failed error => .ending (.failed error) (some page.session)

def Worker.act (now : Nat) (heeds : Bool) (w : Worker) (d : Desk) : Stand × Desk :=
  match w.stand with
  | .reading page =>
    let cancelled := heeds && d.cursor.marks.isCancelled page.session.mark
    let (step, page) := page.step BatchEntry.read cancelled now
    (.after page step, d)
  | .asking page entry =>
    (if d.state.generation = w.generation then .handing page entry
      else .close page.session .stopped, d)
  | .handing page entry =>
    (match page.answer true now with
      | (some how, page) => .close page.session how
      | (none, page) => .reading page, d.send (.record w.generation entry))
  | .reporting page error => (.reading page, d.reject w.generation error)
  | .parking session => (.ending .pageFilled none, d.park w.generation session)
  | .ending word session => (session.elim .gone .leaving, d.send (word.msg w.generation))
  | .leaving session => (.gone, d.letGo session)
  | .gone => (.gone, d)

namespace Crew

def hire (generation : Nat) (session : Session) (c : Crew) : Crew :=
  { c with
    workers := c.workers ++ [{ generation, stand := .reading (Page.start session) }]
    current := some c.workers.length }

def begin (c : Crew) : Errand → Crew
  | .openFeed generation batch filter =>
    match c.base.resolve Service.batchContent (Desk.query batch filter) with
    | .error error => { c with desk := c.desk.openFailed generation error }
    | .ok url =>
      let (active, cursor) := c.desk.cursor.connect
      { c with desk := { c.desk with cursor }, opening := some ⟨generation, active, url⟩ }
  | .read generation session => c.hire generation session

def starts (c : Crew) (request : Request) : Bool := (c.desk.state.asked request.msg).isSome

def call (request : Request) (c : Crew) : Crew :=
  let (errands, desk) := c.desk.request request.msg
  errands.foldl begin
    { c with desk, opening := none, feed := if c.starts request then [] else c.feed }

def reply (result : Except ServiceError (List BodyItem)) (c : Crew) : Crew :=
  match c.opening with
  | none => c
  | some o => match result with
    | .ok items =>
      { c with opening := none, feed := items }.hire o.generation
        (Session.start o.active.id o.url.render o.active.mark items c.options)
    | .error error =>
      let desk := { c.desk with cursor := c.desk.cursor.release o.active.id }
      { c with opening := none, desk := desk.openFailed o.generation error }

def teardown (c : Crew) : Crew :=
  let c := c.call .cancel
  { c with
    workers := c.current.elim c.workers fun i =>
      c.workers.modify i fun w => { w with aborted := true }
    current := none }

def work (index now : Nat) (heeds : Bool) (c : Crew) : Crew :=
  match c.workers[index]? with
  | none => c
  | some w =>
    let (stand, desk) := w.act now heeds c.desk
    { c with desk, workers := c.workers.set index { w with stand } }

theorem work_here {c : Crew} {i : Nat} {w : Worker} (here : c.workers[i]? = some w) (now : Nat)
    (heeds : Bool) :
    c.work i now heeds = { c with
      desk := (w.act now heeds c.desk).2
      workers := c.workers.set i { w with stand := (w.act now heeds c.desk).1 } } := by
  simp [work, here]

def abort (index : Nat) (c : Crew) : Crew :=
  match c.workers[index]? with
  | some ⟨generation, .reading page, true⟩ =>
    { c with workers := c.workers.set index ⟨generation, .leaving page.session, true⟩ }
  | _ => c

def step (c : Crew) : Move → Crew
  | .call request => c.call request
  | .teardown => c.teardown
  | .reply result => c.reply result
  | .settle => { c with current := none }
  | .work index now heeds => c.work index now heeds
  | .abort index => c.abort index

def run (c : Crew) (moves : List Move) : Crew := moves.foldl step c

end Crew
end TranscodeConsole.Listing
