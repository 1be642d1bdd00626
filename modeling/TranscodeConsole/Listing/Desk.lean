import TranscodeConsole.Feed.Cursor
import TranscodeConsole.Listing
import TranscodeConsole.Service.Endpoint

/-!
The desk of one listing: the listing machine, the cursor that opens its feeds, and the place where
a session is parked that stopped at the page limit. Readers work for the desk; each sends what it
reads under the generation that it was started for.
-/
namespace TranscodeConsole.Listing

open Feed

structure Parked where
  generation : Nat
  session : Session
  deriving DecidableEq, Repr

structure Desk where
  state : State := {}
  cursor : Cursor := {}
  parked : Option Parked := none
  deriving DecidableEq, Repr

inductive Errand where
  | openFeed (generation : Nat) (batch : Uuid) (filter : Filter)
  | read (generation : Nat) (session : Session)
  deriving DecidableEq, Repr

namespace Desk

def apply (d : Desk) (msg : Msg) : List Effect × Desk :=
  let (state, effects) := update d.state msg
  (effects, { d with state })

def send (d : Desk) (msg : Msg) : Desk := (d.apply msg).2

def letGo (d : Desk) (session : Session) : Desk :=
  { d with cursor := d.cursor.cancelMark session.mark }

def unpark (d : Desk) : Desk :=
  match d.parked with
  | some parked => { d with parked := none }.letGo parked.session
  | none => d

def cancelStream (d : Desk) : Desk := { d with cursor := d.cursor.cancel }.unpark

/-- Takes the parked session, if it is of this generation and can still be read. If there is none,
the feed counts as ended. -/
def resume (d : Desk) (generation : Nat) : Option Session × Desk :=
  match d.parked with
  | some parked =>
    if parked.generation = generation ∧ parked.session.isActive d.cursor.marks then
      (some parked.session, { d with parked := none })
    else (none, d.unpark.send (.exhausted generation))
  | none => (none, d.send (.exhausted generation))

def carryOut (d : Desk) : List Effect → List Errand × Desk
  | [] => ([], d)
  | .cancelStream :: effects => carryOut d.cancelStream effects
  | .openStream generation batch filter :: effects =>
    let (errands, d) := carryOut d effects
    (.openFeed generation batch filter :: errands, d)
  | .resumeStream generation :: effects =>
    match d.resume generation with
    | (some session, d) =>
      let (errands, d) := carryOut d effects
      (.read generation session :: errands, d)
    | (none, d) => carryOut d effects

def request (d : Desk) (msg : Msg) : List Errand × Desk :=
  let (effects, d) := d.apply msg
  d.carryOut effects

def openFailed (d : Desk) (generation : Nat) (error : ServiceError) : Desk :=
  (d.request (.failed generation error.userMessage)).2

def query (batch : Uuid) (filter : Filter) : List (String × String) :=
  ("forId", batch.render) :: match filter with
    | some state => [("state", state.queryValue)]
    | none => []

/-! ### What readers do -/

def offer (generation : Nat) (entry : BatchEntry) (d : Desk) : Bool × Desk :=
  if d.state.generation = generation then (true, d.send (.record generation entry)) else (false, d)

def reject (generation : Nat) (error : ServiceError) (d : Desk) : Desk :=
  d.send (.malformed generation error.message)

def consumer (generation : Nat) (mark : Mark) : Page.Consumer Desk BatchEntry where
  cancelled d := d.cursor.marks.isCancelled mark
  take := offer generation
  reject := reject generation

def park (generation : Nat) (session : Session) (d : Desk) : Desk :=
  { d.unpark with parked := some ⟨generation, session⟩ }

def pageOver (generation : Nat) (session : Session) (how : PageEnd) (d : Desk) : Desk :=
  match how with
  | .limitReached => (d.park generation session).send (.pageFilled generation)
  | .exhausted => (d.send (.exhausted generation)).letGo session
  | .cancelled | .stopped => d.letGo session

def feedFailed (generation : Nat) (session : Session) (error : ServiceError) (d : Desk) : Desk :=
  (d.send (.failed generation error.userMessage)).letGo session

end Desk
end TranscodeConsole.Listing
