import TranscodeConsole.Feed.Session

/-!
A page: records are handed to a consumer one by one, with a pause behind each, until the page is
full, the feed ends, the session is cancelled, or the consumer breaks off.
-/
namespace TranscodeConsole.Feed

open Json

inductive PageEnd where
  | limitReached
  | exhausted
  | cancelled
  | stopped
  deriving DecidableEq, Repr

inductive PagePhase where
  | pulling
  | pausing (till : Nat)
  /-- Without a pause, other work gets its turn all the same. -/
  | yielding
  deriving DecidableEq, Repr

structure Page where
  session : Session
  phase : PagePhase := .pulling
  deriving DecidableEq, Repr

namespace Page

variable {ρ : Type}

def start (s : Session) : Page := { session := { s with onPage := 0 } }

def answer (goOn : Bool) (now : Nat) (p : Page) : Option PageEnd × Page :=
  if !goOn then (some .stopped, p)
  else if p.session.pageLimit ≤ p.session.onPage then (some .limitReached, p)
  else if p.session.pace = 0 then (none, { p with phase := .yielding })
  else (none, { p with phase := .pausing (now + p.session.pace) })

structure Consumer (σ ρ : Type) extends Session.Sink σ where
  take : ρ → σ → Bool × σ

inductive Rest where
  | waiting (time : Option Nat)
  | yielding
  | ended (how : PageEnd)
  | failed (error : ServiceError)
  deriving DecidableEq, Repr

def rest (p : Page) : Rest :=
  match p.phase with
  | .pausing till => .waiting (some till)
  | .pulling | .yielding => .yielding

variable {σ : Type}

def proceed (consumer : Consumer σ ρ) (now : Nat) (p : Page) :
    Session.Outcome ρ → σ → Rest × Page × σ
  | .record record, s =>
    let (goesOn, s) := consumer.take record s
    match p.answer goesOn now with
    | (some how, p) => (.ended how, p, s)
    | (none, p) => (p.rest, p, s)
  | .waiting time, s => (.waiting time, p, s)
  | .done, s => (.ended (if consumer.cancelled s then .cancelled else .exhausted), p, s)
  | .failed error, s => (.failed error, p, s)

def pullOn (read : Reader ρ) (consumer : Consumer σ ρ) (now : Nat) (session : Session) (s : σ) :
    Rest × Page × σ :=
  let (outcome, session, s) := session.seek read consumer.toSink now false s
  proceed consumer now { session } outcome s

def run (read : Reader ρ) (consumer : Consumer σ ρ) (now : Nat) (p : Page) (s : σ) :
    Rest × Page × σ :=
  match p.phase with
  | .pulling => pullOn read consumer now p.session s
  | .pausing till =>
    if consumer.cancelled s then (.ended .cancelled, p, s)
    else if till ≤ now then pullOn read consumer now p.session s
    else (.waiting (some till), p, s)
  | .yielding =>
    if consumer.cancelled s then (.ended .cancelled, p, s)
    else pullOn read consumer now p.session s

end Page
end TranscodeConsole.Feed
