import TranscodeConsole.Batch

/-!
The listing of one batch as a state machine. Every load starts a new generation; what arrives
under an older one is dropped, so the shown items are always those of the latest load.
-/
namespace TranscodeConsole.Listing

inductive Status where
  | idle
  | loading
  deriving DecidableEq, Repr

structure State where
  batch : Option Uuid := none
  filter : Filter := none
  generation : Nat := 0
  status : Status := .idle
  entries : List BatchEntry := []
  pages : Nat := 0
  moreAvailable : Bool := false
  lastError : Option String := none
  malformed : Nat := 0
  lastDiagnostic : Option String := none
  dirty : Bool := false
  deriving DecidableEq, Repr

inductive Msg where
  | load (batch : Uuid) (filter : Filter)
  | changeFilter (filter : Filter)
  | more
  | cancel
  | record (generation : Nat) (entry : BatchEntry)
  | malformed (generation : Nat) (message : String)
  /-- The page limit was reached, and the feed stays open. -/
  | pageFilled (generation : Nat)
  | exhausted (generation : Nat)
  | failed (generation : Nat) (message : String)
  deriving DecidableEq, Repr

inductive Effect where
  | cancelStream
  | openStream (generation : Nat) (batch : Uuid) (filter : Filter)
  | resumeStream (generation : Nat)
  deriving DecidableEq, Repr

structure View where
  batch : Option Uuid
  filter : Filter
  loading : Bool
  entries : List BatchEntry
  pages : Nat
  moreAvailable : Bool
  lastError : Option String
  malformed : Nat
  lastDiagnostic : Option String
  deriving DecidableEq, Repr

namespace State

def view (s : State) : View :=
  { batch := s.batch
    filter := s.filter
    loading := s.status = .loading
    entries := s.entries
    pages := s.pages
    moreAvailable := s.moreAvailable
    lastError := s.lastError
    malformed := s.malformed
    lastDiagnostic := s.lastDiagnostic }

def accepts (s : State) (generation : Nat) : Bool :=
  generation = s.generation && s.status = .loading

def beginLoad (s : State) (batch : Uuid) (filter : Filter) : State :=
  { s with
    batch := some batch
    filter := filter
    generation := s.generation + 1
    status := .loading
    entries := []
    pages := 0
    moreAvailable := false
    malformed := 0
    lastDiagnostic := none
    dirty := true }

def finishPage (s : State) (moreAvailable : Bool) : State :=
  { s with
    status := .idle
    pages := s.pages + 1
    moreAvailable := moreAvailable
    lastError := none
    dirty := true }

def consumeDirty (s : State) : Bool × State := (s.dirty, { s with dirty := false })

end State

def startLoad (s : State) (batch : Uuid) (filter : Filter) : State × List Effect :=
  (s.beginLoad batch filter, [.cancelStream, .openStream (s.generation + 1) batch filter])

def update (s : State) : Msg → State × List Effect
  | .load batch filter => startLoad s batch filter
  | .changeFilter filter =>
    match s.batch with
    | some batch => if filter = s.filter then (s, []) else startLoad s batch filter
    | none => (s, [])
  | .more =>
    if s.status = .idle ∧ s.moreAvailable then
      ({ s with status := .loading, moreAvailable := false, dirty := true },
        [.resumeStream s.generation])
    else (s, [])
  | .cancel =>
    ({ s with
        generation := s.generation + 1, status := .idle, moreAvailable := false, dirty := true },
      [.cancelStream])
  | .record generation entry =>
    if s.accepts generation then
      ({ s with entries := s.entries ++ [entry], dirty := true }, [])
    else (s, [])
  | .malformed generation message =>
    if s.accepts generation then
      ({ s with malformed := s.malformed + 1, lastDiagnostic := some message, dirty := true }, [])
    else (s, [])
  | .pageFilled generation =>
    if s.accepts generation then (s.finishPage true, []) else (s, [])
  | .exhausted generation =>
    if s.accepts generation then (s.finishPage false, []) else (s, [])
  | .failed generation message =>
    if s.accepts generation then
      ({ s with
          status := .idle, moreAvailable := false, lastError := some message, dirty := true },
        [.cancelStream])
    else (s, [])

def run (s : State) : List Msg → State × List Effect
  | [] => (s, [])
  | m :: ms =>
    let (s, effects) := update s m
    let (s, later) := run s ms
    (s, effects ++ later)

end TranscodeConsole.Listing
