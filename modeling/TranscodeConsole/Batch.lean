import TranscodeConsole.Json.Record
import TranscodeConsole.Json.Write

/-!
Batches: their items, the states by which a listing can be narrowed, and their counters.
-/
namespace TranscodeConsole

open Json

/-- The state of an item of a batch. Codes that the service may add later are kept. -/
inductive ItemState where
  | pending
  | active
  | completed
  | failed
  | aborted
  | notQueued
  | unknown (code : Int)
  deriving DecidableEq, Repr

namespace ItemState

def ofCode (code : Int) : ItemState :=
  if code = 0 then .pending
  else if code = 1 then .active
  else if code = 2 then .completed
  else if code = 3 then .failed
  else if code = 4 then .aborted
  else if code = 5 then .notQueued
  else .unknown code

def code : ItemState → Int
  | .pending => 0
  | .active => 1
  | .completed => 2
  | .failed => 3
  | .aborted => 4
  | .notQueued => 5
  | .unknown code => code

def queryValue : ItemState → String
  | .pending => "pending"
  | .active => "active"
  | .completed => "completed"
  | .failed => "failed"
  | .aborted => "aborted"
  | .notQueued => "notqueued"
  | .unknown code => toString code

def label : ItemState → String
  | .pending => "pending"
  | .active => "active"
  | .completed => "completed"
  | .failed => "failed"
  | .aborted => "aborted"
  | .notQueued => "not queued"
  | .unknown code => "state " ++ toString code

def ofName? (s : String) : Option ItemState :=
  match Text.lowerAscii (Text.trim s) with
  | "pending" => some .pending
  | "active" => some .active
  | "completed" => some .completed
  | "failed" | "error" => some .failed
  | "aborted" => some .aborted
  | "notqueued" | "not-queued" => some .notQueued
  | _ => none

def unknownName (s : String) : String := "unknown item state " ++ Text.quoted s

def read : Reader ItemState := fun t => (readI64 t).map ofCode

def toTree (s : ItemState) : Tree := .int s.code

end ItemState

abbrev Filter := Option ItemState

structure BatchEntry where
  id : Uuid
  path : String
  kind : Option String
  state : ItemState
  deriving DecidableEq, Repr

namespace BatchEntry

def shape : Shape :=
  { name := "BatchEntry"
    fields := [
      .required "id" readUuid,
      .required "sourcePath" readText,
      .defaulted "type" (readOption readText),
      .required "state" ItemState.read] }

def read : Reader BatchEntry := fun t => do
  let found ← shape.fieldsOf t
  return {
    id := ← found.get "id" readUuid
    path := ← found.get "sourcePath" readText
    kind := ← found.getD "type" (readOption readText) none
    state := ← found.get "state" ItemState.read }

def toTree (e : BatchEntry) : Tree :=
  .record [("id", .text e.id.render), ("sourcePath", .text e.path),
    ("type", .option Tree.text e.kind), ("state", e.state.toTree)]

end BatchEntry

structure BatchSummary where
  id : Uuid := Uuid.nil
  name : String := ""
  pending : Nat := 0
  active : Nat := 0
  completed : Nat := 0
  failed : Nat := 0
  aborted : Nat := 0
  nonQueued : Nat := 0
  running : List String := []
  deriving DecidableEq, Repr

def counterBound : Nat := UInt64.size

/-- An operation on counters whose result no counter holds. -/
inductive Overflow where
  | add
  | multiply
  deriving DecidableEq, Repr

def Overflow.message : Overflow → String
  | .add => "attempt to add with overflow"
  | .multiply => "attempt to multiply with overflow"

namespace Counter

def checked (operation : Overflow) (n : Nat) : Except Overflow Nat :=
  if n < counterBound then .ok n else .error operation

def add (m n : Nat) : Except Overflow Nat := checked .add (m + n)

def multiply (m n : Nat) : Except Overflow Nat := checked .multiply (m * n)

end Counter

namespace BatchSummary

/-- The share of items that are completed or failed, rounded up to whole percents. -/
def percent (s : BatchSummary) : Except Overflow Nat := do
  let finished ← Counter.add s.completed s.failed
  let unfinished ← Counter.add finished s.pending
  let total ← Counter.add unfinished s.active
  if total = 0 then return 0
  let hundredfold ← Counter.multiply finished 100
  return min ((hundredfold + total - 1) / total) 100

def isSettled (s : BatchSummary) : Bool := s.pending = 0 && s.active = 0

def shape : Shape :=
  { name := "BatchSummary"
    fields := [
      .defaulted "bulkListId" readUuid,
      .defaulted "nickName" readText,
      .defaulted "pendingCount" readU64,
      .defaulted "activeCount" readU64,
      .defaulted "completedCount" readU64,
      .defaulted "errorCount" readU64,
      .defaulted "abortedCount" readU64,
      .defaulted "nonQueuedCount" readU64,
      .defaulted "runningActions" (readList readText)] }

def read : Reader BatchSummary := fun t => do
  let found ← shape.fieldsOf t
  return {
    id := ← found.getD "bulkListId" readUuid Uuid.nil
    name := ← found.getD "nickName" readText ""
    pending := ← found.getD "pendingCount" readU64 0
    active := ← found.getD "activeCount" readU64 0
    completed := ← found.getD "completedCount" readU64 0
    failed := ← found.getD "errorCount" readU64 0
    aborted := ← found.getD "abortedCount" readU64 0
    nonQueued := ← found.getD "nonQueuedCount" readU64 0
    running := ← found.getD "runningActions" (readList readText) [] }

def toTree (s : BatchSummary) : Tree :=
  .record [("bulkListId", .text s.id.render), ("nickName", .text s.name),
    ("pendingCount", .int s.pending), ("activeCount", .int s.active),
    ("completedCount", .int s.completed), ("errorCount", .int s.failed),
    ("abortedCount", .int s.aborted), ("nonQueuedCount", .int s.nonQueued),
    ("runningActions", .list Tree.text s.running)]

end BatchSummary
end TranscodeConsole
