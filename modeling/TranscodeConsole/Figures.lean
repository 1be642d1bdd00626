import TranscodeConsole.Batch

/-!
Figures of the service as a whole: the lengths of its queues and the number of jobs per status.
-/
namespace TranscodeConsole

open Json

structure QueueStats where
  queues : List (String × Nat) := []
  deriving DecidableEq, Repr

namespace QueueStats

def insert (name : String) (size : Nat) : List (String × Nat) → List (String × Nat)
  | [] => [(name, size)]
  | (other, n) :: rest =>
    if name = other then (name, size) :: rest
    else if name < other then (name, size) :: (other, n) :: rest
    else (other, n) :: insert name size rest

def ofEntries (entries : List (String × Nat)) : QueueStats :=
  ⟨entries.foldl (fun queues (name, size) => insert name size queues) []⟩

def total (s : QueueStats) : Except Overflow Nat :=
  s.queues.foldlM (fun sum (_, size) => Counter.add sum size) 0

def readQueues : Reader QueueStats := fun t => (readEntries readU64 t).map ofEntries

def shape : Shape :=
  { name := "QueueStats", fields := [.defaulted "queues" readQueues] }

def read : Reader QueueStats := fun t => do
  let found ← shape.fieldsOf t
  found.getD "queues" readQueues {}

def toTree (s : QueueStats) : Tree :=
  .record [("queues", .record (s.queues.map fun (name, size) => (name, .int size)))]

end QueueStats

structure JobTotals where
  notQueued : Nat := 0
  pending : Nat := 0
  started : Nat := 0
  completed : Nat := 0
  failed : Nat := 0
  aborted : Nat := 0
  deriving DecidableEq, Repr

namespace JobTotals

def shape : Shape :=
  { name := "JobStatusSummary"
    fields := [
      .defaulted "notqueued" readU64,
      .defaulted "pending" readU64,
      .defaulted "started" readU64,
      .defaulted "completed" readU64,
      .defaulted "failed" readU64,
      .defaulted "aborted" readU64] }

def read : Reader JobTotals := fun t => do
  let found ← shape.fieldsOf t
  return {
    notQueued := ← found.getD "notqueued" readU64 0
    pending := ← found.getD "pending" readU64 0
    started := ← found.getD "started" readU64 0
    completed := ← found.getD "completed" readU64 0
    failed := ← found.getD "failed" readU64 0
    aborted := ← found.getD "aborted" readU64 0 }

def toTree (s : JobTotals) : Tree :=
  .record [("notqueued", .int s.notQueued), ("pending", .int s.pending),
    ("started", .int s.started), ("completed", .int s.completed), ("failed", .int s.failed),
    ("aborted", .int s.aborted)]

end JobTotals
end TranscodeConsole
