import TranscodeConsole.Json.Record
import TranscodeConsole.Json.Write

/-!
Jobs as the service reports them: a status, a count of finished steps, and the steps.
-/
namespace TranscodeConsole

open Json

inductive JobStatus where
  | pending
  | started
  | completed
  | failed
  | aborted
  | notQueued
  | lost
  | unknown (code : Int)
  deriving DecidableEq, Repr

namespace JobStatus

def ofCode (code : Int) : JobStatus :=
  if code = 0 then .pending
  else if code = 1 then .started
  else if code = 2 then .completed
  else if code = 3 then .failed
  else if code = 4 then .aborted
  else if code = 5 then .notQueued
  else if code = 6 then .lost
  else .unknown code

def code : JobStatus → Int
  | .pending => 0
  | .started => 1
  | .completed => 2
  | .failed => 3
  | .aborted => 4
  | .notQueued => 5
  | .lost => 6
  | .unknown code => code

def isFinal : JobStatus → Bool
  | .completed | .failed | .aborted | .lost => true
  | .pending | .started | .notQueued | .unknown _ => false

def text : JobStatus → String
  | .pending => "Pending"
  | .started => "Started"
  | .completed => "Completed successfully"
  | .failed => "Failed"
  | .aborted => "Aborted"
  | .notQueued => "Not queued"
  | .lost => "Lost"
  | .unknown code => "Unknown value " ++ toString code

def read : Reader JobStatus := fun t => (readI64 t).map ofCode

def toTree (s : JobStatus) : Tree := .int s.code

end JobStatus

structure JobStep where
  id : Uuid
  kind : String
  status : JobStatus
  analysis : Option Uuid
  error : Option String
  deriving DecidableEq, Repr

namespace JobStep

def analysisKind : String := "analysis"

def isAnalysis (s : JobStep) : Bool := s.kind = analysisKind

def shape : Shape :=
  { name := "JobStep"
    fields := [
      .required "id" readUuid,
      .required "stepType" readText,
      .required "jobStepStatus" JobStatus.read,
      .defaulted "analysisResult" (readOption readUuid),
      .defaulted "errorMessage" (readOption readText)] }

def read : Reader JobStep := fun t => do
  let found ← shape.fieldsOf t
  return {
    id := ← found.get "id" readUuid
    kind := ← found.get "stepType" readText
    status := ← found.get "jobStepStatus" JobStatus.read
    analysis := ← found.getD "analysisResult" (readOption readUuid) none
    error := ← found.getD "errorMessage" (readOption readText) none }

def toTree (s : JobStep) : Tree :=
  .record <|
    [("id", .text s.id.render), ("stepType", .text s.kind), ("jobStepStatus", s.status.toTree)]
      ++ (s.analysis.map fun id => ("analysisResult", Tree.text id.render)).toList
      ++ (s.error.map fun e => ("errorMessage", Tree.text e)).toList

end JobStep

structure JobSnapshot where
  status : JobStatus
  completedSteps : Nat
  steps : List JobStep
  error : Option String
  deriving DecidableEq, Repr

namespace JobSnapshot

def totalSteps (s : JobSnapshot) : Nat := s.steps.length

def analysisResult (s : JobSnapshot) : Option Uuid :=
  ((s.steps.find? JobStep.isAnalysis).bind (·.analysis)).filter fun id => !id.isNil

/-- The job's own error message, or else that of the first failed step which has one. The service
sends blank messages for "no error". -/
def failureMessage (s : JobSnapshot) : Option String :=
  s.error.bind Text.nonBlank <|>
    (s.steps.filter (·.status = .failed)).findSome? fun step => step.error.bind Text.nonBlank

def shape : Shape :=
  { name := "JobSnapshot"
    fields := [
      .required "status" JobStatus.read,
      .defaulted "completed_steps" readU32,
      .defaulted "steps" (readList JobStep.read),
      .defaulted "error_message" (readOption readText)] }

def read : Reader JobSnapshot := fun t => do
  let found ← shape.fieldsOf t
  return {
    status := ← found.get "status" JobStatus.read
    completedSteps := ← found.getD "completed_steps" readU32 0
    steps := ← found.getD "steps" (readList JobStep.read) []
    error := ← found.getD "error_message" (readOption readText) none }

def toTree (s : JobSnapshot) : Tree :=
  .record <|
    [("status", s.status.toTree), ("completed_steps", .int s.completedSteps),
      ("steps", .list JobStep.toTree s.steps)]
      ++ (s.error.map fun e => ("error_message", Tree.text e)).toList

end JobSnapshot
end TranscodeConsole
