import TranscodeConsole.Job
import TranscodeConsole.Figures
import TranscodeConsole.Analysis
import TranscodeConsole.Template
import TranscodeConsole.Feed.Body
import TranscodeConsole.Service.Endpoint

/-!
A service that answers from a script. For every kind of call there is a list of replies; each call
takes the next one, and the last one is given again and again.
-/
namespace TranscodeConsole.Rehearsal

structure Reply (α : Type) where
  delay : Nat := 0
  result : Except ServiceError α

structure Pending (α : Type) where
  due : Nat
  result : Except ServiceError α

structure Script where
  base : Service.Base
  openStream : List (Reply (List Feed.BodyItem)) := []
  jobStatus : List (Reply JobSnapshot) := []
  createJob : List (Reply Uuid) := []
  upload : List (Reply Unit) := []
  analysis : List (Reply (Option FileFormat)) := []
  jobTemplates : List (Reply (List JobTemplate)) := []
  batchSummary : List (Reply BatchSummary) := []
  queueStats : List (Reply QueueStats) := []
  jobSummary : List (Reply JobTotals) := []
  calls : List String := []

namespace Script

variable {α : Type}

def nothingFor (name : String) : ServiceError := .connection ("no reply for " ++ name)

/-- The next reply to a call begun now, and the replies that are left. -/
def answer (name : String) (now : Nat) : List (Reply α) → Pending α × List (Reply α)
  | [] => (⟨now, .error (nothingFor name)⟩, [])
  | [last] => (⟨now + last.delay, last.result⟩, [last])
  | reply :: rest => (⟨now + reply.delay, reply.result⟩, rest)

def note (s : Script) (now : Nat) (call : String) : Script :=
  { s with calls := (toString now ++ " " ++ call) :: s.calls }

def callOpenStream (now : Nat) (url : Url) (s : Script) : Pending (List Feed.BodyItem) × Script :=
  let (pending, rest) := answer "open_stream" now s.openStream
  (pending, { s with openStream := rest }.note now ("open_stream " ++ url.render))

def callJobStatus (now : Nat) (job : Uuid) (s : Script) : Pending JobSnapshot × Script :=
  let (pending, rest) := answer "job_status" now s.jobStatus
  (pending, { s with jobStatus := rest }.note now ("job_status " ++ job.render))

def callCreateJob (now : Nat) (template : Uuid) (s : Script) : Pending Uuid × Script :=
  let (pending, rest) := answer "create_job" now s.createJob
  (pending, { s with createJob := rest }.note now ("create_job " ++ template.render))

def callUpload (now : Nat) (job : Uuid) (byteLength : Nat) (s : Script) : Pending Unit × Script :=
  let (pending, rest) := answer "upload" now s.upload
  (pending, { s with upload := rest }.note now
    ("upload " ++ job.render ++ " " ++ toString byteLength))

def callAnalysis (now : Nat) (result : Uuid) (s : Script) :
    Pending (Option FileFormat) × Script :=
  let (pending, rest) := answer "analysis" now s.analysis
  (pending, { s with analysis := rest }.note now ("analysis " ++ result.render))

def callJobTemplates (now : Nat) (s : Script) : Pending (List JobTemplate) × Script :=
  let (pending, rest) := answer "job_templates" now s.jobTemplates
  (pending, { s with jobTemplates := rest }.note now "job_templates")

def callBatchSummary (now : Nat) (batch : Uuid) (s : Script) : Pending BatchSummary × Script :=
  let (pending, rest) := answer "batch_summary" now s.batchSummary
  (pending, { s with batchSummary := rest }.note now ("batch_summary " ++ batch.render))

def callQueueStats (now : Nat) (s : Script) : Pending QueueStats × Script :=
  let (pending, rest) := answer "queue_stats" now s.queueStats
  (pending, { s with queueStats := rest }.note now "queue_stats")

def callJobSummary (now : Nat) (s : Script) : Pending JobTotals × Script :=
  let (pending, rest) := answer "job_summary" now s.jobSummary
  (pending, { s with jobSummary := rest }.note now "job_summary")

end Script
end TranscodeConsole.Rehearsal
