import TranscodeConsole.Analysis
import TranscodeConsole.Batch
import TranscodeConsole.Figures
import TranscodeConsole.Job
import TranscodeConsole.Json.Write
import TranscodeConsole.Service.Endpoint
import TranscodeConsole.Service.Status
import TranscodeConsole.Template

/-!
Requests to the service, and what its answers mean. Each call is one request; what is sent and how
the answer is read are given apart from the sending itself.
-/
namespace TranscodeConsole.Service

open Json

inductive Method where
  | get
  | post
  deriving DecidableEq, Repr

def Method.name : Method → String
  | .get => "GET"
  | .post => "POST"

structure Request where
  method : Method := .get
  url : Url
  contentType : Option String := none
  body : Bytes := []
  deriving DecidableEq, Repr

structure Answer where
  status : Nat
  body : Bytes
  complete : Bool := true
  deriving DecidableEq, Repr

structure Call (α : Type) where
  request : Base → Except ServiceError Request
  read : Request → Answer → Except ServiceError α

def withoutCredentials (u : Url) : Url := { u with user := [], password := [] }

def aboutUrl (what : String) (r : Request) : String :=
  what ++ " for url (" ++ (withoutCredentials r.url).render ++ ")"

def canRequest (scheme : List Char) : Bool :=
  scheme = "http".toList || scheme = "https".toList

/-- What comes of sending a request; without an answer nobody could be reached. -/
def Request.send (r : Request) (answer : Option Answer) : Except ServiceError Answer :=
  if !canRequest r.url.scheme then .error (.invalidUrl (aboutUrl "builder error" r))
  else match answer with
    | none => .error (.connection (aboutUrl "error sending request" r))
    | some answer => .ok answer

/-- Passes on what is no refusal. The body of a refusal that breaks off counts as empty. -/
def refuse (answer : Answer) : Except ServiceError Unit :=
  if isSuccess answer.status then .ok ()
  else
    let text := if answer.complete then Bytes.lenientText answer.body else ""
    .error (.server answer.status (errorDetail answer.status text))

def decodeBody {α : Type} (read : Reader α) (r : Request) (answer : Answer) :
    Except ServiceError α := do
  refuse answer
  if !answer.complete then .error (.connection (aboutUrl "error decoding response body" r))
  match readDocument read answer.body with
  | .ok value => return value
  | .error problem => .error (.decode problem.message)

def Call.run {α : Type} (call : Call α) (base : Base) (respond : Request → Option Answer) :
    Except ServiceError α := do
  let request ← call.request base
  let answer ← request.send (respond request)
  call.read request answer

def fetch {α : Type} (path : String) (query : List (String × String)) (read : Reader α) :
    Call α where
  request base := do return { url := ← base.resolve path query }
  read := decodeBody read

/-! ### Documents that wrap a value -/

def readWrapped {α : Type} (name field : String) (read : Reader α) : Reader α := fun t => do
  let shape : Shape := { name, fields := [.required field read] }
  (← shape.fieldsOf t).get field read

def readWrappedD {α : Type} (name field : String) (read : Reader α) (absent : α) : Reader α :=
  fun t => do
    let shape : Shape := { name, fields := [.defaulted field read] }
    (← shape.fieldsOf t).getD field read absent

def readNewJob : Reader Uuid := readWrapped "NewJobResponse" "jobContainerId" readUuid
def readAnalysis : Reader FileFormat := readWrapped "AnalysisResponse" "entry" FileFormat.read

def readTemplates : Reader (List JobTemplate) :=
  readWrappedD "TemplateListResponse" "entries" (readList JobTemplate.read) []

def readTotals : Reader JobTotals :=
  readWrappedD "JobSummaryResponse" "data" JobTotals.read {}

/-! ### Calls -/

namespace Call

def jobStatus (job : Uuid) : Call JobSnapshot :=
  fetch Service.jobStatus [("jobId", job.render)] JobSnapshot.read

def createJob (template : Uuid) : Call Uuid where
  request base := do
    return {
      method := .post
      url := ← base.resolve jobNew []
      contentType := some "application/json"
      body := (Tree.record [("jobTemplateId", .text template.render)]).write }
  read := decodeBody readNewJob

def upload (job : Uuid) (data : Bytes) : Call Unit where
  request base := do
    return {
      method := .post
      url := ← base.resolve uploadPath [("forJob", job.render)]
      contentType := some "application/octet-stream"
      body := data }
  read _ := refuse

def analysis (result : Uuid) : Call (Option FileFormat) where
  request base := do return { url := ← base.resolve analysisGet [("forId", result.render)] }
  read request answer :=
    if answer.status = 404 then .ok none
    else (decodeBody readAnalysis request answer).map some

def jobTemplates : Call (List JobTemplate) := fetch Service.jobTemplates [] readTemplates

def batchSummary (batch : Uuid) : Call BatchSummary :=
  fetch batchGet [("forId", batch.render)] BatchSummary.read

def queueStats : Call QueueStats := fetch Service.queueStats [] QueueStats.read

def jobSummary : Call JobTotals := fetch Service.jobSummary [] readTotals

def openFeed (path : String) (query : List (String × String)) :
    Call (Bytes × Option ServiceError) where
  request base := do return { url := ← base.resolve path query }
  read _ answer := do
    refuse answer
    return (answer.body,
      if answer.complete then none else some (.connection "error decoding response body"))

end Call
end TranscodeConsole.Service
