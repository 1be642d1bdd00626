import TranscodeConsole.Service.Error
import TranscodeConsole.Url.Domain
import TranscodeConsole.Url.Parse
import TranscodeConsole.Url.Query

/-!
The addresses of the service: every endpoint lies under one base, and a request carries its
arguments in the query.
-/
namespace TranscodeConsole.Service

/-- The base of all endpoints; its path ends with a slash. -/
structure Base where
  url : Url
  toAscii : Url.ToAscii := Url.Domain.toAscii

def invalidUrl (text : String) (e : Url.ParseError) : ServiceError :=
  .invalidUrl (text ++ ": " ++ e.message)

def Base.parse (toAscii : Url.ToAscii) (text : String) : Except ServiceError Base :=
  match Url.parse toAscii text with
  | .ok u => .ok { url := { u with path := u.path.asDirectory }, toAscii }
  | .error e => .error (invalidUrl text e)

/-- The address of a path under the base; slashes in front of the path do not count. -/
def Base.resolve (base : Base) (path : String) (query : List (String × String)) :
    Except ServiceError Url :=
  match Url.parseFrom base.toAscii (some base.url) (path.toList.dropWhile (· = '/')) with
  | .ok u => .ok { u with query := Url.Query.append u.query query }
  | .error e => .error (invalidUrl path e)

def batchContent : String := "batch-content"
def batchGet : String := "batch/get"
def jobStatus : String := "job-status"
def jobNew : String := "job/new"
def uploadPath : String := "upload"
def analysisGet : String := "analysis/get"
def jobTemplates : String := "jobtemplate"
def queueStats : String := "jobrunner/queuestats"
def jobSummary : String := "job/summary/status"

def endpoints : List String :=
  [batchContent, batchGet, jobStatus, jobNew, uploadPath, analysisGet, jobTemplates, queueStats,
    jobSummary]

end TranscodeConsole.Service
