/-!
What can go wrong between the console and the service, and what an operator is told about it.
-/
namespace TranscodeConsole

inductive ServiceError where
  | connection (text : String)
  | server (status : Nat) (detail : String)
  /-- A line of a feed is no record; the feed goes on. -/
  | malformedRecord (text : String)
  | decode (text : String)
  | invalidUrl (text : String)
  deriving DecidableEq, Repr

namespace ServiceError

def message : ServiceError → String
  | .connection text => "connection error: " ++ text
  | .server status detail => "server error " ++ toString status ++ ": " ++ detail
  | .malformedRecord text => "malformed record: " ++ text
  | .decode text => "could not decode response: " ++ text
  | .invalidUrl text => "invalid url: " ++ text

/-- The text for an operator: what the service says, without the status it says it with. -/
def userMessage : ServiceError → String
  | .server _ detail => detail
  | error => error.message

end ServiceError
end TranscodeConsole
