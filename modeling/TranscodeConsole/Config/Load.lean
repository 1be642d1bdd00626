import TranscodeConsole.Config.Read
import TranscodeConsole.Files

/-!
Loading the configuration from a file. Only a file that nobody named may be absent.
-/
namespace TranscodeConsole.Config

def defaultFile : String := "flipper.ron"

inductive LoadError where
  | unreadable (path : String) (cause : FileError)
  | malformed (path : String)
  deriving DecidableEq, Repr

namespace LoadError

def message : LoadError → String
  | .unreadable path _ => "reading config " ++ path
  | .malformed path => "parsing config " ++ path

def explanation (e : LoadError) : String :=
  match e with
  | .unreadable _ cause => e.message ++ ": " ++ cause.message
  | .malformed _ => e.message

end LoadError

def load (files : Files) (path : Option String) : Except LoadError Config :=
  let file := path.getD defaultFile
  match files.readText file with
  | .error cause =>
    if path.isNone ∧ cause = .absent then .ok {} else .error (.unreadable file cause)
  | .ok document =>
    match parse document with
    | some config => .ok { config with source := some file }
    | none => .error (.malformed file)

end TranscodeConsole.Config
