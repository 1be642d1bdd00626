import TranscodeConsole.Text.Blank

/-!
Where the log goes, and how much of it is written.
-/
namespace TranscodeConsole.Log

inductive Destination where
  | file
  | terminal
  | both
  deriving DecidableEq, Repr

namespace Destination

def name : Destination → String
  | .file => "File"
  | .terminal => "Terminal"
  | .both => "Both"

def ofName? : String → Option Destination
  | "File" => some .file
  | "Terminal" => some .terminal
  | "Both" => some .both
  | _ => none

def createsFile : Destination → Bool
  | .file | .both => true
  | .terminal => false

end Destination

inductive Level where
  | off
  | error
  | warn
  | info
  | debug
  | trace
  deriving DecidableEq, Repr

namespace Level

def name : Level → String
  | .off => "OFF"
  | .error => "ERROR"
  | .warn => "WARN"
  | .info => "INFO"
  | .debug => "DEBUG"
  | .trace => "TRACE"

def all : List Level := [.off, .error, .warn, .info, .debug, .trace]

def ofName? (s : String) : Option Level :=
  all.find? fun level => Text.lowerAscii level.name = Text.lowerAscii (Text.trim s)

def ofVariable (value : Option String) : Level := (value.bind ofName?).getD .debug

end Level
end TranscodeConsole.Log
