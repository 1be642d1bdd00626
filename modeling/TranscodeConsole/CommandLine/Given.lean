import TranscodeConsole.Batch

/-!
The arguments that a command line can give, and the values given so far. A value is read when it is
given, and each argument takes one.
-/
namespace TranscodeConsole.CommandLine

inductive Refusal where
  | badValue
  | noValue
  | uncalledValue
  | unknownArgument
  | unknownCommand
  | repeatedArgument
  | missingArgument
  | missingCommand
  | nothingGiven
  | help
  | version
  deriving DecidableEq, Repr

def Refusal.message : Refusal → String
  | .badValue => "a value cannot be read"
  | .noValue => "a value is missing"
  | .uncalledValue => "a flag takes no value"
  | .unknownArgument => "unexpected argument"
  | .unknownCommand => "unknown command"
  | .repeatedArgument => "an argument is given twice"
  | .missingArgument => "a required argument is missing"
  | .missingCommand => "no command is given"
  | .nothingGiven | .help =>
    "commands: batch ID [--state STATE] [--pages N], counters ID, watch ID [--template ID], "
      ++ "quick FILE --template ID, dashboard, templates; options: --config PATH, --verbose"
  | .version => "0.1.0"

inductive Argument where
  | config
  | verbose
  | help
  | version
  | state
  | pages
  | template
  | id
  | file
  deriving DecidableEq, Repr

namespace Argument

def takesValue : Argument → Bool
  | .verbose | .help | .version => false
  | _ => true

end Argument

structure Given where
  config : Option String := none
  verbose : Option Unit := none
  state : Filter := none
  pages : Option Nat := none
  template : Option Uuid := none
  id : Option Uuid := none
  file : Option String := none
  deriving DecidableEq, Repr

def readCount (s : String) : Except Refusal Nat :=
  let ds := match s.toList with
    | '+' :: ds => ds
    | ds => ds
  if ds.isEmpty ∨ !ds.all Char.isDigit then .error .badValue
  else
    let n := ds.foldl (fun n d => n * 10 + (d.toNat - 48)) 0
    if n < UInt64.size then .ok n else .error .badValue

def readId (s : String) : Except Refusal Uuid := (Uuid.parse s).mapError fun _ => .badValue

def readState (s : String) : Except Refusal ItemState :=
  match ItemState.ofName? s with
  | some state => .ok state
  | none => .error .badValue

def readPath (s : String) : Except Refusal String := if s = "" then .error .noValue else .ok s

def once {α : Type} (place : Option α) (value : Except Refusal α) : Except Refusal (Option α) :=
  match place with
  | some _ => .error .repeatedArgument
  | none => value.map some

namespace Given

/-- Gives a value to an argument. What asks for help or the version refuses everything else. -/
def put (g : Given) (argument : Argument) (value : String) : Except Refusal Given := do
  match argument with
  | .config => return { g with config := ← once g.config (readPath value) }
  | .verbose => return { g with verbose := ← once g.verbose (.ok ()) }
  | .help => throw .help
  | .version => throw .version
  | .state => return { g with state := ← once g.state (readState value) }
  | .pages => return { g with pages := ← once g.pages (readCount value) }
  | .template => return { g with template := ← once g.template (readId value) }
  | .id => return { g with id := ← once g.id (readId value) }
  | .file => return { g with file := ← once g.file (readPath value) }

end Given
end TranscodeConsole.CommandLine
