import TranscodeConsole.Command
import TranscodeConsole.CommandLine.Given
import TranscodeConsole.CommandLine.Word

/-!
The command line: options of the console, the name of a command, and the arguments of the command.
Words are taken from left to right. A value that stands in a word of its own is looked at when the
next argument is taken, so of two faults the one that a later word shows by its form may win.
-/
namespace TranscodeConsole.CommandLine

inductive CommandName where
  | batch
  | counters
  | watch
  | quick
  | dashboard
  | templates
  | help
  deriving DecidableEq, Repr

def CommandName.ofWord? : String → Option CommandName
  | "batch" => some .batch
  | "counters" => some .counters
  | "watch" => some .watch
  | "quick" => some .quick
  | "dashboard" => some .dashboard
  | "templates" => some .templates
  | "help" => some .help
  | _ => none

/-- Where on the command line a word stands: before the command, or after it. -/
abbrev Level := Option CommandName

namespace Level

def long? (level : Level) (name : String) : Option Argument :=
  match level, name with
  | _, "config" => some .config
  | _, "verbose" => some .verbose
  | _, "help" => some .help
  | none, "version" => some .version
  | some .batch, "state" => some .state
  | some .batch, "pages" => some .pages
  | some .watch, "template" | some .quick, "template" => some .template
  | _, _ => none

def letter? (level : Level) (letter : Char) : Option Argument :=
  match level, letter with
  | _, 'c' => some .config
  | _, 'v' => some .verbose
  | _, 'h' => some .help
  | none, 'V' => some .version
  | some .quick, 't' => some .template
  | _, _ => none

def positional? : Level → Option Argument
  | some .batch | some .counters | some .watch => some .id
  | some .quick => some .file
  | _ => none

def surplus (level : Level) (divided : Bool) (word : String) : Refusal :=
  if level.isSome then .unknownArgument
  else if divided ∧ (CommandName.ofWord? word).isSome then .unknownArgument
  else .unknownCommand

end Level

structure Progress where
  given : Given := {}
  /-- The argument taken last, and its value unless that is still to come. -/
  pending : Option (Argument × Option String) := none
  filled : Bool := false
  divided : Bool := false
  deriving DecidableEq, Repr

namespace Progress

def awaitsValue (p : Progress) : Bool :=
  match p.pending with
  | some (_, none) => true
  | _ => false

def settle (p : Progress) : Except Refusal Progress := do
  match p.pending with
  | none => return p
  | some (_, none) => throw .noValue
  | some (argument, some value) =>
    return { p with given := ← p.given.put argument value, pending := none }

def take (p : Progress) (argument : Argument) (value : String) : Except Refusal Progress := do
  let p ← p.settle
  return { p with given := ← p.given.put argument value }

def takeOption (p : Progress) (argument : Argument) (value : Option String) :
    Except Refusal Progress := do
  match value with
  | some value => p.take argument value
  | none => return { ← p.settle with pending := some (argument, none) }

def takeLong (level : Level) (p : Progress) (name : String) (value : Option String) :
    Except Refusal Progress :=
  match level.long? name with
  | none => .error .unknownArgument
  | some argument =>
    if argument.takesValue then p.takeOption argument value
    else if value.isSome then .error .uncalledValue
    else p.take argument ""

/-- Takes the letters of a cluster; the first that takes a value takes all that follows it. -/
def takeCluster (level : Level) (p : Progress) : List Char → Except Refusal Progress
  | [] => .ok p
  | letter :: rest =>
    match level.letter? letter with
    | none => .error .unknownArgument
    | some argument =>
      if argument.takesValue then p.takeOption argument (attached rest)
      else do takeCluster level (← p.take argument "") rest

def takePlain (level : Level) (p : Progress) (word : String) : Except Refusal Progress :=
  match p.pending, p.divided with
  | some (argument, none), false => .ok { p with pending := some (argument, some word) }
  | _, _ => match level.positional?, p.filled with
    | some argument, false => do
      return { ← p.settle with pending := some (argument, some word), filled := true }
    | _, _ => .error (level.surplus p.divided word)

end Progress

def named? (level : Level) (p : Progress) (word : String) : Option CommandName :=
  if level.isSome ∨ p.divided ∨ p.awaitsValue then none else CommandName.ofWord? word

def readLevel (level : Level) (p : Progress) :
    List String → Except Refusal (Progress × Option (CommandName × List String))
  | [] => .ok (p, none)
  | word :: rest =>
    match named? level p word with
    | some name => .ok (p, some (name, rest))
    | none => do
      let form := if p.divided then .plain else Word.ofText word
      match form with
      | .divider => readLevel level { p with divided := true } rest
      | .long name value => readLevel level (← p.takeLong level name value) rest
      | .cluster letters => readLevel level (← p.takeCluster level letters) rest
      | .plain => readLevel level (← p.takePlain level word) rest

def need {α : Type} : Option α → Except Refusal α
  | some value => .ok value
  | none => .error .missingArgument

def build (name : CommandName) (g : Given) : Except Refusal Command := do
  match name with
  | .batch => return .batch (← need g.id) g.state (g.pages.getD 1)
  | .counters => return .counters (← need g.id)
  | .watch => return .watch (← need g.id) g.template
  | .quick => return .quick (← need g.file) (← need g.template)
  | .dashboard => return .dashboard
  | .templates => return .templates
  | .help => throw .help

def explain : List String → Refusal
  | [] => .help
  | [word] => if (CommandName.ofWord? word).isSome then .help else .unknownCommand
  | _ => .unknownCommand

def noCommand (g : Given) : Refusal :=
  if g.config.isNone ∧ g.verbose.isNone then .nothingGiven else .missingCommand

def read (words : List String) : Except Refusal Invocation := do
  let (console, called) ← readLevel none {} words
  match called with
  | none => throw (noCommand (← console.settle).given)
  | some (.help, rest) => throw (explain rest)
  | some (name, rest) =>
    let (level, _) ← readLevel (some name) {} rest
    let own := (← level.settle).given
    let command ← build name own
    let general := (← console.settle).given
    return {
      config := own.config <|> general.config
      verbose := (own.verbose <|> general.verbose).isSome
      command }

end TranscodeConsole.CommandLine
