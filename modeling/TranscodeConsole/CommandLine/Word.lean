/-!
Words of a command line by their form: `--name` or `--name=value`, a cluster of letters behind one
hyphen, the bare `--`, or anything else. A lone hyphen is a plain word.
-/
namespace TranscodeConsole.CommandLine

inductive Word where
  | plain
  | divider
  | long (name : String) (value : Option String)
  | cluster (letters : List Char)
  deriving DecidableEq, Repr

def cutAtEquals (cs : List Char) : String × Option String :=
  let name := String.ofList (cs.takeWhile (· ≠ '='))
  match cs.dropWhile (· ≠ '=') with
  | _ :: value => (name, some (String.ofList value))
  | [] => (name, none)

def Word.ofText (s : String) : Word :=
  match s.toList with
  | ['-', '-'] => .divider
  | '-' :: '-' :: rest =>
    let (name, value) := cutAtEquals rest
    .long name value
  | ['-'] => .plain
  | '-' :: letters => .cluster letters
  | _ => .plain

/-- The value that follows a letter in its cluster; an `=` in front of it does not count. -/
def attached : List Char → Option String
  | [] => none
  | '=' :: value => some (String.ofList value)
  | value => some (String.ofList value)

end TranscodeConsole.CommandLine
