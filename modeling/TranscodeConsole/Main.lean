import TranscodeConsole.Rehearsal.Commands

/-!
The console as a program. Commands are rehearsed against a service that answers no call; only the
configuration and the file to upload are read from disk.
-/
namespace TranscodeConsole

def Invocation.paths (i : Invocation) : List String :=
  i.config.getD Config.defaultFile :: match i.command with
    | .quick file _ => [file]
    | _ => []

def readFile (path : String) : IO (Except FileError Bytes) := do
  try
    return .ok (← IO.FS.readBinFile path).data.toList
  catch error =>
    match error with
    | .noFileOrDirectory .. => return .error .absent
    | .inappropriateType .. => return .error .belowFile
    | _ => return .error .isDirectory

def readFiles (paths : List String) : IO Files := do
  let read ← paths.mapM fun path => return (path, ← readFile path)
  return fun path => (read.lookup path).getD (.error .absent)

def patience : Nat := 120000

def exitCode : Option Display.Ending → UInt32
  | some .done => 0
  | _ => 1

def complaint : Option Display.Ending → Option String
  | some .done => none
  | some (.failed message) => some ("Error: " ++ message)
  | some (.overflowed operation) => some ("Error: " ++ operation.message)
  | none => some "Error: the time is over"

def perform (i : Invocation) : IO UInt32 := do
  let files ← readFiles i.paths
  let limit : Rehearsal.Deadline := { time := patience, tasksRun := false }
  let outcome := Rehearsal.runInvocation limit files (fun base => { base }) i
  IO.print outcome.printed
  match complaint outcome.ending with
  | some text => IO.eprintln text
  | none => pure ()
  return exitCode outcome.ending

end TranscodeConsole

def main (words : List String) : IO UInt32 := do
  match TranscodeConsole.CommandLine.read words with
  | .ok invocation => TranscodeConsole.perform invocation
  | .error refusal =>
    IO.eprintln refusal.message
    return if refusal = .help ∨ refusal = .version then 0 else 2
