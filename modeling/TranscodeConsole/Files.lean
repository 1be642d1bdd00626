import TranscodeConsole.Text.Bytes

/-!
The files that a run can read. Paths are looked up from one directory, and nothing outside it is
there.
-/
namespace TranscodeConsole

inductive FileError where
  | absent
  | isDirectory
  | belowFile
  | notText
  deriving DecidableEq, Repr

def FileError.message : FileError → String
  | .absent => "No such file or directory (os error 2)"
  | .isDirectory => "Is a directory (os error 21)"
  | .belowFile => "Not a directory (os error 20)"
  | .notText => "stream did not contain valid UTF-8"

abbrev Files := String → Except FileError Bytes

namespace Files

def steps (path : String) : List (List Char) :=
  (path.toList.splitOn '/').filter fun step => step ≠ [] ∧ step ≠ ['.']

def wantsDirectory (path : String) : Bool :=
  match (path.toList.splitOn '/').getLast? with
  | some step => step = [] || step = ['.']
  | none => true

def ofDirectory (entries : List (String × Bytes)) : Files := fun path =>
  let place := steps path
  if path.toList.head? = some '/' then .error (if place.isEmpty then .isDirectory else .absent)
  else match entries.find? fun (name, _) => steps name = place with
  | some (_, bytes) => if wantsDirectory path then .error .belowFile else .ok bytes
  | none =>
    let names := entries.map fun (name, _) => steps name
    if place.all (· = ['.', '.']) || names.any (place.isPrefixOf ·) then .error .isDirectory
    else if names.any (·.isPrefixOf place) then .error .belowFile
    else .error .absent

def readText (files : Files) (path : String) : Except FileError String := do
  match Bytes.text? (← files path) with
  | some text => return text
  | none => throw .notText

end Files
end TranscodeConsole
