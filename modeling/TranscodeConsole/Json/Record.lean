import TranscodeConsole.Json.Read

/-!
Records: values with named fields. A record is read from an object, whose members may come in any
order and among members that are no fields, or from an array that lists the fields in their order.
-/
namespace TranscodeConsole.Json

structure Field where
  name : String
  check : Tree → Except Problem Unit
  optional : Bool

structure Shape where
  name : String
  fields : List Field

abbrev Fields := List (String × Tree)

def Field.required {α : Type} (name : String) (read : Reader α) : Field :=
  ⟨name, fun t => (read t).map fun _ => (), false⟩

def Field.defaulted {α : Type} (name : String) (read : Reader α) : Field :=
  ⟨name, fun t => (read t).map fun _ => (), true⟩

namespace Shape

/-- Reads the members of an object in order; `found` holds the fields met so far. -/
def members (shape : Shape) : Fields → List (Literal × Tree) → Except Problem Fields
  | found, [] => .ok found
  | found, (key, t) :: rest => do
    let name ← key.text
    match shape.fields.find? (·.name = name) with
    | none =>
      t.pass
      shape.members found rest
    | some field =>
      if found.any (·.1 = name) then .error (.duplicateField name)
      else
        field.check t
        shape.members ((name, t) :: found) rest

def missing (shape : Shape) (found : Fields) : Option String :=
  (shape.fields.find? fun field => !field.optional && !found.any (·.1 = field.name)).map (·.name)

def listEnd (rest : List Tree) : Stop → Except Problem Unit
  | .closed => if rest.isEmpty then .ok () else .error (.malformed .trailingCharacters)
  | .cutOff =>
    if rest.isEmpty then .error (.ended .list) else .error (.malformed .trailingCharacters)
  | .commaClosed =>
    if rest.isEmpty then .error (.malformed .trailingComma)
    else .error (.malformed .trailingCharacters)
  | .noComma | .commaCutOff | .noKey => .error (.malformed .trailingCharacters)

def elements (shape : Shape) (stop : Stop) (index : Nat) :
    List Field → List Tree → Except Problem Fields
  | [], rest => do
    listEnd rest stop
    return []
  | field :: fields, t :: rest => do
    field.check t
    return (field.name, t) :: (← shape.elements stop (index + 1) fields rest)
  | field :: fields, [] => do
    stop.list
    if field.optional then shape.elements stop (index + 1) fields []
    else .error (.shortArray index shape.name shape.fields.length)

def fieldsOf (shape : Shape) : Reader Fields
  | .object members stop => do
    let found ← shape.members [] members
    stop.object
    match shape.missing found with
    | some name => .error (.missingField name)
    | none => return found
  | .array items stop => shape.elements stop 0 shape.fields items
  | t => .error (t.mismatch ("struct " ++ shape.name))

end Shape

def Fields.get {α : Type} (found : Fields) (name : String) (read : Reader α) : Except Problem α :=
  match found.lookup name with
  | some t => read t
  | none => .error (.missingField name)

def Fields.getD {α : Type} (found : Fields) (name : String) (read : Reader α) (absent : α) :
    Except Problem α :=
  match found.lookup name with
  | some t => read t
  | none => .ok absent

end TranscodeConsole.Json
