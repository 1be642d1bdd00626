import TranscodeConsole.Json.Read

/-!
Free-form values: any document that is not nested too deeply. Of several members with one key the
last one counts.
-/
namespace TranscodeConsole.Json

inductive Value where
  | null
  | bool (b : Bool)
  | number (n : Number)
  | text (s : String)
  | array (items : List Value)
  | object (members : List (String × Value))
  deriving Repr, Inhabited

namespace Value

def depthLimit : Nat := 127

mutual
def readAt (depth : Nat) : Tree → Except Problem Value
  | .null => .ok .null
  | .bool b => .ok (.bool b)
  | .number n => n.number.map .number
  | .string s => s.text.map .text
  | .array items stop => do
    if depth = 0 then .error (.malformed .tooDeep)
    let values ← readItems (depth - 1) items
    stop.list
    return .array values
  | .object members stop => do
    if depth = 0 then .error (.malformed .tooDeep)
    let entries ← readMembers (depth - 1) members
    stop.object
    return .object entries
  | .gap g => .error g.problem

def readItems (depth : Nat) : List Tree → Except Problem (List Value)
  | [] => .ok []
  | t :: ts => do
    let value ← readAt depth t
    return value :: (← readItems depth ts)

def readMembers (depth : Nat) : List (Literal × Tree) → Except Problem (List (String × Value))
  | [] => .ok []
  | (key, t) :: rest => do
    let name ← key.text
    let value ← readAt depth t
    let later ← readMembers depth rest
    return if later.any (·.1 = name) then later else (name, value) :: later
end

def read : Reader Value := readAt depthLimit

end Value
end TranscodeConsole.Json
