import TranscodeConsole.Json.Problem

/-!
Reading values of given types from a tree. A reader reports the first problem in reading order: a
break of the notation when it comes to it, a wrong type as soon as the value's first token tells.
Values that nobody keeps are only checked for breaks.
-/
namespace TranscodeConsole.Json

abbrev Reader (α : Type) := Tree → Except Problem α

def TextProblem.problem : TextProblem → Problem
  | .cutOff => .ended .text
  | .control => .malformed .controlCharacter
  | .badEscape => .malformed .badEscape
  | .loneSurrogate => .malformed .loneSurrogate
  | .halfPair => .malformed .halfPair
  | .notText => .malformed .notText

def Gap.problem : Gap → Problem
  | .missing => .ended .value
  | .unexpected => .malformed .expectedValue
  | .brokenWord true => .ended .value
  | .brokenWord false => .malformed .expectedWord
  | .noColon true => .ended .object
  | .noColon false => .malformed .expectedColon

def Literal.text (s : Literal) : Except Problem String :=
  match s.content with
  | .ok text => .ok text
  | .error e => .error e.problem

/-- A literal that is passed over: its escapes are checked, its characters are not. -/
def Literal.pass (s : Literal) : Except Problem Unit :=
  match LiteralEnd.problem s.ending with
  | some e => .error e.problem
  | none => .ok ()

def Numeral.number (n : Numeral) : Except Problem Number :=
  match n.ending with
  | .cutOff => .error (.ended .value)
  | .malformed => .error (.malformed .badNumber)
  | .whole => match n.number? with
    | some x => .ok x
    | none => .error (.malformed .numberOutOfRange)

def Stop.list : Stop → Except Problem Unit
  | .closed => .ok ()
  | .cutOff => .error (.ended .list)
  | .noComma | .noKey => .error (.malformed .expectedListComma)
  | .commaClosed => .error (.malformed .trailingComma)
  | .commaCutOff => .error (.ended .value)

def Stop.object : Stop → Except Problem Unit
  | .closed => .ok ()
  | .cutOff => .error (.ended .object)
  | .noComma => .error (.malformed .expectedObjectComma)
  | .commaClosed => .error (.malformed .trailingComma)
  | .commaCutOff => .error (.ended .value)
  | .noKey => .error (.malformed .expectedKey)

def Stop.passed (inObject : Bool) : Stop → Except Problem Unit
  | .commaClosed => .error (.malformed (if inObject then .expectedKey else .expectedValue))
  | .commaCutOff => .error (.ended (if inObject then .object else .value))
  | stop => if inObject then stop.object else stop.list

namespace Tree

mutual
def pass : Tree → Except Problem Unit
  | .null | .bool _ => .ok ()
  | .number n => if n.ending = .whole then .ok () else .error (.malformed .badNumber)
  | .string s => s.pass
  | .array items stop => do passItems items; stop.passed false
  | .object members stop => do passMembers members; stop.passed true
  | .gap g => .error g.problem

def passItems : List Tree → Except Problem Unit
  | [] => .ok ()
  | t :: ts => do t.pass; passItems ts

def passMembers : List (Literal × Tree) → Except Problem Unit
  | [] => .ok ()
  | (key, t) :: rest => do key.pass; t.pass; passMembers rest
end

def mismatch (expected : String) (t : Tree) : Problem :=
  match t with
  | .null => .wrongType .null expected
  | .bool b => .wrongType (.bool b) expected
  | .number n => match n.number with
    | .ok x => .wrongType (.number x) expected
    | .error e => e
  | .string s => match s.text with
    | .ok text => .wrongType (.text text) expected
    | .error e => e
  | .array .. => .wrongType .sequence expected
  | .object .. => .wrongType .map expected
  | .gap g => g.problem

end Tree

def readInt (name : String) (low high : Int) : Reader Int
  | .number n => do
    match ← n.number with
    | .integer k => if low ≤ k ∧ k ≤ high then .ok k else .error (.outOfRange k name)
    | .double x => .error (.wrongType (.number (.double x)) name)
  | t => .error (t.mismatch name)

def readI16 : Reader Int := readInt "i16" Int16.minValue.toInt Int16.maxValue.toInt
def readI32 : Reader Int := readInt "i32" Int32.minValue.toInt Int32.maxValue.toInt
def readI64 : Reader Int := readInt "i64" Int64.minValue.toInt Int64.maxValue.toInt

def readNat (name : String) (high : Nat) : Reader Nat := fun t =>
  (readInt name 0 high t).map Int.toNat

def readU32 : Reader Nat := readNat "u32" (UInt32.size - 1)
def readU64 : Reader Nat := readNat "u64" (UInt64.size - 1)

def readDouble : Reader Double
  | .number n => do
    match ← n.number with
    | .integer k => .ok (Double.ofInt k)
    | .double x => .ok x
  | t => .error (t.mismatch "f64")

def readText : Reader String
  | .string s => s.text
  | t => .error (t.mismatch "a string")

def readUuid : Reader Uuid
  | .string s => do
    match Uuid.parse (← s.text) with
    | .ok id => .ok id
    | .error e => .error (.badUuid e)
  | t => .error (t.mismatch "a formatted UUID string")

def readOption {α : Type} (read : Reader α) : Reader (Option α)
  | .null => .ok none
  | t => (read t).map some

def readList {α : Type} (read : Reader α) : Reader (List α)
  | .array items stop => do
    let values ← items.mapM read
    stop.list
    return values
  | t => .error (t.mismatch "a sequence")

def readEntries {α : Type} (read : Reader α) : Reader (List (String × α))
  | .object members stop => do
    let entries ← members.mapM fun (key, t) => do
      let name ← key.text
      return (name, ← read t)
    stop.object
    return entries
  | t => .error (t.mismatch "a map")

def readDocument {α : Type} (read : Reader α) (bytes : Bytes) : Except Problem α := do
  let (t, trailing) := Tree.parse bytes
  let value ← read t
  if trailing then .error (.malformed .trailingCharacters) else return value

end TranscodeConsole.Json
