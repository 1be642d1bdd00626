import TranscodeConsole.Uuid
import TranscodeConsole.Decimal.Shortest
import TranscodeConsole.Text.Quoted
import TranscodeConsole.Json.Tree

/-!
Why a document is not the expected value: the causes and their wording.
-/
namespace TranscodeConsole.Json

inductive Unfinished where
  | value
  | text
  | list
  | object
  deriving DecidableEq, Repr

inductive Malformed where
  | expectedValue
  | expectedWord
  | expectedColon
  | expectedListComma
  | expectedObjectComma
  | expectedKey
  | trailingComma
  | trailingCharacters
  | badNumber
  | badEscape
  | numberOutOfRange
  | controlCharacter
  | notText
  | loneSurrogate
  | halfPair
  | tooDeep
  deriving DecidableEq, Repr

inductive Actual where
  | null
  | bool (b : Bool)
  | number (n : Number)
  | text (s : String)
  | sequence
  | map
  deriving DecidableEq, Repr

inductive Problem where
  | ended (inside : Unfinished)
  | malformed (m : Malformed)
  | wrongType (found : Actual) (expected : String)
  | outOfRange (n : Int) (expected : String)
  | badUuid (e : Uuid.ParseError)
  | missingField (name : String)
  | duplicateField (name : String)
  /-- An array gives the fields of a record and ends before the required one at `index`. -/
  | shortArray (index : Nat) (record : String) (size : Nat)
  deriving DecidableEq, Repr

def Unfinished.message : Unfinished → String
  | .value => "EOF while parsing a value"
  | .text => "EOF while parsing a string"
  | .list => "EOF while parsing a list"
  | .object => "EOF while parsing an object"

def Malformed.message : Malformed → String
  | .expectedValue => "expected value"
  | .expectedWord => "expected ident"
  | .expectedColon => "expected `:`"
  | .expectedListComma => "expected `,` or `]`"
  | .expectedObjectComma => "expected `,` or `\x7d`"
  | .expectedKey => "key must be a string"
  | .trailingComma => "trailing comma"
  | .trailingCharacters => "trailing characters"
  | .badNumber => "invalid number"
  | .badEscape => "invalid escape"
  | .numberOutOfRange => "number out of range"
  | .controlCharacter => "control character (\\u0000-\\u001F) found while parsing a string"
  | .notText => "invalid unicode code point"
  | .loneSurrogate => "lone leading surrogate in hex escape"
  | .halfPair => "unexpected end of hex escape"
  | .tooDeep => "recursion limit exceeded"

def Actual.message : Actual → String
  | .null => "null"
  | .bool b => "boolean `" ++ toString b ++ "`"
  | .number (.integer n) => "integer `" ++ toString n ++ "`"
  | .number (.double x) => "floating point `" ++ Decimal.plain x.exact ++ "`"
  | .text s => "string " ++ Text.quoted s
  | .sequence => "sequence"
  | .map => "map"

def Problem.message : Problem → String
  | .ended inside => inside.message
  | .malformed m => m.message
  | .wrongType found expected => "invalid type: " ++ found.message ++ ", expected " ++ expected
  | .outOfRange n expected => "invalid value: integer `" ++ toString n ++ "`, expected " ++ expected
  | .badUuid e => "UUID parsing failed: " ++ e.message
  | .missingField name => "missing field `" ++ name ++ "`"
  | .duplicateField name => "duplicate field `" ++ name ++ "`"
  | .shortArray index record size =>
    "invalid length " ++ toString index ++ ", expected struct " ++ record ++ " with "
      ++ toString size ++ (if size = 1 then " element" else " elements")

/-- The three kinds of problem: the input ends early, breaks the notation, or holds another value
than the expected one. -/
inductive Problem.Kind where
  | early
  | form
  | data
  deriving DecidableEq, Repr

def Problem.kind : Problem → Problem.Kind
  | .ended _ => .early
  | .malformed _ => .form
  | _ => .data

end TranscodeConsole.Json
