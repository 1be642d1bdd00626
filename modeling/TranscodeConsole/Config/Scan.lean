import TranscodeConsole.Text.Bytes
import TranscodeConsole.Text.Word
import TranscodeConsole.Url.Escape

/-!
The small parts of a configuration document: blanks and comments, names, quoted texts, numbers.
Each is taken off the front of a text, and what is behind it is left.
-/
namespace TranscodeConsole.Config

/-- Takes something off the front of a text; none if it is not well formed. -/
abbrev Scan (α : Type) := List Char → Option (α × List Char)

/-! ### Blanks and comments -/

def isBlank (c : Char) : Bool :=
  [' ', '\t', '\n', '\r', '\x0b', '\x0c', '\u0085', '\u200e', '\u200f', '\u2028',
    '\u2029'].contains c

/-- Where skipping stands: between comments, in a line comment, or in a block comment that is
within `depth` others. -/
inductive Gap where
  | blanks
  | line
  | block (depth : Nat)
  deriving DecidableEq, Repr

def skipGap : Gap → List Char → Option (List Char)
  | .blanks, '/' :: '/' :: rest => skipGap .line rest
  | .blanks, '/' :: '*' :: rest => skipGap (.block 0) rest
  | .blanks, '/' :: _ => none
  | .blanks, c :: rest => if isBlank c then skipGap .blanks rest else some (c :: rest)
  | .line, c :: rest => skipGap (if c = '\n' then .blanks else .line) rest
  | .block depth, '/' :: '*' :: rest => skipGap (.block (depth + 1)) rest
  | .block 0, '*' :: '/' :: rest => skipGap .blanks rest
  | .block (depth + 1), '*' :: '/' :: rest => skipGap (.block depth) rest
  | .block depth, _ :: rest => skipGap (.block depth) rest
  | .block _, [] => none
  | .blanks, [] | .line, [] => some []

def skip (cs : List Char) : Option (List Char) := skipGap .blanks cs

def after (words : String) (cs : List Char) : Option (List Char) :=
  if words.toList.isPrefixOf cs then some (cs.drop words.length) else none

def startsWith (words : String) (cs : List Char) : Bool := words.toList.isPrefixOf cs

def comma (cs : List Char) : Option (Bool × List Char) := do
  match ← skip cs with
  | ',' :: rest => return (true, ← skip rest)
  | rest => return (false, rest)

/-! ### Names -/

def afterWord (word : String) (cs : List Char) : Option (List Char) := do
  let rest ← after word cs
  if rest.head?.any Text.continuesName then none else some rest

def continuesRaw (c : Char) : Bool := ['.', '+', '-'].contains c || Text.continuesName c

def startsQuoted (cs : List Char) : Bool :=
  ["r\"", "r#\"", "r##", "b\"", "b'", "br\"", "br#"].any (startsWith · cs)

/-- A name; it may be written as a raw one, and has to be where it would not end as a plain one. -/
def name : Scan (List Char) := fun cs =>
  match cs with
  | 'r' :: '#' :: rest =>
    let raw := rest.takeWhile continuesRaw
    if startsQuoted cs || raw.isEmpty then none else some (raw, rest.drop raw.length)
  | c :: _ =>
    let plain := cs.takeWhile Text.continuesName
    if !Text.beginsName c || startsQuoted cs || (cs.takeWhile continuesRaw).length > plain.length
      then none
    else some (plain, cs.drop plain.length)
  | [] => none

def looseName (cs : List Char) : Option (List Char) :=
  if startsQuoted cs && !startsWith "r##" cs then none
  else match cs with
    | 'r' :: '#' :: rest =>
      if rest.head?.any continuesRaw then some (rest.dropWhile continuesRaw) else none
    | c :: rest => if Text.beginsName c then some (rest.dropWhile Text.continuesName) else none
    | [] => none

/-! ### Quoted texts -/

/-- What an escape can stand for: a character of a text, one character alone, or a byte. -/
inductive Quoting where
  | text
  | char
  | bytes
  deriving DecidableEq, Repr

def Quoting.byteLimit : Quoting → Nat
  | .text => 4
  | .char | .bytes => 1

inductive Quote where
  | plain
  | mark
  /-- In the escape of a byte, with the bytes of its character before it. -/
  | byte (seen : Bytes) (high : Option Nat)
  | moreMark (seen : Bytes)
  | moreByte (seen : Bytes)
  | brace
  | code (digits value : Nat)
  deriving DecidableEq, Repr

def simpleEscape : Char → Option Char
  | '\'' => some '\''
  | '"' => some '"'
  | '\\' => some '\\'
  | 'n' => some '\n'
  | 'r' => some '\r'
  | 't' => some '\t'
  | '0' => some '\x00'
  | _ => none

inductive Unescaped where
  | char (c : Char)
  | more
  | wrong

def unescapeBytes (quoting : Quoting) (seen : Bytes) : Unescaped :=
  match quoting, (Bytes.text? seen).map String.toList with
  | .bytes, _ => .char '\x00'
  | _, some [c] => .char c
  | _, _ => if seen.length < quoting.byteLimit then .more else .wrong

/-- Reads up to the quotation mark `close`; `done` holds what was read, the latest first. -/
def unquote (quoting : Quoting) (close : Char) : Quote → List Char → Scan String
  | .plain, done, c :: rest =>
    if c = close then some (String.ofList done.reverse, rest)
    else if c = '\\' then unquote quoting close .mark done rest
    else unquote quoting close .plain (c :: done) rest
  | .mark, done, c :: rest =>
    match simpleEscape c with
    | some e => unquote quoting close .plain (e :: done) rest
    | none =>
      if c = 'x' then unquote quoting close (.byte [] none) done rest
      else if c = 'u' then unquote quoting close .brace done rest
      else none
  | .byte seen high, done, c :: rest =>
    match Url.hexValue? c, high with
    | none, _ => none
    | some d, none => unquote quoting close (.byte seen (some d)) done rest
    | some d, some h =>
      let seen := seen ++ [(16 * h + d).toUInt8]
      match unescapeBytes quoting seen with
      | .char e => unquote quoting close .plain (e :: done) rest
      | .more => unquote quoting close (.moreMark seen) done rest
      | .wrong => none
  | .moreMark seen, done, c :: rest =>
    if c = '\\' then unquote quoting close (.moreByte seen) done rest else none
  | .moreByte seen, done, c :: rest =>
    if c = 'x' then unquote quoting close (.byte seen none) done rest else none
  | .brace, done, c :: rest =>
    if c = '\x7b' then unquote quoting close (.code 0 0) done rest else none
  | .code digits value, done, c :: rest =>
    if c = '\x7d' then
      if digits = 0 || !value.isValidChar then none
      else unquote quoting close .plain (Char.ofNat value :: done) rest
    else match Url.hexValue? c with
      | some d =>
        if digits < 6 then unquote quoting close (.code (digits + 1) (16 * value + d)) done rest
        else none
      | none => none
  | _, _, [] => none

def rawEnd (stop done : List Char) : Scan String
  | [] => none
  | c :: rest =>
    if stop.isPrefixOf (c :: rest) then
      some (String.ofList done.reverse, (c :: rest).drop stop.length)
    else rawEnd stop (c :: done) rest

def rawText : Scan String := fun cs =>
  let marks := cs.takeWhile (· = '#')
  match cs.drop marks.length with
  | '"' :: rest => rawEnd ('"' :: marks) [] rest
  | _ => none

def text : Scan String
  | '"' :: rest => unquote .text '"' .plain [] rest
  | 'r' :: rest => rawText rest
  | _ => none

/-! ### Numbers -/

def digitsOf (base : Nat) : List Char → Option Nat :=
  List.foldlM (fun n c =>
    if c = '_' then some n
    else do
      let d ← Url.hexValue? c
      if d < base then some (base * n + d) else none) 0

def isDigitOrGap (c : Char) : Bool := c = '_' || (Url.hexValue? c).isSome

/-- An integer as written: its base stands in front, and a name of its type may follow. -/
structure Written where
  negative : Bool
  value : Nat
  type : Option String

def integerTypes : List (String × Nat × Nat) :=
  [8, 16, 32, 64].flatMap fun bits =>
    [("i" ++ toString bits, Nat.pow 2 (bits - 1), Nat.pow 2 (bits - 1) - 1),
      ("u" ++ toString bits, 0, Nat.pow 2 bits - 1)]

def numberType (cs : List Char) : Option String × List Char :=
  let found := integerTypes.findSome? fun (type, _) =>
    (afterWord type cs).map fun rest => (some type, rest)
  found.getD (none, cs)

def base (cs : List Char) : Nat × List Char :=
  match cs with
  | '0' :: 'b' :: rest => (2, rest)
  | '0' :: 'o' :: rest => (8, rest)
  | '0' :: 'x' :: rest => (16, rest)
  | _ => (10, cs)

def sign (cs : List Char) : Bool × List Char :=
  match cs with
  | '+' :: rest => (false, rest)
  | '-' :: rest => (true, rest)
  | _ => (false, cs)

def integer : Scan Written := fun cs => do
  let (negative, cs) := sign cs
  let (base, cs) := base cs
  let digits := cs.takeWhile isDigitOrGap
  if digits.isEmpty || digits.head? = some '_' then none
  let value ← digitsOf base digits
  let (type, rest) := numberType (cs.drop digits.length)
  match type.bind fun type => integerTypes.lookup type with
  | some (below, above) => if (if negative then below else above) < value then none
  | none => pure ()
  return (⟨negative, value, type⟩, rest)

def count : Scan Nat := fun cs => do
  let (n, rest) ← integer cs
  if n.type.any (· ≠ "u64") || UInt64.size ≤ n.value || (n.negative && 0 < n.value) then none
  else some (n.value, rest)

end TranscodeConsole.Config
