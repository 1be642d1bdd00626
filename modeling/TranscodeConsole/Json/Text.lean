import TranscodeConsole.Text.Bytes

/-!
String literals: the raw bytes between the quotes, and the text they stand for. `escape` writes
text so that `content` reads it back.
-/
namespace TranscodeConsole.Json

inductive LiteralEnd where
  | closed
  | cutOff
  | control
  | badEscape
  | badHex
  deriving DecidableEq, Repr

structure Literal where
  body : Bytes
  ending : LiteralEnd
  deriving DecidableEq, Repr

inductive TextProblem where
  | cutOff
  | control
  | badEscape
  /-- An escaped low surrogate comes first, or a high one is followed by another escape. -/
  | loneSurrogate
  /-- An escaped high surrogate is followed by no escape. -/
  | halfPair
  | notText
  deriving DecidableEq, Repr

namespace Literal

def hexValue (b : UInt8) : Option Nat :=
  if 48 ≤ b && b ≤ 57 then some (b.toNat - 48)
  else if 97 ≤ b && b ≤ 102 then some (b.toNat - 87)
  else if 65 ≤ b && b ≤ 70 then some (b.toNat - 55)
  else none

def hexValues? : Bytes → Option Nat
  | [a, b, c, d] => do
    return (((← hexValue a) * 16 + (← hexValue b)) * 16 + (← hexValue c)) * 16 + (← hexValue d)
  | _ => none

def shortEscape (letter : UInt8) : Option UInt8 :=
  if letter = 34 then some 34        -- "
  else if letter = 92 then some 92   -- \
  else if letter = 47 then some 47   -- /
  else if letter = 98 then some 8    -- b
  else if letter = 102 then some 12  -- f
  else if letter = 110 then some 10  -- n
  else if letter = 114 then some 13  -- r
  else if letter = 116 then some 9   -- t
  else none

/-- Reads a literal behind its opening quote; `read` holds its bytes so far, last first. -/
def scan (read : Bytes) : Bytes → Literal × Bytes
  | [] => (⟨read.reverse, .cutOff⟩, [])
  | 34 :: rest => (⟨read.reverse, .closed⟩, rest)
  | 92 :: [] => (⟨read.reverse, .cutOff⟩, [])
  | 92 :: 117 :: a :: b :: c :: d :: rest =>
    if (hexValues? [a, b, c, d]).isSome then
      scan (d :: c :: b :: a :: 117 :: 92 :: read) rest
    else (⟨read.reverse, .badHex⟩, [])
  | 92 :: 117 :: _ => (⟨read.reverse, .cutOff⟩, [])
  | 92 :: letter :: rest =>
    if (shortEscape letter).isSome then scan (letter :: 92 :: read) rest
    else (⟨read.reverse, .badEscape⟩, [])
  | b :: rest => if b < 32 then (⟨read.reverse, .control⟩, []) else scan (b :: read) rest

def LiteralEnd.problem : LiteralEnd → Option TextProblem
  | .closed => none
  | .cutOff => some .cutOff
  | .control => some .control
  | .badEscape => some .badEscape
  | .badHex => some .badEscape

def afterHigh : LiteralEnd → TextProblem
  | .cutOff => .cutOff
  | .badHex => .badEscape
  | .closed | .control | .badEscape => .halfPair

def utf8 (code : Nat) : Bytes := String.utf8EncodeChar (Char.ofNat code)

/-- The bytes that a body stands for, last first. Only pairs of surrogates are characters. -/
def unescape (ending : LiteralEnd) (out : Bytes) : Bytes → Except TextProblem Bytes
  | 92 :: 117 :: a :: b :: c :: d :: rest =>
    let high := (hexValues? [a, b, c, d]).getD 0
    if 0xDC00 ≤ high ∧ high ≤ 0xDFFF then .error .loneSurrogate
    else if 0xD800 ≤ high ∧ high ≤ 0xDBFF then
      match rest with
      | 92 :: 117 :: a :: b :: c :: d :: rest =>
        let low := (hexValues? [a, b, c, d]).getD 0
        if 0xDC00 ≤ low ∧ low ≤ 0xDFFF then
          let code := 0x10000 + (high - 0xD800) * 0x400 + (low - 0xDC00)
          unescape ending ((utf8 code).reverse ++ out) rest
        else .error .loneSurrogate
      | [] => .error (afterHigh ending)
      | _ => .error .halfPair
    else unescape ending ((utf8 high).reverse ++ out) rest
  | 92 :: letter :: rest => unescape ending ((shortEscape letter).getD letter :: out) rest
  | b :: rest => unescape ending (b :: out) rest
  | [] => match LiteralEnd.problem ending with
    | some problem => .error problem
    | none => .ok out

def content (s : Literal) : Except TextProblem String := do
  let bytes ← unescape s.ending [] s.body
  match Bytes.text? bytes.reverse with
  | some text => .ok text
  | none => .error .notText

def hexByte (n : Nat) : UInt8 := if n < 10 then (48 + n).toUInt8 else (87 + n).toUInt8

def escapeByte (b : UInt8) : Bytes :=
  if b = 34 then [92, 34]
  else if b = 92 then [92, 92]
  else if b = 8 then [92, 98]
  else if b = 9 then [92, 116]
  else if b = 10 then [92, 110]
  else if b = 12 then [92, 102]
  else if b = 13 then [92, 114]
  else if b < 32 then [92, 117, 48, 48, hexByte (b.toNat / 16), hexByte (b.toNat % 16)]
  else [b]

def escape (s : String) : Bytes := (Bytes.ofText s).flatMap escapeByte

def ofText (s : String) : Literal := ⟨escape s, .closed⟩

end Literal
end TranscodeConsole.Json
