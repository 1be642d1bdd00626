import TranscodeConsole.Text.Bytes

/-!
Escapes in addresses: a percent sign and the two hexadecimal digits of a byte.
-/
namespace TranscodeConsole.Url

/-- The places of an address, as far as they differ in what has to be escaped there. -/
inductive Place where
  | plain
  | fragment
  | query
  | specialQuery
  | path
  | credentials
  deriving DecidableEq, Repr

namespace Place

def escaped : Place → List Char
  | .plain => []
  | .fragment => [' ', '"', '<', '>', '`']
  | .query => [' ', '"', '#', '<', '>']
  | .specialQuery => [' ', '"', '#', '<', '>', '\'']
  | .path => [' ', '"', '#', '<', '>', '?', '^', '`', '\x7b', '\x7d']
  | .credentials =>
    [' ', '"', '#', '<', '>', '?', '^', '`', '\x7b', '\x7d', '/', ':', ';', '=', '@', '[', '\\',
      ']', '|']

end Place

def upperHex (n : Nat) : Char := Char.ofNat (if n < 10 then 48 + n else 55 + n)

def escapeByte (b : UInt8) : List Char := ['%', upperHex (b.toNat / 16), upperHex (b.toNat % 16)]

def escapeChar (place : Place) (c : Char) : List Char :=
  if c.toNat < 32 || 126 < c.toNat || place.escaped.contains c then
    (String.utf8EncodeChar c).flatMap escapeByte
  else [c]

def escape (place : Place) (cs : List Char) : List Char := cs.flatMap (escapeChar place)

def hexValue? (c : Char) : Option Nat :=
  let n := c.toNat
  if 48 ≤ n ∧ n ≤ 57 then some (n - 48)
  else if 97 ≤ n ∧ n ≤ 102 then some (n - 87)
  else if 65 ≤ n ∧ n ≤ 70 then some (n - 55)
  else none

/-- The bytes of a text with its escapes resolved; a percent sign that starts no escape stays. -/
def unescape : List Char → Bytes
  | '%' :: a :: b :: rest =>
    match hexValue? a, hexValue? b with
    | some high, some low => (high * 16 + low).toUInt8 :: unescape rest
    | _, _ => 37 :: unescape (a :: b :: rest)
  | c :: rest => String.utf8EncodeChar c ++ unescape rest
  | [] => []

end TranscodeConsole.Url
