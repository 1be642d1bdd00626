import TranscodeConsole.Json.Numeral
import TranscodeConsole.Json.Text

/-!
A document as a list of tokens. Cutting it up never fails: what cannot start or continue a token
becomes a token of its own, and nothing is cut behind it.
-/
namespace TranscodeConsole.Json

inductive Word where
  | null
  | true
  | false
  deriving DecidableEq, Repr

inductive Token where
  | openArray
  | closeArray
  | openObject
  | closeObject
  | comma
  | colon
  | word (w : Word)
  /-- A word that starts like one of the three and goes on differently, or ends early. -/
  | brokenWord (cutOff : Bool)
  | numeral (n : Numeral)
  | literal (s : Literal)
  | stray
  deriving DecidableEq, Repr

namespace Token

def isSpace (b : UInt8) : Bool := b == 32 || b == 9 || b == 10 || b == 13

def scanWord (w : Word) : Bytes → Bytes → Token × Bytes
  | [], rest => (.word w, rest)
  | _ :: _, [] => (.brokenWord true, [])
  | e :: es, b :: rest => if b = e then scanWord w es rest else (.brokenWord false, [])

def scanDigits (s : Bytes) : List UInt8 × NumeralEnd × Bytes :=
  let ds := s.takeWhile Decimal.isDigit
  let rest := s.dropWhile Decimal.isDigit
  (ds, if !ds.isEmpty then .whole else if rest.isEmpty then .cutOff else .malformed, rest)

def scanWhole : Bytes → List UInt8 × NumeralEnd × Bytes
  | [] => ([], .cutOff, [])
  | b :: rest =>
    if b = 48 then
      match rest with
      | d :: _ => if Decimal.isDigit d then ([b], .malformed, rest) else ([b], .whole, rest)
      | [] => ([b], .whole, [])
    else scanDigits (b :: rest)

def scanSign : Bytes → Bool × Bytes
  | 43 :: rest => (false, rest)
  | 45 :: rest => (true, rest)
  | rest => (false, rest)

def scanExponent (n : Numeral) : Bytes → Numeral × Bytes
  | b :: rest =>
    if b = 101 ∨ b = 69 then
      let (minus, rest) := scanSign rest
      let (ds, ending, rest) := scanDigits rest
      ({ n with exponent := some (minus, ds), ending }, rest)
    else (n, b :: rest)
  | [] => (n, [])

def scanFraction (n : Numeral) : Bytes → Numeral × Bytes
  | 46 :: rest =>
    let (ds, ending, rest) := scanDigits rest
    let n := { n with fraction := some ds, ending }
    if ending = .whole then scanExponent n rest else (n, rest)
  | rest => scanExponent n rest

def scanNumeral (negative : Bool) (s : Bytes) : Token × Bytes :=
  let (ds, ending, rest) := scanWhole s
  let n : Numeral := ⟨negative, ds, none, none, ending⟩
  if ending = .whole then
    let (n, rest) := scanFraction n rest
    (.numeral n, rest)
  else (.numeral n, rest)

def scan (b : UInt8) (rest : Bytes) : Token × Bytes :=
  if b = 91 then (.openArray, rest)
  else if b = 93 then (.closeArray, rest)
  else if b = 123 then (.openObject, rest)
  else if b = 125 then (.closeObject, rest)
  else if b = 44 then (.comma, rest)
  else if b = 58 then (.colon, rest)
  else if b = 34 then
    let (s, rest) := Literal.scan [] rest
    (.literal s, rest)
  else if b = 45 then scanNumeral true rest
  else if Decimal.isDigit b then scanNumeral false (b :: rest)
  else if b = 110 then scanWord .null (Bytes.ascii "ull") rest
  else if b = 116 then scanWord .true (Bytes.ascii "rue") rest
  else if b = 102 then scanWord .false (Bytes.ascii "alse") rest
  else (.stray, [])

def isLast : Token → Bool
  | .brokenWord _ | .stray => true
  | .numeral n => n.ending != .whole
  | .literal s => s.ending != .closed
  | _ => false

/-- Cuts at most `fuel` tokens, added in front of `out`. -/
def cutFuel : Nat → List Token → Bytes → List Token
  | 0, out, _ => out.reverse
  | fuel + 1, out, s =>
    match s.dropWhile isSpace with
    | [] => out.reverse
    | b :: rest =>
      let (t, rest) := scan b rest
      if t.isLast then (t :: out).reverse else cutFuel fuel (t :: out) rest

def cut (s : Bytes) : List Token := cutFuel s.length [] s

end Token
end TranscodeConsole.Json
