import TranscodeConsole.Decimal.Digits
import TranscodeConsole.Decimal.Binary

/-!
Numbers as a document writes them, and what they stand for. A numeral without fraction and
exponent that fits 64 bits is an integer; every other one is read as a double.
-/
namespace TranscodeConsole.Json

inductive NumeralEnd where
  | whole
  | cutOff
  | malformed
  deriving DecidableEq, Repr

structure Numeral where
  negative : Bool
  whole : List UInt8
  fraction : Option (List UInt8)
  /-- The sign (true is minus) and the digits of the exponent, if there is one. -/
  exponent : Option (Bool × List UInt8)
  ending : NumeralEnd
  deriving DecidableEq, Repr

inductive Number where
  | integer (n : Int)
  | double (x : Double)
  deriving DecidableEq, Repr

namespace Numeral

def ofInt (n : Int) : Numeral :=
  ⟨n < 0, Decimal.digits n.natAbs, none, none, .whole⟩

/-- Digits collected into a 64-bit significand; a digit that would overflow it, and every one
after it, is dropped. -/
structure Significand where
  value : Nat
  kept : Nat
  dropped : Nat

def takeDigits (start : Nat) (ds : List UInt8) : Significand :=
  ds.foldl (fun s d =>
    let next := s.value * 10 + Decimal.digitValue d
    if s.dropped = 0 ∧ next < UInt64.size then ⟨next, s.kept + 1, 0⟩
    else { s with dropped := s.dropped + 1 }) ⟨start, 0, 0⟩

def powerOfTen (e : Nat) : Float := Float.ofScientific 1 false e

/-- `x * 10 ^ e` by one multiplication or division with a power of ten up to the 308th; a smaller
exponent is first raised by divisions. Nothing is returned for what is too large. -/
def scale : Nat → Float → Int → Option Float
  | 0, x, _ => some x
  | steps + 1, x, e =>
    if e.natAbs ≤ 308 then
      if 0 ≤ e then
        let y := x * powerOfTen e.natAbs
        if y.isInf then none else some y
      else some (x / powerOfTen e.natAbs)
    else if x == 0 then some x
    else if 0 ≤ e then none
    else scale steps (x / powerOfTen 308) (e + 308)

def double? (n : Numeral) : Option Double :=
  let front := takeDigits 0 n.whole
  let back := takeDigits front.value (n.fraction.getD [])
  let written : Int := match n.exponent with
    | none => 0
    | some (true, ds) => -(Decimal.ofDigits ds : Int)
    | some (false, ds) => Decimal.ofDigits ds
  let e := (front.dropped : Int) - back.kept + written
  (scale 3 back.value.toUInt64.toFloat e).map fun x =>
    Double.ofFloat (if n.negative then -x else x)

def number? (n : Numeral) : Option Number :=
  let value := Decimal.ofDigits n.whole
  if n.fraction.isNone ∧ n.exponent.isNone ∧ !n.negative ∧ value < UInt64.size then
    some (.integer value)
  else if n.fraction.isNone ∧ n.exponent.isNone ∧ n.negative ∧ 0 < value ∧ value ≤ Nat.pow 2 63 then
    some (.integer (-value))
  else n.double?.map .double

end Numeral
end TranscodeConsole.Json
