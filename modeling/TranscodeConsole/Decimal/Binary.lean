/-!
Binary floating-point numbers by their bits, so that equality is equality of bits, and the exact
rational value behind them.
-/
namespace TranscodeConsole

structure Double where
  bits : UInt64
  deriving DecidableEq, Repr

structure Single where
  bits : UInt32
  deriving DecidableEq, Repr

namespace Decimal

/-- The exact value `± mantissa * 2 ^ exponent` of a finite number. -/
structure Exact where
  negative : Bool
  mantissa : Nat
  exponent : Int
  /-- The next smaller number is half as far away as the next larger one. -/
  closeBelow : Bool
  deriving DecidableEq, Repr

def Exact.num (x : Exact) : Nat := x.mantissa * Nat.pow 2 x.exponent.toNat

def Exact.den (x : Exact) : Nat := Nat.pow 2 (-x.exponent).toNat

end Decimal

def Double.ofFloat (x : Float) : Double := ⟨x.toBits⟩

def Double.ofInt (n : Int) : Double :=
  let x := n.natAbs.toUInt64.toFloat
  Double.ofFloat (if n < 0 then -x else x)

def Double.exact (x : Double) : Decimal.Exact :=
  let n := x.bits.toNat
  let field := n / Nat.pow 2 52 % Nat.pow 2 11
  let fraction := n % Nat.pow 2 52
  { negative := Nat.pow 2 63 ≤ n
    mantissa := if field = 0 then fraction else Nat.pow 2 52 + fraction
    exponent := (if field = 0 then 1 else field : Nat) - (1075 : Int)
    closeBelow := fraction = 0 && 1 < field }

namespace Single

def exact (x : Single) : Decimal.Exact :=
  let n := x.bits.toNat
  let field := n / Nat.pow 2 23 % Nat.pow 2 8
  let fraction := n % Nat.pow 2 23
  { negative := Nat.pow 2 31 ≤ n
    mantissa := if field = 0 then fraction else Nat.pow 2 23 + fraction
    exponent := (if field = 0 then 1 else field : Nat) - (150 : Int)
    closeBelow := fraction = 0 && 1 < field }

def zero : Single := ⟨0⟩

def one : Single := ⟨0x3F800000⟩

def magnitude (x : Single) : Nat := x.bits.toNat % Nat.pow 2 31

def isNegative (x : Single) : Bool := Nat.pow 2 31 ≤ x.bits.toNat

def isNaN (x : Single) : Bool := 0x7F800000 < x.magnitude

/-- The nearest number between zero and one; a negative zero stays as it is. -/
def clampToUnit (x : Single) : Single :=
  if x.isNegative && 0 < x.magnitude then zero
  else if !x.isNegative && one.magnitude < x.magnitude then one
  else x

def timesHundred (x : Single) : Single := ⟨(Float32.ofBits x.bits * 100).toBits⟩

end Single
end TranscodeConsole
