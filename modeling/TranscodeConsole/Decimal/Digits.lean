/-!
Decimal digits of natural numbers as ASCII bytes, and back.
-/
namespace TranscodeConsole.Decimal

def digitByte (d : Nat) : UInt8 := (48 + d).toUInt8

def isDigit (b : UInt8) : Bool := 48 ≤ b && b ≤ 57

def digitValue (b : UInt8) : Nat := b.toNat - 48

/-- The digits of `n`, most significant first, without leading zeros. -/
def digits (n : Nat) : List UInt8 :=
  if n < 10 then [digitByte n] else digits (n / 10) ++ [digitByte (n % 10)]

def ofDigits (ds : List UInt8) : Nat := ds.foldl (fun n d => n * 10 + digitValue d) 0

theorem digitValue_digitByte : ∀ d < 10, digitValue (digitByte d) = d := by decide

theorem isDigit_digitByte : ∀ d < 10, isDigit (digitByte d) = true := by decide

theorem ofDigits_append_singleton (ds : List UInt8) (d : UInt8) :
    ofDigits (ds ++ [d]) = ofDigits ds * 10 + digitValue d := by
  simp [ofDigits]

theorem ofDigits_digits (n : Nat) : ofDigits (digits n) = n := by
  rw [digits]
  split
  · rename_i small
    simp [ofDigits, digitValue_digitByte n small]
  · rw [ofDigits_append_singleton, ofDigits_digits (n / 10),
      digitValue_digitByte (n % 10) (by omega)]
    omega
termination_by n
decreasing_by omega

end TranscodeConsole.Decimal
