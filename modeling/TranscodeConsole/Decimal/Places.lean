import TranscodeConsole.Decimal.Binary

/-!
A number with a fixed count of decimal places: the exact value is rounded, a half goes to the
even neighbour, and the sign of a negative number stays even where it rounds to zero.
-/
namespace TranscodeConsole.Decimal

def roundHalfEven (num den : Nat) : Nat :=
  let q := num / den
  let twice := 2 * (num % den)
  if twice < den then q
  else if den < twice then q + 1
  else q + q % 2

def padZeros (width n : Nat) : String :=
  let text := toString n
  String.ofList (List.replicate (width - text.length) '0') ++ text

def fixed (places : Nat) (x : Exact) : String :=
  let n := roundHalfEven (x.num * Nat.pow 10 places) x.den
  let sign := if x.negative then "-" else ""
  let whole := toString (n / Nat.pow 10 places)
  if places = 0 then sign ++ whole
  else sign ++ whole ++ "." ++ padZeros places (n % Nat.pow 10 places)

end TranscodeConsole.Decimal
