import TranscodeConsole.Decimal.Binary

/-!
The shortest decimal that reads back as a given number. Of the decimals with one digit, two digits
and so on, the first count wins for which a neighbour of the value lies among the reals that round
to it; of two such neighbours the nearer one is taken.
-/
namespace TranscodeConsole.Decimal

structure Scientific where
  digits : Nat
  exponent : Int
  deriving DecidableEq, Repr

private def ratioLe (a b c d : Nat) : Bool := a * d ≤ c * b

def readsBack (x : Exact) (n : Nat) (e : Int) : Bool :=
  let num := n * Nat.pow 10 e.toNat
  let den := Nat.pow 10 (-e).toNat
  -- bounds in quarters of the last binary place
  let unit := x.exponent - 2
  let scale (k : Nat) : Nat × Nat := (k * Nat.pow 2 unit.toNat, Nat.pow 2 (-unit).toNat)
  let low := scale (4 * x.mantissa - (if x.closeBelow then 1 else 2))
  let high := scale (4 * x.mantissa + 2)
  if x.mantissa % 2 = 0 then
    ratioLe low.1 low.2 num den && ratioLe num den high.1 high.2
  else
    !ratioLe num den low.1 low.2 && !ratioLe high.1 high.2 num den

/-- The least `e` with `num / den < 10 ^ e`, looked for upwards from `low`. -/
private def magnitudeFrom (num den : Nat) : Nat → Int → Int
  | 0, low => low
  | steps + 1, low =>
    if ratioLe (Nat.pow 10 low.toNat) (Nat.pow 10 (-low).toNat) num den then
      magnitudeFrom num den steps (low + 1)
    else low

private def candidate (x : Exact) (e : Int) : Option Nat :=
  let scaled := x.num * Nat.pow 10 (-e).toNat
  let unit := x.den * Nat.pow 10 e.toNat
  let below := scaled / unit
  let twice := 2 * (scaled % unit)
  let first := if unit < twice then below + 1 else below
  let second := if unit < twice then below else below + 1
  if readsBack x first e then some first
  else if readsBack x second e then some second
  else none

private def search (x : Exact) (magnitude : Int) : Nat → Nat → Scientific
  | 0, _ => ⟨0, 0⟩
  | more + 1, count =>
    let e := magnitude - count
    match candidate x e with
    | some n => ⟨n, e⟩
    | none => search x magnitude more (count + 1)

/-- The shortest digits of a positive number; seventeen are always enough. -/
def shortest (x : Exact) : Scientific :=
  search x (magnitudeFrom x.num x.den 640 (-330)) 17 1

private def stripZeros : Nat → Nat → Int → Scientific
  | 0, n, e => ⟨n, e⟩
  | fuel + 1, n, e => if n ≠ 0 ∧ n % 10 = 0 then stripZeros fuel (n / 10) (e + 1) else ⟨n, e⟩

private def zeros (n : Nat) : String := String.ofList (List.replicate n '0')

private def pair (n : Nat) : String := if n < 10 then "0" ++ toString n else toString n

/-- The text of a number in an error message: positional with a point from 1e-5 up to 1e16,
with an exponent elsewhere. -/
def plain (x : Exact) : String :=
  let sign := if x.negative then "-" else ""
  if x.mantissa = 0 then sign ++ "0.0"
  else
    let s := shortest x
    let s := stripZeros 20 s.digits s.exponent
    let ds := toString s.digits
    let point : Int := ds.length + s.exponent
    if 0 ≤ s.exponent ∧ point ≤ 16 then
      sign ++ ds ++ zeros s.exponent.toNat ++ ".0"
    else if 0 < point ∧ point ≤ 16 then
      sign ++ String.ofList (ds.toList.take point.toNat) ++ "."
        ++ String.ofList (ds.toList.drop point.toNat)
    else if -5 < point ∧ point ≤ 0 then
      sign ++ "0." ++ zeros (-point).toNat ++ ds
    else
      let tail := String.ofList (ds.toList.drop 1)
      let mantissa := String.ofList (ds.toList.take 1) ++ (if tail = "" then "" else "." ++ tail)
      let e := point - 1
      sign ++ mantissa ++ (if e < 0 then "e-" else "e+") ++ pair e.natAbs

end TranscodeConsole.Decimal
