/-!
International labels of host names, written in ASCII: the ASCII characters first, then the places
and values of the others in a variable-length notation whose thresholds follow the sizes of the
numbers written so far.
-/
namespace TranscodeConsole.Url.Punycode

def digitChar (d : Nat) : Char := Char.ofNat (if d < 26 then 97 + d else 22 + d)

def digit? (c : Char) : Option Nat :=
  let n := c.toNat
  if 97 ≤ n ∧ n ≤ 122 then some (n - 97)
  else if 65 ≤ n ∧ n ≤ 90 then some (n - 65)
  else if 48 ≤ n ∧ n ≤ 57 then some (n - 22)
  else none

/-- The value from which on the digit at `place` (36, 72, …) is not the last one. -/
def threshold (bias place : Nat) : Nat := max 1 (min 26 (place - bias))

private def halve (delta k : Nat) : Nat :=
  if 455 < delta then halve (delta / 35) (k + 36) else k + 36 * delta / (delta + 38)
termination_by delta

/-- The bias after the number `delta` was written for the character that makes it `count`. -/
def adapt (delta count : Nat) (first : Bool) : Nat :=
  let delta := if first then delta / 700 else delta / 2
  halve (delta + delta / count) 0

theorem threshold_bounds (bias place : Nat) :
    1 ≤ threshold bias place ∧ threshold bias place ≤ 26 := by
  unfold threshold
  omega

def writeNumber (bias place q : Nat) : List Char :=
  let t := threshold bias place
  if q < t then [digitChar q]
  else digitChar (t + (q - t) % (36 - t)) :: writeNumber bias (place + 36) ((q - t) / (36 - t))
termination_by q
decreasing_by
  have bounds := threshold_bounds bias place
  exact Nat.lt_of_le_of_lt (Nat.div_le_self _ _) (by omega)

structure Writing where
  out : List Char
  delta : Nat
  bias : Nat
  count : Nat

def Writing.pass (basic m : Nat) (w : Writing) (c : Char) : Writing :=
  if c.toNat < m then { w with delta := w.delta + 1 }
  else if c.toNat = m then
    { out := w.out ++ writeNumber w.bias 36 w.delta
      delta := 0
      bias := adapt w.delta (w.count + 1) (w.count = basic)
      count := w.count + 1 }
  else w

def values (label : List Char) : List Nat :=
  ((label.map Char.toNat).filter (128 ≤ ·)).mergeSort.eraseDups

def encode (label : List Char) : List Char :=
  let basic := label.filter (·.toNat < 128)
  let start : Nat × Writing := (128, ⟨[], 0, 72, basic.length⟩)
  let (_, written) := (values label).foldl (fun (n, w) m =>
    let w := { w with delta := w.delta + (m - n) * (w.count + 1) }
    let w := label.foldl (Writing.pass basic.length m) w
    (m + 1, { w with delta := w.delta + 1 })) start
  basic ++ (if basic.isEmpty then [] else ['-']) ++ written.out

def readNumber (bias : Nat) :
    (cs : List Char) → Nat → Nat → Nat →
      Option (Nat × { rest : List Char // rest.length < cs.length })
  | [], _, _, _ => none
  | c :: cs, place, weight, sum => do
    let d ← digit? c
    let t := threshold bias place
    if d < t then return (sum + d * weight, ⟨cs, by simp⟩)
    let (n, rest) ← readNumber bias cs (place + 36) (weight * (36 - t)) (sum + d * weight)
    return (n, ⟨rest.val, by have := rest.property; simp; omega⟩)

def decodeFrom (bias n i : Nat) (out cs : List Char) : Option (List Char) :=
  if cs.isEmpty then some out
  else match readNumber bias cs 36 1 i with
    | none => none
    | some (j, rest) =>
      let size := out.length + 1
      let n := n + j / size
      if n < 0xD800 ∨ (0xDFFF < n ∧ n < 0x110000) then
        decodeFrom (adapt (j - i) size (i = 0)) n (j % size + 1)
          (out.take (j % size) ++ Char.ofNat n :: out.drop (j % size)) rest.val
      else none
termination_by cs.length
decreasing_by exact rest.property

def decode (cs : List Char) : Option (List Char) :=
  let tail := (cs.reverse.takeWhile (· ≠ '-')).reverse
  let basic := cs.take (cs.length - tail.length - 1)
  decodeFrom 72 128 0 basic tail

end TranscodeConsole.Url.Punycode
