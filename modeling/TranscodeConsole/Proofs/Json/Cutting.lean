import TranscodeConsole.Proofs.Json.Grammar

/-!
Cutting a text into tokens, token by token. What the grammar takes for a word, a numeral or a
literal is cut off as just that, if nothing follows by which a numeral would go on.
-/
namespace TranscodeConsole.Json

open Grammar

namespace Token

/-! ### Cutting needs no more tokens than there are bytes -/

theorem length_scanWord_le (w : Word) (word s : Bytes) :
    (scanWord w word s).2.length ≤ s.length := by
  induction word generalizing s with
  | nil => simp [scanWord]
  | cons e es ih =>
    cases s with
    | nil => simp [scanWord]
    | cons b rest =>
      rw [scanWord]
      split
      · exact Nat.le_succ_of_le (ih rest)
      · simp

theorem length_dropWhile_le (p : UInt8 → Bool) (s : Bytes) : (s.dropWhile p).length ≤ s.length :=
  (List.dropWhile_suffix p).length_le

theorem length_scanDigits_le (s : Bytes) : (scanDigits s).2.2.length ≤ s.length :=
  length_dropWhile_le _ s

theorem length_scanSign_le (s : Bytes) : (scanSign s).2.length ≤ s.length := by
  unfold scanSign
  split <;> simp

theorem length_scanExponent_le (n : Numeral) (s : Bytes) :
    (scanExponent n s).2.length ≤ s.length := by
  unfold scanExponent
  split
  · rename_i b rest
    split
    · exact Nat.le_succ_of_le (Nat.le_trans (length_scanDigits_le _) (length_scanSign_le rest))
    · simp
  · simp

theorem length_scanFraction_le (n : Numeral) (s : Bytes) :
    (scanFraction n s).2.length ≤ s.length := by
  unfold scanFraction
  split
  · rename_i rest
    have front := length_scanDigits_le rest
    simp only
    split
    · exact Nat.le_succ_of_le (Nat.le_trans (length_scanExponent_le _ _) front)
    · exact Nat.le_succ_of_le front
  · exact length_scanExponent_le n _

theorem length_scanWhole_lt {b : UInt8} (digit : Decimal.isDigit b = true) (rest : Bytes) :
    (scanWhole (b :: rest)).2.2.length ≤ rest.length := by
  simp only [scanWhole]
  split
  · split
    · split <;> simp
    · simp
  · simp only [scanDigits, List.dropWhile_cons, digit, ite_true]
    exact length_dropWhile_le _ rest

theorem length_scanWhole_le (s : Bytes) : (scanWhole s).2.2.length ≤ s.length := by
  cases s with
  | nil => simp [scanWhole]
  | cons b rest =>
    simp only [scanWhole]
    split
    · split
      · split <;> simp
      · simp
    · exact length_scanDigits_le _

theorem length_scanNumeral_le (negative : Bool) (s : Bytes) :
    (scanNumeral negative s).2.length ≤ (scanWhole s).2.2.length := by
  simp only [scanNumeral]
  split
  · exact length_scanFraction_le _ _
  · simp

theorem length_scanLiteral_le (read s : Bytes) : (Literal.scan read s).2.length ≤ s.length := by
  fun_induction Literal.scan read s <;> simp_all <;> omega

theorem length_ite_le {c : Prop} [Decidable c] {x y : Token × Bytes} {n : Nat}
    (left : c → x.2.length ≤ n) (right : ¬ c → y.2.length ≤ n) :
    (if c then x else y).2.length ≤ n := by
  split
  · exact left ‹c›
  · exact right ‹¬ c›

theorem length_scan_le (b : UInt8) (rest : Bytes) : (scan b rest).2.length ≤ rest.length := by
  unfold scan
  iterate 6 refine length_ite_le (fun _ => Nat.le_refl _) fun _ => ?_
  refine length_ite_le (fun _ => length_scanLiteral_le [] rest) fun _ => ?_
  refine length_ite_le (fun _ => ?_) fun _ => length_ite_le (fun digit => ?_) fun _ => ?_
  · exact Nat.le_trans (length_scanNumeral_le true rest) (length_scanWhole_le rest)
  · exact Nat.le_trans (length_scanNumeral_le false _) (length_scanWhole_lt digit rest)
  · iterate 3 refine length_ite_le (fun _ => length_scanWord_le _ _ rest) fun _ => ?_
    exact Nat.zero_le _

theorem cutFuel_out (fuel : Nat) (out : List Token) (s : Bytes) :
    cutFuel fuel out s = out.reverse ++ cutFuel fuel [] s := by
  induction fuel generalizing out s with
  | zero => simp [cutFuel]
  | succ fuel ih =>
    simp only [cutFuel]
    split
    · simp
    · split
      · simp
      · rw [ih, ih [_]]
        simp

theorem cutFuel_eq {fuel other : Nat} {s : Bytes} (enough : s.length ≤ fuel)
    (enough' : s.length ≤ other) : cutFuel fuel [] s = cutFuel other [] s := by
  induction fuel generalizing other s with
  | zero =>
    have none_ : s = [] := List.length_eq_zero_iff.mp (Nat.le_zero.mp enough)
    subst none_
    cases other <;> simp [cutFuel]
  | succ fuel ih =>
    cases other with
    | zero =>
      have none_ : s = [] := List.length_eq_zero_iff.mp (Nat.le_zero.mp enough')
      subst none_
      simp [cutFuel]
    | succ other =>
      have shorter := length_dropWhile_le isSpace s
      simp only [cutFuel]
      split
      · rfl
      · rename_i b rest cut
        have less := length_scan_le b rest
        rw [cut, List.length_cons] at shorter
        split
        · rfl
        · have same : cutFuel fuel [] (scan b rest).2 = cutFuel other [] (scan b rest).2 :=
            ih (by omega) (by omega)
          rw [cutFuel_out fuel, cutFuel_out other, same]

theorem cut_space {b : UInt8} (space : isSpace b = true) (s : Bytes) : cut (b :: s) = cut s := by
  have longer : cut s = cutFuel (s.length + 1) [] s := cutFuel_eq (Nat.le_refl _) (Nat.le_succ _)
  rw [longer, cut, List.length_cons, cutFuel, cutFuel, List.dropWhile_cons, space]
  rfl

theorem cut_cons {b : UInt8} (solid : isSpace b = false) (s : Bytes) :
    cut (b :: s) = if (scan b s).1.isLast then [(scan b s).1]
      else (scan b s).1 :: cut (scan b s).2 := by
  have less := length_scan_le b s
  rw [cut, List.length_cons, cutFuel]
  simp only [List.dropWhile_cons, solid, Bool.false_eq_true, ite_false]
  split
  · simp
  · rw [cutFuel_out, cut, cutFuel_eq less (Nat.le_refl _)]
    simp

theorem cut_blanks {s rest : Bytes} (blanks : Blanks s rest) : cut s = cut rest := by
  induction blanks with
  | none => rfl
  | more space _ ih => rw [cut_space space, ih]

theorem cut_openArray (s : Bytes) : cut (91 :: s) = .openArray :: cut s := cut_cons rfl s
theorem cut_closeArray (s : Bytes) : cut (93 :: s) = .closeArray :: cut s := cut_cons rfl s
theorem cut_openObject (s : Bytes) : cut (123 :: s) = .openObject :: cut s := cut_cons rfl s
theorem cut_closeObject (s : Bytes) : cut (125 :: s) = .closeObject :: cut s := cut_cons rfl s
theorem cut_comma (s : Bytes) : cut (44 :: s) = .comma :: cut s := cut_cons rfl s
theorem cut_colon (s : Bytes) : cut (58 :: s) = .colon :: cut s := cut_cons rfl s

theorem cut_null (s : Bytes) : cut (110 :: 117 :: 108 :: 108 :: s) = .word .null :: cut s :=
  cut_cons rfl _

theorem cut_true (s : Bytes) : cut (116 :: 114 :: 117 :: 101 :: s) = .word .true :: cut s :=
  cut_cons rfl _

theorem cut_false (s : Bytes) :
    cut (102 :: 97 :: 108 :: 115 :: 101 :: s) = .word .false :: cut s :=
  cut_cons rfl _

/-! ### Literals -/

theorem scanLiteral_body {body : Bytes} (closed : Body body) (read rest : Bytes) :
    Literal.scan read (body ++ 34 :: rest) = (⟨read.reverse ++ body, .closed⟩, rest) := by
  induction closed generalizing read with
  | nil => simp [Literal.scan]
  | plain printable quote escape _ ih => simp [Literal.scan, printable, escape, ih]
  | @short letter s known _ ih =>
    have other : letter ≠ 117 := by
      rintro rfl
      cases known
    simp [Literal.scan, known, other, ih]
  | hex digits _ ih => simp [Literal.scan, digits, ih]

/-! ### Numerals -/

def NoDigit (rest : Bytes) : Prop := ∀ b ∈ rest.head?, Decimal.isDigit b = false

/-- Nothing follows by which a numeral would go on. -/
def Apart (rest : Bytes) : Prop :=
  ∀ b ∈ rest.head?, Decimal.isDigit b = false ∧ b ≠ 46 ∧ b ≠ 101 ∧ b ≠ 69

theorem Apart.noDigit {rest : Bytes} (apart : Apart rest) : NoDigit rest :=
  fun b first => (apart b first).1

theorem apart_cons {b : UInt8} (mark : Decimal.isDigit b = false ∧ b ≠ 46 ∧ b ≠ 101 ∧ b ≠ 69)
    (rest : Bytes) : Apart (b :: rest) := by
  intro first same
  cases same
  exact mark

theorem apart_blanks {s rest : Bytes} (blanks : Blanks s rest) (behind : Apart rest) : Apart s := by
  cases blanks with
  | none => exact behind
  | more space =>
    apply apart_cons
    simp only [isSpace, Bool.or_eq_true, beq_iff_eq] at space
    rcases space with ((rfl | rfl) | rfl) | rfl <;> decide

theorem scanDigits_append {ds rest : Bytes} (digits : Digits ds) (behind : NoDigit rest) :
    scanDigits (ds ++ rest) = (ds, .whole, rest) := by
  have taken : rest.takeWhile Decimal.isDigit = [] ∧ rest.dropWhile Decimal.isDigit = rest := by
    cases rest with
    | nil => exact ⟨rfl, rfl⟩
    | cons b rest =>
      have other : Decimal.isDigit b = false := behind b rfl
      simp [other]
  simp [scanDigits, List.takeWhile_append_of_pos digits.digits,
    List.dropWhile_append_of_pos digits.digits, taken, digits.some]

theorem scanSign_digits {s rest : Bytes} {ds : List UInt8} {minus : Bool} (digits : Digits ds)
    (sign : Sign s minus (ds ++ rest)) : scanSign s = (minus, ds ++ rest) := by
  cases sign with
  | plus | minus => rfl
  | none =>
    obtain ⟨d, ds, rfl⟩ := List.exists_cons_of_ne_nil digits.some
    have digit := digits.digits d (.head _)
    unfold scanSign
    split
    · rename_i plus
      cases plus
      cases digit
    · rename_i minus
      cases minus
      cases digit
    · rfl

variable {negative : Bool} {ds s second rest : Bytes} {fraction : Option (List UInt8)}
  {exponent : Option (Bool × List UInt8)}

theorem scanExponent_eq (back : Exponent s exponent rest) (apart : Apart rest) :
    scanExponent ⟨negative, ds, fraction, none, .whole⟩ s =
      (⟨negative, ds, fraction, exponent, .whole⟩, rest) := by
  cases back with
  | none =>
    cases s with
    | nil => rfl
    | cons b s =>
      have other := apart b rfl
      simp [scanExponent, other]
  | some letter sign digits =>
    simp [scanExponent, letter, scanSign_digits digits sign, scanDigits_append digits apart.noDigit]

theorem Exponent.noDigit (back : Exponent s exponent rest) (apart : Apart rest) : NoDigit s := by
  cases back with
  | none => exact apart.noDigit
  | some letter sign digits =>
    intro b first
    cases first
    rcases letter with rfl | rfl <;> rfl

theorem scanFraction_eq (front : Fraction s fraction second) (back : Exponent second exponent rest)
    (apart : Apart rest) :
    scanFraction ⟨negative, ds, none, none, .whole⟩ s =
      (⟨negative, ds, fraction, exponent, .whole⟩, rest) := by
  cases front with
  | some digits =>
    simp [scanFraction, scanDigits_append digits (Exponent.noDigit back apart),
      scanExponent_eq back apart]
  | none =>
    have other : ∀ later, s ≠ 46 :: later := by
      rintro later rfl
      cases back with
      | none => exact (apart 46 rfl).2.1 rfl
      | some letter => simp at letter
    rw [scanFraction]
    · exact scanExponent_eq back apart
    · exact other

theorem scanWhole_append (whole : Whole ds) (behind : NoDigit s) :
    scanWhole (ds ++ s) = (ds, .whole, s) := by
  cases whole with
  | zero =>
    cases s with
    | nil => rfl
    | cons b s =>
      have other : Decimal.isDigit b = false := behind b rfl
      simp [scanWhole, other]
  | other lead digits =>
    have scanned := scanDigits_append digits behind
    simp only [List.cons_append] at scanned
    simp [scanWhole, lead, scanned]

theorem Fraction.noDigit (front : Fraction s fraction second) (behind : NoDigit second) :
    NoDigit s := by
  cases front with
  | none => exact behind
  | some =>
    intro b first
    cases first
    rfl

theorem scanNumeral_eq (negative : Bool) (whole : Whole ds) (front : Fraction s fraction second)
    (back : Exponent second exponent rest) (apart : Apart rest) :
    scanNumeral negative (ds ++ s) =
      (.numeral ⟨negative, ds, fraction, exponent, .whole⟩, rest) := by
  have behind := Fraction.noDigit front (Exponent.noDigit back apart)
  simp [scanNumeral, scanWhole_append whole behind, scanFraction_eq front back apart]

theorem scan_digit {d : UInt8} (digit : Decimal.isDigit d = true) (s : Bytes) :
    isSpace d = false ∧ scan d s = scanNumeral false (d :: s) := by
  have other : ∀ b, Decimal.isDigit b = false → d ≠ b := by
    rintro b none_ rfl
    exact absurd (none_.symm.trans digit) Bool.false_ne_true
  constructor
  · simp [isSpace, other 32 rfl, other 9 rfl, other 10 rfl, other 13 rfl]
  · simp [scan, digit, other 91 rfl, other 93 rfl, other 123 rfl, other 125 rfl, other 44 rfl,
      other 58 rfl, other 34 rfl, other 45 rfl]

theorem cut_numeral {n : Numeral} (numeral : NumeralText s n rest) (apart : Apart rest) :
    cut s = .numeral n :: cut rest := by
  cases numeral with
  | @negative ds s _ _ _ _ whole front back =>
    have scanned : scan 45 (ds ++ s) = _ := scanNumeral_eq true whole front back apart
    rw [cut_cons rfl, scanned]
    rfl
  | @positive ds s _ _ _ _ whole front back =>
    have scanned := scanNumeral_eq false whole front back apart
    obtain ⟨d, ds, rfl, digit⟩ : ∃ d later, ds = d :: later ∧ Decimal.isDigit d = true := by
      cases whole with
      | zero => exact ⟨_, _, rfl, rfl⟩
      | other lead digits => exact ⟨_, _, rfl, digits.digits _ (.head _)⟩
    obtain ⟨solid, same⟩ := scan_digit digit (ds ++ s)
    rw [List.cons_append, cut_cons solid, same, ← List.cons_append, scanned]
    rfl

theorem cut_literal {body : Bytes} (closed : Body body) (rest : Bytes) :
    cut (34 :: (body ++ 34 :: rest)) = .literal ⟨body, .closed⟩ :: cut rest := by
  have scanned : scan 34 (body ++ 34 :: rest) = (.literal ⟨body, .closed⟩, rest) := by
    simp [scan, scanLiteral_body closed]
  rw [cut_cons rfl, scanned]
  rfl

end Token
end TranscodeConsole.Json
