import TranscodeConsole.Proofs.Json.Parsing

/-!
What is written is a document again, and stands for what was written: texts by their escapes,
integers by their digits, and lists and records of what is written itself.
-/
namespace TranscodeConsole

open Json Grammar

/-! ### Integers -/

theorem Decimal.digits_run (n : Nat) : Digits (Decimal.digits n) := by
  induction n using Nat.strongRecOn with
  | ind n ih =>
    rw [Decimal.digits]
    split
    · rename_i small
      refine ⟨by simp, fun d member => ?_⟩
      rw [List.mem_singleton.mp member]
      exact Decimal.isDigit_digitByte n small
    · have before := ih (n / 10) (by omega)
      refine ⟨by simp, fun d member => ?_⟩
      rcases List.mem_append.mp member with front | last
      · exact before.digits d front
      · rw [List.mem_singleton.mp last]
        exact Decimal.isDigit_digitByte (n % 10) (by omega)

theorem Decimal.head_digits {n : Nat} (pos : 0 < n) :
    ∃ d ds, Decimal.digits n = d :: ds ∧ d ≠ 48 := by
  induction n using Nat.strongRecOn with
  | ind n ih =>
    rw [Decimal.digits]
    split
    · rename_i small
      refine ⟨_, _, rfl, ?_⟩
      have leads : ∀ d < 10, 0 < d → Decimal.digitByte d ≠ 48 := by decide
      exact leads n small pos
    · obtain ⟨d, ds, same, lead⟩ := ih (n / 10) (by omega) (by omega)
      exact ⟨d, ds ++ _, by rw [same, List.cons_append], lead⟩

theorem Decimal.whole_digits (n : Nat) : Whole (Decimal.digits n) := by
  rcases Nat.eq_zero_or_pos n with rfl | pos
  · rw [show Decimal.digits 0 = [48] by rw [Decimal.digits]; rfl]
    exact .zero
  · obtain ⟨d, ds, same, lead⟩ := Decimal.head_digits pos
    have run := Decimal.digits_run n
    rw [same] at run ⊢
    exact .other lead run

namespace Json

theorem Numeral.number?_ofInt {n : Int} (low : Int64.minValue.toInt ≤ n) (high : n < UInt64.size) :
    (Numeral.ofInt n).number? = some (.integer n) := by
  have value := Decimal.ofDigits_digits n.natAbs
  have least : Int64.minValue.toInt = -(Nat.pow 2 63 : Nat) := rfl
  unfold Numeral.number?
  by_cases negative : n < 0
  · have magnitude : 0 < n.natAbs ∧ n.natAbs ≤ Nat.pow 2 63 := by omega
    have same : -(n.natAbs : Int) = n := by omega
    simp only [Numeral.ofInt, value, negative, magnitude]
    simp only [same, decide_true, Bool.not_true, Option.isNone_none, and_self, and_false,
      Bool.false_eq_true, false_and, ite_true, ite_false]
  · have magnitude : n.natAbs < UInt64.size := by omega
    have same : (n.natAbs : Int) = n := by omega
    simp only [Numeral.ofInt, value, negative, magnitude]
    simp [same]

/-! ### Texts -/

namespace Literal

theorem escapeByte_cases (b : UInt8) :
    (¬ b < 32 ∧ b ≠ 34 ∧ b ≠ 92 ∧ escapeByte b = [b]) ∨
    (∃ letter, shortEscape letter = some b ∧ escapeByte b = [92, letter]) ∨
    ∃ c d, hexValues? [48, 48, c, d] = some b.toNat ∧ b.toNat < 32 ∧
      escapeByte b = [92, 117, 48, 48, c, d] := by
  unfold escapeByte
  iterate 7
    split
    · rename_i same
      subst same
      exact .inr (.inl ⟨_, rfl, rfl⟩)
  split
  · rename_i control
    have codes : ∀ n < 32, hexValues? [48, 48, hexByte (n / 16), hexByte (n % 16)] = some n := by
      decide
    have control : b.toNat < 32 := control
    exact .inr (.inr ⟨_, _, codes b.toNat control, control, rfl⟩)
  · rename_i quote escape _ _ _ _ _ printable
    exact .inl ⟨printable, quote, escape, rfl⟩

theorem body_escape (bytes : Bytes) : Body (bytes.flatMap escapeByte) := by
  induction bytes with
  | nil => exact .nil
  | cons b later ih =>
    rw [List.flatMap_cons]
    rcases escapeByte_cases b with ⟨printable, quote, escape, written⟩ | ⟨letter, short, written⟩ |
      ⟨c, d, hex, _, written⟩
    · rw [written]
      exact .plain printable quote escape ih
    · rw [written]
      exact .short (by rw [short]; rfl) ih
    · rw [written]
      exact .hex (by rw [hex]; rfl) ih

theorem utf8_ascii : ∀ n < 128, utf8 n = [n.toUInt8] := by
  decide +kernel

theorem unescape_escape (ending : LiteralEnd) (out bytes : Bytes) :
    unescape ending out (bytes.flatMap escapeByte) = unescape ending (bytes.reverse ++ out) [] := by
  induction bytes generalizing out with
  | nil => rfl
  | cons b later ih =>
    have goesOn := ih (b :: out)
    rw [List.flatMap_cons, List.reverse_cons, List.append_assoc, List.singleton_append, ← goesOn]
    rcases escapeByte_cases b with ⟨printable, quote, escape, written⟩ | ⟨letter, short, written⟩ |
      ⟨c, d, hex, control, written⟩
    · rw [written]
      simp [unescape, escape]
    · have other : letter ≠ 117 := by
        rintro rfl
        cases short
      rw [written]
      simp [unescape, other, short]
    · have small : ¬ (0xDC00 ≤ b.toNat ∧ b.toNat ≤ 0xDFFF) := by omega
      have small' : ¬ (0xD800 ≤ b.toNat ∧ b.toNat ≤ 0xDBFF) := by omega
      have code := utf8_ascii b.toNat (by omega)
      rw [written]
      simp only [List.cons_append, List.nil_append]
      rw [unescape.eq_def]
      simp only [hex, Option.getD_some, if_neg small, if_neg small', code]
      simp

theorem content_ofText (s : String) : content (ofText s) = .ok s := by
  have bytes : unescape .closed [] (escape s) = .ok ((Bytes.ofText s).reverse ++ []) :=
    unescape_escape .closed [] (Bytes.ofText s)
  have text : Bytes.text? (Bytes.ofText s) = some s := dif_pos s.isValidUTF8
  unfold content ofText
  simp only [bytes, bind, Except.bind, List.append_nil, List.reverse_reverse, text]

theorem text_ofText (s : String) : (ofText s).text = .ok s := by
  rw [text, content_ofText]

end Literal

/-! ### Trees -/

namespace Tree

/-- A tree of which the text is a value, whatever follows it. -/
def Written (t : Tree) : Prop := ∀ rest, Grammar.Value (t.write ++ rest) t rest

theorem written_text (s : String) : (Tree.text s).Written := by
  intro rest
  simp only [Tree.text, write, writeLiteral, Literal.ofText, List.cons_append, List.append_assoc]
  exact .string (Literal.body_escape _)

theorem written_int (n : Int) : (Tree.int n).Written := by
  intro rest
  apply Grammar.Value.number
  have whole := Decimal.whole_digits n.natAbs
  by_cases negative : n < 0
  · have text : (Tree.int n).write ++ rest = 45 :: (Decimal.digits n.natAbs ++ rest) := by
      simp [Tree.int, write, writeNumeral, Numeral.ofInt, negative]
    have same : Numeral.ofInt n = ⟨true, Decimal.digits n.natAbs, none, none, .whole⟩ := by
      simp [Numeral.ofInt, negative]
    rw [text, same]
    exact .negative whole .none .none
  · have text : (Tree.int n).write ++ rest = Decimal.digits n.natAbs ++ rest := by
      simp [Tree.int, write, writeNumeral, Numeral.ofInt, negative]
    have same : Numeral.ofInt n = ⟨false, Decimal.digits n.natAbs, none, none, .whole⟩ := by
      simp [Numeral.ofInt, negative]
    rw [text, same]
    exact .positive whole .none .none

theorem written_null : Tree.null.Written := fun _ => .null

theorem written_option {α : Type} {item : α → Tree} {x : Option α}
    (written : ∀ x, (item x).Written) : (Tree.option item x).Written := by
  cases x with
  | none => exact written_null
  | some x => exact written x

theorem written_array {items : List Tree} (written : ∀ t ∈ items, t.Written) :
    (Tree.array items .closed).Written := by
  have parts : ∀ rest, items ≠ [] → Items (writeItems items ++ 93 :: rest) items rest := by
    intro rest some_
    induction items with
    | nil => exact absurd rfl some_
    | cons t ts ih =>
      cases ts with
      | nil => exact .last .none (written t (.head _) _) .none
      | cons t' ts =>
        have later := ih (fun u member => written u (.tail _ member)) (List.cons_ne_nil _ _)
        have value := written t (.head _) (44 :: (writeItems (t' :: ts) ++ 93 :: rest))
        have same : writeItems (t :: t' :: ts) ++ 93 :: rest =
            t.write ++ 44 :: (writeItems (t' :: ts) ++ 93 :: rest) := by
          simp [writeItems]
        rw [same]
        exact .more .none value .none later
  intro rest
  simp only [write, List.cons_append, List.append_assoc, List.nil_append]
  cases items with
  | nil => exact .emptyArray .none
  | cons t ts => exact .array (parts rest (List.cons_ne_nil _ _))

theorem written_list {α : Type} {item : α → Tree} {xs : List α} (written : ∀ x, (item x).Written) :
    (Tree.list item xs).Written := by
  apply written_array
  intro t member
  obtain ⟨x, _, rfl⟩ := List.mem_map.mp member
  exact written x

theorem written_object {ms : List (Literal × Tree)}
    (keys : ∀ m ∈ ms, m.1.ending = .closed ∧ Body m.1.body) (written : ∀ m ∈ ms, m.2.Written) :
    (Tree.object ms .closed).Written := by
  have member : ∀ m ∈ ms, ∀ rest,
      Member (writeLiteral m.1 ++ 58 :: (m.2.write ++ rest)) m.1 m.2 rest := by
    rintro ⟨⟨body, ending⟩, t⟩ member rest
    obtain ⟨rfl, closed⟩ : ending = .closed ∧ Body body := keys _ member
    simp only [writeLiteral, List.cons_append, List.append_assoc, List.nil_append]
    exact .mk .none closed .none .none (written _ member rest)
  have parts : ∀ rest, ms ≠ [] → Members (writeMembers ms ++ 125 :: rest) ms rest := by
    intro rest some_
    clear keys written
    induction ms with
    | nil => exact absurd rfl some_
    | cons m ms ih =>
      obtain ⟨key, t⟩ := m
      cases ms with
      | nil =>
        have first := member (key, t) (.head _) (125 :: rest)
        have same : writeMembers [(key, t)] ++ 125 :: rest =
            writeLiteral key ++ 58 :: (t.write ++ 125 :: rest) := by simp [writeMembers]
        rw [same]
        exact .last first .none
      | cons m' ms =>
        have later := ih (fun u there => member u (.tail _ there)) (List.cons_ne_nil _ _)
        have first := member (key, t) (.head _) (44 :: (writeMembers (m' :: ms) ++ 125 :: rest))
        have same : writeMembers ((key, t) :: m' :: ms) ++ 125 :: rest = writeLiteral key ++
            58 :: (t.write ++ 44 :: (writeMembers (m' :: ms) ++ 125 :: rest)) := by
          simp [writeMembers]
        rw [same]
        exact .more first .none later
  intro rest
  simp only [write, List.cons_append, List.append_assoc, List.nil_append]
  cases ms with
  | nil => exact .emptyObject .none
  | cons m ms => exact .object (parts rest (List.cons_ne_nil _ _))

theorem written_record {ms : List (String × Tree)} (written : ∀ m ∈ ms, m.2.Written) :
    (Tree.record ms).Written := by
  apply written_object
  · intro m member
    obtain ⟨named, _, rfl⟩ := List.mem_map.mp member
    exact ⟨rfl, Literal.body_escape _⟩
  · intro m member
    obtain ⟨named, there, rfl⟩ := List.mem_map.mp member
    exact written named there

theorem Written.document {t : Tree} (written : t.Written) : Document t.write t :=
  ⟨t.write, [], .none, by simpa using written [], .none⟩

end Tree

end Json
end TranscodeConsole
