import TranscodeConsole.Json.Read
import TranscodeConsole.Json.Write

/-!
The notation of documents as a grammar, with blanks wherever they may stand. A rule tells how a text
begins and what it leaves. The bytes of a literal that are no escapes are not looked at, so the
grammar has all documents, and those with broken characters as well.
-/
namespace TranscodeConsole.Json

namespace Grammar

inductive Blanks : Bytes → Bytes → Prop where
  | none {rest : Bytes} : Blanks rest rest
  | more {b : UInt8} {s rest : Bytes} (space : Token.isSpace b = true) (later : Blanks s rest) :
      Blanks (b :: s) rest

structure Digits (ds : List UInt8) : Prop where
  some : ds ≠ []
  digits : ∀ d ∈ ds, Decimal.isDigit d = true

inductive Whole : List UInt8 → Prop where
  | zero : Whole [48]
  | other {d : UInt8} {ds : List UInt8} (lead : d ≠ 48) (digits : Digits (d :: ds)) :
      Whole (d :: ds)

inductive Fraction : Bytes → Option (List UInt8) → Bytes → Prop where
  | none {rest : Bytes} : Fraction rest none rest
  | some {ds : List UInt8} {rest : Bytes} (digits : Digits ds) :
      Fraction (46 :: (ds ++ rest)) (some ds) rest

inductive Sign : Bytes → Bool → Bytes → Prop where
  | none {rest : Bytes} : Sign rest false rest
  | plus {rest : Bytes} : Sign (43 :: rest) false rest
  | minus {rest : Bytes} : Sign (45 :: rest) true rest

inductive Exponent : Bytes → Option (Bool × List UInt8) → Bytes → Prop where
  | none {rest : Bytes} : Exponent rest none rest
  | some {e : UInt8} {s rest : Bytes} {minus : Bool} {ds : List UInt8} (letter : e = 101 ∨ e = 69)
      (sign : Sign s minus (ds ++ rest)) (digits : Digits ds) :
      Exponent (e :: s) (some (minus, ds)) rest

inductive NumeralText : Bytes → Numeral → Bytes → Prop where
  | positive {ds : List UInt8} {s second rest : Bytes} {fraction : Option (List UInt8)}
      {exponent : Option (Bool × List UInt8)} (whole : Whole ds)
      (front : Fraction s fraction second) (back : Exponent second exponent rest) :
      NumeralText (ds ++ s) ⟨false, ds, fraction, exponent, .whole⟩ rest
  | negative {ds : List UInt8} {s second rest : Bytes} {fraction : Option (List UInt8)}
      {exponent : Option (Bool × List UInt8)} (whole : Whole ds)
      (front : Fraction s fraction second) (back : Exponent second exponent rest) :
      NumeralText (45 :: (ds ++ s)) ⟨true, ds, fraction, exponent, .whole⟩ rest

inductive Body : Bytes → Prop where
  | nil : Body []
  | plain {b : UInt8} {s : Bytes} (printable : ¬ b < 32) (quote : b ≠ 34) (escape : b ≠ 92)
      (later : Body s) : Body (b :: s)
  | short {letter : UInt8} {s : Bytes} (known : (Literal.shortEscape letter).isSome = true)
      (later : Body s) : Body (92 :: letter :: s)
  | hex {a b c d : UInt8} {s : Bytes} (digits : (Literal.hexValues? [a, b, c, d]).isSome = true)
      (later : Body s) : Body (92 :: 117 :: a :: b :: c :: d :: s)

mutual

inductive Value : Bytes → Tree → Bytes → Prop where
  | null {rest : Bytes} : Value (110 :: 117 :: 108 :: 108 :: rest) .null rest
  | true {rest : Bytes} : Value (116 :: 114 :: 117 :: 101 :: rest) (.bool true) rest
  | false {rest : Bytes} : Value (102 :: 97 :: 108 :: 115 :: 101 :: rest) (.bool false) rest
  | number {s rest : Bytes} {n : Numeral} (number : NumeralText s n rest) : Value s (.number n) rest
  | string {body rest : Bytes} (closed : Body body) :
      Value (34 :: (body ++ 34 :: rest)) (.string ⟨body, .closed⟩) rest
  | emptyArray {s rest : Bytes} (blanks : Blanks s (93 :: rest)) :
      Value (91 :: s) (.array [] .closed) rest
  | array {s rest : Bytes} {items : List Tree} (parts : Items s items rest) :
      Value (91 :: s) (.array items .closed) rest
  | emptyObject {s rest : Bytes} (blanks : Blanks s (125 :: rest)) :
      Value (123 :: s) (.object [] .closed) rest
  | object {s rest : Bytes} {members : List (Literal × Tree)} (parts : Members s members rest) :
      Value (123 :: s) (.object members .closed) rest

inductive Items : Bytes → List Tree → Bytes → Prop where
  | last {s first second rest : Bytes} {t : Tree} (before : Blanks s first)
      (value : Value first t second) (behind : Blanks second (93 :: rest)) : Items s [t] rest
  | more {s first second third rest : Bytes} {t : Tree} {ts : List Tree} (before : Blanks s first)
      (value : Value first t second) (behind : Blanks second (44 :: third))
      (later : Items third ts rest) : Items s (t :: ts) rest

inductive Member : Bytes → Literal → Tree → Bytes → Prop where
  | mk {s first second third rest body : Bytes} {t : Tree}
      (before : Blanks s (34 :: (body ++ 34 :: first))) (key : Body body)
      (colon : Blanks first (58 :: second)) (between : Blanks second third)
      (value : Value third t rest) : Member s ⟨body, .closed⟩ t rest

inductive Members : Bytes → List (Literal × Tree) → Bytes → Prop where
  | last {s first rest : Bytes} {key : Literal} {t : Tree} (member : Member s key t first)
      (behind : Blanks first (125 :: rest)) : Members s [(key, t)] rest
  | more {s first second rest : Bytes} {key : Literal} {t : Tree} {ms : List (Literal × Tree)}
      (member : Member s key t first) (behind : Blanks first (44 :: second))
      (later : Members second ms rest) : Members s ((key, t) :: ms) rest

end

/-- A text that is a document, and the tree of it. -/
def Document (s : Bytes) (t : Tree) : Prop :=
  ∃ first second, Blanks s first ∧ Value first t second ∧ Blanks second []

/-! ### What is passed over -/

mutual

theorem Value.pass {s rest : Bytes} {t : Tree} : Value s t rest → t.pass = .ok ()
  | .null | .true | .false => rfl
  | .number number => by
    cases number <;> rfl
  | .string _ => rfl
  | .emptyArray _ | .emptyObject _ => rfl
  | .array items => by
    rw [Tree.pass, Items.pass items]
    rfl
  | .object members => by
    rw [Tree.pass, Members.pass members]
    rfl

theorem Items.pass {s rest : Bytes} {ts : List Tree} :
    Items s ts rest → Tree.passItems ts = .ok ()
  | .last _ value _ => by
    rw [Tree.passItems, Value.pass value]
    rfl
  | .more _ value _ later => by
    rw [Tree.passItems, Value.pass value, Items.pass later]
    rfl

theorem Member.pass {s rest : Bytes} {key : Literal} {t : Tree} :
    Member s key t rest → key.pass = .ok () ∧ t.pass = .ok ()
  | .mk _ _ _ _ value => ⟨rfl, Value.pass value⟩

theorem Members.pass {s rest : Bytes} {ms : List (Literal × Tree)} :
    Members s ms rest → Tree.passMembers ms = .ok ()
  | .last member _ => by
    rw [Tree.passMembers, (Member.pass member).1, (Member.pass member).2]
    rfl
  | .more member _ later => by
    rw [Tree.passMembers, (Member.pass member).1, (Member.pass member).2, Members.pass later]
    rfl

end

end Grammar
end TranscodeConsole.Json
