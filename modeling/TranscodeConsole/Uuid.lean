import TranscodeConsole.Text.Blank

/-!
Identifiers of jobs, batches, templates and analyses: thirty-two hexadecimal digits, written in
groups of 8, 4, 4, 4 and 12. Reading takes the digits alone, the grouped form, and the grouped form
in braces or behind `urn:uuid:`.
-/
namespace TranscodeConsole

structure Uuid where
  digits : List (Fin 16)
  length_digits : digits.length = 32
  deriving DecidableEq

namespace Uuid

def nil : Uuid := ⟨List.replicate 32 0, by simp⟩

def isNil (id : Uuid) : Bool := id = nil

instance : Inhabited Uuid := ⟨nil⟩

def digitChar (d : Fin 16) : Char :=
  Char.ofNat (if d.val < 10 then 48 + d.val else 87 + d.val)

def digit? (c : Char) : Option (Fin 16) :=
  let n := c.toNat
  if 48 ≤ n ∧ n ≤ 57 then some (Fin.ofNat 16 (n - 48))
  else if 97 ≤ n ∧ n ≤ 102 then some (Fin.ofNat 16 (n - 87))
  else if 65 ≤ n ∧ n ≤ 70 then some (Fin.ofNat 16 (n - 55))
  else none

theorem digit?_digitChar (d : Fin 16) : digit? (digitChar d) = some d := by
  revert d; decide

def groupSizes : List Nat := [8, 4, 4, 4, 12]

def grouped (separator : Char) : List Nat → List Char → List Char
  | [], _ => []
  | [size], cs => cs.take size
  | size :: sizes, cs => cs.take size ++ separator :: grouped separator sizes (cs.drop size)

def render (id : Uuid) : String :=
  String.ofList (grouped '-' groupSizes (id.digits.map digitChar))

instance : ToString Uuid := ⟨render⟩

instance : Repr Uuid := ⟨fun id _ => id.render⟩

inductive ParseError where
  | length (found : Nat)
  | character (found : Char) (index : Nat)
  | groupCount (found : Nat)
  | groupLength (group expected found : Nat)
  deriving DecidableEq, Repr

def ParseError.message : ParseError → String
  | .length n => s!"invalid length: found {n}"
  | .character c i => "invalid character: found `" ++ c.toString ++ "` at " ++ toString i
  | .groupCount n => s!"invalid group count: expected 5, found {n}"
  | .groupLength g e n => s!"invalid group length in group {g}: expected {e}, found {n}"

def byteLength (cs : List Char) : Nat := (String.ofList cs).utf8ByteSize

/-- A text without its braces or its `urn:uuid:`, and how many bytes were taken off in front. -/
def unwrap (cs : List Char) : List Char × Nat :=
  if cs.head? = some '\x7b' ∧ 2 ≤ cs.length ∧ cs.getLast? = some '\x7d' then
    (cs.tail.dropLast, 1)
  else if (cs.take 9).map Char.toLower = "urn:uuid:".toList then (cs.drop 9, 9)
  else (cs, 0)

def ofDigits? (ds : List (Fin 16)) : Option Uuid :=
  if h : ds.length = 32 then some ⟨ds, h⟩ else none

def ofPlain? (cs : List Char) : Option Uuid := (cs.mapM digit?).bind ofDigits?

def ofGrouped? (cs : List Char) : Option Uuid :=
  let groups := cs.splitOn '-'
  if groups.map List.length = groupSizes then ofPlain? groups.flatten else none

def strayCharacter (index : Nat) : List Char → Option (Char × Nat)
  | [] => none
  | c :: cs =>
    if c = '-' ∨ (digit? c).isSome then strayCharacter (index + c.utf8Size) cs else some (c, index)

def hyphenPlaces : List Nat := [8, 13, 18, 23]

def hyphens (index : Nat) : List Char → List Nat
  | [] => []
  | c :: cs => if c = '-' then index :: hyphens (index + 1) cs else hyphens (index + 1) cs

/-- The first group whose hyphen is out of place; the last group if all hyphens are in place. -/
def misplaced (total : Nat) : Nat → Nat → List (Nat × Nat) → ParseError
  | group, start, (found, place) :: rest =>
    if found = place then misplaced total (group + 1) (place + 1) rest
    else .groupLength group (place - start) (found - start)
  | group, _, [] => .groupLength group 12 (total - 24)

def diagnose (cs : List Char) : ParseError :=
  let total := byteLength cs
  let (inner, offset) := unwrap cs
  match strayCharacter offset inner with
  | some (c, index) => .character c index
  | none =>
    let found := hyphens 0 inner
    if found = [] ∧ offset = 0 then .length total
    else if found.length ≠ 4 then .groupCount (found.length + 1)
    else misplaced total 0 0 (found.zip hyphenPlaces)

def parse (s : String) : Except ParseError Uuid :=
  let cs := s.toList
  let total := byteLength cs
  if total = 0 ∨ 45 < total then .error (.length total)
  else match ofPlain? cs <|> ofGrouped? (unwrap cs).1 with
    | some id => .ok id
    | none => .error (diagnose cs)

end Uuid
end TranscodeConsole
