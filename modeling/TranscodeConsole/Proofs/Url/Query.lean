import TranscodeConsole.Url.Query

/-!
Queries read back: whatever characters names and values have, reading what was written gives the
same pairs in the same order.
-/
namespace TranscodeConsole.Url

theorem hexValue?_upperHex : ∀ n < 16, hexValue? (upperHex n) = some n := by decide

theorem unescape_escapeByte (b : UInt8) (rest : List Char) :
    unescape (escapeByte b ++ rest) = b :: unescape rest := by
  have small : b.toNat < 256 := b.toNat_lt
  have high := hexValue?_upperHex (b.toNat / 16) (by omega)
  have low := hexValue?_upperHex (b.toNat % 16) (by omega)
  have whole : b.toNat / 16 * 16 + b.toNat % 16 = b.toNat := by omega
  simp [escapeByte, unescape, high, low, whole]

theorem unescape_cons {c : Char} (other : c ≠ '%') (rest : List Char) :
    unescape (c :: rest) = String.utf8EncodeChar c ++ unescape rest := by
  rw [unescape]
  simp [other]

namespace Query

def spaced (c : Char) : Char := if c = '+' then ' ' else c

def isInner (c : Char) : Bool := c ≠ '=' && c ≠ '&'

theorem inner_upperHex :
    ∀ n < 16, isInner (upperHex n) = true ∧ spaced (upperHex n) = upperHex n := by decide

theorem plain_char : ∀ n < 256, isPlain n.toUInt8 = true →
    isInner (Char.ofNat n) = true ∧ spaced (Char.ofNat n) = Char.ofNat n ∧ Char.ofNat n ≠ '%' ∧
      String.utf8EncodeChar (Char.ofNat n) = [n.toUInt8] := by
  decide +kernel

theorem isInner_encodeByte (b : UInt8) : ∀ c ∈ encodeByte b, isInner c = true := by
  have small : b.toNat < 256 := b.toNat_lt
  have high := inner_upperHex (b.toNat / 16) (by omega)
  have low := inner_upperHex (b.toNat % 16) (by omega)
  unfold encodeByte
  split
  · rename_i plain
    simpa using (plain_char b.toNat small (by simpa using plain)).1
  · split
    · exact List.forall_mem_singleton.mpr rfl
    · have percent : isInner '%' = true := rfl
      simp [escapeByte, percent, high.1, low.1]

theorem isInner_encodeText (s : String) : ∀ c ∈ encodeText s, isInner c = true := by
  intro c inside
  obtain ⟨b, -, inside⟩ := List.mem_flatMap.mp inside
  exact isInner_encodeByte b c inside

theorem unescape_encodeByte (b : UInt8) (rest : List Char) :
    unescape ((encodeByte b).map spaced ++ rest) = b :: unescape rest := by
  have small : b.toNat < 256 := b.toNat_lt
  unfold encodeByte
  split
  · rename_i plain
    obtain ⟨-, same, noEscape, byte⟩ := plain_char b.toNat small (by simpa using plain)
    simp only [List.map_cons, List.map_nil, same, List.cons_append, List.nil_append,
      unescape_cons noEscape, byte, UInt8.ofNat_toNat]
  · split
    · rename_i space
      subst space
      exact unescape_cons (by decide) rest
    · have kept : (escapeByte b).map spaced = escapeByte b := by
        have high := inner_upperHex (b.toNat / 16) (by omega)
        have low := inner_upperHex (b.toNat % 16) (by omega)
        have percent : spaced '%' = '%' := rfl
        simp only [escapeByte, List.map_cons, List.map_nil, percent, high.2, low.2]
      rw [kept, unescape_escapeByte]

theorem unescape_encode (bytes : Bytes) :
    unescape ((bytes.flatMap encodeByte).map spaced) = bytes := by
  induction bytes with
  | nil => rfl
  | cons b bytes ih => rw [List.flatMap_cons, List.map_append, unescape_encodeByte, ih]

theorem decodeText_encodeText (s : String) : decodeText (encodeText s) = s := by
  have bytes : unescape ((encodeText s).map spaced) = Bytes.ofText s := unescape_encode _
  have text : Bytes.text? (Bytes.ofText s) = some s := dif_pos s.isValidUTF8
  show (Bytes.text? (unescape ((encodeText s).map spaced))).getD _ = s
  rw [bytes, text]
  rfl

theorem decodePair_encodePair (pair : String × String) : decodePair (encodePair pair) = pair := by
  have inner : ∀ c ∈ encodeText pair.1, decide (c ≠ '=') = true := by
    intro c inside
    have := isInner_encodeText pair.1 c inside
    simp only [isInner, Bool.and_eq_true] at this
    exact this.1
  unfold decodePair encodePair
  rw [List.takeWhile_append_of_pos inner, List.dropWhile_append_of_pos inner]
  simp [decodeText_encodeText]

theorem notMem_encodePair (pair : String × String) : '&' ∉ encodePair pair := by
  intro inside
  rcases List.mem_append.mp inside with name | value
  · cases isInner_encodeText pair.1 _ name
  · rcases List.mem_cons.mp value with mark | value
    · cases mark
    · cases isInner_encodeText pair.2 _ value

theorem decode_encode (pairs : List (String × String)) : decode (encode pairs) = pairs := by
  by_cases none_ : pairs = []
  · rw [none_]
    rfl
  have separate : (encode pairs).splitOn '&' = pairs.map encodePair := by
    refine List.splitOn_intercalate '&' ?_ ?_
    · exact List.forall_mem_map.mpr fun pair _ => notMem_encodePair pair
    · simpa using none_
  have kept : (pairs.map encodePair).filter (!·.isEmpty) = pairs.map encodePair := by
    rw [List.filter_eq_self, List.forall_mem_map]
    simp [encodePair]
  rw [decode, separate, kept, List.map_map]
  simp [Function.comp_def, decodePair_encodePair]

example : encode [("state", "not queued"), ("a&b", "é")] = "state=not+queued&a%26b=%C3%A9".toList := by
  decide +kernel

end Query
end TranscodeConsole.Url
