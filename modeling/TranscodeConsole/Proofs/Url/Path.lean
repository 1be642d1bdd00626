import TranscodeConsole.Url.Parse

/-!
Paths in parts. No part of a path that was read has a slash in it; so a path ends with a slash
exactly when its last part is empty, and a plain name that is read behind other parts stands in the
text of the path as it was written.
-/
namespace TranscodeConsole.Url

def Slashless (parts : List (List Char)) : Prop := ∀ part ∈ parts, '/' ∉ part

theorem upperHex_ne_slash : ∀ n < 16, upperHex n ≠ '/' := by decide

theorem slash_notMem_escapeChar (place : Place) {c : Char} (other : c ≠ '/') :
    '/' ∉ escapeChar place c := by
  unfold escapeChar
  split
  · intro inside
    obtain ⟨b, -, inside⟩ := List.mem_flatMap.mp inside
    have small : b.toNat < 256 := b.toNat_lt
    have high := upperHex_ne_slash (b.toNat / 16) (by omega)
    have low := upperHex_ne_slash (b.toNat % 16) (by omega)
    simp [escapeByte, high.symm, low.symm] at inside
  · simpa using other.symm

namespace Slashless

variable {parts : List (List Char)} {kind : Kind} {segment : List Char}

theorem snoc (slashless : Slashless parts) (inner : '/' ∉ segment) :
    Slashless (parts ++ [segment]) := by
  intro part among
  rcases List.mem_append.mp among with old | new
  · exact slashless part old
  · cases List.mem_singleton.mp new
    exact inner

theorem shorten (slashless : Slashless parts) : Slashless (shorten kind parts) := by
  unfold Url.shorten
  split
  · split
    · exact slashless
    · simp [Slashless]
  · exact fun part among => slashless part (List.dropLast_subset _ among)

theorem addSegment (slashless : Slashless parts) (inner : '/' ∉ segment) (more : Bool) :
    Slashless (addSegment kind parts segment more) := by
  have empty : '/' ∉ ([] : List Char) := List.not_mem_nil
  unfold Url.addSegment
  split
  · dsimp only
    split
    · exact slashless.shorten
    · exact slashless.shorten.snoc empty
  · split
    · exact slashless
    · exact slashless.snoc empty
  · split
    · refine slashless.snoc fun inside => ?_
      rcases List.mem_append.mp inside with drive | colon
      · exact inner (List.mem_of_mem_take drive)
      · simp at colon
    · split
      · exact slashless
      · exact slashless.snoc inner

theorem readSegments (slashless : Slashless parts) (inner : '/' ∉ segment) (cs : List Char) :
    Slashless (readSegments kind parts segment cs) := by
  induction cs generalizing parts segment with
  | nil => exact slashless.addSegment (by simpa using inner) false
  | cons c rest ih =>
    rw [Url.readSegments]
    split
    · exact ih (slashless.addSegment (by simpa using inner) true) List.not_mem_nil
    · rename_i other
      have plain : c ≠ '/' := fun slash => other (by simp [isSlash, slash])
      refine ih slashless fun inside => ?_
      rcases List.mem_append.mp inside with new | old
      · exact slash_notMem_escapeChar .path plain (List.mem_reverse.mp new)
      · exact inner old

theorem readAbsolute (kind : Kind) (cs : List Char) : Slashless (readAbsolute kind cs) := by
  have none_ : Slashless [] := fun _ among => absurd among List.not_mem_nil
  unfold Url.readAbsolute
  split
  · split
    · show Slashless ([] ++ [[]])
      exact none_.snoc List.not_mem_nil
    · exact none_
  · split <;> exact none_.readSegments List.not_mem_nil _

end Slashless

def directory (cs : List Char) : List Char := if cs.getLast? = some '/' then cs else cs ++ ['/']

namespace Path

theorem text_append (front back : List (List Char)) :
    (segments (front ++ back)).text = (segments front).text ++ (segments back).text :=
  List.flatMap_append

theorem asDirectory_eq {parts : List (List Char)} (slashless : Slashless parts) :
    ∃ front, (segments parts).asDirectory = segments (front ++ [[]]) ∧
      (segments front).text ++ ['/'] = directory (segments parts).text := by
  rcases List.eq_nil_or_concat parts with rfl | ⟨front, last, rfl⟩
  · exact ⟨[], rfl, rfl⟩
  rw [List.concat_eq_append] at slashless ⊢
  cases last with
  | nil =>
    refine ⟨front, by simp [asDirectory], ?_⟩
    simp [directory, text]
  | cons c rest =>
    refine ⟨front ++ [c :: rest], by simp [asDirectory], ?_⟩
    have inner := slashless (c :: rest) (by simp)
    have other : (segments (front ++ [c :: rest])).text.getLast? ≠ some '/' := by
      intro slash
      refine inner (List.mem_of_getLast? ?_)
      simpa [text, List.getLast?_append] using slash
    rw [directory, if_neg other]

end Path

/-! ### Plain names -/

def nameChars : List Char := "abcdefghijklmnopqrstuvwxyz-".toList

/-- The characters of plain names with slashes between them. -/
def pathChars : List Char := '/' :: nameChars

theorem name_means_itself : ∀ c ∈ nameChars,
    (escapeChar .path c = [c] ∧ c.toLower = c) ∧ isSlash .special c = false := by
  have checked : nameChars.all (fun c =>
      decide ((escapeChar .path c = [c] ∧ c.toLower = c) ∧ isSlash .special c = false)) = true := by
    decide +kernel
  exact fun c name => of_decide_eq_true (List.all_eq_true.mp checked c name)

theorem pointsOf_name {segment : List Char} (name : ∀ c ∈ segment, c ∈ nameChars) :
    pointsOf segment = none := by
  have lower : segment.map Char.toLower = segment := by
    have same : ∀ c ∈ segment, c.toLower = id c := fun c inside =>
      (name_means_itself c (name c inside)).1.2
    rw [List.map_congr_left same, List.map_id]
  have other : ∀ text : String, text.toList.all nameChars.contains = false →
      String.ofList segment ≠ text := by
    rintro text foreign rfl
    have plain : segment.all nameChars.contains = true := by simpa using name
    rw [String.toList_ofList, plain] at foreign
    cases foreign
  unfold pointsOf
  rw [lower]
  split
  case h_7 => rfl
  all_goals exact absurd ‹_› (other _ (by decide))

theorem addSegment_name {segment : List Char} (name : ∀ c ∈ segment, c ∈ nameChars)
    (parts : List (List Char)) (more : Bool) :
    addSegment .special parts segment more = parts ++ [segment] := by
  simp [addSegment, pointsOf_name name]

theorem text_readSegments {cs : List Char} (names : ∀ c ∈ cs, c ∈ pathChars)
    {parts : List (List Char)} {segment : List Char} (inner : ∀ c ∈ segment, c ∈ nameChars) :
    (Path.segments (readSegments .special parts segment cs)).text =
      (Path.segments parts).text ++ '/' :: (segment.reverse ++ cs) := by
  induction cs generalizing parts segment with
  | nil =>
    rw [readSegments, addSegment_name (by simpa using inner), Path.text_append]
    simp [Path.text]
  | cons c rest ih =>
    obtain ⟨first, later⟩ := List.forall_mem_cons.mp names
    rw [readSegments]
    rcases List.mem_cons.mp first with rfl | named
    · have slash : isSlash .special '/' = true := rfl
      rw [slash, if_pos rfl, addSegment_name (by simpa using inner), ih later (by simp),
        Path.text_append]
      simp [Path.text]
    · have longer : ∀ d ∈ c :: segment, d ∈ nameChars := by simpa [named] using inner
      obtain ⟨⟨plain, -⟩, inside⟩ := name_means_itself c named
      rw [inside, plain]
      simp only [Bool.false_eq_true, if_false, List.reverse_singleton, List.singleton_append]
      rw [ih later longer]
      simp

end TranscodeConsole.Url
