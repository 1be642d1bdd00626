import TranscodeConsole.Uuid
import Mathlib.Algebra.GroupWithZero.Nat
import Mathlib.Data.String.Basic

/-!
An identifier is read back from the form in which it is written.
-/
namespace TranscodeConsole.Uuid

def groups : List Nat → List Char → List (List Char)
  | [], _ => []
  | size :: sizes, cs => cs.take size :: groups sizes (cs.drop size)

theorem groups_ne_nil {sizes : List Nat} (some_ : sizes ≠ []) (cs : List Char) :
    groups sizes cs ≠ [] := by
  cases sizes with
  | nil => exact absurd rfl some_
  | cons size sizes => exact List.cons_ne_nil _ _

theorem flatten_groups {sizes : List Nat} {cs : List Char} (whole : cs.length = sizes.sum) :
    (groups sizes cs).flatten = cs := by
  induction sizes generalizing cs with
  | nil => exact (List.length_eq_zero_iff.mp whole).symm
  | cons size sizes ih =>
    rw [groups, List.flatten_cons, ih (by simp [whole]), List.take_append_drop]

theorem length_groups {sizes : List Nat} {cs : List Char} (whole : cs.length = sizes.sum) :
    (groups sizes cs).map List.length = sizes := by
  induction sizes generalizing cs with
  | nil => rfl
  | cons size sizes ih =>
    rw [groups, List.map_cons, ih (by simp [whole]), List.length_take, whole, List.sum_cons,
      Nat.min_eq_left (Nat.le_add_right _ _)]

theorem mem_groups {sizes : List Nat} {cs g : List Char} (member : g ∈ groups sizes cs) {c : Char}
    (there : c ∈ g) : c ∈ cs := by
  induction sizes generalizing cs with
  | nil => cases member
  | cons size sizes ih =>
    rcases List.mem_cons.mp member with rfl | later
    · exact List.mem_of_mem_take there
    · exact List.mem_of_mem_drop (ih later)

theorem grouped_eq {sizes : List Nat} (separator : Char) (some_ : sizes ≠ []) (cs : List Char) :
    grouped separator sizes cs = [separator].intercalate (groups sizes cs) := by
  induction sizes generalizing cs with
  | nil => exact absurd rfl some_
  | cons size sizes ih =>
    cases sizes with
    | nil => simp [grouped, groups]
    | cons size' sizes =>
      have later := ih (List.cons_ne_nil _ _) (cs.drop size)
      rw [grouped, later]
      · simp only [groups, List.intercalate_cons_cons, List.append_assoc, List.singleton_append]
      · simp

theorem mem_grouped {separator : Char} {sizes : List Nat} {cs : List Char} {c : Char}
    (member : c ∈ grouped separator sizes cs) : c = separator ∨ c ∈ cs := by
  fun_induction grouped separator sizes cs with
  | case1 cs => cases member
  | case2 cs size => exact .inr (List.mem_of_mem_take member)
  | case3 cs size sizes more ih =>
    rcases List.mem_append.mp member with front | back
    · exact .inr (List.mem_of_mem_take front)
    · rcases List.mem_cons.mp back with same | later
      · exact .inl same
      · exact (ih later).imp id List.mem_of_mem_drop

theorem mapM_digit? (ds : List (Fin 16)) : (ds.map digitChar).mapM digit? = some ds := by
  induction ds with
  | nil => rfl
  | cons d ds ih => simp [List.mapM_cons, digit?_digitChar, ih]

theorem mapM_digit?_hyphen {cs : List Char} (hyphen : '-' ∈ cs) : cs.mapM digit? = none := by
  induction cs with
  | nil => cases hyphen
  | cons c cs ih =>
    rcases List.mem_cons.mp hyphen with rfl | later
    · rfl
    · cases digit : digit? c <;> simp [List.mapM_cons, digit, ih later]

theorem plain_digitChar : ∀ d : Fin 16, digitChar d ≠ '-' ∧ digitChar d ≠ '\x7b' ∧
    (digitChar d).toLower ≠ 'u' ∧ (digitChar d).utf8Size = 1 := by
  decide

theorem byteLength_eq {cs : List Char} (single : ∀ c ∈ cs, c.utf8Size = 1) :
    byteLength cs = cs.length := by
  rw [byteLength, String.utf8ByteSize_ofList]
  induction cs with
  | nil => rfl
  | cons c cs ih =>
    rw [String.utf8Len_cons, ih fun c later => single c (.tail _ later), single c (.head _)]
    rfl

theorem ofGrouped?_grouped (id : Uuid) :
    ofGrouped? (grouped '-' groupSizes (id.digits.map digitChar)) = some id := by
  have whole : (id.digits.map digitChar).length = groupSizes.sum := by
    rw [List.length_map, id.length_digits]
    rfl
  have apart : ∀ g ∈ groups groupSizes (id.digits.map digitChar), '-' ∉ g := by
    intro g member there
    obtain ⟨d, _, same⟩ := List.mem_map.mp (mem_groups member there)
    exact (plain_digitChar d).1 same
  have some_ : groupSizes ≠ [] := List.cons_ne_nil _ _
  have split := List.splitOn_intercalate '-' apart (groups_ne_nil some_ _)
  simp only [ofGrouped?, grouped_eq '-' some_, split, length_groups whole, flatten_groups whole,
    ofPlain?, mapM_digit?, ofDigits?, Option.bind_some, id.length_digits]
  simp

theorem parse_render (id : Uuid) : parse id.render = .ok id := by
  obtain ⟨ds, length⟩ := id
  let cs := grouped '-' groupSizes (ds.map digitChar)
  have known : ∀ c ∈ cs, c = '-' ∨ ∃ d, c = digitChar d := by
    intro c member
    rcases mem_grouped member with hyphen | digit
    · exact .inl hyphen
    · obtain ⟨d, _, same⟩ := List.mem_map.mp digit
      exact .inr ⟨d, same.symm⟩
  have single : byteLength cs = 36 := by
    rw [byteLength_eq]
    · simp [cs, grouped, groupSizes, length]
    · intro c member
      rcases known c member with rfl | ⟨d, rfl⟩
      · rfl
      · exact (plain_digitChar d).2.2.2
  have plain : ofPlain? cs = none := by
    have hyphen : '-' ∈ cs := List.mem_append_right _ (.head _)
    rw [ofPlain?, mapM_digit?_hyphen hyphen]
    rfl
  have bare : unwrap cs = (cs, 0) := by
    obtain ⟨d, rest, first⟩ : ∃ d rest, cs = digitChar d :: rest := by
      obtain ⟨d, ds, rfl⟩ := List.exists_cons_of_length_eq_add_one length
      exact ⟨d, _, rfl⟩
    obtain ⟨_, brace, urn, _⟩ := plain_digitChar d
    simp [unwrap, first, brace, urn]
  have read := ofGrouped?_grouped ⟨ds, length⟩
  have text : (render ⟨ds, length⟩).toList = cs := String.toList_ofList
  simp only [parse, text, single, plain, bare]
  simp [cs, read]

end TranscodeConsole.Uuid
