import TranscodeConsole.Proofs.Json.Members
import TranscodeConsole.Proofs.Json.Written
import TranscodeConsole.Proofs.Uuid

/-!
Values that are read back from what is written for them. Nothing is asked of the tree that a value
was read from first, so whatever a reader takes, in whatever spelling, the writer has one for it.
-/
namespace TranscodeConsole.Json

/-- Whatever value is read, it is read again from what is written for it. -/
def Echoes {α : Type} (read : Reader α) (write : α → Tree) : Prop :=
  ∀ t v, read t = .ok v → read (write v) = .ok v

theorem readText_text (s : String) : readText (.text s) = .ok s := Literal.text_ofText s

theorem readUuid_text (id : Uuid) : readUuid (.text id.render) = .ok id := by
  simp only [Tree.text, readUuid, Literal.text_ofText, ok_bind, Uuid.parse_render]

theorem readInt_int {name : String} {low high n : Int} (above : low ≤ n) (below : n ≤ high)
    (least : Int64.minValue.toInt ≤ n) (greatest : n < UInt64.size) :
    readInt name low high (.int n) = .ok n := by
  have number : (Numeral.ofInt n).number = .ok (.integer n) := by
    have value := Numeral.number?_ofInt least greatest
    simp only [Numeral.number, value]
    rfl
  simp only [Tree.int, readInt, number, ok_bind, above, below, and_self, ite_true]

theorem readInt_bounds {name : String} {low high n : Int} {t : Tree}
    (read : readInt name low high t = .ok n) : low ≤ n ∧ n ≤ high := by
  unfold readInt at read
  split at read
  · obtain ⟨number, _, taken⟩ := bind_eq_ok.mp read
    split at taken
    · split at taken
      · cases taken
        assumption
      · cases taken
    · cases taken
  · cases read

theorem echoes_i64 : Echoes readI64 Tree.int := by
  intro t n read
  obtain ⟨above, below⟩ := readInt_bounds read
  have fits : Int64.maxValue.toInt < UInt64.size := by decide
  exact readInt_int above below above (Int.lt_of_le_of_lt below fits)

theorem readNat_int {name : String} {high n : Nat} (small : high < UInt64.size) (below : n ≤ high) :
    readNat name high (.int n) = .ok n := by
  have least : Int64.minValue.toInt ≤ 0 := by decide
  have number : readInt name 0 high (.int n) = .ok (n : Int) :=
    readInt_int (by omega) (by omega) (by omega) (by omega)
  simp [readNat, number, Except.map]

theorem echoes_nat {name : String} {high : Nat} (small : high < UInt64.size) :
    Echoes (readNat name high) fun n => Tree.int n := by
  intro t n read
  obtain ⟨k, isInt, same⟩ := map_eq_ok.mp read
  have bounds := readInt_bounds isInt
  exact readNat_int small (by omega)

theorem echoes_u32 : Echoes readU32 fun n => Tree.int n := echoes_nat (by decide)

theorem echoes_u64 : Echoes readU64 fun n => Tree.int n := echoes_nat (by decide)

theorem readU32_zero : readU32 (.int (0 : Nat)) = .ok 0 := readNat_int (by decide) (Nat.zero_le _)

theorem readU64_zero : readU64 (.int (0 : Nat)) = .ok 0 := readNat_int (by decide) (Nat.zero_le _)

theorem echoes_text : Echoes readText Tree.text := fun _ s _ => readText_text s

variable {α : Type} {read : Reader α} {write : α → Tree}

theorem mem_of_mapM {ε σ : Type} {f : σ → Except ε α} {items : List σ} {xs : List α}
    (all : items.mapM f = .ok xs) {x : α} (member : x ∈ xs) : ∃ t, f t = .ok x := by
  induction items generalizing xs with
  | nil =>
    cases all
    cases member
  | cons t ts ih =>
    rw [List.mapM_cons] at all
    obtain ⟨y, first, later⟩ := bind_eq_ok.mp all
    obtain ⟨ys, rest, same⟩ := bind_eq_ok.mp later
    cases same
    rcases List.mem_cons.mp member with rfl | there
    · exact ⟨t, first⟩
    · exact ih rest there

theorem mapM_map {ε σ : Type} {f : σ → Except ε α} {g : α → σ} {xs : List α}
    (each : ∀ x ∈ xs, f (g x) = .ok x) : (xs.map g).mapM f = .ok xs := by
  induction xs with
  | nil => rfl
  | cons x xs ih =>
    rw [List.map_cons, List.mapM_cons, each x (.head _), ok_bind,
      ih fun y later => each y (.tail _ later)]
    rfl

theorem echoes_list (echoes : Echoes read write) : Echoes (readList read) (Tree.list write) := by
  intro t xs isList
  unfold readList at isList
  split at isList
  · obtain ⟨values, all, ended⟩ := bind_eq_ok.mp isList
    obtain ⟨_, _, same⟩ := bind_eq_ok.mp ended
    cases same
    have again : (xs.map write).mapM read = .ok xs := by
      refine mapM_map fun x member => ?_
      obtain ⟨item, first⟩ := mem_of_mapM all member
      exact echoes item x first
    simp only [Tree.list, readList, again]
    rfl
  · cases isList

theorem entries_echo (echoes : Echoes read write) {t : Tree} {entries : List (String × α)}
    (isMap : readEntries read t = .ok entries) :
    ∀ entry ∈ entries, read (write entry.2) = .ok entry.2 := by
  intro entry member
  unfold readEntries at isMap
  split at isMap
  · obtain ⟨values, all, ended⟩ := bind_eq_ok.mp isMap
    obtain ⟨_, _, same⟩ := bind_eq_ok.mp ended
    cases same
    obtain ⟨⟨key, item⟩, taken⟩ := mem_of_mapM all member
    obtain ⟨name, _, got⟩ := bind_eq_ok.mp taken
    obtain ⟨x, first, same⟩ := bind_eq_ok.mp got
    cases same
    exact echoes item x first
  · cases isMap

theorem readEntries_record {entries : List (String × α)}
    (each : ∀ entry ∈ entries, read (write entry.2) = .ok entry.2) :
    readEntries read (.record (entries.map fun entry => (entry.1, write entry.2))) =
      .ok entries := by
  simp only [Tree.record, readEntries, List.map_map]
  rw [mapM_map]
  · rfl
  · intro entry member
    simp [Literal.text_ofText, ok_bind, each entry member]

theorem readOption_present {t : Tree} (present : t ≠ .null) :
    readOption read t = (read t).map some := by
  cases t with
  | null => exact absurd rfl present
  | _ => rfl

theorem readOption_text (read : Reader α) (s : String) :
    readOption read (.text s) = (read (.text s)).map some := rfl

theorem text_ne_null (s : String) : Tree.text s ≠ .null := by simp [Tree.text]

theorem echoes_option (echoes : Echoes read write) (present : ∀ x, write x ≠ .null) :
    Echoes (readOption read) (Tree.option write) := by
  intro t x isOption
  unfold readOption at isOption
  split at isOption
  · cases isOption
    rfl
  · obtain ⟨y, first, same⟩ := map_eq_ok.mp isOption
    subst same
    rw [Tree.option, readOption_present (present y), echoes _ y first]
    rfl

/-! ### Records -/

theorem get_echoes {found : Fields} {name : String} {v : α}
    (got : found.get name read = .ok v) (echoes : Echoes read write) : read (write v) = .ok v := by
  unfold Fields.get at got
  split at got
  · exact echoes _ v got
  · cases got

theorem getD_echoes {found : Fields} {name : String} {absent v : α}
    (got : found.getD name read absent = .ok v) (echoes : Echoes read write)
    (default_ : read (write absent) = .ok absent) : read (write v) = .ok v := by
  unfold Fields.getD at got
  split at got
  · exact echoes _ v got
  · cases got
    exact default_

theorem fieldsOf_record {shape : Shape} {ms : Fields}
    (fits : ∀ m ∈ ms, ∃ field, shape.field? m.1 = some field ∧ field.check m.2 = .ok ())
    (distinct : (ms.map (·.1)).Nodup)
    (whole : ∀ field ∈ shape.fields, field.optional = false → field.name ∈ ms.map (·.1)) :
    ∃ found, shape.fieldsOf (.record ms) = .ok found ∧
      ∀ name, found.lookup name = ms.lookup name := by
  have known : shape.known (ms.map fun m => (.ofText m.1, m.2)) = ms := by
    have own : ∀ m ∈ ms, (shape.fieldOf ∘ fun m => (Literal.ofText m.1, m.2)) m = some m := by
      intro m member
      obtain ⟨field, known, _⟩ := fits m member
      simp [Shape.fieldOf, Literal.text_ofText, known]
    rw [Shape.known, List.filterMap_map, List.filterMap_congr own, List.filterMap_some]
  refine ⟨ms.reverse, ?_, fun name => ?_⟩
  · apply Shape.fieldsOf_iff.mpr
    rw [known]
    refine ⟨?_, distinct, rfl, ?_⟩
    · intro m member
      obtain ⟨named, there, rfl⟩ := List.mem_map.mp member
      obtain ⟨field, known, check⟩ := fits named there
      exact ⟨named.1, Literal.text_ofText _, by simpa [known] using check⟩
    · rw [Shape.missing_eq_none]
      simpa using whole
  · rw [← known] at distinct
    ext t
    have met := @Shape.lookup_known shape _ distinct name t
    rw [known] at met distinct
    rw [met, lookup_iff_mem distinct]

theorem read_record {shape : Shape} {ms : Fields} {build : Fields → Except Problem α} {v : α}
    (fits : ∀ m ∈ ms, ∃ field, shape.field? m.1 = some field ∧ field.check m.2 = .ok ())
    (distinct : (ms.map (·.1)).Nodup)
    (whole : ∀ field ∈ shape.fields, field.optional = false → field.name ∈ ms.map (·.1))
    (built : ∀ found : Fields, (∀ name, found.lookup name = ms.lookup name) → build found = .ok v) :
    (shape.fieldsOf (.record ms) >>= build) = .ok v := by
  obtain ⟨found, fields, same⟩ := fieldsOf_record fits distinct whole
  exact bind_eq_ok.mpr ⟨found, fields, built found same⟩

end TranscodeConsole.Json
