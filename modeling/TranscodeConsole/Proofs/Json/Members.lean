import TranscodeConsole.Json.Record
import Mathlib.Data.List.Nodup

/-!
What a record makes of an object. Its members can be read one by one: each is a field, with a value
that is fit for it, or is passed over. No field may come twice and no required one may be missing;
nothing depends on the order of the members.
-/
namespace TranscodeConsole.Json

theorem ok_bind {ε α β : Type} (a : α) (f : α → Except ε β) : (Except.ok a >>= f) = f a := rfl

theorem bind_eq_ok {ε α β : Type} {x : Except ε α} {f : α → Except ε β} {b : β} :
    (x >>= f) = .ok b ↔ ∃ a, x = .ok a ∧ f a = .ok b := by
  cases x <;> simp [bind, Except.bind]

theorem then_eq_ok {ε β : Type} {x : Except ε Unit} {y : Except ε β} {b : β} :
    (do x; y) = .ok b ↔ x = .ok () ∧ y = .ok b := by
  cases x <;> simp [bind, Except.bind]

theorem map_eq_ok {ε α β : Type} {x : Except ε α} {f : α → β} {b : β} :
    x.map f = .ok b ↔ ∃ a, x = .ok a ∧ f a = b := by
  cases x <;> simp [Except.map]

theorem lookup_iff_mem {α : Type} {found : List (String × α)} (distinct : (found.map (·.1)).Nodup)
    {name : String} {a : α} : found.lookup name = some a ↔ (name, a) ∈ found := by
  induction found with
  | nil => simp
  | cons entry found ih =>
    obtain ⟨other, b⟩ := entry
    simp only [List.map_cons, List.nodup_cons] at distinct
    by_cases same : name = other
    · subst same
      have new : ∀ c, (name, c) ∉ found := fun c there =>
        distinct.1 (List.mem_map.mpr ⟨_, there, rfl⟩)
      simp [new, eq_comm]
    · have other : (name == other) = false := beq_false_of_ne same
      simp [List.lookup_cons, other, same, ih distinct.2]

namespace Shape

variable {shape : Shape}

def field? (shape : Shape) (name : String) : Option Field := shape.fields.find? (·.name = name)

structure Admits (shape : Shape) (m : Literal × Tree) (name : String) : Prop where
  key : m.1.text = .ok name
  value : match shape.field? name with
    | some field => field.check m.2 = .ok ()
    | none => m.2.pass = .ok ()

def fieldOf (shape : Shape) (m : Literal × Tree) : Option (String × Tree) :=
  match m.1.text with
  | .ok name => (shape.field? name).map fun _ => (name, m.2)
  | .error _ => none

def known (shape : Shape) (ms : List (Literal × Tree)) : Fields := ms.filterMap shape.fieldOf

theorem members_cons {found result : Fields} {m : Literal × Tree} {ms : List (Literal × Tree)} :
    shape.members found (m :: ms) = .ok result ↔
      (∃ name, shape.Admits m name) ∧
      (∀ entry ∈ shape.fieldOf m, entry.1 ∉ found.map (·.1)) ∧
      shape.members ((shape.fieldOf m).toList ++ found) ms = .ok result := by
  obtain ⟨key, t⟩ := m
  cases text : key.text with
  | error e =>
    have broken : ¬ ∃ name, shape.Admits (key, t) name := by
      rintro ⟨name, admits⟩
      exact absurd (text.symm.trans admits.key) (by simp)
    simp [members, text, broken, bind, Except.bind]
  | ok name =>
    have admits : (∃ other, shape.Admits (key, t) other) ↔ shape.Admits (key, t) name := by
      refine ⟨?_, fun here => ⟨name, here⟩⟩
      rintro ⟨other, there⟩
      have same : name = other := Except.ok.inj (text.symm.trans there.key)
      exact same ▸ there
    rw [admits, members, text]
    cases field : shape.field? name with
    | none =>
      have none_ : shape.fieldOf (key, t) = none := by simp [fieldOf, text, field]
      have admits : shape.Admits (key, t) name ↔ t.pass = .ok () :=
        ⟨fun there => by simpa [field] using there.value, fun pass => ⟨text, by simpa [field]⟩⟩
      have found_ : shape.fields.find? (·.name = name) = none := field
      simp [admits, none_, found_, ok_bind, then_eq_ok]
    | some own =>
      have own_ : shape.fieldOf (key, t) = some (name, t) := by simp [fieldOf, text, field]
      have admits : shape.Admits (key, t) name ↔ own.check t = .ok () :=
        ⟨fun there => by simpa [field] using there.value, fun fits => ⟨text, by simpa [field]⟩⟩
      have found_ : shape.fields.find? (·.name = name) = some own := field
      by_cases twice : found.any (·.1 = name) = true
      · have there : name ∈ found.map (·.1) := by simpa using twice
        simp [found_, own_, twice, ok_bind, there, -List.mem_map]
      · have new : name ∉ found.map (·.1) := by simpa using twice
        simp [admits, own_, found_, twice, ok_bind, then_eq_ok, new, -List.mem_map]

theorem members_iff {found result : Fields} {ms : List (Literal × Tree)} :
    shape.members found ms = .ok result ↔
      (∀ m ∈ ms, ∃ name, shape.Admits m name) ∧ ((shape.known ms).map (·.1)).Nodup ∧
      (∀ entry ∈ shape.known ms, entry.1 ∉ found.map (·.1)) ∧
      result = (shape.known ms).reverse ++ found := by
  induction ms generalizing found with
  | nil =>
    rw [members, Except.ok.injEq]
    simp [known, eq_comm]
  | cons m ms ih =>
    rw [members_cons, ih, List.forall_mem_cons, and_assoc]
    cases own : shape.fieldOf m with
    | none =>
      have same : shape.known (m :: ms) = shape.known ms := List.filterMap_cons_none own
      rw [same]
      simp
    | some entry =>
      have same : shape.known (m :: ms) = entry :: shape.known ms := List.filterMap_cons_some own
      rw [same]
      have parted : (∀ e ∈ shape.known ms, e.1 ∉ entry.1 :: found.map (·.1)) ↔
          entry.1 ∉ (shape.known ms).map (·.1) ∧ ∀ e ∈ shape.known ms, e.1 ∉ found.map (·.1) := by
        simp only [List.mem_cons, not_or, List.mem_map, not_exists, not_and]
        exact ⟨fun all =>
            ⟨fun e there same => (all e there).1 same, fun e there => (all e there).2⟩,
          fun all e there => ⟨all.1 e there, all.2 e there⟩⟩
      simp only [Option.toList_some, List.singleton_append, parted, List.forall_mem_cons,
        List.map_cons, List.nodup_cons, List.reverse_cons, List.append_assoc,
        Option.mem_some, forall_eq']
      constructor
      · rintro ⟨first, new, all, distinct, ⟨once, apart⟩, same⟩
        exact ⟨first, all, ⟨once, distinct⟩, ⟨new, apart⟩, same⟩
      · rintro ⟨first, all, ⟨once, distinct⟩, ⟨new, apart⟩, same⟩
        exact ⟨first, new, all, distinct, ⟨once, apart⟩, same⟩

theorem fieldsOf_iff {ms : List (Literal × Tree)} {found : Fields} :
    shape.fieldsOf (.object ms .closed) = .ok found ↔
      (∀ m ∈ ms, ∃ name, shape.Admits m name) ∧ ((shape.known ms).map (·.1)).Nodup ∧
      found = (shape.known ms).reverse ∧ shape.missing found = none := by
  simp only [fieldsOf, Stop.object, ok_bind, bind_eq_ok]
  constructor
  · rintro ⟨met, read, done⟩
    obtain ⟨admits, distinct, _, rfl⟩ := members_iff.mp read
    split at done
    · cases done
    · rename_i whole
      cases done
      exact ⟨admits, distinct, List.append_nil _, whole⟩
  · rintro ⟨admits, distinct, rfl, whole⟩
    refine ⟨_, members_iff.mpr ⟨admits, distinct, by simp, rfl⟩, ?_⟩
    rw [List.append_nil, whole]
    rfl

theorem missing_eq_none {found : Fields} : shape.missing found = none ↔
    ∀ field ∈ shape.fields, field.optional = false → field.name ∈ found.map (·.1) := by
  simp [missing, List.find?_eq_none]

theorem lookup_known {ms : List (Literal × Tree)} (distinct : ((shape.known ms).map (·.1)).Nodup)
    {name : String} {t : Tree} :
    (shape.known ms).reverse.lookup name = some t ↔ (name, t) ∈ shape.known ms := by
  have reversed : ((shape.known ms).reverse.map (·.1)).Nodup := by
    rw [List.map_reverse]
    exact List.nodup_reverse.mpr distinct
  rw [lookup_iff_mem reversed, List.mem_reverse]

end Shape
end TranscodeConsole.Json
