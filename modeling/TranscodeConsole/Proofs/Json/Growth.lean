import TranscodeConsole.Proofs.Json.Members
import TranscodeConsole.Proofs.Json.Parsing
import Mathlib.Data.List.Forall2

/-!
Objects that have grown: their members stand in another order, with further members among them.
A reader of records takes the value from them that it took before, at every depth at which records
are read.
-/
namespace TranscodeConsole.Json

/-- What a tree may become. -/
abbrev Growth := Tree → Tree → Prop

namespace Growth

inductive Each (item : Growth) : Growth where
  | array {ts ts' : List Tree} (each : List.Forall₂ item ts ts') :
      Each item (.array ts .closed) (.array ts' .closed)

structure Kept (within : String → Growth) (m m' : Literal × Tree) : Prop where
  key : m'.1 = m.1
  value : ∀ name, m.1.text = .ok name → within name m.2 m'.2

def Foreign (shape : Shape) (m : Literal × Tree) : Prop :=
  ∃ name, m.1.text = .ok name ∧ ∀ field ∈ shape.fields, field.name ≠ name

/-- An object with all its members and foreign ones, in any order. -/
inductive Record (shape : Shape) (within : String → Growth) : Growth where
  | object {ms kept new ms' : List (Literal × Tree)} (all : List.Forall₂ (Kept within) ms kept)
      (foreign : ∀ m ∈ new, Foreign shape m) (order : List.Perm (kept ++ new) ms') :
      Record shape within (.object ms .closed) (.object ms' .closed)

end Growth

open Growth

/-- What is read of a tree is read of every whole tree that it grows into. -/
def Steady {α : Type} (read : Reader α) (growth : Growth) : Prop :=
  ∀ t t' v, growth t t' → t'.pass = .ok () → read t = .ok v → read t' = .ok v

variable {α : Type} {read : Reader α} {growth : Growth}

theorem steady_eq : Steady read Eq := fun _ _ _ same _ isRead => same ▸ isRead

theorem steady_then {p : Prop} [Decidable p] (holds : p) (steady : Steady read growth) :
    Steady read (if p then growth else Eq) := by
  rw [if_pos holds]
  exact steady

theorem steady_else {p : Prop} [Decidable p] (fails : ¬ p) :
    Steady read (if p then growth else Eq) := by
  rw [if_neg fails]
  exact steady_eq

theorem Steady.check (steady : Steady read growth) :
    Steady (fun t => (read t).map fun _ => ()) growth := by
  intro t t' _ grown pass checked
  obtain ⟨v, isRead, same⟩ := map_eq_ok.mp checked
  exact map_eq_ok.mpr ⟨v, steady t t' v grown pass isRead, same⟩

/-! ### Whole trees have whole parts -/

theorem Tree.pass_of_mem {ts : List Tree} (pass : Tree.passItems ts = .ok ()) :
    ∀ t ∈ ts, t.pass = .ok () := by
  induction ts with
  | nil => simp
  | cons t ts ih =>
    obtain ⟨first, later⟩ := then_eq_ok.mp pass
    exact List.forall_mem_cons.mpr ⟨first, ih later⟩

theorem Tree.pass_of_member {ms : List (Literal × Tree)} (pass : Tree.passMembers ms = .ok ()) :
    ∀ m ∈ ms, m.2.pass = .ok () := by
  induction ms with
  | nil => simp
  | cons m ms ih =>
    obtain ⟨_, behind⟩ := then_eq_ok.mp pass
    obtain ⟨first, later⟩ := then_eq_ok.mp behind
    exact List.forall_mem_cons.mpr ⟨first, ih later⟩

theorem Steady.list (steady : Steady read growth) : Steady (readList read) (Each growth) := by
  rintro _ _ values ⟨each⟩ pass isList
  obtain ⟨items, _⟩ := then_eq_ok.mp pass
  have whole := Tree.pass_of_mem items
  obtain ⟨vs, all, same⟩ := bind_eq_ok.mp isList
  refine bind_eq_ok.mpr ⟨vs, ?_, same⟩
  clear pass isList items same
  induction each generalizing vs with
  | nil => exact all
  | @cons t t' ts ts' first _ ih =>
    obtain ⟨pass, later⟩ := List.forall_mem_cons.mp whole
    rw [List.mapM_cons] at all ⊢
    obtain ⟨v, isFirst, rest⟩ := bind_eq_ok.mp all
    obtain ⟨ws, isRest, same⟩ := bind_eq_ok.mp rest
    exact bind_eq_ok.mpr ⟨v, steady t t' v first pass isFirst,
      bind_eq_ok.mpr ⟨ws, ih later ws isRest, same⟩⟩

/-! ### Fields -/

def Fields.Alike (within : String → Growth) (found found' : Fields) : Prop :=
  ∀ name, Option.Rel (fun t t' => within name t t' ∧ t'.pass = .ok ())
    (found.lookup name) (found'.lookup name)

variable {within : String → Growth} {found found' : Fields} {name : String} {v : α}

theorem Fields.Alike.get (alike : Fields.Alike within found found')
    (steady : Steady read (within name)) (got : found.get name read = .ok v) :
    found'.get name read = .ok v := by
  have related := alike name
  unfold Fields.get at got ⊢
  generalize found.lookup name = before, found'.lookup name = after at related got ⊢
  cases related with
  | none => exact got
  | some grown => exact steady _ _ v grown.1 grown.2 got

theorem Fields.Alike.getD (alike : Fields.Alike within found found') {absent : α}
    (steady : Steady read (within name)) (got : found.getD name read absent = .ok v) :
    found'.getD name read absent = .ok v := by
  have related := alike name
  unfold Fields.getD at got ⊢
  generalize found.lookup name = before, found'.lookup name = after at related got ⊢
  cases related with
  | none => exact got
  | some grown => exact steady _ _ v grown.1 grown.2 got

theorem lookup_perm {found found' : Fields} (distinct : (found.map (·.1)).Nodup)
    (order : List.Perm found found') (name : String) : found.lookup name = found'.lookup name := by
  have distinct' : (found'.map (·.1)).Nodup := (order.map _).nodup_iff.mp distinct
  ext t
  rw [lookup_iff_mem distinct, lookup_iff_mem distinct', order.mem_iff]

structure Grown (within : String → Growth) (entry entry' : String × Tree) : Prop where
  name : entry'.1 = entry.1
  value : within entry.1 entry.2 entry'.2
  pass : entry'.2.pass = .ok ()

theorem exists_related {σ τ : Type} {R : σ → τ → Prop} {xs : List σ} {ys : List τ}
    (all : List.Forall₂ R xs ys) {y : τ} (member : y ∈ ys) : ∃ x ∈ xs, R x y := by
  induction all with
  | nil => cases member
  | @cons x _ _ _ first _ ih =>
    rcases List.mem_cons.mp member with rfl | later
    · exact ⟨x, .head _, first⟩
    · obtain ⟨x', there, related⟩ := ih later
      exact ⟨x', .tail _ there, related⟩

theorem names_grown {known known' : Fields} (all : List.Forall₂ (Grown within) known known') :
    known'.map (·.1) = known.map (·.1) := by
  induction all with
  | nil => rfl
  | cons first _ ih => rw [List.map_cons, List.map_cons, first.name, ih]

theorem alike_grown {known known' : Fields} (all : List.Forall₂ (Grown within) known known') :
    Fields.Alike within known known' := by
  intro name
  induction all with
  | nil => exact .none
  | @cons entry entry' _ _ first _ ih =>
    rw [List.lookup_cons, List.lookup_cons, first.name]
    by_cases here : name == entry.1
    · rw [eq_of_beq here]
      simpa using Option.Rel.some ⟨first.value, first.pass⟩
    · simpa [here] using ih

/-! ### Objects -/

namespace Shape

variable {shape : Shape} {ms kept new : List (Literal × Tree)}

theorem field?_iff_none {name : String} :
    shape.field? name = none ↔ ∀ field ∈ shape.fields, field.name ≠ name := by
  simp [field?, List.find?_eq_none]

theorem known_foreign (foreign : ∀ m ∈ new, Foreign shape m) : shape.known new = [] := by
  rw [known, List.filterMap_eq_nil_iff]
  intro m member
  obtain ⟨name, text, other⟩ := foreign m member
  simp [fieldOf, text, field?_iff_none.mpr other]

theorem known_moved {ms' : List (Literal × Tree)} (foreign : ∀ m ∈ new, Foreign shape m)
    (order : List.Perm (kept ++ new) ms') : List.Perm (shape.known kept) (shape.known ms') := by
  have both : shape.known (kept ++ new) = shape.known kept := by
    rw [known, List.filterMap_append]
    exact (congrArg _ (known_foreign foreign)).trans (List.append_nil _)
  exact both ▸ order.filterMap _

theorem fieldOf_kept {m m' : Literal × Tree} (kept : Kept within m m')
    (pass : m'.2.pass = .ok ()) :
    Option.Rel (Grown within) (shape.fieldOf m) (shape.fieldOf m') := by
  unfold fieldOf
  rw [kept.key]
  cases text : m.1.text with
  | error _ => exact .none
  | ok name =>
    dsimp only
    cases shape.field? name with
    | none => exact .none
    | some _ => exact .some ⟨rfl, kept.value name text, pass⟩

theorem known_kept (all : List.Forall₂ (Kept within) ms kept)
    (whole : ∀ m ∈ kept, m.2.pass = .ok ()) :
    List.Forall₂ (Grown within) (shape.known ms) (shape.known kept) := by
  induction all with
  | nil => exact .nil
  | @cons m m' _ _ first _ ih =>
    obtain ⟨pass, later⟩ := List.forall_mem_cons.mp whole
    have field := @fieldOf_kept _ shape _ _ first pass
    rw [known, known, List.filterMap_cons, List.filterMap_cons]
    generalize shape.fieldOf m = before, shape.fieldOf m' = after at field ⊢
    cases field with
    | none => exact ih later
    | some grown => exact .cons grown (ih later)

theorem admits_kept (steady : ∀ field ∈ shape.fields, Steady field.check (within field.name))
    {m m' : Literal × Tree} {name : String} (kept : Kept within m m') (pass : m'.2.pass = .ok ())
    (admits : shape.Admits m name) : shape.Admits m' name := by
  obtain ⟨text, value⟩ := admits
  refine ⟨kept.key ▸ text, ?_⟩
  cases found : shape.field? name with
  | none => exact pass
  | some field =>
    rw [found] at value
    have member : field ∈ shape.fields := List.mem_of_find?_eq_some found
    have named : field.name = name := by simpa using List.find?_some found
    exact steady field member _ _ () (named ▸ kept.value name text) pass value

theorem admits_foreign {m : Literal × Tree} (foreign : Foreign shape m)
    (pass : m.2.pass = .ok ()) : ∃ name, shape.Admits m name := by
  obtain ⟨name, text, other⟩ := foreign
  exact ⟨name, text, by simpa [field?_iff_none.mpr other] using pass⟩

theorem fieldsOf_grown (steady : ∀ field ∈ shape.fields, Steady field.check (within field.name))
    {t t' : Tree} (grown : Record shape within t t') (pass : t'.pass = .ok ())
    (fields : shape.fieldsOf t = .ok found) :
    ∃ found', shape.fieldsOf t' = .ok found' ∧ Fields.Alike within found found' := by
  obtain @⟨ms, kept, new, ms', all, foreign, order⟩ := grown
  obtain ⟨members, _⟩ := then_eq_ok.mp pass
  have whole := Tree.pass_of_member members
  have whole_kept : ∀ m ∈ kept, m.2.pass = .ok () := fun m member =>
    whole m (order.mem_iff.mp (List.mem_append_left _ member))
  obtain ⟨admits, distinct, rfl, present⟩ := fieldsOf_iff.mp fields
  have related : List.Forall₂ (Grown within) (shape.known ms) (shape.known kept) :=
    known_kept all whole_kept
  have moved : List.Perm (shape.known kept) (shape.known ms') := known_moved foreign order
  have names : List.Perm ((shape.known ms).map (·.1)) ((shape.known ms').map (·.1)) :=
    names_grown related ▸ moved.map _
  have distinct_kept : ((shape.known kept).map (·.1)).Nodup := names_grown related ▸ distinct
  have distinct' := names.nodup_iff.mp distinct
  refine ⟨(shape.known ms').reverse, fieldsOf_iff.mpr ⟨?_, distinct', rfl, ?_⟩, ?_⟩
  · intro m' member
    rcases List.mem_append.mp (order.mem_iff.mpr member) with old | added
    · obtain ⟨m, before, same⟩ := exists_related all old
      obtain ⟨name, ok⟩ := admits m before
      exact ⟨name, admits_kept steady same (whole m' member) ok⟩
    · exact admits_foreign (foreign m' added) (whole m' member)
  · rw [missing_eq_none] at present ⊢
    intro field member needed
    have before := present field member needed
    rw [List.map_reverse, List.mem_reverse] at before ⊢
    exact names.mem_iff.mp before
  · intro name
    have first := lookup_perm distinct (List.reverse_perm _).symm name
    have second := lookup_perm distinct_kept (moved.trans (List.reverse_perm _).symm) name
    rw [← first, ← second]
    exact alike_grown related name

end Shape

/-! ### Documents -/

/-- What is read of a document is read of every document that its tree grows into. -/
def Tolerates {α : Type} (read : Reader α) (growth : Growth) : Prop :=
  ∀ s v, readDocument read s = .ok v →
    ∀ s' t', growth (Tree.parse s).1 t' → Grammar.Document s' t' → readDocument read s' = .ok v

theorem Steady.tolerates (steady : Steady read growth) : Tolerates read growth := by
  intro s v isRead s' t' grown document
  rw [readDocument_of_document document]
  obtain ⟨_, _, _, value, _⟩ := document
  exact steady _ t' v grown value.pass (readDocument_iff.mp isRead).1

end TranscodeConsole.Json
