import TranscodeConsole.Proofs.Json.Echoes
import TranscodeConsole.Batch
import TranscodeConsole.Figures
import TranscodeConsole.Job
import TranscodeConsole.Template

/-!
What the service sends is restored from what is written for it: jobs, batches, figures and
templates, in whatever form they came.
-/
namespace TranscodeConsole

open Json

/-! ### Codes -/

theorem apply_ite_eq {α β : Type} {p : Prop} [Decidable p] {f : α → β} {x y : α} {b : β}
    (holds : p → f x = b) (fails : ¬ p → f y = b) : f (if p then x else y) = b := by
  by_cases h : p
  · rw [if_pos h, holds h]
  · rw [if_neg h, fails h]

theorem JobStatus.code_ofCode (code : Int) : (ofCode code).code = code := by
  unfold ofCode
  iterate 7 refine apply_ite_eq (fun same => same.symm) fun _ => ?_
  rfl

theorem ItemState.code_ofCode (code : Int) : (ofCode code).code = code := by
  unfold ofCode
  iterate 6 refine apply_ite_eq (fun same => same.symm) fun _ => ?_
  rfl

theorem JobStatus.echoes : Echoes JobStatus.read JobStatus.toTree := by
  intro t status isStatus
  obtain ⟨code, isCode, same⟩ := map_eq_ok.mp isStatus
  subst same
  simp only [JobStatus.read, JobStatus.toTree, JobStatus.code_ofCode, echoes_i64 t code isCode]
  rfl

theorem ItemState.echoes : Echoes ItemState.read ItemState.toTree := by
  intro t state isState
  obtain ⟨code, isCode, same⟩ := map_eq_ok.mp isState
  subst same
  simp only [ItemState.read, ItemState.toTree, ItemState.code_ofCode, echoes_i64 t code isCode]
  rfl

/-! ### Templates -/

theorem TemplateStep.echoes : Echoes TemplateStep.read TemplateStep.toTree := by
  intro _ s _
  apply read_record
  case fits =>
    simp [Shape.field?, TemplateStep.shape, Field.defaulted, readUuid_text, readText_text,
      Except.map]
  case distinct => simp
  case whole => simp [TemplateStep.shape, Field.defaulted]
  case built =>
    intro found same
    simp [Fields.getD, same, List.lookup_cons, readUuid_text, readText_text, ok_bind]

theorem JobTemplate.echoes : Echoes JobTemplate.read JobTemplate.toTree := by
  intro t v read
  simp only [JobTemplate.read, bind_eq_ok] at read
  obtain ⟨_, _, id, _, name, _, steps, stepsRead, same⟩ := read
  cases same
  have stepsAgain := getD_echoes stepsRead (echoes_list TemplateStep.echoes) rfl
  apply read_record
  case fits =>
    simp [Shape.field?, JobTemplate.shape, Field.required, Field.defaulted, readUuid_text,
      readText_text, stepsAgain, Except.map]
  case distinct => simp
  case whole => simp [JobTemplate.shape, Field.required, Field.defaulted]
  case built =>
    intro found same
    simp [Fields.get, Fields.getD, same, List.lookup_cons, readUuid_text, readText_text, stepsAgain,
      ok_bind]

/-! ### Jobs -/

theorem JobStep.echoes : Echoes JobStep.read JobStep.toTree := by
  intro t v read
  simp only [JobStep.read, bind_eq_ok] at read
  obtain ⟨_, _, id, _, kind, _, status, isStatus, analysis, _, error, _, same⟩ := read
  cases same
  have statusAgain := get_echoes isStatus JobStatus.echoes
  apply read_record
  case fits =>
    cases analysis <;> cases error <;>
      simp [Shape.field?, JobStep.shape, Field.required, Field.defaulted, readUuid_text,
        readText_text, statusAgain, readOption_text, Except.map]
  case distinct =>
    cases analysis <;> cases error <;> simp
  case whole => simp [JobStep.shape, Field.required, Field.defaulted]
  case built =>
    intro found same
    cases analysis <;> cases error <;>
      simp [Fields.get, Fields.getD, same, List.lookup_cons, readUuid_text, readText_text,
        statusAgain, readOption_text, ok_bind, Except.map]

theorem JobSnapshot.echoes : Echoes JobSnapshot.read JobSnapshot.toTree := by
  intro t v read
  simp only [JobSnapshot.read, bind_eq_ok] at read
  obtain ⟨_, _, status, isStatus, completed, isCount, steps, isSteps, error, _, same⟩ := read
  cases same
  have statusAgain := get_echoes isStatus JobStatus.echoes
  have completedAgain := getD_echoes isCount echoes_u32 readU32_zero
  have stepsAgain := getD_echoes isSteps (echoes_list JobStep.echoes) rfl
  apply read_record
  case fits =>
    cases error <;>
      simp [Shape.field?, JobSnapshot.shape, Field.required, Field.defaulted, readText_text,
        statusAgain, completedAgain, stepsAgain, readOption_text, Except.map]
  case distinct =>
    cases error <;> simp
  case whole => simp [JobSnapshot.shape, Field.required, Field.defaulted]
  case built =>
    intro found same
    cases error <;>
      simp [Fields.get, Fields.getD, same, List.lookup_cons, readText_text, statusAgain,
        completedAgain, stepsAgain, readOption_text, ok_bind, Except.map]

/-! ### Batches -/

theorem BatchEntry.echoes : Echoes BatchEntry.read BatchEntry.toTree := by
  intro t v read
  simp only [BatchEntry.read, bind_eq_ok] at read
  obtain ⟨_, _, id, _, path, _, kind, isKind, state, isState, same⟩ := read
  cases same
  have kindAgain := getD_echoes isKind (echoes_option echoes_text text_ne_null) rfl
  have stateAgain := get_echoes isState ItemState.echoes
  apply read_record
  case fits =>
    simp [Shape.field?, BatchEntry.shape, Field.required, Field.defaulted, readUuid_text,
      readText_text, kindAgain, stateAgain, Except.map]
  case distinct => simp
  case whole => simp [BatchEntry.shape, Field.required, Field.defaulted]
  case built =>
    intro found same
    simp [Fields.get, Fields.getD, same, List.lookup_cons, readUuid_text, readText_text, kindAgain,
      stateAgain, ok_bind]

theorem BatchSummary.echoes : Echoes BatchSummary.read BatchSummary.toTree := by
  intro t v read
  simp only [BatchSummary.read, bind_eq_ok] at read
  obtain ⟨_, _, id, _, name, _, pending, isPending, active, isActive, completed, isCompleted,
    failed, isFailed, aborted, isAborted, nonQueued, isNonQueued, running, isRunning, same⟩ := read
  cases same
  have pendingAgain := getD_echoes isPending echoes_u64 readU64_zero
  have activeAgain := getD_echoes isActive echoes_u64 readU64_zero
  have completedAgain := getD_echoes isCompleted echoes_u64 readU64_zero
  have failedAgain := getD_echoes isFailed echoes_u64 readU64_zero
  have abortedAgain := getD_echoes isAborted echoes_u64 readU64_zero
  have nonQueuedAgain := getD_echoes isNonQueued echoes_u64 readU64_zero
  have runningAgain := getD_echoes isRunning (echoes_list echoes_text) rfl
  apply read_record
  case fits =>
    simp [Shape.field?, BatchSummary.shape, Field.defaulted, readUuid_text, readText_text,
      pendingAgain, activeAgain, completedAgain, failedAgain, abortedAgain, nonQueuedAgain,
      runningAgain, Except.map]
  case distinct => simp
  case whole => simp [BatchSummary.shape, Field.defaulted]
  case built =>
    intro found same
    simp [Fields.getD, same, List.lookup_cons, readUuid_text, readText_text, pendingAgain,
      activeAgain, completedAgain, failedAgain, abortedAgain, nonQueuedAgain, runningAgain, ok_bind]

/-! ### Figures -/

namespace QueueStats

/-- The queues stand in the order of their names, each once. -/
def Sorted (queues : List (String × Nat)) : Prop := queues.Pairwise (·.1 < ·.1)

theorem mem_insert {name : String} {size : Nat} {queues : List (String × Nat)} {q : String × Nat}
    (member : q ∈ insert name size queues) : q = (name, size) ∨ q ∈ queues := by
  fun_induction insert name size queues with
  | case1 => exact .inl (List.mem_singleton.mp member)
  | case2 n rest => exact (List.mem_cons.mp member).imp id (.tail _)
  | case3 other n rest _ before => exact List.mem_cons.mp member
  | case4 other n rest differs behind ih =>
    rcases List.mem_cons.mp member with rfl | later
    · exact .inr (.head _)
    · exact (ih later).imp id (.tail _)

theorem sorted_insert {name : String} {size : Nat} {queues : List (String × Nat)}
    (sorted : Sorted queues) : Sorted (insert name size queues) := by
  fun_induction insert name size queues with
  | case1 => exact List.pairwise_singleton _ _
  | case2 n rest =>
    obtain ⟨first, later⟩ := List.pairwise_cons.mp sorted
    exact List.pairwise_cons.mpr ⟨first, later⟩
  | case3 other n rest _ before =>
    obtain ⟨first, _⟩ := List.pairwise_cons.mp sorted
    refine List.pairwise_cons.mpr ⟨fun q member => ?_, sorted⟩
    rcases List.mem_cons.mp member with rfl | later
    · exact before
    · exact String.lt_trans before (first q later)
  | case4 other n rest differs behind ih =>
    obtain ⟨first, later⟩ := List.pairwise_cons.mp sorted
    refine List.pairwise_cons.mpr ⟨fun q member => ?_, ih later⟩
    rcases mem_insert member with rfl | there
    · exact Std.lt_of_le_of_ne (String.not_lt.mp behind) (Ne.symm differs)
    · exact first q there

theorem insert_last {name : String} {size : Nat} {queues : List (String × Nat)}
    (last : ∀ q ∈ queues, q.1 < name) : insert name size queues = queues ++ [(name, size)] := by
  induction queues with
  | nil => rfl
  | cons q queues ih =>
    have before := last q (.head _)
    have differs : name ≠ q.1 := fun same => String.lt_irrefl _ (same ▸ before)
    rw [insert, if_neg differs, if_neg (String.lt_asymm before),
      ih fun r later => last r (.tail _ later)]
    rfl

theorem foldl_insert {entries queues : List (String × Nat)} (sorted : Sorted queues) :
    let after := entries.foldl (fun queues (name, size) => insert name size queues) queues
    Sorted after ∧ ∀ q ∈ after, q ∈ queues ∨ q ∈ entries := by
  induction entries generalizing queues with
  | nil => exact ⟨sorted, fun q => .inl⟩
  | cons entry entries ih =>
    obtain ⟨sorted', known⟩ := ih (@sorted_insert entry.1 entry.2 _ sorted)
    refine ⟨sorted', fun q member => ?_⟩
    rcases known q member with before | later
    · exact (mem_insert before).elim (fun same => .inr (same ▸ .head _)) .inl
    · exact .inr (.tail _ later)

theorem foldl_sorted {queues later : List (String × Nat)} (sorted : Sorted (queues ++ later)) :
    later.foldl (fun queues (name, size) => insert name size queues) queues = queues ++ later := by
  induction later generalizing queues with
  | nil => simp
  | cons q later ih =>
    have last : ∀ p ∈ queues, p.1 < q.1 := fun p member =>
      (List.pairwise_append.mp sorted).2.2 p member q (.head _)
    rw [List.append_cons] at sorted ⊢
    rw [List.foldl_cons, ← ih sorted, ← insert_last last]

theorem readQueues_echoes :
    Echoes readQueues fun s => .record (s.queues.map fun q => (q.1, .int q.2)) := by
  intro t v read
  obtain ⟨entries, isMap, rfl⟩ := map_eq_ok.mp read
  obtain ⟨sorted, known⟩ := @foldl_insert entries [] .nil
  have sizes := entries_echo echoes_u64 isMap
  have again : ∀ q ∈ (ofEntries entries).queues, readU64 (.int q.2) = .ok q.2 := by
    intro q member
    exact sizes q ((known q member).resolve_left (by simp))
  have whole := @readEntries_record Nat readU64 (fun n => .int n) _ again
  beta_reduce
  rw [readQueues, whole]
  exact congrArg Except.ok (congrArg QueueStats.mk (@foldl_sorted [] _ sorted))

theorem echoes : Echoes QueueStats.read QueueStats.toTree := by
  intro t v read
  simp only [QueueStats.read, bind_eq_ok] at read
  obtain ⟨_, _, isQueues⟩ := read
  have queues := getD_echoes isQueues readQueues_echoes rfl
  apply read_record
  case fits =>
    simp [Shape.field?, shape, Field.defaulted, queues, Except.map]
  case distinct => simp
  case whole => simp [shape, Field.defaulted]
  case built =>
    intro found same
    simp [Fields.getD, same, queues]

end QueueStats

theorem JobTotals.echoes : Echoes JobTotals.read JobTotals.toTree := by
  intro t v read
  simp only [JobTotals.read, bind_eq_ok] at read
  obtain ⟨_, _, notQueued, isNotQueued, pending, isPending, started, isStarted, completed,
    isCompleted, failed, isFailed, aborted, isAborted, same⟩ := read
  cases same
  have notQueuedAgain := getD_echoes isNotQueued echoes_u64 readU64_zero
  have pendingAgain := getD_echoes isPending echoes_u64 readU64_zero
  have startedAgain := getD_echoes isStarted echoes_u64 readU64_zero
  have completedAgain := getD_echoes isCompleted echoes_u64 readU64_zero
  have failedAgain := getD_echoes isFailed echoes_u64 readU64_zero
  have abortedAgain := getD_echoes isAborted echoes_u64 readU64_zero
  apply read_record
  case fits =>
    simp [Shape.field?, JobTotals.shape, Field.defaulted, notQueuedAgain, pendingAgain,
      startedAgain, completedAgain, failedAgain, abortedAgain, Except.map]
  case distinct => simp
  case whole => simp [JobTotals.shape, Field.defaulted]
  case built =>
    intro found same
    simp [Fields.getD, same, List.lookup_cons, notQueuedAgain, pendingAgain, startedAgain,
      completedAgain, failedAgain, abortedAgain, ok_bind]

/-! ### Documents -/

/-- Whatever document a value is read from, the document that is written for it gives it again. -/
def Restores {α : Type} (read : Reader α) (write : α → Tree) : Prop :=
  ∀ bytes v, readDocument read bytes = .ok v → readDocument read (write v).write = .ok v

theorem restores_of_echoes {α : Type} {read : Reader α} {write : α → Tree}
    (echoes : Echoes read write) (written : ∀ v, (write v).Written) : Restores read write := by
  intro bytes v isDocument
  rw [readDocument_of_document (written v).document]
  exact echoes _ v (readDocument_iff.mp isDocument).1

open Tree in
theorem TemplateStep.written (s : TemplateStep) : s.toTree.Written :=
  written_record (by simp [written_text])

open Tree in
theorem JobTemplate.written (t : JobTemplate) : t.toTree.Written :=
  written_record (by simp [written_text, written_list TemplateStep.written])

open Tree in
theorem JobStep.written (s : JobStep) : s.toTree.Written := by
  apply written_record
  obtain ⟨id, kind, status, analysis, error⟩ := s
  cases analysis <;> cases error <;> simp [written_text, JobStatus.toTree, written_int]

open Tree in
theorem JobSnapshot.written (s : JobSnapshot) : s.toTree.Written := by
  apply written_record
  obtain ⟨status, completed, steps, error⟩ := s
  cases error <;>
    simp [written_text, JobStatus.toTree, written_int, written_list JobStep.written]

open Tree in
theorem BatchEntry.written (e : BatchEntry) : e.toTree.Written := by
  apply written_record
  simp [written_text, written_option written_text, ItemState.toTree, written_int]

open Tree in
theorem BatchSummary.written (s : BatchSummary) : s.toTree.Written :=
  written_record (by simp [written_text, written_int, written_list written_text])

open Tree in
theorem QueueStats.written (s : QueueStats) : s.toTree.Written := by
  have queues : (Tree.record (s.queues.map fun q => (q.1, .int q.2))).Written := by
    apply written_record
    intro m member
    obtain ⟨q, _, rfl⟩ := List.mem_map.mp member
    exact written_int q.2
  exact written_record (by simpa using queues)

open Tree in
theorem JobTotals.written (s : JobTotals) : s.toTree.Written :=
  written_record (by simp [written_int])

/-- Every value that is read of a document is restored from what is written for it. -/
theorem wire_values_restored :
    Restores JobSnapshot.read JobSnapshot.toTree ∧ Restores JobStep.read JobStep.toTree ∧
    Restores BatchEntry.read BatchEntry.toTree ∧ Restores BatchSummary.read BatchSummary.toTree ∧
    Restores QueueStats.read QueueStats.toTree ∧ Restores JobTotals.read JobTotals.toTree ∧
    Restores TemplateStep.read TemplateStep.toTree ∧
    Restores JobTemplate.read JobTemplate.toTree :=
  ⟨restores_of_echoes JobSnapshot.echoes JobSnapshot.written,
    restores_of_echoes JobStep.echoes JobStep.written,
    restores_of_echoes BatchEntry.echoes BatchEntry.written,
    restores_of_echoes BatchSummary.echoes BatchSummary.written,
    restores_of_echoes QueueStats.echoes QueueStats.written,
    restores_of_echoes JobTotals.echoes JobTotals.written,
    restores_of_echoes TemplateStep.echoes TemplateStep.written,
    restores_of_echoes JobTemplate.echoes JobTemplate.written⟩

/-- A step in the form of a list, with an escape, a plain identifier and a code that is new. -/
theorem listed_step_restored :
    let doc := Bytes.ascii "[\"5B1E8C2A3C1F4D8E9A510F6A2D8B7C11\", \"re\\u0063ode\", 9, null]"
    ∃ step : JobStep, readDocument JobStep.read doc = .ok step ∧ step.status = .unknown 9 ∧
      step.kind = "recode" ∧ readDocument JobStep.read step.toTree.write = .ok step := by
  intro doc
  let id : Uuid := ⟨[5, 11, 1, 14, 8, 12, 2, 10, 3, 12, 1, 15, 4, 13, 8, 14, 9, 10, 5, 1, 0, 15, 6,
    10, 2, 13, 8, 11, 7, 12, 1, 1], rfl⟩
  let step : JobStep := ⟨id, "recode", .unknown 9, none, none⟩
  have isStep : readDocument JobStep.read doc = .ok step := by decide +kernel
  exact ⟨step, isStep, rfl, rfl, wire_values_restored.2.1 doc step isStep⟩

end TranscodeConsole
