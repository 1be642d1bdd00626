import TranscodeConsole.Analysis
import TranscodeConsole.Batch
import TranscodeConsole.Figures
import TranscodeConsole.Job
import TranscodeConsole.Proofs.Json.Growth
import TranscodeConsole.Proofs.Json.Written
import TranscodeConsole.Template

/-!
What a later service may add. The objects of jobs, batches, figures, analyses and templates may have
members that are not known here, and their members may stand in any order.
-/
namespace TranscodeConsole

open Json Growth

/-! ### Records of single values -/

abbrev Flat (shape : Shape) : Growth := Record shape fun _ => Eq

theorem Flat.fieldsOf {shape : Shape} {found : Fields} {t t' : Tree} (grown : Flat shape t t')
    (pass : t'.pass = .ok ()) (fields : shape.fieldsOf t = .ok found) :
    ∃ found', shape.fieldsOf t' = .ok found' ∧ Fields.Alike (fun _ => Eq) found found' :=
  Shape.fieldsOf_grown (fun _ _ => steady_eq) grown pass fields

theorem TemplateStep.steady : Steady TemplateStep.read (Flat TemplateStep.shape) := by
  intro t t' v grown pass read
  simp only [TemplateStep.read, bind_eq_ok] at read ⊢
  obtain ⟨found, fields, id, isId, kind, isKind, label, isLabel, same⟩ := read
  obtain ⟨found', fields', alike⟩ := grown.fieldsOf pass fields
  exact ⟨found', fields', id, alike.getD steady_eq isId, kind, alike.getD steady_eq isKind,
    label, alike.getD steady_eq isLabel, same⟩

theorem JobStep.steady : Steady JobStep.read (Flat JobStep.shape) := by
  intro t t' v grown pass read
  simp only [JobStep.read, bind_eq_ok] at read ⊢
  obtain ⟨found, fields, id, isId, kind, isKind, status, isStatus, analysis, isAnalysis, error,
    isError, same⟩ := read
  obtain ⟨found', fields', alike⟩ := grown.fieldsOf pass fields
  exact ⟨found', fields', id, alike.get steady_eq isId, kind, alike.get steady_eq isKind,
    status, alike.get steady_eq isStatus, analysis, alike.getD steady_eq isAnalysis,
    error, alike.getD steady_eq isError, same⟩

theorem BatchEntry.steady : Steady BatchEntry.read (Flat BatchEntry.shape) := by
  intro t t' v grown pass read
  simp only [BatchEntry.read, bind_eq_ok] at read ⊢
  obtain ⟨found, fields, id, isId, path, isPath, kind, isKind, state, isState, same⟩ := read
  obtain ⟨found', fields', alike⟩ := grown.fieldsOf pass fields
  exact ⟨found', fields', id, alike.get steady_eq isId, path, alike.get steady_eq isPath,
    kind, alike.getD steady_eq isKind, state, alike.get steady_eq isState, same⟩

theorem BatchSummary.steady : Steady BatchSummary.read (Flat BatchSummary.shape) := by
  intro t t' v grown pass read
  simp only [BatchSummary.read, bind_eq_ok] at read ⊢
  obtain ⟨found, fields, id, isId, name, isName, pending, isPending, active, isActive, completed,
    isCompleted, failed, isFailed, aborted, isAborted, nonQueued, isNonQueued, running, isRunning,
    same⟩ := read
  obtain ⟨found', fields', alike⟩ := grown.fieldsOf pass fields
  exact ⟨found', fields', id, alike.getD steady_eq isId, name, alike.getD steady_eq isName,
    pending, alike.getD steady_eq isPending, active, alike.getD steady_eq isActive,
    completed, alike.getD steady_eq isCompleted, failed, alike.getD steady_eq isFailed,
    aborted, alike.getD steady_eq isAborted, nonQueued, alike.getD steady_eq isNonQueued,
    running, alike.getD steady_eq isRunning, same⟩

theorem QueueStats.steady : Steady QueueStats.read (Flat QueueStats.shape) := by
  intro t t' v grown pass read
  simp only [QueueStats.read, bind_eq_ok] at read ⊢
  obtain ⟨found, fields, isQueues⟩ := read
  obtain ⟨found', fields', alike⟩ := grown.fieldsOf pass fields
  exact ⟨found', fields', alike.getD steady_eq isQueues⟩

theorem JobTotals.steady : Steady JobTotals.read (Flat JobTotals.shape) := by
  intro t t' v grown pass read
  simp only [JobTotals.read, bind_eq_ok] at read ⊢
  obtain ⟨found, fields, notQueued, isNotQueued, pending, isPending, started, isStarted, completed,
    isCompleted, failed, isFailed, aborted, isAborted, same⟩ := read
  obtain ⟨found', fields', alike⟩ := grown.fieldsOf pass fields
  exact ⟨found', fields', notQueued, alike.getD steady_eq isNotQueued,
    pending, alike.getD steady_eq isPending, started, alike.getD steady_eq isStarted,
    completed, alike.getD steady_eq isCompleted, failed, alike.getD steady_eq isFailed,
    aborted, alike.getD steady_eq isAborted, same⟩

theorem FormatAnalysis.steady : Steady FormatAnalysis.read (Flat FormatAnalysis.shape) := by
  intro t t' v grown pass read
  simp only [FormatAnalysis.read, bind_eq_ok] at read ⊢
  obtain ⟨found, fields, streams, isStreams, programs, isPrograms, name, isName, longName,
    isLongName, start, isStart, duration, isDuration, size, isSize, bitRate, isBitRate, score,
    isScore, same⟩ := read
  obtain ⟨found', fields', alike⟩ := grown.fieldsOf pass fields
  exact ⟨found', fields', streams, alike.getD steady_eq isStreams,
    programs, alike.getD steady_eq isPrograms, name, alike.getD steady_eq isName,
    longName, alike.getD steady_eq isLongName, start, alike.getD steady_eq isStart,
    duration, alike.getD steady_eq isDuration, size, alike.getD steady_eq isSize,
    bitRate, alike.getD steady_eq isBitRate, score, alike.getD steady_eq isScore, same⟩

/-! ### Records with records in them -/

abbrev With (shape : Shape) (name : String) (growth : Growth) : Growth :=
  Record shape fun field => if field = name then growth else Eq

theorem With.fieldsOf {shape : Shape} {name : String} {growth : Growth} {found : Fields}
    {t t' : Tree} (steady : ∀ field ∈ shape.fields, field.name = name → Steady field.check growth)
    (grown : With shape name growth t t') (pass : t'.pass = .ok ())
    (fields : shape.fieldsOf t = .ok found) :
    ∃ found', shape.fieldsOf t' = .ok found' ∧
      Fields.Alike (fun field => if field = name then growth else Eq) found found' := by
  refine Shape.fieldsOf_grown (fun field member => ?_) grown pass fields
  by_cases own : field.name = name
  · exact steady_then own (steady field member own)
  · exact steady_else own

theorem JobTemplate.steady : Steady JobTemplate.read
    (With JobTemplate.shape "Steps" (Each (Flat TemplateStep.shape))) := by
  intro t t' v grown pass read
  simp only [JobTemplate.read, bind_eq_ok] at read ⊢
  obtain ⟨found, fields, id, isId, name, isName, steps, isSteps, same⟩ := read
  have each := TemplateStep.steady.list
  obtain ⟨found', fields', alike⟩ := With.fieldsOf (by
    simpa [JobTemplate.shape, Field.required, Field.defaulted] using each.check) grown pass fields
  exact ⟨found', fields', id, alike.get (steady_else (by decide)) isId,
    name, alike.get (steady_else (by decide)) isName,
    steps, alike.getD (steady_then rfl each) isSteps, same⟩

theorem JobSnapshot.steady : Steady JobSnapshot.read
    (With JobSnapshot.shape "steps" (Each (Flat JobStep.shape))) := by
  intro t t' v grown pass read
  simp only [JobSnapshot.read, bind_eq_ok] at read ⊢
  obtain ⟨found, fields, status, isStatus, completed, isCompleted, steps, isSteps, error, isError,
    same⟩ := read
  have each := JobStep.steady.list
  obtain ⟨found', fields', alike⟩ := With.fieldsOf (by
    simpa [JobSnapshot.shape, Field.required, Field.defaulted] using each.check) grown pass fields
  exact ⟨found', fields', status, alike.get (steady_else (by decide)) isStatus,
    completed, alike.getD (steady_else (by decide)) isCompleted,
    steps, alike.getD (steady_then rfl each) isSteps,
    error, alike.getD (steady_else (by decide)) isError, same⟩

theorem FileFormat.steady : Steady FileFormat.read
    (With FileFormat.shape "formatAnalysis" (Flat FormatAnalysis.shape)) := by
  intro t t' v grown pass read
  simp only [FileFormat.read, bind_eq_ok] at read ⊢
  obtain ⟨found, fields, id, isId, analysis, isAnalysis, same⟩ := read
  obtain ⟨found', fields', alike⟩ := With.fieldsOf (by
    simpa [FileFormat.shape, Field.required] using FormatAnalysis.steady.check) grown pass fields
  exact ⟨found', fields', id, alike.get (steady_else (by decide)) isId,
    analysis, alike.get (steady_then rfl FormatAnalysis.steady) isAnalysis, same⟩

/-! ### Documents -/

/-- Of a document that has grown the same value is read, whatever it is that the service sends. -/
theorem wire_records_tolerant :
    Tolerates JobSnapshot.read (With JobSnapshot.shape "steps" (Each (Flat JobStep.shape))) ∧
    Tolerates JobStep.read (Flat JobStep.shape) ∧
    Tolerates BatchEntry.read (Flat BatchEntry.shape) ∧
    Tolerates BatchSummary.read (Flat BatchSummary.shape) ∧
    Tolerates QueueStats.read (Flat QueueStats.shape) ∧
    Tolerates JobTotals.read (Flat JobTotals.shape) ∧
    Tolerates FormatAnalysis.read (Flat FormatAnalysis.shape) ∧
    Tolerates FileFormat.read
      (With FileFormat.shape "formatAnalysis" (Flat FormatAnalysis.shape)) ∧
    Tolerates TemplateStep.read (Flat TemplateStep.shape) ∧
    Tolerates JobTemplate.read
      (With JobTemplate.shape "Steps" (Each (Flat TemplateStep.shape))) :=
  ⟨JobSnapshot.steady.tolerates, JobStep.steady.tolerates, BatchEntry.steady.tolerates,
    BatchSummary.steady.tolerates, QueueStats.steady.tolerates, JobTotals.steady.tolerates,
    FormatAnalysis.steady.tolerates, FileFormat.steady.tolerates, TemplateStep.steady.tolerates,
    JobTemplate.steady.tolerates⟩

/-- A template as a later service may send it. -/
theorem later_template_read :
    let label := ("InProgressLabel", Tree.text "Cutting")
    let step := Tree.record [label]
    let laterStep := Tree.record [("Weight", .null), label]
    let id := ("Id", Tree.text Uuid.nil.render)
    let name := ("JobTypeName", Tree.text "Recode")
    let sent := Tree.record [id, name, ("Steps", .array [step] .closed)]
    let later := Tree.record
      [("Owner", .record [("Id", .int 7)]), ("Steps", .array [laterStep] .closed), name, id]
    let template : JobTemplate := ⟨Uuid.nil, "Recode", [⟨Uuid.nil, "", "Cutting"⟩]⟩
    readDocument JobTemplate.read sent.write = .ok template ∧
      readDocument JobTemplate.read later.write = .ok template := by
  intro label step laterStep id name sent later template
  have read : readDocument JobTemplate.read sent.write = .ok template := by decide +kernel
  have text : ∀ s, (Tree.text s).Written := Tree.written_text
  have isStep : step.Written := Tree.written_record (by simp [label, text])
  have isLater : laterStep.Written := Tree.written_record (by
    simp [label, text, Tree.written_null])
  have isSent : sent.Written := Tree.written_record (by
    simpa [id, name, text] using Tree.written_array (by simp [isStep]))
  have owner : (Tree.record [("Id", .int 7)]).Written :=
    Tree.written_record (by simp [Tree.written_int])
  have document : later.Written := Tree.written_record (by
    simpa [id, name, text, owner] using Tree.written_array (by simp [isLater]))
  have weight : ∀ m ∈ [(Literal.ofText "Weight", Tree.null)], Foreign TemplateStep.shape m := by
    simpa using ⟨"Weight", Literal.text_ofText _, by decide⟩
  have same : List.Forall₂ (Kept fun _ => Eq) [(.ofText label.1, label.2)] _ :=
    .cons ⟨rfl, fun _ _ => rfl⟩ .nil
  have steps : Flat TemplateStep.shape step laterStep :=
    .object same weight (List.reverse_perm _).symm
  have foreign : ∀ m ∈ [(Literal.ofText "Owner", Tree.record [("Id", .int 7)])],
      Foreign JobTemplate.shape m := by
    simpa using ⟨"Owner", Literal.text_ofText _, by decide⟩
  have kept : Kept (fun field => if field = "Steps" then Each (Flat TemplateStep.shape) else Eq)
      (.ofText "Steps", .array [step] .closed) (.ofText "Steps", .array [laterStep] .closed) :=
    ⟨rfl, by simpa [Literal.text_ofText] using Each.array (.cons steps .nil)⟩
  have grown : With JobTemplate.shape "Steps" (Each (Flat TemplateStep.shape)) sent later := by
    refine .object (.cons ⟨rfl, ?_⟩ (.cons ⟨rfl, ?_⟩ (.cons kept .nil))) foreign
      (List.reverse_perm _).symm
    · simp [id, Literal.text_ofText]
    · simp [name, Literal.text_ofText]
  have tree : (Tree.parse sent.write).1 = sent :=
    congrArg (·.1) (Tree.parse_document isSent.document)
  rw [← tree] at grown
  exact ⟨read, wire_records_tolerant.2.2.2.2.2.2.2.2.2 sent.write template read later.write later
    grown document.document⟩

/-- A key is read before it can be told to be foreign, so it has to be text. -/
theorem surrogate_key_refused :
    let key : Literal := ⟨Bytes.ascii "\\udc00", .closed⟩
    let sent := Tree.record [("notqueued", .int 1)]
    let later := Tree.object [(.ofText "notqueued", .int 1), (key, .int 0)] .closed
    Grammar.Document sent.write sent ∧ Grammar.Document later.write later ∧
      (∀ field ∈ JobTotals.shape.fields, key.text ≠ .ok field.name) ∧
      readDocument JobTotals.read sent.write = .ok { notQueued := 1 } ∧
      readDocument JobTotals.read later.write = .error (.malformed .loneSurrogate) := by
  intro key sent later
  have body : Grammar.Body key.body := .hex (by decide) .nil
  refine ⟨?_, ?_, ?_, ?_, ?_⟩
  · exact (Tree.written_record (by simp [Tree.written_int])).document
  · refine (Tree.written_object ?_ (by simp [Tree.written_int])).document
    simpa [key, Literal.ofText] using ⟨Literal.body_escape _, body⟩
  · decide +kernel
  · decide +kernel
  · decide +kernel

end TranscodeConsole
