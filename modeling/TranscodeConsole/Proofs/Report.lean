import Mathlib.Data.List.Basic
import TranscodeConsole.Report

/-!
Texts of several lines, line by line: the items of a listing and the steps of a job stand in order,
each on a line of its own.
-/
namespace TranscodeConsole.Report

/-- Lines, each of them ended. -/
def text (lines : List String) : String := String.join (lines.map (· ++ "\n"))

@[simp] theorem text_nil : text [] = "" := String.join_nil

@[simp] theorem text_cons (line : String) (lines : List String) :
    text (line :: lines) = line ++ "\n" ++ text lines := String.join_cons

@[simp] theorem text_append (first later : List String) :
    text (first ++ later) = text first ++ text later := by
  simp [text, String.join_append]

/-! ### Listings -/

def headLine (batch : Uuid) (filter : Filter) (items pages : Nat) : String :=
  let name := filter.elim "all" ItemState.label
  s!"batch {batch.render} [{name}]: {items} items, {pages} page(s)"

def itemLine (e : BatchEntry) : String :=
  "  " ++ e.state.label ++ String.ofList (List.replicate (11 - e.state.label.length) ' ') ++ " " ++
    e.path

def noteLines (v : Listing.View) : List String :=
  (if 0 < v.malformed then
      [s!"  ({v.malformed} unreadable record(s) skipped)"] else []) ++
    v.lastError.toList.map ("error: " ++ ·) ++
    (if v.moreAvailable then ["more items available"] else [])

theorem entryLine_text (e : BatchEntry) : entryLine e = itemLine e ++ "\n" := by
  simp only [entryLine, line, padRight, itemLine, String.append_assoc]
  rfl

theorem batchPage_text {v : Listing.View} {batch : Uuid} (shown : v.batch = some batch) :
    batchPage v = text (headLine batch v.filter v.entries.length v.pages ::
      v.entries.map itemLine ++ noteLines v) := by
  have line_eq : entryLine = fun e => itemLine e ++ "\n" := funext entryLine_text
  have items : String.join (v.entries.map entryLine) = text (v.entries.map itemLine) := by
    rw [line_eq, text, List.map_map]
    rfl
  have parts : ∀ head items skipped error more : String,
      head ++ items ++ skipped ++ error ++ more = head ++ (items ++ (skipped ++ error ++ more)) := by
    simp [String.append_assoc]
  rw [List.cons_append, text_cons, text_append, ← items, noteLines, text_append, text_append,
    batchPage, shown, parts]
  congr 1
  · cases v.filter <;> rfl
  congr 1
  congr 1
  · congr 1
    · split
      · simp only [text_cons, text_nil, String.append_empty, line]
      · rfl
    · cases v.lastError <;> simp [line]
  · split <;> simp [line]

/-! ### Jobs -/

def stepLine (completed index : Nat) (step : TemplateStep) : String :=
  "  [" ++ (if index < completed then "x" else if index = completed then ">" else " ") ++ "] " ++
    step.label

theorem jobSteps_text (steps : List TemplateStep) (completed : Nat) :
    jobSteps steps completed = text (steps.mapIdx (stepLine completed)) := by
  simp only [jobSteps, TemplateStep.progress, text, List.mapIdx_eq_zipIdx_map, List.map_map]
  congr 2
  funext ⟨step, index⟩
  simp only [Function.comp_apply, line, stepLine]
  split
  · rfl
  · split <;> rfl

end TranscodeConsole.Report
