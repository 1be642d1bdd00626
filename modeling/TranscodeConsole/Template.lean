import TranscodeConsole.Json.Record
import TranscodeConsole.Json.Write

/-!
Job templates, the choice between them, and how far a job has come in the steps of its template.
-/
namespace TranscodeConsole

open Json

structure TemplateStep where
  id : Uuid
  kind : String
  label : String
  deriving DecidableEq, Repr

namespace TemplateStep

def shape : Shape :=
  { name := "TemplateStep"
    fields := [
      .defaulted "Id" readUuid,
      .defaulted "PredeterminedType" readText,
      .defaulted "InProgressLabel" readText] }

def read : Reader TemplateStep := fun t => do
  let found ← shape.fieldsOf t
  return {
    id := ← found.getD "Id" readUuid Uuid.nil
    kind := ← found.getD "PredeterminedType" readText ""
    label := ← found.getD "InProgressLabel" readText "" }

def toTree (s : TemplateStep) : Tree :=
  .record [("Id", .text s.id.render), ("PredeterminedType", .text s.kind),
    ("InProgressLabel", .text s.label)]

end TemplateStep

structure JobTemplate where
  id : Uuid
  name : String
  steps : List TemplateStep
  deriving DecidableEq, Repr

namespace JobTemplate

def shape : Shape :=
  { name := "JobTemplate"
    fields := [
      .required "Id" readUuid,
      .required "JobTypeName" readText,
      .defaulted "Steps" (readList TemplateStep.read)] }

def read : Reader JobTemplate := fun t => do
  let found ← shape.fieldsOf t
  return {
    id := ← found.get "Id" readUuid
    name := ← found.get "JobTypeName" readText
    steps := ← found.getD "Steps" (readList TemplateStep.read) [] }

def toTree (t : JobTemplate) : Tree :=
  .record [("Id", .text t.id.render), ("JobTypeName", .text t.name),
    ("Steps", .list TemplateStep.toTree t.steps)]

structure Choice where
  id : Uuid
  label : String
  deriving DecidableEq, Repr

def choices (templates : List JobTemplate) : List Choice :=
  ⟨Uuid.nil, "(none)"⟩ :: templates.map fun t => ⟨t.id, t.name⟩

end JobTemplate

inductive StepProgress where
  | done
  | inProgress
  | notStarted
  deriving DecidableEq, Repr

/-- Every step's label with its progress when `completed` steps are finished. -/
def TemplateStep.progress (steps : List TemplateStep) (completed : Nat) :
    List (String × StepProgress) :=
  steps.zipIdx.map fun (step, i) =>
    (step.label,
      if i < completed then .done else if i = completed then .inProgress else .notStarted)

end TranscodeConsole
