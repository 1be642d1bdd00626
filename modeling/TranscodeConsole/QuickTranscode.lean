import TranscodeConsole.Job
import TranscodeConsole.Analysis

/-!
A quick transcode as a state machine: a job is created for one file, the file is uploaded, and the
job is followed until the analysis of the upload is there. A failure freezes the machine until it
is reset.
-/
namespace TranscodeConsole.QuickTranscode

inductive Phase where
  | idle
  | uploading
  | polling
  | analysisReady
  deriving DecidableEq, Repr

def Phase.ordinal : Phase → Nat
  | .idle => 0
  | .uploading => 1
  | .polling => 2
  | .analysisReady => 3

structure State where
  phase : Phase := .idle
  template : Option Uuid := none
  job : Option Uuid := none
  byteLength : Nat := 0
  progress : Option Single := none
  jobStatus : Option JobStatus := none
  /-- The analysis that the job named when it was last looked at. -/
  observed : Option Uuid := none
  analysis : Option FileFormat := none
  lastError : Option String := none
  halted : Bool := false
  dirty : Bool := false
  deriving DecidableEq, Repr

inductive Msg where
  | buffer (template : Uuid) (byteLength : Nat)
  | progress (fraction : Single)
  | jobCreated (job : Uuid)
  | uploadCompleted
  | observed (status : JobStatus) (analysis : Option Uuid)
  | analysisLoaded (result : Uuid) (info : FileFormat)
  | analysisUnavailable (result : Uuid)
  | failed (message : String)
  | reset
  deriving DecidableEq, Repr

inductive Effect where
  | createJob (template : Uuid)
  | startTracking (job : Uuid)
  | upload (job : Uuid)
  | fetchAnalysis (result : Uuid)
  | stopTracking
  deriving DecidableEq, Repr

structure View where
  phase : Phase
  template : Option Uuid
  job : Option Uuid
  byteLength : Nat
  progress : Option Single
  jobStatus : Option JobStatus
  analysis : Option FileFormat
  lastError : Option String
  halted : Bool
  deriving DecidableEq, Repr

namespace State

def view (s : State) : View :=
  { phase := s.phase
    template := s.template
    job := s.job
    byteLength := s.byteLength
    progress := s.progress
    jobStatus := s.jobStatus
    analysis := s.analysis
    lastError := s.lastError
    halted := s.halted }

/-- Moves forward to a phase; a phase already reached or passed is left alone. -/
def advance (s : State) (phase : Phase) : State :=
  if s.phase.ordinal < phase.ordinal then { s with phase, dirty := true } else s

def setProgress (s : State) (fraction : Single) : State :=
  { s with progress := some fraction, dirty := true }

def setJobStatus (s : State) (status : JobStatus) : State :=
  if s.jobStatus = some status then s else { s with jobStatus := some status, dirty := true }

def consumeDirty (s : State) : Bool × State := (s.dirty, { s with dirty := false })

end State

def emptyFile : String := "the selected file is empty"

def update (s : State) : Msg → State × List Effect
  | .buffer template byteLength =>
    if s.phase ≠ .idle ∨ s.halted then (s, [])
    else if byteLength = 0 then ({ s with lastError := some emptyFile, dirty := true }, [])
    else
      ({ s with
          phase := .uploading
          template := some template
          byteLength
          progress := some Single.zero
          dirty := true },
        [.createJob template])
  | .progress fraction =>
    if s.phase = .uploading ∧ !s.halted ∧ !fraction.isNaN then
      (s.setProgress fraction.clampToUnit, [])
    else (s, [])
  | .jobCreated job =>
    if s.phase ≠ .uploading ∨ s.halted then (s, [])
    else ({ s with job := some job, dirty := true }, [.startTracking job, .upload job])
  | .uploadCompleted =>
    if s.halted then (s, []) else ((s.setProgress Single.one).advance .polling, [])
  | .observed status analysis =>
    let s := s.setJobStatus status
    if s.halted ∨ analysis = s.observed then (s, [])
    else
      ({ s with observed := analysis },
        match analysis with
        | some result => if result.isNil then [] else [.fetchAnalysis result]
        | none => [])
  | .analysisLoaded result info =>
    if !s.halted ∧ s.observed = some result then
      (({ s with analysis := some info, lastError := none, dirty := true } : State).advance
        .analysisReady, [])
    else (s, [])
  | .analysisUnavailable result =>
    -- the next look that names the result asks for it again
    if s.observed = some result then ({ s with observed := none }, []) else (s, [])
  | .failed message =>
    ({ s with lastError := some message, halted := true, dirty := true }, [.stopTracking])
  | .reset => ({ dirty := true }, [.stopTracking])

/-- How much work an effect can bring about, its answer included. -/
def Effect.weight : Effect → Nat
  | .createJob _ => 5
  | .startTracking _ | .upload _ | .fetchAnalysis _ => 2
  | .stopTracking => 1

def weight : List Effect → Nat
  | [] => 0
  | effect :: rest => effect.weight + weight rest

theorem weight_append (a b : List Effect) : weight (a ++ b) = weight a + weight b := by
  induction a with
  | nil => simp [weight]
  | cons effect rest ih => simp only [List.cons_append, weight, ih]; omega

def Msg.weight : Msg → Nat
  | .buffer .. => 5
  | .jobCreated _ => 4
  | .observed .. => 2
  | .failed _ | .reset => 1
  | .progress _ | .uploadCompleted | .analysisLoaded .. | .analysisUnavailable _ => 0

theorem weight_update_le (s : State) (m : Msg) : weight (update s m).2 ≤ m.weight := by
  cases m with
  | observed status analysis =>
    simp only [update]
    split
    · simp [weight, Msg.weight]
    · split
      · split <;> simp [weight, Effect.weight, Msg.weight]
      · simp [weight, Msg.weight]
  | _ =>
    simp only [update]
    repeat' split
    all_goals simp [weight, Effect.weight, Msg.weight]

def run (s : State) : List Msg → State × List Effect
  | [] => (s, [])
  | m :: ms =>
    let (s, effects) := update s m
    let (s, later) := run s ms
    (s, effects ++ later)

end TranscodeConsole.QuickTranscode
