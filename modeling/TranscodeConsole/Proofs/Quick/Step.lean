import TranscodeConsole.QuickTranscode

/-!
What one message can do to a quick transcode: first as far as the outcome of a run goes that is
under way, then all of it, as one list of cases by which facts about every message are proved.
-/
namespace TranscodeConsole.QuickTranscode

/-- Messages of a run that is under way: no file is handed over, and nothing is reset. -/
def Msg.isOnward : Msg → Bool
  | .buffer .. | .reset => false
  | _ => true

def Msg.status? : Msg → Option JobStatus
  | .observed status _ => some status
  | _ => none

namespace State

@[simp] theorem halted_advance (s : State) (phase : Phase) :
    (s.advance phase).halted = s.halted := by
  unfold advance
  split <;> rfl

@[simp] theorem jobStatus_advance (s : State) (phase : Phase) :
    (s.advance phase).jobStatus = s.jobStatus := by
  unfold advance
  split <;> rfl

@[simp] theorem observed_advance (s : State) (phase : Phase) :
    (s.advance phase).observed = s.observed := by
  unfold advance
  split <;> rfl

theorem advance_ready (s : State) : (s.advance .analysisReady).phase = .analysisReady := by
  unfold advance
  cases ready : s.phase <;> simp [Phase.ordinal, ready]

theorem phase_advance_of_ready {s : State} (ready : s.phase = .analysisReady) (phase : Phase) :
    (s.advance phase).phase = .analysisReady := by
  unfold advance
  rw [ready]
  cases phase <;> simp [Phase.ordinal, ready]

@[simp] theorem halted_setJobStatus (s : State) (status : JobStatus) :
    (s.setJobStatus status).halted = s.halted := by
  unfold setJobStatus
  split <;> rfl

@[simp] theorem phase_setJobStatus (s : State) (status : JobStatus) :
    (s.setJobStatus status).phase = s.phase := by
  unfold setJobStatus
  split <;> rfl

@[simp] theorem jobStatus_setJobStatus (s : State) (status : JobStatus) :
    (s.setJobStatus status).jobStatus = some status := by
  unfold setJobStatus
  split
  · assumption
  · rfl

/-- What a run that is under way never takes back. -/
structure Onward (s after : State) : Prop where
  halted : s.halted = true → after.halted = true
  ready : s.phase = .analysisReady → after.phase = .analysisReady

end State

variable {s : State} {m : Msg}

theorem onward_update (s : State) (onward : m.isOnward = true) : s.Onward (update s m).1 := by
  cases m with
  | buffer | reset => cases onward
  | progress fraction =>
    simp only [update]
    split <;> exact ⟨id, id⟩
  | jobCreated job =>
    simp only [update]
    split <;> exact ⟨id, id⟩
  | uploadCompleted =>
    simp only [update]
    split
    · exact ⟨id, id⟩
    · constructor
      · intro halted
        rw [State.halted_advance]
        exact halted
      · intro ready
        exact State.phase_advance_of_ready (s := s.setProgress Single.one) ready _
  | observed status analysis =>
    simp only [update]
    split <;> exact ⟨by simp, by simp⟩
  | analysisLoaded result info =>
    simp only [update]
    split
    · refine ⟨?_, fun _ => State.advance_ready _⟩
      intro halted
      rw [State.halted_advance]
      exact halted
    · exact ⟨id, id⟩
  | analysisUnavailable result =>
    simp only [update]
    split <;> exact ⟨id, id⟩
  | failed message => exact ⟨fun _ => rfl, id⟩

theorem jobStatus_update (s : State) (onward : m.isOnward = true) :
    (update s m).1.jobStatus = m.status?.or s.jobStatus := by
  cases m with
  | buffer | reset => cases onward
  | uploadCompleted =>
    simp only [update]
    split
    · rfl
    · rw [State.jobStatus_advance]
      rfl
  | observed status analysis =>
    simp only [update]
    split <;> simp [Msg.status?]
  | analysisLoaded result info =>
    simp only [update]
    split
    · rw [State.jobStatus_advance]
      rfl
    · rfl
  | failed message => rfl
  | _ =>
    simp only [update]
    split <;> rfl

theorem asks_update (s : State) (status : JobStatus) (analysis : Option Uuid) :
    (update s (.observed status analysis)).2 = [] ∨
      ∃ result, (update s (.observed status analysis)).2 = [.fetchAnalysis result] ∧
        (update s (.observed status analysis)).1.observed = some result := by
  simp only [update]
  split
  · exact .inl rfl
  · cases analysis with
    | none => exact .inl rfl
    | some named =>
      cases nil : named.isNil with
      | true => simp [nil]
      | false => exact .inr ⟨named, by simp [nil]⟩

@[simp] theorem effects_analysisLoaded (s : State) (result : Uuid) (info : FileFormat) :
    (update s (.analysisLoaded result info)).2 = [] := by
  simp only [update]
  split <;> rfl

@[simp] theorem effects_analysisUnavailable (s : State) (result : Uuid) :
    (update s (.analysisUnavailable result)).2 = [] := by
  simp only [update]
  split <;> rfl

@[simp] theorem effects_uploadCompleted (s : State) : (update s .uploadCompleted).2 = [] := by
  simp only [update]
  split <;> rfl

theorem observed_uploadCompleted (s : State) :
    (update s .uploadCompleted).1.observed = s.observed := by
  simp only [update]
  split
  · rfl
  · rw [State.observed_advance]
    rfl

theorem loaded_update {result : Uuid} (named : s.observed = some result) (info : FileFormat) :
    (update s (.analysisLoaded result info)).1.halted = true ∨
      (update s (.analysisLoaded result info)).1.phase = .analysisReady := by
  simp only [update, named]
  cases halted : s.halted with
  | true => exact .inl (by simp [halted])
  | false => exact .inr (by simpa using State.advance_ready _)

/-! ### All that a message can do -/

namespace State

/-- Whether a message is let in; one that is not changes nothing and has no effect. -/
def heeds (s : State) : Msg → Bool
  | .buffer .. => s.phase = .idle && !s.halted
  | .progress fraction => s.phase = .uploading && !s.halted && !fraction.isNaN
  | .jobCreated _ => s.phase = .uploading && !s.halted
  | .uploadCompleted => !s.halted
  | .analysisLoaded result _ => !s.halted && s.observed = some result
  | .analysisUnavailable result => s.observed = some result
  | .observed .. | .failed _ | .reset => true

def submits (s : State) (template : Uuid) (byteLength : Nat) : State :=
  { s with
    phase := .uploading
    template := some template
    byteLength
    progress := some Single.zero
    dirty := true }

def polls (s : State) : State :=
  { s with
    phase := if s.phase = .analysisReady then .analysisReady else .polling
    progress := some Single.one
    dirty := true }

def sees (s : State) (status : JobStatus) (analysis : Option Uuid) : State :=
  { s with
    jobStatus := some status
    observed := analysis
    dirty := s.dirty || s.jobStatus ≠ some status }

def shows (s : State) (info : FileFormat) : State :=
  { s with phase := .analysisReady, analysis := some info, lastError := none, dirty := true }

theorem setProgress_advance (s : State) :
    (s.setProgress Single.one).advance .polling = s.polls := by
  unfold advance polls setProgress
  cases phase : s.phase <;> simp [Phase.ordinal]

theorem setJobStatus_eq_sees (s : State) (status : JobStatus) :
    s.setJobStatus status = s.sees status s.observed := by
  unfold setJobStatus sees
  split
  · rename_i same
    simp [← same]
  · rename_i other
    simp [other]

theorem advance_eq_shows (s : State) (info : FileFormat) :
    ({ s with analysis := some info, lastError := none, dirty := true } : State).advance
      .analysisReady = s.shows info := by
  unfold advance shows
  cases phase : s.phase <;> simp [Phase.ordinal]

end State

theorem update_uploadCompleted (going : s.halted = false) :
    update s .uploadCompleted = (s.polls, []) := by
  simp [update, going, State.setProgress_advance]

theorem update_analysisLoaded {result : Uuid} (going : s.halted = false)
    (awaited : s.observed = some result) (info : FileFormat) :
    update s (.analysisLoaded result info) = (s.shows info, []) := by
  rw [← State.advance_eq_shows]
  exact if_pos ⟨by simp [going], awaited⟩

inductive Step (s : State) : Msg → State → List Effect → Prop where
  | rejects {template : Uuid} (idle : s.phase = .idle) (going : s.halted = false) :
      Step s (.buffer template 0) { s with lastError := some emptyFile, dirty := true } []
  | submits {template : Uuid} {byteLength : Nat} (idle : s.phase = .idle)
      (going : s.halted = false) (filled : byteLength ≠ 0) :
      Step s (.buffer template byteLength) (s.submits template byteLength) [.createJob template]
  | progresses {fraction : Single} (uploading : s.phase = .uploading) (going : s.halted = false)
      (number : fraction.isNaN = false) :
      Step s (.progress fraction) (s.setProgress fraction.clampToUnit) []
  | creates {job : Uuid} (uploading : s.phase = .uploading) (going : s.halted = false) :
      Step s (.jobCreated job) { s with job := some job, dirty := true }
        [.startTracking job, .upload job]
  | uploads (going : s.halted = false) : Step s .uploadCompleted s.polls []
  | looks {status : JobStatus} {analysis : Option Uuid}
      (known : s.halted = true ∨ analysis = s.observed) :
      Step s (.observed status analysis) (s.sees status s.observed) []
  | unnames {status : JobStatus} {analysis : Option Uuid} (going : s.halted = false)
      (other : analysis ≠ s.observed)
      (unnamed : ∀ result, analysis = some result → result.isNil = true) :
      Step s (.observed status analysis) (s.sees status analysis) []
  | names {status : JobStatus} {result : Uuid} (going : s.halted = false)
      (other : some result ≠ s.observed) (named : result.isNil = false) :
      Step s (.observed status (some result)) (s.sees status (some result))
        [.fetchAnalysis result]
  | loads {result : Uuid} {info : FileFormat} (going : s.halted = false)
      (awaited : s.observed = some result) :
      Step s (.analysisLoaded result info) (s.shows info) []
  | forgets {result : Uuid} (awaited : s.observed = some result) :
      Step s (.analysisUnavailable result) { s with observed := none } []
  | fails {message : String} :
      Step s (.failed message)
        { s with lastError := some message, halted := true, dirty := true } [.stopTracking]
  | resets : Step s .reset { dirty := true } [.stopTracking]
  | ignores {m : Msg} (deaf : s.heeds m = false) : Step s m s []

theorem step_observed (s : State) (status : JobStatus) (analysis : Option Uuid) :
    Step s (.observed status analysis) (update s (.observed status analysis)).1
      (update s (.observed status analysis)).2 := by
  simp only [update, State.setJobStatus_eq_sees]
  split
  · rename_i known
    exact .looks known
  · rename_i news
    obtain ⟨going, other⟩ := not_or.mp news
    have going : s.halted = false := eq_false_of_ne_true going
    cases analysis with
    | none => exact .unnames going other (by simp)
    | some result =>
      cases named : result.isNil with
      | true =>
        simp only [named]
        exact .unnames going other (by simp [named])
      | false =>
        simp only [named]
        exact .names going other named

theorem step_update (s : State) (m : Msg) : Step s m (update s m).1 (update s m).2 := by
  cases m with
  | buffer template byteLength =>
    simp only [update]
    split
    · rename_i busy
      exact .ignores (by simpa [State.heeds, Classical.or_iff_not_imp_left] using busy)
    · rename_i free
      obtain ⟨idle, going⟩ := not_or.mp free
      have idle : s.phase = .idle := by simpa using idle
      have going : s.halted = false := by simpa using going
      split
      · rename_i empty
        subst empty
        exact .rejects idle going
      · rename_i filled
        exact .submits idle going filled
  | progress fraction =>
    simp only [update]
    split
    · rename_i taken
      exact .progresses taken.1 (by simpa using taken.2.1) (by simpa using taken.2.2)
    · rename_i refused
      exact .ignores (by simpa [State.heeds] using refused)
  | jobCreated job =>
    simp only [update]
    split
    · rename_i busy
      exact .ignores (by simpa [State.heeds, Classical.or_iff_not_imp_left] using busy)
    · rename_i free
      obtain ⟨uploading, going⟩ := not_or.mp free
      exact .creates (by simpa using uploading) (by simpa using going)
  | uploadCompleted =>
    cases halted : s.halted with
    | true =>
      simp only [update, halted, if_true]
      exact .ignores (by simp [State.heeds, halted])
    | false =>
      rw [update_uploadCompleted halted]
      exact .uploads halted
  | observed status analysis => exact step_observed s status analysis
  | analysisLoaded result info =>
    by_cases taken : s.halted = false ∧ s.observed = some result
    · rw [update_analysisLoaded taken.1 taken.2]
      exact .loads taken.1 taken.2
    · have refused : update s (.analysisLoaded result info) = (s, []) :=
        if_neg (by simpa using taken)
      rw [refused]
      exact .ignores (by simpa [State.heeds] using taken)
  | analysisUnavailable result =>
    simp only [update]
    split
    · rename_i awaited
      exact .forgets awaited
    · rename_i other
      exact .ignores (by simpa [State.heeds] using other)
  | failed message => exact .fails
  | reset => exact .resets

namespace Step

variable {after : State} {effects : List Effect}

theorem fetched (step : Step s m after effects) {result : Uuid}
    (asked : .fetchAnalysis result ∈ effects) :
    result.isNil = false ∧ ∃ status, m = .observed status (some result) := by
  cases step with
  | names _ _ named =>
    cases List.mem_singleton.mp asked
    exact ⟨named, _, rfl⟩
  | _ => simp at asked

theorem of_deaf (step : Step s m after effects) (deaf : s.heeds m = false) :
    after = s ∧ effects = [] := by
  cases step with
  | ignores => exact ⟨rfl, rfl⟩
  | rejects idle going | submits idle going => simp [State.heeds, idle, going] at deaf
  | progresses uploading going number =>
    simp [State.heeds, uploading, going, number] at deaf
  | creates uploading going => simp [State.heeds, uploading, going] at deaf
  | uploads going => simp [State.heeds, going] at deaf
  | loads going awaited => simp [State.heeds, going, awaited] at deaf
  | forgets awaited => simp [State.heeds, awaited] at deaf
  | looks | unnames | names | fails | resets => cases deaf

theorem phase_le (step : Step s m after effects) (onward : m ≠ .reset) :
    s.phase.ordinal ≤ after.phase.ordinal := by
  cases step with
  | submits idle =>
    rw [idle]
    exact Nat.zero_le _
  | uploads => cases phase : s.phase <;> simp [State.polls, Phase.ordinal, phase]
  | loads => cases phase : s.phase <;> simp [State.shows, Phase.ordinal]
  | resets => exact absurd rfl onward
  | rejects | progresses | creates | looks | unnames | names | forgets | fails | ignores =>
    exact Nat.le_refl _

end Step

theorem update_ignored (deaf : s.heeds m = false) : update s m = (s, []) :=
  Prod.ext_iff.mpr ((step_update s m).of_deaf deaf)

theorem phase_le_update (s : State) (onward : m ≠ .reset) :
    s.phase.ordinal ≤ (update s m).1.phase.ordinal :=
  (step_update s m).phase_le onward

end TranscodeConsole.QuickTranscode
