import TranscodeConsole.Proofs.Quick.History

/-!
A quick transcode never goes back but by a reset, and a failure freezes it: whatever arrives after
it, the run stays as it was, and what is said of it is the failure that came last.
-/
namespace TranscodeConsole.QuickTranscode

def failures (ms : List Msg) : List String := ms.filterMap Msg.failure?

@[simp] theorem failures_snoc (ms : List Msg) (m : Msg) :
    failures (ms ++ [m]) = failures ms ++ m.failure?.toList := by
  cases failure : m.failure? <;> simp [failures, failure]

/-- What a frozen machine keeps. -/
structure State.Keeps (s after : State) : Prop where
  halted : after.halted = s.halted
  phase : after.phase = s.phase
  template : after.template = s.template
  job : after.job = s.job
  byteLength : after.byteLength = s.byteLength
  progress : after.progress = s.progress
  analysis : after.analysis = s.analysis

theorem State.Keeps.trans {s t u : State} (first : s.Keeps t) (second : t.Keeps u) : s.Keeps u where
  halted := second.halted.trans first.halted
  phase := second.phase.trans first.phase
  template := second.template.trans first.template
  job := second.job.trans first.job
  byteLength := second.byteLength.trans first.byteLength
  progress := second.progress.trans first.progress
  analysis := second.analysis.trans first.analysis

variable {s after : State} {m : Msg} {effects : List Effect}

theorem Step.failed_or_halted (step : Step s m after effects) (halted : after.halted = true) :
    (∃ message, m = .failed message ∧ after.lastError = some message) ∨
      s.halted = true ∧ m.failure? = none ∧ after.lastError = s.lastError := by
  cases step with
  | fails => exact .inl ⟨_, rfl, rfl⟩
  | resets => cases halted
  | looks | forgets => exact .inr ⟨halted, rfl, rfl⟩
  | ignores deaf =>
    refine .inr ⟨halted, ?_, rfl⟩
    cases m with
    | failed message => cases deaf
    | _ => rfl
  | rejects _ going | submits _ going | progresses _ going | creates _ going | uploads going
  | unnames going | names going | loads going =>
    cases going.symm.trans halted

theorem lastError_of_halted (ms : List Msg) (halted : (stateAfter ms).halted = true) :
    ∃ message, (failures ms).getLast? = some message ∧
      (stateAfter ms).lastError = some message := by
  induction ms using List.reverseRecOn with
  | nil => cases halted
  | append_singleton ms m ih =>
    rw [stateAfter_snoc] at halted ⊢
    rcases (step_update (stateAfter ms) m).failed_or_halted halted with
      ⟨message, rfl, error⟩ | ⟨before, unfailed, error⟩
    · exact ⟨message, by simp [Msg.failure?], error⟩
    · obtain ⟨message, last, known⟩ := ih before
      exact ⟨message, by simpa [unfailed] using last, error.trans known⟩

theorem Step.frozen (step : Step s m after effects) (halted : s.halted = true)
    (onward : m ≠ .reset) :
    s.Keeps after ∧ effects = List.replicate m.failure?.toList.length .stopTracking := by
  cases step with
  | fails => exact ⟨⟨halted.symm, rfl, rfl, rfl, rfl, rfl, rfl⟩, rfl⟩
  | resets => exact absurd rfl onward
  | looks | forgets => exact ⟨⟨rfl, rfl, rfl, rfl, rfl, rfl, rfl⟩, rfl⟩
  | ignores deaf =>
    refine ⟨⟨rfl, rfl, rfl, rfl, rfl, rfl, rfl⟩, ?_⟩
    cases m with
    | failed message => cases deaf
    | _ => rfl
  | rejects _ going | submits _ going | progresses _ going | creates _ going | uploads going
  | unnames going | names going | loads going =>
    cases going.symm.trans halted

theorem phase_le_run (s : State) (ms : List Msg) (onward : Msg.reset ∉ ms) :
    s.phase.ordinal ≤ (run s ms).1.phase.ordinal := by
  induction ms generalizing s with
  | nil => exact Nat.le_refl _
  | cons m ms ih =>
    obtain ⟨here, later⟩ := not_or.mp (mt List.mem_cons.mpr onward)
    exact Nat.le_trans (phase_le_update s (Ne.symm here)) (ih (update s m).1 later)

theorem frozen_run (s : State) (ms : List Msg) (halted : s.halted = true)
    (onward : Msg.reset ∉ ms) :
    s.Keeps (run s ms).1 ∧
      (run s ms).2 = List.replicate (failures ms).length .stopTracking := by
  induction ms generalizing s with
  | nil => exact ⟨⟨rfl, rfl, rfl, rfl, rfl, rfl, rfl⟩, rfl⟩
  | cons m ms ih =>
    obtain ⟨here, later⟩ := not_or.mp (mt List.mem_cons.mpr onward)
    obtain ⟨keeps, effects⟩ := (step_update s m).frozen halted (Ne.symm here)
    obtain ⟨kept, more⟩ := ih (update s m).1 (keeps.halted.trans halted) later
    refine ⟨keeps.trans kept, ?_⟩
    have split : failures (m :: ms) = m.failure?.toList ++ failures ms := by
      cases failure : m.failure? <;> simp [failures, failure]
    simp only [run]
    rw [effects, more, split, List.length_append, List.replicate_append_replicate]

/-- However a machine got where it is, and whatever it is told after that but a reset: its phase
does not go back, and once it is frozen the run stays as it is, with the last failure for an error
and one order to stop for every further failure. -/
theorem frozen_by_failure (before after : List Msg) (onward : Msg.reset ∉ after) :
    let s := stateAfter before
    let t := stateAfter (before ++ after)
    s.phase.ordinal ≤ t.phase.ordinal ∧
      (s.halted = true → s.Keeps t ∧
        (∃ message, (failures (before ++ after)).getLast? = some message ∧
          t.lastError = some message) ∧
        effectsOf (before ++ after) =
          effectsOf before ++ List.replicate (failures after).length .stopTracking) := by
  have joined : stateAfter (before ++ after) = (run (stateAfter before) after).1 := by
    rw [stateAfter, run_append]
    rfl
  have made : effectsOf (before ++ after) =
      effectsOf before ++ (run (stateAfter before) after).2 := by
    rw [effectsOf, run_append]
    rfl
  refine ⟨by rw [joined]; exact phase_le_run _ after onward, ?_⟩
  intro halted
  obtain ⟨keeps, effects⟩ := frozen_run (stateAfter before) after halted onward
  rw [← joined] at keeps
  have frozen : (stateAfter (before ++ after)).halted = true := keeps.halted.trans halted
  exact ⟨keeps, lastError_of_halted (before ++ after) frozen, by rw [made, effects]⟩

/-- An upload that fails: its completion and the end of its job come too late. -/
theorem failed_upload_stays_uploading :
    let before : List Msg := [.buffer sampleId 3, .jobCreated sampleId, .failed "rejected"]
    let after : List Msg := [.uploadCompleted, .observed .completed none, .failed "lost"]
    Msg.reset ∉ after ∧ (stateAfter before).halted = true ∧
      (stateAfter (before ++ after)).phase = .uploading ∧
      (stateAfter (before ++ after)).lastError = some "lost" ∧
      effectsOf (before ++ after) = effectsOf before ++ [.stopTracking] := by
  intro before after
  have onward : Msg.reset ∉ after := by decide
  obtain ⟨keeps, ⟨message, last, error⟩, effects⟩ := (frozen_by_failure before after onward).2 rfl
  cases last
  exact ⟨onward, rfl, keeps.phase, error, effects⟩

end TranscodeConsole.QuickTranscode
