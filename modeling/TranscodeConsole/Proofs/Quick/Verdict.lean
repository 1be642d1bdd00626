import TranscodeConsole.Proofs.Quick.Coherent

/-!
The verdict of a quick transcode on a job that is not followed any more. It is taken from what the
machine knew at the last look, and that is as good as what the observer had passed on by then: a
verdict of a command whose observer has nothing left to do is the outcome of the job, and one that
comes earlier may be anything that the job ever was.
-/
namespace TranscodeConsole.QuickTranscode

namespace Relay

def awaited (r : Relay) : List Uuid :=
  (r.observer.elim [] Observer.duties).filterMap (fun
    | .fetchAnalysis result => some result
    | _ => none) ++
  r.unheard.filterMap fun
    | .refreshed snapshot => snapshot.analysisResult
    | .failed _ => none

/-- The command has looked at a run that goes on, and finds that its job is not followed any more:
the job is judged by what was seen of it. -/
structure Judges (r : Relay) (view : View) : Prop where
  front : r.front = .judging view
  going : view.halted = false
  phase : view.phase = .polling
  unfollowed : r.tracker.state.polling = false

/-- The verdict agrees with what became of the job: that it finished without an analysis, that it
ended with a status, or that it was not followed to any. -/
structure Agrees (r : Relay) (view : View) : Prop where
  finished : view.jobStatus = some .completed →
    r.accepted = some .completed ∧ r.awaited = [] ∧ r.found = []
  ended : ∀ status, view.jobStatus = some status → status ≠ .completed →
    status.isFinal = true ∧ r.accepted = some status
  unknown : view.jobStatus = none → r.accepted = none

/-- Nothing of what the poll has found is still on its way, and the last look saw all of it. -/
structure CaughtUp (r : Relay) (view : View) : Prop where
  observer : ∀ o, r.observer = some o → o.duties = []
  unheard : r.unheard = []
  present : view = r.state.view

variable {r : Relay} {view : View}

theorem Judges.verdict (judges : r.Judges view) :
    Display.quickOutcome view r.tracker.state.polling = Display.unanalysed view.jobStatus := by
  simp [Display.quickOutcome, judges.going, judges.phase, judges.unfollowed]

theorem Coherent.agrees (c : r.Coherent) (judges : r.Judges view) (caughtUp : r.CaughtUp view) :
    r.Agrees view := by
  have going : r.state.halted = false := by
    rw [← judges.going, caughtUp.present]
    rfl
  have phase : r.state.phase = .polling := by
    rw [← judges.phase, caughtUp.present]
    rfl
  have tracked : r.observer.isSome = true := by
    have agenda := c.agenda
    rw [judges.front, Front.duties] at agenda
    generalize r.observer.isSome = tracked at agenda ⊢
    cases agenda with
    | done known => simpa [going, phase] using known
  -- the poll has found a final status, for nothing else ends it without a trace
  have final : ∃ snapshot, r.tracker.state.latest = some snapshot ∧
      snapshot.status.isFinal = true := by
    rcases c.closed tracked judges.unfollowed with halted | final | ⟨message, failed⟩
    · rw [going] at halted
      cases halted
    · exact final
    · rw [caughtUp.unheard] at failed
      cases failed
  obtain ⟨snapshot, latest, final⟩ := final
  have accepted : r.accepted = some snapshot.status := by simp [Relay.accepted, latest]
  have known : view.jobStatus = some snapshot.status := by
    have course := c.course.latest
    rw [statuses, caughtUp.unheard] at course
    rw [caughtUp.present, ← accepted, Relay.accepted, ← course]
    cases status : r.state.jobStatus <;> simp [State.view, status]
  constructor
  case finished =>
    intro finished
    rw [known] at finished
    refine ⟨accepted.trans finished, ?_, ?_⟩
    · cases observer : r.observer with
      | none => simp [awaited, observer, caughtUp.unheard]
      | some o => simp [awaited, observer, caughtUp.unheard, caughtUp.observer o observer]
    · cases found : r.found with
      | nil => rfl
      | cons analysis rest =>
        have ends := c.found (by simp [found])
        simp [going, phase] at ends
  case ended =>
    intro status seen _
    rw [known] at seen
    cases seen
    exact ⟨final, accepted⟩
  case unknown =>
    intro nothing
    rw [known] at nothing
    cases nothing

/-- A verdict of a command whose observer has caught up is the outcome of the job. -/
theorem verdict_agrees (template : Uuid) (byteLength : Nat) (moves : List Move) (view : View)
    (judges : ((start template byteLength).run moves).Judges view)
    (caughtUp : ((start template byteLength).run moves).CaughtUp view) :
    ((start template byteLength).run moves).Agrees view :=
  ((coherent_start template byteLength).run moves).agrees judges caughtUp

def sample : Uuid := ⟨List.replicate 32 (Fin.last 15), rfl⟩

def analysedJob (status : JobStatus) : JobSnapshot :=
  { status
    completedSteps := 1
    steps := [⟨sample, JobStep.analysisKind, .completed, some sample, none⟩]
    error := none }

def submitted : List Move :=
  [.work, .reply (.created (.ok sample)), .work, .work, .reply (.uploaded (.ok ())), .work]

/-- The job has no step to analyse, and its end has been passed on when the command looks. -/
def passedOn : List Move :=
  submitted ++ [.fetch, .status (.ok ⟨.completed, 0, [], none⟩), .tell, .tell, .take, .hear, .look]

theorem job_without_analysis_finished :
    ((start sample 3).run passedOn).Agrees ((start sample 3).run passedOn).state.view ∧
      ((start sample 3).run passedOn).judge.printed =
        Report.line "waiting for analysis, job Completed successfully" ++
          Report.line "job finished without an analysis result" :=
  ⟨verdict_agrees sample 3 passedOn _ ⟨rfl, rfl, rfl, rfl⟩ ⟨by rintro o ⟨⟩; rfl, rfl, rfl⟩,
    by decide +kernel⟩

/-- The observer waits for the analysis that a started job has named, and the end of the job is told
meanwhile. -/
def overtaken : List Move :=
  submitted ++
    [.fetch, .status (.ok (analysedJob .started)), .tell, .tell, .take, .hear, .attend,
      .fetch, .status (.ok (analysedJob .completed)), .tell, .tell, .look]

/-- Without waiting for its observer the command can fail on a job that has completed, while its
analysis is still on the way. -/
theorem overtaken_verdict_disagrees :
    ((start sample 3).run overtaken).judge.front = .ended (.failed "job ended as Started") ∧
      ((start sample 3).run overtaken).accepted = some .completed ∧
      sample ∈ ((start sample 3).run overtaken).awaited ∧
      ¬ ∀ (template : Uuid) (byteLength : Nat) (moves : List Move) (view : View),
        ((start template byteLength).run moves).Judges view →
          ((start template byteLength).run moves).Agrees view := by
  refine ⟨rfl, by decide +kernel, by decide +kernel, ?_⟩
  intro always
  have agrees := always sample 3 overtaken _ ⟨rfl, rfl, rfl, rfl⟩
  have final := (agrees.ended .started rfl (by decide)).1
  cases final

theorem final_verdict (template : Uuid) (byteLength : Nat) (moves : List Move) (view : View)
    (status : JobStatus) (judges : ((start template byteLength).run moves).Judges view)
    (seen : view.jobStatus = some status) (final : status.isFinal = true) :
    ((start template byteLength).run moves).accepted = some status :=
  ((coherent_start template byteLength).run moves).looked view status judges.front seen final

/-! ### How a run ends -/

structure Closes (r : Relay) (view : View) (ending : Display.Ending) : Prop where
  front : r.front = .judging view
  ends : (Display.quickOutcome view r.tracker.state.polling).ending = some ending

theorem closes_of_step {move : Move} {ending : Display.Ending}
    (ended : (r.step move).front = .ended ending) :
    r.front = .ended ending ∨ ∃ view, r.Closes view ending := by
  cases move with
  | judge =>
    simp only [step, judge] at ended
    split at ended
    · rename_i view front
      refine .inr ⟨view, front, ?_⟩
      cases ends : (Display.quickOutcome view r.tracker.state.polling).ending with
      | none => simp [Display.quick, ends] at ended
      | some own => simpa [Display.quick, ends] using ended
    · exact .inl ended
  | look =>
    simp only [step, look] at ended
    split at ended
    · cases ended
    · exact .inl ended
  | reply answer =>
    simp only [step, reply] at ended
    split at ended
    · split at ended
      · cases ended
      · exact .inl ended
    · exact .inl ended
  | work =>
    simp only [step, work] at ended
    split at ended
    · cases ended
    · rw [startTracking] at ended
      split at ended <;> cases ended
    · cases ended
    · cases ended
    · exact .inl ended
  | fetch | status | tell | leave | take | hear | attend | analysis =>
    left
    rw [← ended]
    simp only [step, fetch, status, tell, leave, take, hear, attend, analysis]
    repeat' split
    all_goals rfl

theorem closes_of_run {moves : List Move} {ending : Display.Ending}
    (ended : (r.run moves).front = .ended ending) :
    r.front = .ended ending ∨ ∃ earlier view, (r.run earlier).Closes view ending := by
  induction moves generalizing r with
  | nil => exact .inl ended
  | cons move moves ih =>
    rcases ih ended with stepped | ⟨earlier, view, closes⟩
    · rcases closes_of_step stepped with before | ⟨view, closes⟩
      · exact .inl before
      · exact .inr ⟨[], view, closes⟩
    · exact .inr ⟨move :: earlier, view, closes⟩

theorem Coherent.closes_done (c : r.Coherent) (closes : r.Closes view .done) :
    view.phase = .analysisReady ∨ r.accepted = some .completed := by
  have ends := closes.ends
  unfold Display.quickOutcome at ends
  split at ends
  · cases ends
  · cases phase : view.phase with
    | analysisReady => exact .inl rfl
    | idle | uploading =>
      simp only [phase] at ends
      cases ends
    | polling =>
      simp only [phase] at ends
      split at ends
      · cases ends
      · -- of all statuses only a completed job is taken for an end that is well
        cases seen : view.jobStatus with
        | none =>
          rw [seen] at ends
          cases ends
        | some status =>
          rw [seen] at ends
          cases status with
          | completed => exact .inr (c.looked view .completed closes.front seen rfl)
          | _ => cases ends

end Relay
end TranscodeConsole.QuickTranscode
