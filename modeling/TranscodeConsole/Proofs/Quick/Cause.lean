import TranscodeConsole.Proofs.Quick.History
import TranscodeConsole.Rehearsal.Quick

/-!
What stands behind an analysis that is shown: the job was seen to name it, it was asked for, and it
came while it was still the one that the job had named last.
-/
namespace TranscodeConsole.QuickTranscode

open Rehearsal.Quick (eventMsg)

/-- The last look at the job named this analysis; the machine was not frozen then, and has not been
reset since. -/
def Named (ms : List Msg) (result : Uuid) : Prop :=
  ∃ earlier status later, ms = earlier ++ .observed status (some result) :: later ∧
    (stateAfter earlier).halted = false ∧ ∀ m ∈ later, m.isLook = false ∧ m ≠ .reset

def Admits (ms : List Msg) (result : Uuid) : Prop :=
  (stateAfter ms).halted = false ∧ (stateAfter ms).observed = some result

/-- An analysis came after some messages, and before others that left it where it was. -/
structure Cause (earlier : List Msg) (result : Uuid) (info : FileFormat) (later : List Msg) :
    Prop where
  present : result.isNil = false
  asked : .fetchAnalysis result ∈ effectsOf earlier
  named : Named earlier result
  admitted : Admits earlier result
  kept : Msg.reset ∉ later
  last : ∀ between other info' rest, later = between ++ .analysisLoaded other info' :: rest →
    ¬ Admits (earlier ++ .analysisLoaded result info :: between) other

variable {s after : State} {m : Msg} {effects : List Effect}

theorem isNil_of_asked {ms : List Msg} {result : Uuid}
    (asked : .fetchAnalysis result ∈ effectsOf ms) : result.isNil = false := by
  induction ms using List.reverseRecOn with
  | nil => cases asked
  | append_singleton ms m ih =>
    rw [effectsOf_snoc] at asked
    rcases List.mem_append.mp asked with old | new
    · exact ih old
    · exact ((step_update (stateAfter ms) m).fetched new).1

theorem Step.named (step : Step s m after effects) {result : Uuid} (going : after.halted = false)
    (observed : after.observed = some result) :
    s.halted = false ∧ ((∃ status, m = .observed status (some result)) ∨
      s.observed = some result ∧ m.isLook = false ∧ m ≠ .reset) := by
  cases step with
  | @looks status analysis known =>
    have going : s.halted = false := going
    have observed : s.observed = some result := observed
    have same : analysis = some result := by
      rw [going] at known
      exact (known.resolve_left Bool.false_ne_true).trans observed
    subst same
    exact ⟨going, .inl ⟨status, rfl⟩⟩
  | unnames going =>
    cases (show _ = some result from observed)
    exact ⟨going, .inl ⟨_, rfl⟩⟩
  | names going =>
    cases observed
    exact ⟨going, .inl ⟨_, rfl⟩⟩
  | forgets | resets => cases observed
  | fails => cases going
  | ignores deaf =>
    refine ⟨going, .inr ⟨observed, ?_, ?_⟩⟩
    · cases m with
      | observed => cases deaf
      | _ => rfl
    · rintro rfl
      cases deaf
  | rejects | submits | progresses | creates | uploads | loads =>
    exact ⟨going, .inr ⟨observed, rfl, by simp⟩⟩

theorem named_of_observed {ms : List Msg} {result : Uuid} (going : (stateAfter ms).halted = false)
    (observed : (stateAfter ms).observed = some result) : Named ms result := by
  induction ms using List.reverseRecOn with
  | nil => cases observed
  | append_singleton ms m ih =>
    rw [stateAfter_snoc] at going observed
    obtain ⟨before, ⟨status, rfl⟩ | ⟨known, unseen, onward⟩⟩ :=
      (step_update (stateAfter ms) m).named going observed
    · exact ⟨ms, status, [], rfl, before, by simp⟩
    · obtain ⟨earlier, status, later, rfl, fresh, quiet⟩ := ih before known
      refine ⟨earlier, status, later ++ [m], by simp, fresh, ?_⟩
      intro x member
      rcases List.mem_append.mp member with old | new
      · exact quiet x old
      · rw [List.mem_singleton.mp new]
        exact ⟨unseen, onward⟩

theorem Step.shown (step : Step s m after effects) {info : FileFormat}
    (shown : after.analysis = some info) :
    (∃ result, m = .analysisLoaded result info ∧ s.halted = false ∧ s.observed = some result) ∨
      s.analysis = some info ∧ m ≠ .reset ∧ ∀ result other, m = .analysisLoaded result other →
        ¬ (s.halted = false ∧ s.observed = some result) := by
  cases step with
  | loads going awaited =>
    cases shown
    exact .inl ⟨_, rfl, going, awaited⟩
  | resets => cases shown
  | ignores deaf =>
    refine .inr ⟨shown, ?_, ?_⟩
    · rintro rfl
      cases deaf
    · rintro result other rfl ⟨going, awaited⟩
      simp [State.heeds, going, awaited] at deaf
  | rejects | submits | progresses | creates | uploads | looks | unnames | names | forgets
  | fails =>
    exact .inr ⟨shown, by simp, by simp⟩

theorem Step.ready_iff (step : Step s m after effects)
    (before : s.phase = .analysisReady ↔ s.analysis.isSome = true) :
    after.phase = .analysisReady ↔ after.analysis.isSome = true := by
  cases step with
  | submits idle =>
    rw [idle] at before
    simpa [State.submits] using before
  | uploads => cases phase : s.phase <;> simp_all [State.polls]
  | loads => simp [State.shows]
  | resets => simp
  | rejects | progresses | creates | looks | unnames | names | forgets | fails | ignores =>
    exact before

theorem ready_iff_shown (ms : List Msg) :
    (stateAfter ms).phase = .analysisReady ↔ (stateAfter ms).analysis.isSome = true := by
  induction ms using List.reverseRecOn with
  | nil => simp [stateAfter, run]
  | append_singleton ms m ih =>
    rw [stateAfter_snoc]
    exact (step_update (stateAfter ms) m).ready_iff ih

namespace Cause

variable {earlier later : List Msg} {result : Uuid} {info : FileFormat}

theorem snoc (cause : Cause earlier result info later) (onward : m ≠ .reset)
    (refused : ∀ other info', m = .analysisLoaded other info' →
      ¬ Admits (earlier ++ .analysisLoaded result info :: later) other) :
    Cause earlier result info (later ++ [m]) where
  present := cause.present
  asked := cause.asked
  named := cause.named
  admitted := cause.admitted
  kept := by
    intro member
    rcases List.mem_append.mp member with old | new
    · exact cause.kept old
    · exact onward (List.mem_singleton.mp new).symm
  last := by
    intro between other info' rest whole
    rcases snoc_eq_append_cons.mp whole with ⟨rfl, rfl, rfl⟩ | ⟨rest, rfl, rfl⟩
    · exact refused other info' rfl
    · exact cause.last between other info' rest rfl

end Cause

theorem exists_cause {ms : List Msg} {info : FileFormat} (solicited : Solicited Msg.isLoaded ms)
    (shown : (stateAfter ms).analysis = some info) :
    ∃ earlier result later, ms = earlier ++ .analysisLoaded result info :: later ∧
      Cause earlier result info later := by
  induction solicited with
  | nil => cases shown
  | @snoc ms m _ asked ih =>
    rw [stateAfter_snoc] at shown
    rcases (step_update (stateAfter ms) m).shown shown with
      ⟨result, rfl, going, observed⟩ | ⟨known, onward, refused⟩
    · have asked : .fetchAnalysis result ∈ effectsOf ms := by
        obtain ⟨effect, made, answers⟩ := asked rfl
        obtain rfl := Msg.analysisLoaded_answers.mp answers
        exact made
      refine ⟨ms, result, [], rfl, ?_⟩
      exact {
        present := isNil_of_asked asked
        asked
        named := named_of_observed going observed
        admitted := ⟨going, observed⟩
        kept := by simp
        last := by simp }
    · obtain ⟨earlier, result, later, rfl, cause⟩ := ih known
      exact ⟨earlier, result, later ++ [m], by simp, cause.snoc onward refused⟩

/-- No look at the job since the last reset has shown a first analysis step with a result. -/
def Unanalysed (ms : List Msg) : Prop :=
  ∀ earlier status analysis later, ms = earlier ++ .observed status analysis :: later →
    Msg.reset ∉ later → ∃ snapshot : JobSnapshot,
      .observed status analysis = eventMsg (.refreshed snapshot) ∧
        ∀ step, snapshot.steps.find? JobStep.isAnalysis = some step →
          ∀ result, step.analysis = some result → result.isNil = true

theorem analysisResult_ne_some {snapshot : JobSnapshot}
    (missing : ∀ step, snapshot.steps.find? JobStep.isAnalysis = some step →
      ∀ result, step.analysis = some result → result.isNil = true) (result : Uuid) :
    snapshot.analysisResult ≠ some result := by
  intro found
  obtain ⟨named, present⟩ := Option.filter_eq_some_iff.mp found
  obtain ⟨step, first, named⟩ := Option.bind_eq_some_iff.mp named
  simp [missing step first result named] at present

theorem Cause.not_unanalysed {earlier later : List Msg} {result : Uuid} {info : FileFormat}
    (cause : Cause earlier result info later) :
    ¬ Unanalysed (earlier ++ .analysisLoaded result info :: later) := by
  intro unanalysed
  obtain ⟨before, status, between, rfl, -, quiet⟩ := cause.named
  have onward : Msg.reset ∉ between ++ .analysisLoaded result info :: later := by
    intro member
    rcases List.mem_append.mp member with old | new
    · exact (quiet .reset old).2 rfl
    · rcases List.mem_cons.mp new with here | there
      · cases here
      · exact cause.kept there
  obtain ⟨snapshot, same, missing⟩ := unanalysed before status (some result) _ (by simp) onward
  injection same with _ found
  exact analysisResult_ne_some missing result found.symm

/-- The phase tells whether an analysis is shown, what is shown has a cause, and a job that is not
analysed has none. -/
theorem shown_analysis_has_cause (ms : List Msg) (solicited : Solicited Msg.isLoaded ms) :
    ((stateAfter ms).phase = .analysisReady ↔ (stateAfter ms).analysis.isSome = true) ∧
    (∀ info, (stateAfter ms).analysis = some info →
      ∃ earlier result later, ms = earlier ++ .analysisLoaded result info :: later ∧
        Cause earlier result info later) ∧
    (Unanalysed ms → (stateAfter ms).phase ≠ .analysisReady) := by
  refine ⟨ready_iff_shown ms, fun info => exists_cause solicited, ?_⟩
  intro unanalysed ready
  obtain ⟨info, shown⟩ := Option.isSome_iff_exists.mp ((ready_iff_shown ms).mp ready)
  obtain ⟨earlier, result, later, rfl, cause⟩ := exists_cause solicited shown
  exact cause.not_unanalysed unanalysed

/-- An analysis that was not there when it was asked for first, and was when it was asked for
again. -/
theorem second_answer_is_shown :
    let ms := namedEarly ++ [.analysisUnavailable sampleId] ++
      [.observed .completed (some sampleId)] ++ [.analysisLoaded sampleId sampleInfo]
    Solicited Msg.isLoaded ms ∧ (stateAfter ms).phase = .analysisReady ∧ ¬ Unanalysed ms ∧
      ∃ earlier result later, ms = earlier ++ .analysisLoaded result sampleInfo :: later ∧
        Cause earlier result sampleInfo later := by
  intro ms
  have named : Solicited Msg.isLoaded namedEarly := solicited_namedEarly _ fun _ _ => rfl
  have again := (named.snoc (m := .analysisUnavailable sampleId) (by simp [Msg.isLoaded])).snoc
    (m := .observed .completed (some sampleId)) (by simp [Msg.isLoaded])
  have solicited : Solicited Msg.isLoaded ms :=
    again.snoc fun _ => ⟨.fetchAnalysis sampleId, by decide, rfl⟩
  obtain ⟨phase, cause, missing⟩ := shown_analysis_has_cause ms solicited
  have ready : (stateAfter ms).phase = .analysisReady := phase.mpr rfl
  exact ⟨solicited, ready, fun unanalysed => missing unanalysed ready, cause sampleInfo rfl⟩

end TranscodeConsole.QuickTranscode
