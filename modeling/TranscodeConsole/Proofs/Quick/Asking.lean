import TranscodeConsole.Proofs.Quick.Cause
import TranscodeConsole.Proofs.Quick.Frozen

/-!
When an analysis is asked for: at a look at the job that names it, unless the look before it named
it too and no answer since has said that it is not there yet.
-/
namespace TranscodeConsole.QuickTranscode

/-- The look at the job before this, what it named and what was told after it. The machine was not
frozen then, and has not been reset since. -/
def LastLook (ms : List Msg) (named : Option Uuid) (later : List Msg) : Prop :=
  ∃ earlier status, ms = earlier ++ .observed status named :: later ∧
    (stateAfter earlier).halted = false ∧ ∀ m ∈ later, m.isLook = false ∧ m ≠ .reset

/-- An analysis that is named next has to be asked for: there was no look before, or it named
something else, or the analysis was not there since. -/
def Due (ms : List Msg) (result : Uuid) : Prop :=
  ∀ named later, LastLook ms named later →
    named ≠ some result ∨ .analysisUnavailable result ∈ later

theorem not_due_iff {ms : List Msg} {result : Uuid} :
    ¬ Due ms result ↔ ∃ later, LastLook ms (some result) later ∧
      .analysisUnavailable result ∉ later := by
  simp only [Due, not_forall, not_or, ne_eq, Decidable.not_not]
  constructor
  · rintro ⟨_, later, look, rfl, there⟩
    exact ⟨later, look, there⟩
  · rintro ⟨later, look, there⟩
    exact ⟨some result, later, look, rfl, there⟩

def State.Drops (s : State) (result : Uuid) (m : Msg) : Prop :=
  m = .reset ∨ m = .analysisUnavailable result ∨
    ∃ status other, m = .observed status other ∧ other ≠ some result ∧ s.halted = false

namespace Step

variable {s after : State} {m : Msg} {effects : List Effect} {result : Uuid}

theorem drops (step : Step s m after effects) (known : s.observed = some result)
    (lost : after.observed ≠ some result) : s.Drops result m := by
  cases step with
  | @unnames status analysis going other =>
    exact .inr (.inr ⟨status, analysis, rfl, known ▸ other, going⟩)
  | @names status named going other =>
    exact .inr (.inr ⟨status, some named, rfl, known ▸ other, going⟩)
  | forgets awaited =>
    cases known.symm.trans awaited
    exact .inr (.inl rfl)
  | resets => exact .inl rfl
  | rejects | submits | progresses | creates | uploads | looks | loads | fails | ignores =>
    exact absurd known lost

theorem forgotten (step : Step s (.analysisUnavailable result) after effects) :
    after.observed ≠ some result := by
  cases step with
  | forgets => exact fun known => nomatch known
  | ignores deaf => simpa [State.heeds] using deaf

theorem asks (step : Step s m after effects) (asked : .fetchAnalysis result ∈ effects) :
    s.halted = false ∧ s.observed ≠ some result ∧ after.observed = some result ∧
      ∃ status, m = .observed status (some result) := by
  cases step with
  | @names status _ going other =>
    cases List.mem_singleton.mp asked
    exact ⟨going, Ne.symm other, rfl, status, rfl⟩
  | _ => simp at asked

theorem going_of (step : Step s m after effects) (onward : m ≠ .reset)
    (going : after.halted = false) : s.halted = false := by
  cases halted : s.halted with
  | false => rfl
  | true => rw [(step.frozen halted onward).1.halted, halted] at going; cases going

theorem looked {status : JobStatus} {analysis : Option Uuid}
    (step : Step s (.observed status analysis) after effects) (going : s.halted = false) :
    after.observed = analysis := by
  cases step with
  | looks known => exact (known.resolve_left (by simp [going])).symm
  | unnames | names => rfl
  | ignores deaf => cases deaf

end Step

variable {ms : List Msg} {m : Msg} {result : Uuid}

theorem LastLook.snoc {named : Option Uuid} {later : List Msg} (look : LastLook ms named later)
    (unseen : m.isLook = false) (onward : m ≠ .reset) : LastLook (ms ++ [m]) named (later ++ [m]) := by
  obtain ⟨earlier, status, rfl, going, quiet⟩ := look
  refine ⟨earlier, status, by simp, going, ?_⟩
  intro x member
  rcases List.mem_append.mp member with old | new
  · exact quiet x old
  · rw [List.mem_singleton.mp new]
    exact ⟨unseen, onward⟩

theorem observed_iff (going : (stateAfter ms).halted = false) :
    (stateAfter ms).observed = some result ↔ ¬ Due ms result := by
  rw [not_due_iff]
  induction ms using List.reverseRecOn with
  | nil =>
    constructor
    · rintro ⟨⟩
    · rintro ⟨_, ⟨_, _, whole, _⟩, _⟩
      simp at whole
  | append_singleton ms m ih =>
    rw [stateAfter_snoc] at going ⊢
    have step := step_update (stateAfter ms) m
    constructor
    · intro known
      obtain ⟨before, ⟨status, rfl⟩ | ⟨kept, unseen, onward⟩⟩ := step.named going known
      · exact ⟨[], ⟨ms, status, rfl, before, by simp⟩, by simp⟩
      · obtain ⟨later, look, there⟩ := (ih before).mp kept
        refine ⟨later ++ [m], look.snoc unseen onward, ?_⟩
        intro member
        rcases List.mem_append.mp member with old | new
        · exact there old
        · cases List.mem_singleton.mp new
          exact step.forgotten known
    · rintro ⟨later, ⟨earlier, status, whole, fresh, quiet⟩, there⟩
      rcases snoc_eq_append_cons.mp whole with ⟨rfl, rfl, rfl⟩ | ⟨rest, rfl, rfl⟩
      · exact step.looked fresh
      · obtain ⟨unseen, onward⟩ := quiet m (by simp)
        have known := (ih (step.going_of onward going)).mpr
          ⟨rest, ⟨earlier, status, rfl, fresh, fun x member => quiet x (by simp [member])⟩,
            fun member => there (by simp [member])⟩
        by_contra lost
        rcases step.drops known lost with rfl | rfl | ⟨_, _, rfl, _⟩
        · exact onward rfl
        · exact there (by simp)
        · cases unseen

theorem effects_look (going : (stateAfter ms).halted = false) (status : JobStatus)
    (analysis : Option Uuid) :
    let effects := (update (stateAfter ms) (.observed status analysis)).2
    (∃ result, analysis = some result ∧ result.isNil = false ∧ Due ms result ∧
        effects = [.fetchAnalysis result]) ∨
      (∀ result, analysis = some result → result.isNil = false → ¬ Due ms result) ∧
        effects = [] := by
  have step := step_observed (stateAfter ms) status analysis
  generalize (update (stateAfter ms) (.observed status analysis)).1 = after,
    (update (stateAfter ms) (.observed status analysis)).2 = effects at step ⊢
  cases step with
  | looks known =>
    refine .inr ⟨?_, rfl⟩
    rintro result rfl _
    exact (observed_iff going).mp (known.resolve_left (by simp [going])).symm
  | unnames _ _ unnamed =>
    refine .inr ⟨?_, rfl⟩
    intro result same present
    simp [unnamed result same] at present
  | @names _ result _ other present =>
    refine .inl ⟨result, rfl, present, ?_, rfl⟩
    by_contra known
    exact other ((observed_iff going).mpr known).symm
  | ignores deaf => cases deaf

theorem observed_or_dropped (between : List Msg) (known : (stateAfter ms).observed = some result) :
    (stateAfter (ms ++ between)).observed = some result ∨
      ∃ before m after, between = before ++ m :: after ∧
        (stateAfter (ms ++ before)).Drops result m := by
  induction between using List.reverseRecOn with
  | nil => exact .inl (by simpa using known)
  | append_singleton between m ih =>
    rcases ih with kept | ⟨before, x, after, rfl, drops⟩
    · rw [← List.append_assoc, stateAfter_snoc]
      by_contra neither
      obtain ⟨lost, whole⟩ := not_or.mp neither
      exact whole ⟨between, m, [], rfl, (step_update _ m).drops kept lost⟩
    · exact .inr ⟨before, x, after ++ [m], by simp, drops⟩

/-- A look at the job asks for the analysis that it names, and for nothing else, exactly when that
is due; a frozen machine asks for nothing. So between two times that the same analysis is asked for
there is a reset, or it was not there, or something else was named. -/
theorem asked_for_when_due :
    (∀ ms status analysis,
      let effects := (update (stateAfter ms) (.observed status analysis)).2
      ((stateAfter ms).halted = true → effects = []) ∧
      ((stateAfter ms).halted = false →
        (∃ result, analysis = some result ∧ result.isNil = false ∧ Due ms result ∧
            effects = [.fetchAnalysis result]) ∨
          (∀ result, analysis = some result → result.isNil = false → ¬ Due ms result) ∧
            effects = [])) ∧
    (∀ earlier first between second result,
      .fetchAnalysis result ∈ (update (stateAfter earlier) first).2 →
      .fetchAnalysis result ∈ (update (stateAfter (earlier ++ first :: between)) second).2 →
      ∃ before m after, between = before ++ m :: after ∧
        (stateAfter (earlier ++ first :: before)).Drops result m) := by
  refine ⟨?_, ?_⟩
  · intro ms status analysis
    exact ⟨fun halted => ((step_observed _ status analysis).frozen halted nofun).2,
      fun going => effects_look going status analysis⟩
  · intro earlier first between second result asked again
    have known : (stateAfter (earlier ++ [first])).observed = some result := by
      rw [stateAfter_snoc]
      exact ((step_update _ first).asks asked).2.2.1
    rcases observed_or_dropped between known with kept | dropped
    · rw [List.append_assoc] at kept
      exact absurd kept ((step_update _ second).asks again).2.1
    · simpa [List.append_assoc] using dropped

/-- A job that goes on naming its analysis: the second look asks for nothing, the third asks again,
since the analysis was not there in the meantime. -/
theorem asked_again_when_missing :
    let again := Msg.observed .started (some sampleId)
    let missed := namedEarly ++ [again, .analysisUnavailable sampleId]
    (stateAfter namedEarly).halted = false ∧ ¬ Due namedEarly sampleId ∧
      (update (stateAfter namedEarly) again).2 = [] ∧
      (stateAfter missed).halted = false ∧ Due missed sampleId ∧
      (update (stateAfter missed) again).2 = [.fetchAnalysis sampleId] ∧
      ∃ before m after, [again, .analysisUnavailable sampleId] = before ++ m :: after ∧
        (stateAfter (namedEarly ++ before)).Drops sampleId m := by
  intro again missed
  have nothing := (asked_for_when_due.1 namedEarly .started (some sampleId)).2 rfl
  have something := (asked_for_when_due.1 missed .started (some sampleId)).2 rfl
  have between := asked_for_when_due.2 [.buffer sampleId 3, .jobCreated sampleId] again
    [again, .analysisUnavailable sampleId] again sampleId (by decide) (by decide)
  have known : ¬ Due namedEarly sampleId := by
    rcases nothing with ⟨_, _, _, _, asked⟩ | ⟨known, _⟩
    · cases (show [] = [_] from asked)
    · exact known sampleId rfl (by decide)
  have due : Due missed sampleId := by
    rcases something with ⟨_, same, _, due, _⟩ | ⟨_, nothing⟩
    · cases same
      exact due
    · exact absurd nothing (by decide)
  exact ⟨rfl, known, by decide, rfl, due, by decide, between⟩

end TranscodeConsole.QuickTranscode
