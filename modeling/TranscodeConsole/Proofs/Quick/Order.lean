import TranscodeConsole.Proofs.Quick.History

/-!
In which order the phases of a quick transcode come. The answer to the upload and the looks at the
job come from two tasks that do not wait for each other; so an analysis can overtake the upload that
it is made of, and then a phase is left out. In every other case a phase is followed by the next.
-/
namespace TranscodeConsole.QuickTranscode

namespace Step

variable {s after : State} {m : Msg} {effects : List Effect}

theorem begun (step : Step s m after effects) {effect : Effect} (made : effect ∈ effects)
    (other : effect ≠ .stopTracking) : after.phase ≠ .idle ∨ m.isReply = true := by
  cases step with
  | submits => exact .inl (by simp [State.submits])
  | creates | names => exact .inr rfl
  | fails | resets => exact absurd (List.mem_singleton.mp made) other
  | rejects | progresses | uploads | looks | unnames | loads | forgets | ignores => cases made

theorem followed (step : Step s m after effects) {job : Uuid}
    (made : .startTracking job ∈ effects) : .upload job ∈ effects := by
  cases step <;> simp_all

theorem polling (step : Step s m after effects) (onward : m ≠ .reset)
    (polling : after.phase = .polling) :
    s.phase = .polling ∨ m = .uploadCompleted ∧ s.halted = false := by
  cases step with
  | uploads going => exact .inr ⟨rfl, going⟩
  | submits | loads => cases polling
  | resets => exact absurd rfl onward
  | rejects | progresses | creates | looks | unnames | names | forgets | fails | ignores =>
    exact .inl polling

end Step

/-- The completion of an upload was told, to a machine that was not frozen. -/
def UploadAccepted (ms : List Msg) : Prop :=
  ∃ earlier later, ms = earlier ++ .uploadCompleted :: later ∧ (stateAfter earlier).halted = false

theorem uploadAccepted_snoc (ms : List Msg) (m : Msg) :
    UploadAccepted (ms ++ [m]) ↔
      UploadAccepted ms ∨ m = .uploadCompleted ∧ (stateAfter ms).halted = false := by
  constructor
  · rintro ⟨earlier, later, whole, going⟩
    rcases snoc_eq_append_cons.mp whole with ⟨rfl, rfl, rfl⟩ | ⟨rest, rfl, rfl⟩
    · exact .inr ⟨rfl, going⟩
    · exact .inl ⟨earlier, rest, rfl, going⟩
  · rintro (⟨earlier, later, rfl, going⟩ | ⟨rfl, going⟩)
    · exact ⟨earlier, later ++ [m], by simp, going⟩
    · exact ⟨ms, [], rfl, going⟩

/-- What a history without a reset has in order, whatever its phase. -/
structure Ordered (ms : List Msg) : Prop where
  begun : ∀ effect ∈ effectsOf ms, effect ≠ .stopTracking → (stateAfter ms).phase ≠ .idle
  followed : ∀ job, .startTracking job ∈ effectsOf ms → .upload job ∈ effectsOf ms
  fetched : ∀ result, .fetchAnalysis result ∈ effectsOf ms → ∃ job, .upload job ∈ effectsOf ms
  accepted : UploadAccepted ms → 2 ≤ (stateAfter ms).phase.ordinal
  polling : (stateAfter ms).phase = .polling → UploadAccepted ms

variable {ms : List Msg} {m : Msg}

theorem ordered_nil : Ordered [] where
  begun := by simp [effectsOf, run]
  followed := by simp [effectsOf, run]
  fetched := by simp [effectsOf, run]
  accepted := by
    rintro ⟨earlier, later, whole, _⟩
    simp at whole
  polling := by rintro ⟨⟩

theorem Phase.ne_idle_of_le {phase after : Phase} (le : phase.ordinal ≤ after.ordinal)
    (begun : phase ≠ .idle) : after ≠ .idle := by
  rintro rfl
  cases phase <;> simp_all [Phase.ordinal]

namespace Ordered

theorem begun_of_reply (ordered : Ordered ms)
    (asked : ∃ effect ∈ effectsOf ms, m.answers effect = true) :
    (stateAfter ms).phase ≠ .idle := by
  obtain ⟨effect, made, answers⟩ := asked
  refine ordered.begun effect made ?_
  rintro rfl
  cases m <;> cases answers

theorem begun_snoc (ordered : Ordered ms) (onward : m ≠ .reset)
    (asked : m.isReply = true → ∃ effect ∈ effectsOf ms, m.answers effect = true) :
    ∀ effect ∈ effectsOf (ms ++ [m]), effect ≠ .stopTracking →
      (stateAfter (ms ++ [m])).phase ≠ .idle := by
  rw [effectsOf_snoc, stateAfter_snoc]
  intro effect made other
  have later := phase_le_update (stateAfter ms) onward
  rcases List.mem_append.mp made with old | new
  · exact Phase.ne_idle_of_le later (ordered.begun effect old other)
  · rcases (step_update (stateAfter ms) m).begun new other with begun | reply
    · exact begun
    · exact Phase.ne_idle_of_le later (ordered.begun_of_reply (asked reply))

theorem followed_snoc (ordered : Ordered ms) :
    ∀ job, .startTracking job ∈ effectsOf (ms ++ [m]) → .upload job ∈ effectsOf (ms ++ [m]) := by
  rw [effectsOf_snoc]
  intro job made
  rcases List.mem_append.mp made with old | new
  · exact List.mem_append_left _ (ordered.followed job old)
  · exact List.mem_append_right _ ((step_update (stateAfter ms) m).followed new)

theorem fetched_snoc (ordered : Ordered ms)
    (asked : m.isReply = true → ∃ effect ∈ effectsOf ms, m.answers effect = true) :
    ∀ result, .fetchAnalysis result ∈ effectsOf (ms ++ [m]) →
      ∃ job, .upload job ∈ effectsOf (ms ++ [m]) := by
  rw [effectsOf_snoc]
  intro result made
  have known : ∃ job, .upload job ∈ effectsOf ms := by
    rcases List.mem_append.mp made with old | new
    · exact ordered.fetched result old
    · -- whoever names a result has looked at a job, so the job is followed
      obtain ⟨-, status, rfl⟩ := (step_update (stateAfter ms) m).fetched new
      obtain ⟨effect, made, answers⟩ := asked rfl
      cases effect with
      | startTracking job => exact ⟨job, ordered.followed job made⟩
      | _ => cases answers
  obtain ⟨job, made⟩ := known
  exact ⟨job, List.mem_append_left _ made⟩

theorem accepted_snoc (ordered : Ordered ms) (onward : m ≠ .reset) :
    UploadAccepted (ms ++ [m]) → 2 ≤ (stateAfter (ms ++ [m])).phase.ordinal := by
  rw [uploadAccepted_snoc, stateAfter_snoc]
  rintro (before | ⟨rfl, going⟩)
  · exact Nat.le_trans (ordered.accepted before) (phase_le_update (stateAfter ms) onward)
  · rw [update_uploadCompleted going]
    simp only [State.polls]
    split <;> decide

theorem polling_snoc (ordered : Ordered ms) (onward : m ≠ .reset) :
    (stateAfter (ms ++ [m])).phase = .polling → UploadAccepted (ms ++ [m]) := by
  rw [uploadAccepted_snoc, stateAfter_snoc]
  intro polling
  rcases (step_update (stateAfter ms) m).polling onward polling with before | completed
  · exact .inl (ordered.polling before)
  · exact .inr completed

theorem snoc (ordered : Ordered ms) (onward : m ≠ .reset)
    (asked : m.isReply = true → ∃ effect ∈ effectsOf ms, m.answers effect = true) :
    Ordered (ms ++ [m]) where
  begun := ordered.begun_snoc onward asked
  followed := ordered.followed_snoc
  fetched := ordered.fetched_snoc asked
  accepted := ordered.accepted_snoc onward
  polling := ordered.polling_snoc onward

end Ordered

theorem ordered_of_solicited (solicited : Solicited Msg.isReply ms) (onward : Msg.reset ∉ ms) :
    Ordered ms := by
  induction solicited with
  | nil => exact ordered_nil
  | snoc earlier asked ih =>
    have apart := onward
    simp only [List.mem_append, List.mem_singleton, not_or] at apart
    exact (ih apart.1).snoc (Ne.symm apart.2) asked

/-- An analysis is loaded while the upload of its file is still under way. -/
structure Overtakes (ms : List Msg) (m : Msg) : Prop where
  analysis : ∃ result info, m = .analysisLoaded result info
  uploading : ∃ job, .upload job ∈ effectsOf ms
  under_way : ¬ UploadAccepted ms

theorem Ordered.overtakes (ordered : Ordered ms) {result : Uuid} {info : FileFormat}
    (asked : ∃ effect ∈ effectsOf ms, (Msg.analysisLoaded result info).answers effect = true)
    (uploading : (stateAfter ms).phase = .uploading) :
    Overtakes ms (.analysisLoaded result info) where
  analysis := ⟨result, info, rfl⟩
  uploading := by
    obtain ⟨effect, made, answers⟩ := asked
    obtain rfl := Msg.analysisLoaded_answers.mp answers
    exact ordered.fetched result made
  under_way := by
    intro accepted
    have late := ordered.accepted accepted
    rw [uploading] at late
    exact absurd late (by decide)

/-- In a run without a reset, in which answers come only to what was asked for and the job is looked
at only once it is followed, a phase is followed by the next one, and the last phase comes after the
upload; but for an analysis that overtakes the upload. -/
theorem phases_in_order (ms : List Msg) (m : Msg) (solicited : Solicited Msg.isReply (ms ++ [m]))
    (onward : Msg.reset ∉ ms ++ [m]) :
    let s := stateAfter ms
    let t := stateAfter (ms ++ [m])
    (t.phase = s.phase ∨ t.phase.ordinal = s.phase.ordinal + 1 ∨
      s.phase = .uploading ∧ t.phase = .analysisReady ∧ Overtakes ms m) ∧
    (t.phase = .analysisReady → s.phase ≠ .analysisReady →
      UploadAccepted ms ∨ Overtakes ms m) := by
  obtain ⟨earlier, asked⟩ := solicited.last
  simp only [List.mem_append, List.mem_singleton, not_or] at onward
  have ordered := ordered_of_solicited earlier onward.1
  have begun : m.isReply = true → (stateAfter ms).phase ≠ .idle := fun reply =>
    ordered.begun_of_reply (asked reply)
  intro s t
  have step : Step s m t (update s m).2 := by
    rw [show t = (update s m).1 from stateAfter_snoc ms m]
    exact step_update s m
  clear_value t
  generalize (update s m).2 = effects at step
  cases step with
  | submits idle => exact ⟨.inr (.inl (by rw [idle]; rfl)), by rintro ⟨⟩⟩
  | uploads =>
    cases phase : s.phase with
    | idle => exact absurd phase (begun rfl)
    | uploading => simp [State.polls, phase, Phase.ordinal]
    | polling => simp [State.polls, phase]
    | analysisReady => simp [State.polls, phase]
  | loads =>
    cases phase : s.phase with
    | idle => exact absurd phase (begun rfl)
    | uploading =>
      have overtakes := ordered.overtakes (asked rfl) phase
      exact ⟨.inr (.inr ⟨rfl, rfl, overtakes⟩), fun _ _ => .inr overtakes⟩
    | polling => exact ⟨.inr (.inl rfl), fun _ _ => .inl (ordered.polling phase)⟩
    | analysisReady => exact ⟨.inl rfl, fun _ other => absurd rfl other⟩
  | resets => exact absurd rfl onward.2
  | rejects | progresses | creates | looks | unnames | names | forgets | fails | ignores =>
    exact ⟨.inl rfl, fun ready other => absurd ready other⟩

theorem upload_comm_analysis (s : State) (result : Uuid) (info : FileFormat) :
    run s [.uploadCompleted, .analysisLoaded result info] =
      run s [.analysisLoaded result info, .uploadCompleted] := by
  by_cases going : s.halted = false
  · by_cases awaited : s.observed = some result
    · have polling : s.polls.halted = false ∧ s.polls.observed = some result := ⟨going, awaited⟩
      have ready : (s.shows info).halted = false := going
      simp only [run, update_uploadCompleted going, update_analysisLoaded going awaited,
        update_uploadCompleted ready, update_analysisLoaded polling.1 polling.2]
      simp [State.polls, State.shows]
    · have deaf (t : State) (same : t.observed = s.observed) :
          update t (.analysisLoaded result info) = (t, []) :=
        update_ignored (by simp [State.heeds, same, awaited])
      simp [run, deaf s rfl, deaf _ (observed_uploadCompleted s)]
  · have deaf : s.heeds .uploadCompleted = false ∧
        s.heeds (.analysisLoaded result info) = false := by
      simp [State.heeds, going]
    simp [run, update_ignored deaf.1, update_ignored deaf.2]

/-- An upload that is done in time: its analysis is loaded while the job is polled. -/
theorem analysis_after_upload :
    let ms := namedEarly ++ [.uploadCompleted]
    let m : Msg := .analysisLoaded sampleId sampleInfo
    Solicited Msg.isReply (ms ++ [m]) ∧ Msg.reset ∉ ms ++ [m] ∧
      (stateAfter (ms ++ [m])).phase.ordinal = (stateAfter ms).phase.ordinal + 1 ∧
      UploadAccepted ms := by
  intro ms m
  have uploaded : Solicited Msg.isReply ms :=
    (solicited_namedEarly _ fun _ _ => rfl).snoc fun _ => ⟨.upload sampleId, by decide, rfl⟩
  have solicited : Solicited Msg.isReply (ms ++ [m]) :=
    uploaded.snoc fun _ => ⟨.fetchAnalysis sampleId, by decide, rfl⟩
  have onward : Msg.reset ∉ ms ++ [m] := by decide
  obtain ⟨phase, ready⟩ := phases_in_order ms m solicited onward
  have accepted : UploadAccepted ms := ⟨namedEarly, [], rfl, rfl⟩
  refine ⟨solicited, onward, ?_, ?_⟩
  · rcases phase with same | next | ⟨uploading, _⟩
    · cases same
    · exact next
    · cases uploading
  · exact (ready rfl (by decide)).resolve_right fun overtakes => overtakes.under_way accepted

/-- The answer to the upload may take longer than the job's analysis: a phase is left out then, and
the last one is there before the upload is. -/
theorem analysis_overtakes_upload :
    let m : Msg := .analysisLoaded sampleId sampleInfo
    (stateAfter namedEarly).phase = .uploading ∧
      (stateAfter (namedEarly ++ [m])).phase = .analysisReady ∧
      ¬ ∀ (ms : List Msg) (m : Msg), Solicited Msg.isReply (ms ++ [m]) → Msg.reset ∉ ms ++ [m] →
        (stateAfter (ms ++ [m])).phase = (stateAfter ms).phase ∨
          (stateAfter (ms ++ [m])).phase.ordinal = (stateAfter ms).phase.ordinal + 1 := by
  intro m
  refine ⟨rfl, rfl, ?_⟩
  intro always
  have solicited : Solicited Msg.isReply (namedEarly ++ [m]) :=
    (solicited_namedEarly _ fun _ _ => rfl).snoc fun _ => ⟨.fetchAnalysis sampleId, by decide, rfl⟩
  rcases always namedEarly m solicited (by decide) with same | next
  · cases same
  · cases next

end TranscodeConsole.QuickTranscode
