import TranscodeConsole.Proofs.Quick.History

/-!
A quick transcode that is reset and used again, and the answers to its calls, which come whenever
they do. A round lasts from one reset to the next. Nothing in an answer says to which round it
belongs: what keeps the answers of earlier rounds out is what the machine waits for in the present
one. That stops a job or an analysis that the present round has not asked for; it stops no failure,
and not the completion of an upload.
-/
namespace TranscodeConsole.QuickTranscode

structure Call where
  effect : Effect
  round : Nat
  deriving DecidableEq, Repr

structure Dialogue where
  state : State := {}
  round : Nat := 0
  calls : List Call := []
  answered : List Nat := []

inductive Turn where
  /-- The machine is told what nobody has to be asked for. -/
  | told (m : Msg)
  /-- A call is answered, whatever round it is of. -/
  | answer (call : Nat) (m : Msg)

def Effect.isCall : Effect → Bool
  | .createJob _ | .upload _ | .fetchAnalysis _ => true
  | .startTracking _ | .stopTracking => false

/-- Whether a message can be the answer to a call. -/
def Msg.settles (m : Msg) (effect : Effect) : Bool :=
  effect.isCall && (m.answers effect || m.failure?.isSome)

/-! ### What one message does to a round -/

structure Heard (s after : State) (effects : List Effect) : Prop where
  idle : after.phase = .idle → s.phase = .idle ∧ ∀ job, .upload job ∉ effects
  creating : after.phase = .uploading →
    s.phase = .uploading ∨ ∃ template, .createJob template ∈ effects
  awaiting : ∀ result, after.observed = some result → result.isNil = false →
    s.observed = some result ∨ .fetchAnalysis result ∈ effects

namespace Step

variable {s after : State} {m : Msg} {effects : List Effect}

theorem heard (step : Step s m after effects) (onward : m ≠ .reset) : Heard s after effects := by
  cases step with
  | submits => constructor <;> simp_all [State.submits]
  | creates uploading => constructor <;> simp_all
  | uploads =>
    have later : s.polls.phase ≠ .idle ∧ s.polls.phase ≠ .uploading := by
      unfold State.polls
      split <;> simp
    exact ⟨fun idle => absurd idle later.1, fun uploading => absurd uploading later.2,
      fun _ known _ => .inl known⟩
  | looks | unnames | names => constructor <;> simp_all [State.sees]
  | loads => constructor <;> simp_all [State.shows]
  | resets => exact absurd rfl onward
  | progresses => constructor <;> simp_all [State.setProgress]
  | rejects | forgets | fails | ignores => constructor <;> simp_all

theorem leaves_idle (step : Step s m after effects) (idle : s.phase = .idle)
    (left : after.phase ≠ .idle) :
    (∃ template byteLength, m = .buffer template byteLength) ∨ m = .uploadCompleted ∨
      ∃ result info, m = .analysisLoaded result info ∧ s.observed = some result := by
  cases step with
  | submits => exact .inl ⟨_, _, rfl⟩
  | uploads => exact .inr (.inl rfl)
  | loads _ awaited => exact .inr (.inr ⟨_, _, rfl, awaited⟩)
  | resets => exact absurd rfl left
  | rejects | progresses | creates | looks | unnames | names | forgets | fails | ignores =>
    exact absurd idle left

theorem changes_job (step : Step s m after effects) (changed : after.job ≠ s.job) :
    m = .reset ∨ ∃ job, m = .jobCreated job ∧ s.phase = .uploading := by
  cases step with
  | creates uploading => exact .inr ⟨_, rfl, uploading⟩
  | resets => exact .inl rfl
  | rejects | submits | progresses | uploads | looks | unnames | names | loads | forgets | fails
  | ignores => exact absurd rfl changed

end Step

namespace Dialogue

def hear (m : Msg) (d : Dialogue) : Dialogue :=
  let (state, effects) := update d.state m
  let round := if m = .reset then d.round + 1 else d.round
  { d with state, round, calls := d.calls ++ effects.map (⟨·, round⟩) }

/-- Answers that are no answers to a call, or to one that was answered before, are never told. -/
def step (d : Dialogue) : Turn → Dialogue
  | .told m => if m.isReply && !m.isLook then d else d.hear m
  | .answer i m => match d.calls[i]? with
    | some call =>
      if m.settles call.effect && !d.answered.contains i then
        { d with answered := i :: d.answered }.hear m
      else d
    | none => d

def run (d : Dialogue) (turns : List Turn) : Dialogue := turns.foldl step d

/-- The present round has itself asked for such an answer. -/
def Asks (d : Dialogue) (m : Msg) : Prop :=
  ∃ effect, ⟨effect, d.round⟩ ∈ d.calls ∧ m.answers effect = true

structure Held (d : Dialogue) : Prop where
  round_le : ∀ call ∈ d.calls, call.round ≤ d.round
  present : ∀ result round, ⟨.fetchAnalysis result, round⟩ ∈ d.calls → result.isNil = false
  idle : d.state.phase = .idle → ∀ job, ⟨.upload job, d.round⟩ ∉ d.calls
  creating : d.state.phase = .uploading → ∃ template, ⟨.createJob template, d.round⟩ ∈ d.calls
  awaiting : ∀ result, d.state.observed = some result → result.isNil = false →
    ⟨.fetchAnalysis result, d.round⟩ ∈ d.calls

variable {d : Dialogue} {m : Msg}

/-! ### What is asked for in a round -/

def goesOn (d : Dialogue) (state : State) (effects : List Effect) : Dialogue :=
  { d with state, calls := d.calls ++ effects.map (⟨·, d.round⟩) }

@[simp] theorem mem_goesOn (state : State) (effects : List Effect) (effect : Effect) (round : Nat) :
    ⟨effect, round⟩ ∈ (d.goesOn state effects).calls ↔
      ⟨effect, round⟩ ∈ d.calls ∨ effect ∈ effects ∧ d.round = round := by
  simp [goesOn]

theorem hear_eq_goesOn (onward : m ≠ .reset) :
    d.hear m = d.goesOn (update d.state m).1 (update d.state m).2 := by
  simp [hear, goesOn, onward]

theorem hear_reset : d.hear .reset =
    { d with
      state := { dirty := true }
      round := d.round + 1
      calls := d.calls ++ [⟨.stopTracking, d.round + 1⟩] } := rfl

theorem held_new : ({} : Dialogue).Held := by
  constructor <;> simp

theorem Held.goesOn (held : d.Held) {state : State} {effects : List Effect}
    (heard : Heard d.state state effects)
    (present : ∀ result, .fetchAnalysis result ∈ effects → result.isNil = false) :
    (d.goesOn state effects).Held where
  round_le := by
    rintro ⟨effect, round⟩ member
    rcases (mem_goesOn ..).mp member with old | ⟨-, present⟩
    · exact held.round_le _ old
    · exact Nat.le_of_eq present.symm
  present := by
    intro result round member
    rcases (mem_goesOn ..).mp member with old | ⟨made, -⟩
    · exact held.present result round old
    · exact present result made
  idle := by
    intro idle job member
    obtain ⟨before, none⟩ := heard.idle idle
    rcases (mem_goesOn ..).mp member with old | ⟨made, -⟩
    · exact held.idle before job old
    · exact none job made
  creating := by
    intro uploading
    rcases heard.creating uploading with before | ⟨template, made⟩
    · obtain ⟨template, old⟩ := held.creating before
      exact ⟨template, (mem_goesOn ..).mpr (.inl old)⟩
    · exact ⟨template, (mem_goesOn ..).mpr (.inr ⟨made, rfl⟩)⟩
  awaiting := by
    intro result observed present
    rcases heard.awaiting result observed present with before | made
    · exact (mem_goesOn ..).mpr (.inl (held.awaiting result before present))
    · exact (mem_goesOn ..).mpr (.inr ⟨made, rfl⟩)

theorem Held.reset (held : d.Held) : (d.hear .reset).Held := by
  rw [hear_reset]
  have older : ∀ effect, ⟨effect, d.round + 1⟩ ∉ d.calls := fun effect member =>
    absurd (held.round_le _ member) (Nat.not_succ_le_self d.round)
  constructor
  case round_le =>
    intro call member
    rcases List.mem_append.mp member with old | new
    · exact Nat.le_succ_of_le (held.round_le call old)
    · exact Nat.le_of_eq (congrArg Call.round (List.mem_singleton.mp new))
  case present =>
    intro result round member
    exact held.present result round (by simpa using member)
  case idle => simp [older]
  all_goals simp

theorem Held.hear (held : d.Held) (m : Msg) : (d.hear m).Held := by
  by_cases reset : m = .reset
  · rw [reset]
    exact held.reset
  · rw [hear_eq_goesOn reset]
    have step := step_update d.state m
    exact held.goesOn (step.heard reset) fun _ asked => (step.fetched asked).1

inductive Taken (d : Dialogue) : Turn → Msg → Prop where
  | told {m : Msg} (unasked : (m.isReply && !m.isLook) = false) : Taken d (.told m) m
  | answer {i : Nat} {m : Msg} {call : Call} (known : d.calls[i]? = some call)
      (settles : m.settles call.effect = true) : Taken d (.answer i m) m

theorem step_taken (d : Dialogue) (turn : Turn) :
    d.step turn = d ∨ ∃ m answered, d.Taken turn m ∧
      d.step turn = { d with answered }.hear m := by
  cases turn with
  | told m =>
    simp only [step]
    split
    · exact .inl rfl
    · rename_i unasked
      exact .inr ⟨m, d.answered, .told (by simpa using unasked), rfl⟩
  | answer i m =>
    simp only [step]
    split
    · rename_i call known
      split
      · rename_i fits
        simp only [Bool.and_eq_true] at fits
        exact .inr ⟨m, i :: d.answered, .answer known fits.1, rfl⟩
      · exact .inl rfl
    · exact .inl rfl

theorem Held.step (held : d.Held) (turn : Turn) : (d.step turn).Held := by
  rcases d.step_taken turn with same | ⟨m, answered, -, heard⟩
  · rw [same]
    exact held
  · rw [heard]
    have settled : ({ d with answered } : Dialogue).Held :=
      ⟨held.round_le, held.present, held.idle, held.creating, held.awaiting⟩
    exact settled.hear m

theorem Held.run (held : d.Held) (turns : List Turn) : (d.run turns).Held := by
  induction turns generalizing d with
  | nil => exact held
  | cons turn turns ih => exact ih (held.step turn)

/-! ### What an answer comes to that the round has not asked for -/

theorem Held.fetches (held : d.Held) {result : Uuid} {round : Nat}
    (known : ⟨.fetchAnalysis result, round⟩ ∈ d.calls)
    (awaited : d.state.observed = some result) : ⟨.fetchAnalysis result, d.round⟩ ∈ d.calls :=
  held.awaiting result awaited (held.present result round known)

theorem Held.deaf (held : d.Held) {call : Call} (known : call ∈ d.calls)
    (settles : m.settles call.effect = true) (unfailed : m.failure? = none)
    (upload : m = .uploadCompleted → d.state.halted = true) (foreign : ¬ d.Asks m) :
    d.state.heeds m = false := by
  obtain ⟨effect, round⟩ := call
  have answers : effect.isCall = true ∧ m.answers effect = true := by
    simpa [Msg.settles, unfailed] using settles
  refine Bool.eq_false_iff.mpr fun heeded => ?_
  cases m with
  | jobCreated job =>
    have uploading : d.state.phase = .uploading := by
      simp only [State.heeds, Bool.and_eq_true, decide_eq_true_eq] at heeded
      exact heeded.1
    obtain ⟨template, own⟩ := held.creating uploading
    exact foreign ⟨_, own, rfl⟩
  | uploadCompleted => simp [State.heeds, upload rfl] at heeded
  | analysisLoaded result info =>
    have awaited : d.state.observed = some result := by
      simp only [State.heeds, Bool.and_eq_true, decide_eq_true_eq] at heeded
      exact heeded.2
    obtain rfl := Msg.analysisLoaded_answers.mp answers.2
    exact foreign ⟨_, held.fetches known awaited, answers.2⟩
  | analysisUnavailable result =>
    have awaited : d.state.observed = some result := by simpa [State.heeds] using heeded
    obtain rfl := Msg.analysisUnavailable_answers.mp answers.2
    exact foreign ⟨_, held.fetches known awaited, answers.2⟩
  | observed => cases effect <;> simp [Effect.isCall, Msg.answers] at answers
  | failed => cases unfailed
  | buffer | progress | reset => cases answers.2

/-! ### How far the rounds are kept apart -/

structure Parted (d : Dialogue) (turn : Turn) : Prop where
  /-- What the present round has not asked for comes to nothing, but for a failure, and for an
  upload unless the machine is frozen. -/
  foreign : ∀ i m, turn = .answer i m → ¬ d.Asks m → m.failure? = none →
    (m = .uploadCompleted → d.state.halted = true) →
    (d.step turn).state = d.state ∧ (d.step turn).calls = d.calls
  begins : d.state.phase = .idle → (d.step turn).state.phase ≠ .idle →
    (∃ template byteLength, turn = .told (.buffer template byteLength)) ∨
      (∃ i call, turn = .answer i .uploadCompleted ∧ d.calls[i]? = some call ∧
        call.round < d.round) ∨
      ∃ i result info, turn = .answer i (.analysisLoaded result info) ∧
        d.Asks (.analysisLoaded result info)
  job : (d.step turn).state.job ≠ d.state.job →
    turn = .told .reset ∨ ∃ i job, turn = .answer i (.jobCreated job) ∧ d.Asks (.jobCreated job)

theorem Held.foreign (held : d.Held) (i : Nat) (foreign : ¬ d.Asks m)
    (unfailed : m.failure? = none) (upload : m = .uploadCompleted → d.state.halted = true) :
    (d.step (.answer i m)).state = d.state ∧ (d.step (.answer i m)).calls = d.calls := by
  rcases d.step_taken (.answer i m) with same | ⟨m, answered, taken, heard⟩
  · rw [same]
    exact ⟨rfl, rfl⟩
  · cases taken with
    | answer known settles =>
      have deaf := held.deaf (List.mem_of_getElem? known) settles unfailed upload foreign
      have onward : m ≠ .reset := by
        rintro rfl
        cases deaf
      rw [heard, hear_eq_goesOn onward]
      simp [Dialogue.goesOn, update_ignored deaf]

theorem Held.begins (held : d.Held) {turn : Turn} (idle : d.state.phase = .idle)
    (left : (d.step turn).state.phase ≠ .idle) :
    (∃ template byteLength, turn = .told (.buffer template byteLength)) ∨
      (∃ i call, turn = .answer i .uploadCompleted ∧ d.calls[i]? = some call ∧
        call.round < d.round) ∨
      ∃ i result info, turn = .answer i (.analysisLoaded result info) ∧
        d.Asks (.analysisLoaded result info) := by
  rcases d.step_taken turn with same | ⟨m, answered, taken, heard⟩
  · rw [same] at left
    exact absurd idle left
  · rw [heard] at left
    have left : (update d.state m).1.phase ≠ .idle := left
    cases taken with
    | told unasked =>
      rcases (step_update d.state _).leaves_idle idle left with
        ⟨template, byteLength, rfl⟩ | rfl | ⟨_, _, rfl, -⟩
      · exact .inl ⟨template, byteLength, rfl⟩
      · cases unasked
      · cases unasked
    | @answer i _ call known settles =>
      have member := List.mem_of_getElem? known
      obtain ⟨effect, round⟩ := call
      rcases (step_update d.state _).leaves_idle idle left with
        ⟨_, _, rfl⟩ | rfl | ⟨result, info, rfl, awaited⟩
      · cases effect <;> cases settles
      · -- the upload of this round would have its file, so the phase would be a later one
        cases effect with
        | upload job =>
          refine .inr (.inl ⟨i, _, rfl, known, Nat.lt_of_le_of_ne (held.round_le _ member) ?_⟩)
          rintro rfl
          exact held.idle idle job member
        | _ => cases settles
      · have answers : (Msg.analysisLoaded result info).answers effect = true := by
          simpa [Msg.settles, Msg.failure?] using (Bool.and_eq_true_iff.mp settles).2
        obtain rfl := Msg.analysisLoaded_answers.mp answers
        exact .inr (.inr ⟨i, result, info, rfl, _, held.fetches member awaited, answers⟩)

theorem Held.job (held : d.Held) {turn : Turn} (changed : (d.step turn).state.job ≠ d.state.job) :
    turn = .told .reset ∨
      ∃ i job, turn = .answer i (.jobCreated job) ∧ d.Asks (.jobCreated job) := by
  rcases d.step_taken turn with same | ⟨m, answered, taken, heard⟩
  · rw [same] at changed
    exact absurd rfl changed
  · rw [heard] at changed
    have changed : (update d.state m).1.job ≠ d.state.job := changed
    cases taken with
    | told unasked =>
      rcases (step_update d.state _).changes_job changed with rfl | ⟨job, rfl, -⟩
      · exact .inl rfl
      · cases unasked
    | @answer i _ call _ settles =>
      rcases (step_update d.state _).changes_job changed with rfl | ⟨job, rfl, uploading⟩
      · obtain ⟨effect, round⟩ := call
        cases effect <;> cases settles
      · obtain ⟨template, own⟩ := held.creating uploading
        exact .inr ⟨i, job, rfl, _, own, rfl⟩

/-- In every course that the calls and their answers can take over any number of rounds: an answer
of an earlier round comes to nothing unless it is a failure, the completion of an upload, or one
such as the present round has asked for; a round is begun by a file that is handed over, unless by
the upload of an earlier one or by an analysis that it has asked for itself; and it has no job
unless it has asked for one. -/
theorem rounds_parted (turns : List Turn) (turn : Turn) : (run {} turns).Parted turn where
  foreign := by
    rintro i m rfl foreign unfailed upload
    exact (held_new.run turns).foreign i foreign unfailed upload
  begins := (held_new.run turns).begins
  job := (held_new.run turns).job

/-- A round is given up while its file is uploaded and its analysis is fetched. -/
def givenUp : List Turn :=
  [.told (.buffer sampleId 3), .answer 0 (.jobCreated sampleId),
    .told (.observed .started (some sampleId)), .told .reset]

/-- A new file is handed over while the job of the round before is still being created. -/
def retaken : List Turn :=
  [.told (.buffer sampleId 3), .told .reset, .told (.buffer sampleId 5)]

/-- A fetch of the round before that fails after the reset freezes the machine, so that no file is
taken any more; an upload that is completed then takes it out of its first phase; and a job that was
created for the round before becomes the one of the new. -/
theorem earlier_answers_are_taken :
    (run {} givenUp).calls[2]? = some ⟨.upload sampleId, 0⟩ ∧
      (run {} givenUp).calls[3]? = some ⟨.fetchAnalysis sampleId, 0⟩ ∧
      (run {} givenUp).round = 1 ∧ (run {} givenUp).state.phase = .idle ∧
      (run {} (givenUp ++ [.answer 2 .uploadCompleted])).state.phase = .polling ∧
      (run {} (givenUp ++ [.answer 3 (.failed "offline"), .told (.buffer sampleId 5)])).state.phase
        = .idle ∧
      (run {} retaken).calls[0]? = some ⟨.createJob sampleId, 0⟩ ∧ (run {} retaken).round = 1 ∧
      (run {} (retaken ++ [.answer 0 (.jobCreated sampleId)])).state.job = some sampleId ∧
      ¬ ∀ (turns : List Turn) (i : Nat) (m : Msg) (call : Call),
        (run {} turns).calls[i]? = some call → call.round < (run {} turns).round →
          ((run {} turns).step (.answer i m)).state = (run {} turns).state := by
  refine ⟨by decide, by decide, rfl, rfl, by decide, by decide, by decide, rfl, by decide, ?_⟩
  intro apart
  have same := apart givenUp 3 (.failed "offline") ⟨.fetchAnalysis sampleId, 0⟩ (by decide)
    (by decide)
  exact absurd (congrArg State.halted same) (by decide)

end Dialogue
end TranscodeConsole.QuickTranscode
