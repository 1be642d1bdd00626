import TranscodeConsole.Proofs.Tracking.Answered

/-!
What becomes of the poll of a tracker when the tracker is turned to a key, when it is stopped by its
owner or by a stopper, and when the poll itself brings an answer. Polls are called off for good, and
whether another one can be started depends on the one that is held.
-/
namespace TranscodeConsole

open Poll Tracking

namespace Poll.Owner

theorem control_stop (marks : Marks) (o : Owner) : o.control (o.stop marks) = none := by
  cases held : o.held <;> simp [control, stop, held, Control.stop, Control.isStopped]

end Poll.Owner

variable {κ τ : Type}

def Stopper.Knows (s : Stopper) (running : Control) : Prop :=
  ∃ own, s.control = some own ∧ own.mark = running.mark

namespace Tracker

variable {t after : Tracker κ τ}

theorem isPolling_eq_false (t : Tracker κ τ) :
    t.isPolling = false ↔ ∀ own, t.owner.held = some own → own.isStopped t.marks = true := by
  cases held : t.owner.held <;> simp [isPolling, Owner.isRunning, Owner.control, held]

theorem isPolling_of_held {own : Control} (held : t.owner.held = some own) :
    t.isPolling = !own.isStopped t.marks := by
  cases gone : own.isStopped t.marks <;>
    simp [isPolling, Owner.isRunning, Owner.control, held, gone]

theorem control_eq_none (idle : t.isPolling = false) : t.control = none := by
  simpa [isPolling, Owner.isRunning, control] using idle

/-- A tracker behind which no poll was started, while polls may have been called off. -/
structure Ages (t after : Tracker κ τ) : Prop where
  owner : after.owner = t.owner
  issued : after.marks.issued = t.marks.issued
  grows : ∀ mark, t.marks.isCancelled mark = true → after.marks.isCancelled mark = true
  known : ∀ mark, after.marks.isCancelled mark = true →
    t.marks.isCancelled mark = true ∨ mark < t.marks.issued

namespace Ages

theorem of_same (owner : after.owner = t.owner) (marks : after.marks = t.marks) : t.Ages after :=
  ⟨owner, by rw [marks], fun _ gone => by rwa [marks], fun _ gone => .inl (by rwa [← marks])⟩

theorem of_stop {own : Control} (old : own.mark < t.marks.issued) (owner : after.owner = t.owner)
    (marks : after.marks = own.stop t.marks) : t.Ages after := by
  constructor
  case owner => exact owner
  case issued => rw [marks, Control.stop, Marks.issued_cancel]
  case grows =>
    intro mark gone
    rw [marks, Control.stop, Marks.isCancelled_cancel, gone, Bool.true_or]
  case known =>
    intro mark gone
    rw [marks, Control.stop, Marks.isCancelled_cancel, Bool.or_eq_true, beq_iff_eq] at gone
    rcases gone with before | rfl
    · exact .inl before
    · exact .inr old

theorem trans {later : Tracker κ τ} (first : t.Ages after) (second : after.Ages later) :
    t.Ages later := by
  constructor
  case owner => exact second.owner.trans first.owner
  case issued => exact second.issued.trans first.issued
  case grows => exact fun mark gone => second.grows mark (first.grows mark gone)
  case known =>
    intro mark gone
    rcases second.known mark gone with before | old
    · exact first.known mark before
    · exact .inr (first.issued ▸ old)

theorem live (ages : t.Ages after) {own : Control} (lives : own.isStopped after.marks = false) :
    own.isStopped t.marks = false := by
  cases gone : own.isStopped t.marks with
  | false => rfl
  | true => exact absurd (ages.grows _ gone) (by simpa [Control.isStopped] using lives)

theorem control (ages : t.Ages after) {running : Control} (runs : after.control = some running) :
    t.control = some running := by
  simp only [Tracker.control, Owner.control, Option.filter_eq_some_iff, ages.owner] at runs ⊢
  exact ⟨runs.1, by simpa using ages.live (by simpa using runs.2)⟩

theorem idle (ages : t.Ages after) (idle : t.isPolling = false) : after.isPolling = false := by
  rw [isPolling_eq_false] at idle ⊢
  intro own held
  exact ages.grows _ (idle own (ages.owner ▸ held))

end Ages

/-- A tracker that polls for this poll as long as it was not called off. -/
structure Polls (t : Tracker κ τ) (poll : TrackedPoll κ) : Prop where
  held : t.owner.held = some poll.control
  generation : t.state.generation = poll.generation
  stopped : poll.control.isStopped t.marks = !t.state.polling

theorem Polls.agrees {poll : TrackedPoll κ} (polls : t.Polls poll) :
    t.state.polling = t.isPolling := by
  rw [isPolling_of_held polls.held, polls.stopped, Bool.not_not]

theorem Polls.control {poll : TrackedPoll κ} (polls : t.Polls poll)
    (live : poll.control.isStopped t.marks = false) : t.control = some poll.control := by
  rw [Tracker.control, Owner.control, Option.filter_eq_some_iff]
  exact ⟨polls.held, by simp [live]⟩

theorem Polls.accepts {poll : TrackedPoll κ} (polls : t.Polls poll)
    (live : poll.control.isStopped t.marks = false) :
    t.state.accepts poll.generation = true := by
  rw [State.accepts_iff, polls.generation]
  exact ⟨by simpa [live] using polls.stopped, rfl⟩

/-! ### Turning to a key -/

def nextPoll (t : Tracker κ τ) (key : κ) : TrackedPoll κ :=
  ⟨⟨t.owner.lastId + 1, t.marks.issued⟩, t.state.generation + 1, key⟩

def starts (t : Tracker κ τ) (key : κ) : Tracker κ τ :=
  { t with
    state := t.state.turnedTo key
    owner := ⟨t.owner.lastId + 1, some (t.nextPoll key).control⟩
    marks := { t.marks with issued := t.marks.issued + 1 } }

def cleared (t : Tracker κ τ) : Tracker κ τ := if t.state.polling then t.stopPoll else t

theorem isPolling_cleared (free : t.state.polling = true ∨ t.isPolling = false) :
    t.cleared.isPolling = false := by
  have stopped := Owner.control_stop t.marks t.owner
  cases polling : t.state.polling with
  | false => simpa [polling, cleared] using free
  | true => simp [cleared, polling, stopPoll, isPolling, Owner.isRunning, stopped]

theorem ages_stopPoll (old : ∀ own, t.owner.held = some own → own.mark < t.marks.issued) :
    t.Ages t.stopPoll := by
  cases held : t.owner.held with
  | none => exact .of_same rfl (by simp [stopPoll, Owner.stop, held])
  | some own => exact .of_stop (old own held) rfl (by simp [stopPoll, Owner.stop, held])

theorem ages_cleared (old : ∀ own, t.owner.held = some own → own.mark < t.marks.issued) :
    t.Ages t.cleared := by
  unfold cleared
  split
  · exact ages_stopPoll old
  · exact .of_same rfl rfl

variable [LiveResource τ]

theorem track_free (free : t.state.polling = true ∨ t.isPolling = false) (key : κ) :
    t.track key = (.ok (some (t.cleared.nextPoll key)), t.cleared.starts key) := by
  have idle : t.cleared.owner.control t.cleared.marks = none :=
    control_eq_none (isPolling_cleared free)
  cases polling : t.state.polling <;>
    simp_all [track, update, runRequest, cleared, stopPoll, startPoll, Owner.start, starts,
      nextPoll, Marks.issue, State.turnedTo, Except.map]

theorem track_running {running : Control} (runs : t.control = some running)
    (idle : t.state.polling = false) (key : κ) :
    t.track key = (.error ⟨running.id⟩, { t with state := t.state.turnedTo key }) := by
  have start : t.owner.start t.marks = .error ⟨running.id⟩ := by
    unfold Owner.start
    rw [show t.owner.control t.marks = some running from runs]
  simp [track, update, idle, runRequest, startPoll, start, State.turnedTo]

/-! ### Stopping, and being told -/

theorem stopBy_eq (s : Stopper) (t : Tracker κ τ) :
    s.stop t = { t with
      state := (update t.state .stop).1
      marks := s.control.elim t.marks (·.stop t.marks) } := by
  obtain ⟨_ | own⟩ := s <;> simp [Stopper.stop, update]

theorem ages_stop (old : ∀ own, t.owner.held = some own → own.mark < t.marks.issued) :
    t.Ages t.stop :=
  (ages_stopPoll old).trans (.of_same rfl rfl)

theorem ages_stopBy {s : Stopper} (old : ∀ own, s.control = some own → own.mark < t.marks.issued) :
    t.Ages (s.stop t) := by
  rw [stopBy_eq]
  cases control : s.control with
  | none => exact .of_same rfl rfl
  | some own => exact .of_stop (old own control) rfl rfl

theorem isPolling_stopBy {s : Stopper} (knows : ∀ running, t.control = some running →
    s.Knows running) : (s.stop t).isPolling = false := by
  rw [stopBy_eq, isPolling_eq_false]
  intro own held
  cases gone : own.isStopped t.marks with
  | true => cases s.control <;> simp_all [Control.isStopped, Control.stop]
  | false =>
    have held : t.owner.held = some own := held
    obtain ⟨known, control, same⟩ :=
      knows own (by simp [Tracker.control, Owner.control, held, gone])
    simp [control, Control.stop, Control.isStopped, same]

theorem control_stopBy {s : Stopper} {running : Control} (runs : t.control = some running)
    (unknown : ¬ s.Knows running) : (s.stop t).control = some running := by
  simp only [Tracker.control, Owner.control, Option.filter_eq_some_iff, stopBy_eq] at runs ⊢
  refine ⟨runs.1, ?_⟩
  cases control : s.control with
  | none => exact runs.2
  | some own =>
    have other : running.mark ≠ own.mark := fun same => unknown ⟨own, control, same.symm⟩
    simpa [Control.isStopped, Control.stop, other] using runs.2

def Hears (t : Tracker κ τ) (poll : TrackedPoll κ) : Prop :=
  ∀ result, (t.answer poll result).state = t.state.told result

theorem hears_of_accepts {poll : TrackedPoll κ}
    (accepted : t.state.accepts poll.generation = true) : t.Hears poll :=
  fun result => by rw [answer_accepted accepted result]

theorem ages_answer {poll : TrackedPoll κ} (old : poll.control.mark < t.marks.issued)
    (result : Except ServiceError τ) : t.Ages (t.answer poll result) := by
  cases accepted : t.state.accepts poll.generation with
  | false =>
    rw [answer_refused accepted result]
    exact .of_same rfl rfl
  | true =>
    rw [answer_accepted accepted result]
    by_cases last : isLast result = true
    · exact .of_stop old rfl (if_pos last)
    · exact .of_same rfl (if_neg last)

theorem Polls.answer {poll : TrackedPoll κ} (polls : t.Polls poll)
    (live : poll.control.isStopped t.marks = false) (result : Except ServiceError τ) :
    (t.answer poll result).Polls poll := by
  have accepted := polls.accepts live
  constructor
  case held =>
    rw [answer_accepted accepted]
    exact polls.held
  case generation =>
    rw [answer_accepted accepted, ← polls.generation]
    cases result <;> rfl
  case stopped => exact stopped_answer accepted polls.stopped result

end Tracker
end TranscodeConsole
