import TranscodeConsole.Proofs.Quick.Relay
import TranscodeConsole.Proofs.Tracking.Tended

/-!
What the statuses of a job have in common that are on their way from the poll to the machine: they
are those that the tracker accepted, the last one included, and only the last one can be final.
-/
namespace TranscodeConsole.QuickTranscode

def eventStatus? : TrackEvent JobSnapshot → Option JobStatus
  | .refreshed snapshot => some snapshot.status
  | .failed _ => none

def eventOf : Tracking.Effect Uuid JobSnapshot → Option (TrackEvent JobSnapshot)
  | .publish snapshot => some (.refreshed snapshot)
  | .reportFailure message => some (.failed message)
  | .startPolling .. | .stopPolling => none

/-- The statuses known so far, and those on their way, belong to this state of the tracker. -/
structure Course (t : Tracking.State Uuid JobSnapshot) (statuses : List JobStatus) : Prop where
  latest : statuses.getLast? = t.latest.map (·.status)
  open_ : t.polling = true → ∀ status ∈ statuses, status.isFinal = false
  final : ∀ status ∈ statuses, status.isFinal = true → t.latest.map (·.status) = some status

namespace Course

variable {t : Tracking.State Uuid JobSnapshot} {statuses : List JobStatus}

theorem unfollowed (course : Course t statuses) {status : JobStatus}
    (latest : t.latest.map (·.status) = some status) (final : status.isFinal = true) :
    t.polling = false := by
  cases polling : t.polling with
  | false => rfl
  | true =>
    have member : status ∈ statuses := List.mem_of_getLast? (course.latest.trans latest)
    have more := course.open_ polling status member
    rw [final] at more
    cases more

theorem accepts (course : Course t statuses) (snapshot : JobSnapshot) (polling : t.polling = true) :
    Course (t.shows snapshot (!snapshot.status.isFinal)) (statuses ++ [snapshot.status]) := by
  have earlier := course.open_ polling
  constructor
  case latest => simp [Tracking.State.shows]
  case open_ =>
    intro more status member
    rcases List.mem_append.mp member with old | new
    · exact earlier status old
    · rw [List.mem_singleton.mp new]
      simpa [Tracking.State.shows] using more
  case final =>
    intro status member final
    rcases List.mem_append.mp member with old | new
    · rw [earlier status old] at final
      cases final
    · rw [List.mem_singleton.mp new]
      rfl

theorem closes (course : Course t statuses) {after : Tracking.State Uuid JobSnapshot}
    (latest : after.latest = t.latest) (closed : after.polling = false) :
    Course after statuses := by
  constructor
  case latest => exact course.latest.trans (by rw [latest])
  case open_ => simp [closed]
  case final =>
    intro status member final
    rw [latest]
    exact course.final status member final

theorem passes {earlier : List JobStatus} {status : JobStatus} {later : List JobStatus}
    (course : Course t (earlier ++ status :: later)) : Course t (status :: later) := by
  have within : ∀ s ∈ status :: later, s ∈ earlier ++ status :: later := fun s member =>
    List.mem_append_right earlier member
  constructor
  case latest => simp [← course.latest, List.getLast?_append, List.getLast?_cons]
  case open_ =>
    intro polling s member
    exact course.open_ polling s (within s member)
  case final =>
    intro s member
    exact course.final s (within s member)

end Course

structure Answered (t after : Tracking.State Uuid JobSnapshot)
    (told : List (TrackEvent JobSnapshot)) : Prop where
  course : ∀ {statuses}, Course t statuses → Course after (statuses ++ told.filterMap eventStatus?)
  closed : after.polling = false → t.polling = false ∧ after.latest = t.latest ∨
    (∃ snapshot, after.latest = some snapshot ∧ snapshot.status.isFinal = true) ∨
    ∃ message, .failed message ∈ told
  kept : t.polling = false → after.latest = t.latest

theorem answered_update (t : Tracking.State Uuid JobSnapshot) (poll : TrackedPoll Uuid)
    (answer : Except ServiceError JobSnapshot) :
    Answered t (Tracking.update t (statusMsg poll answer)).1
      ((Tracking.update t (statusMsg poll answer)).2.filterMap eventOf) := by
  have step := Tracking.step_update t (statusMsg poll answer)
  generalize said : statusMsg poll answer = m at step
  generalize Tracking.update t m = outcome at step
  obtain ⟨after, effects⟩ := outcome
  simp only at step ⊢
  cases step with
  | @publishes snapshot polling more =>
    have more : snapshot.status.isFinal = false := more
    constructor
    case course =>
      intro statuses course
      have accepted := course.accepts snapshot polling
      rw [more] at accepted
      exact accepted
    case closed => simp [Tracking.State.shows]
    case kept => simp [polling]
  | @finishes snapshot polling final =>
    have final : snapshot.status.isFinal = true := final
    constructor
    case course =>
      intro statuses course
      have accepted := course.accepts snapshot polling
      rw [final] at accepted
      exact accepted
    case closed => exact fun _ => .inr (.inl ⟨snapshot, rfl, final⟩)
    case kept => simp [polling]
  | @fails message polling =>
    constructor
    case course =>
      intro statuses course
      show Course _ (statuses ++ [])
      rw [List.append_nil]
      exact course.closes rfl rfl
    case closed => exact fun _ => .inr (.inr ⟨message, by simp [eventOf]⟩)
    case kept => exact fun _ => rfl
  | ignores =>
    constructor
    case course =>
      intro statuses course
      simpa using course
    case closed => exact fun closed => .inl ⟨closed, rfl⟩
    case kept => exact fun _ => rfl
  | starts => cases answer <;> cases said
  | restarts => cases answer <;> cases said
  | stops => cases answer <;> cases said

end TranscodeConsole.QuickTranscode
