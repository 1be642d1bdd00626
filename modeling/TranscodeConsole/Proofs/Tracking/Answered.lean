import TranscodeConsole.Proofs.Tracking.Step
import TranscodeConsole.Tracker

/-!
What an answer makes of a tracker: of all its parts at once, if the answer is accepted, and nothing
otherwise. With it goes what a tracker shows that has heard a list of answers.
-/
namespace TranscodeConsole

open Poll Tracking

variable {κ τ : Type} [LiveResource τ]

def TrackEvent.ofAnswer : Except ServiceError τ → TrackEvent τ
  | .ok value => .refreshed value
  | .error e => .failed e.userMessage

namespace Tracking

/-- Nothing is fetched behind a final value, nor behind an error. -/
def isLast : Except ServiceError τ → Bool
  | .ok value => LiveResource.isFinal value
  | .error _ => true

def complaint : Except ServiceError τ → Option String
  | .ok value => LiveResource.failure value
  | .error e => some e.userMessage

def State.told (s : State κ τ) : Except ServiceError τ → State κ τ
  | .ok value => s.shows value (!LiveResource.isFinal value)
  | .error e => { s with polling := false, lastError := some e.userMessage }

end Tracking

namespace Tracker

variable {t : Tracker κ τ} {poll : TrackedPoll κ}

theorem answer_accepted (accepted : t.state.accepts poll.generation = true)
    (result : Except ServiceError τ) :
    t.answer poll result =
      { t with
        state := t.state.told result
        marks := if isLast result then poll.control.stop t.marks else t.marks
        events := if t.observed then t.events ++ [.ofAnswer result] else t.events } := by
  unfold answer
  cases result with
  | ok value =>
    cases final : LiveResource.isFinal value <;> cases t.observed <;>
      simp [update, accepted, runAnswer, notify, isLast, State.told, State.shows,
        TrackEvent.ofAnswer, final]
  | error e =>
    cases t.observed <;>
      simp [update, accepted, runAnswer, notify, isLast, State.told, TrackEvent.ofAnswer]

theorem answer_refused (refused : t.state.accepts poll.generation = false)
    (result : Except ServiceError τ) : t.answer poll result = t := by
  unfold answer
  cases result <;> simp [update, refused]

theorem stopped_answer (accepted : t.state.accepts poll.generation = true)
    (same : poll.control.isStopped t.marks = !t.state.polling) (result : Except ServiceError τ) :
    poll.control.isStopped (t.answer poll result).marks =
      !(t.answer poll result).state.polling := by
  have polling : t.state.polling = true := ((t.state.accepts_iff _).mp accepted).1
  rw [answer_accepted accepted]
  cases result with
  | ok value =>
    cases final : LiveResource.isFinal value <;>
      simp_all [isLast, State.told, State.shows, Control.stop, Control.isStopped]
  | error e => simp [isLast, State.told, Control.stop, Control.isStopped]

/-- What a tracker shows that was turned to `key` and has heard these answers since, and what its
observer was told. -/
structure Tells (key : κ) (answers : List (Except ServiceError τ)) (t : Tracker κ τ) : Prop where
  events : t.events = answers.map .ofAnswer
  key : t.state.view.key = some key
  polling : t.state.view.polling = !answers.any isLast
  latest : t.state.view.latest = (answers.filterMap (·.toOption)).getLast?
  refreshes : t.state.view.refreshes = (answers.filterMap (·.toOption)).length
  lastError : t.state.view.lastError = answers.getLast?.bind complaint

theorem Tells.hears {key : κ} {answers : List (Except ServiceError τ)}
    (tells : t.Tells key answers) (observed : t.observed = true)
    (accepted : t.state.accepts poll.generation = true) (result : Except ServiceError τ) :
    (t.answer poll result).Tells key (answers ++ [result]) := by
  have polling : t.state.polling = true := ((t.state.accepts_iff _).mp accepted).1
  have more : answers.any isLast = false := by
    have shown : t.state.polling = !answers.any isLast := tells.polling
    simpa [polling] using shown
  have refreshes : t.state.refreshes = (answers.filterMap (·.toOption)).length := tells.refreshes
  have latest : t.state.latest = (answers.filterMap (·.toOption)).getLast? := tells.latest
  rw [answer_accepted accepted]
  constructor
  case events => simp [observed, tells.events]
  case key =>
    rw [← tells.key]
    cases result <;> rfl
  case polling =>
    rw [List.any_append, more]
    cases result <;> simp [State.view, State.told, State.shows, isLast]
  case latest =>
    cases result with
    | ok value => simp [State.view, State.told, State.shows, Except.toOption]
    | error e => simpa [State.view, State.told, Except.toOption] using latest
  case refreshes =>
    cases result with
    | ok value => simp [State.view, State.told, State.shows, Except.toOption, refreshes]
    | error e => simpa [State.view, State.told, Except.toOption] using refreshes
  case lastError => cases result <;> simp [State.view, State.told, State.shows, complaint]

end Tracker
end TranscodeConsole
