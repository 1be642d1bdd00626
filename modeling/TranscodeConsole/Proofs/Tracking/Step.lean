import TranscodeConsole.Tracking

/-!
What one message can do to a tracker. Answers of a generation that is over, and all answers once
nothing is polled, change nothing and have no effect.
-/
namespace TranscodeConsole.Tracking

variable {κ τ : Type}

namespace State

def heeds (s : State κ τ) : Msg κ τ → Bool
  | .track _ | .stop => true
  | .refreshed generation _ | .failed generation _ => s.accepts generation

theorem accepts_iff (s : State κ τ) (generation : Nat) :
    s.accepts generation = true ↔ s.polling = true ∧ generation = s.generation := by
  simp [accepts]

def turnedTo (s : State κ τ) (key : κ) : State κ τ :=
  { key := some key, generation := s.generation + 1, polling := true }

def shows [LiveResource τ] (s : State κ τ) (value : τ) (polling : Bool) : State κ τ :=
  { s with
    polling
    latest := some value
    lastError := LiveResource.failure value
    refreshes := s.refreshes + 1 }

end State

variable [LiveResource τ]

inductive Step (s : State κ τ) : Msg κ τ → State κ τ → List (Effect κ τ) → Prop where
  | starts {key : κ} (idle : s.polling = false) :
      Step s (.track key) (s.turnedTo key) [.startPolling (s.generation + 1) key]
  | restarts {key : κ} (polling : s.polling = true) :
      Step s (.track key) (s.turnedTo key) [.stopPolling, .startPolling (s.generation + 1) key]
  | publishes {value : τ} (polling : s.polling = true) (more : LiveResource.isFinal value = false) :
      Step s (.refreshed s.generation value) (s.shows value true) [.publish value]
  | finishes {value : τ} (polling : s.polling = true) (final : LiveResource.isFinal value = true) :
      Step s (.refreshed s.generation value) (s.shows value false) [.publish value, .stopPolling]
  | fails {message : String} (polling : s.polling = true) :
      Step s (.failed s.generation message)
        { s with polling := false, lastError := some message }
        [.stopPolling, .reportFailure message]
  | stops :
      Step s .stop { s with generation := s.generation + 1, polling := false } [.stopPolling]
  | ignores {m : Msg κ τ} (deaf : s.heeds m = false) : Step s m s []

theorem step_update (s : State κ τ) (m : Msg κ τ) : Step s m (update s m).1 (update s m).2 := by
  cases m with
  | track key =>
    cases polling : s.polling with
    | false =>
      simp only [update, polling]
      exact .starts polling
    | true =>
      simp only [update, polling]
      exact .restarts polling
  | refreshed generation value =>
    by_cases accepted : s.accepts generation = true
    · obtain ⟨polling, rfl⟩ := (s.accepts_iff generation).mp accepted
      cases final : LiveResource.isFinal value with
      | false =>
        simp only [update, accepted, final]
        exact .publishes polling final
      | true =>
        simp only [update, accepted, final]
        exact .finishes polling final
    · simp only [update, accepted]
      exact .ignores (by simpa [State.heeds] using accepted)
  | failed generation message =>
    by_cases accepted : s.accepts generation = true
    · obtain ⟨polling, rfl⟩ := (s.accepts_iff generation).mp accepted
      simp only [update, accepted]
      exact .fails polling
    · simp only [update, accepted]
      exact .ignores (by simpa [State.heeds] using accepted)
  | stop => exact .stops

end TranscodeConsole.Tracking
