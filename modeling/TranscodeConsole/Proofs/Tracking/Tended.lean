import TranscodeConsole.Proofs.Tracking.Provenance
import TranscodeConsole.Tracker

/-!
Trackers as they are used: turned to keys, stopped by whoever may, and told the answers that their
polls bring. Each course of that is a pursuit, so what holds of pursuits holds of trackers.
-/
namespace TranscodeConsole

open Tracking

variable {κ τ : Type}

namespace Tracker

@[simp] theorem state_stopPoll (t : Tracker κ τ) : t.stopPoll.state = t.state := rfl

@[simp] theorem state_notify (t : Tracker κ τ) (event : TrackEvent τ) :
    (t.notify event).state = t.state := by
  unfold notify
  split <;> rfl

theorem state_startPoll (t : Tracker κ τ) (generation : Nat) (key : κ) :
    (t.startPoll generation key).2.state = t.state := by
  unfold startPoll
  split <;> rfl

theorem startPoll_ok {t : Tracker κ τ} {generation : Nat} {key : κ} {poll : TrackedPoll κ}
    (started : (t.startPoll generation key).1 = .ok poll) :
    poll.generation = generation ∧ poll.key = key := by
  unfold startPoll at started
  split at started <;> cases started
  exact ⟨rfl, rfl⟩

theorem runRequest_start (t : Tracker κ τ) (generation : Nat) (key : κ) :
    (t.runRequest [.startPolling generation key]).2.state = t.state ∧
      ∀ poll, (t.runRequest [.startPolling generation key]).1 = .ok (some poll) →
        poll.generation = generation ∧ poll.key = key := by
  have same := t.state_startPoll generation key
  have started := @startPoll_ok _ _ t generation key
  simp only [runRequest]
  generalize t.startPoll generation key = result at same started
  obtain ⟨outcome, after⟩ := result
  cases outcome with
  | error e => exact ⟨same, by simp⟩
  | ok own =>
    refine ⟨same, fun poll isOk => ?_⟩
    cases isOk
    exact started rfl

variable [LiveResource τ]

theorem track_keeps (t : Tracker κ τ) (key : κ) :
    (t.track key).2.state = (update t.state (.track key)).1 ∧
      ∀ poll, (t.track key).1 = .ok (some poll) →
        poll.generation = t.state.generation + 1 ∧ poll.key = key := by
  unfold track
  cases polling : t.state.polling with
  | true =>
    simp only [update, polling, ite_true, List.singleton_append, runRequest]
    exact runRequest_start _ _ _
  | false =>
    simp only [update, polling, Bool.false_eq_true, ite_false, List.nil_append]
    exact runRequest_start _ _ _

@[simp] theorem state_stop (t : Tracker κ τ) : t.stop.state = (update t.state .stop).1 := rfl

theorem state_answer (t : Tracker κ τ) (poll : TrackedPoll κ) (result : Except ServiceError τ) :
    (t.answer poll result).state = (update t.state <| match result with
      | .ok value => .refreshed poll.generation value
      | .error e => .failed poll.generation e.userMessage).1 := by
  have kept : ∀ (effects : List (Effect κ τ)) (t : Tracker κ τ),
      (effects.foldl (runAnswer poll.control) t).state = t.state := by
    intro effects
    induction effects with
    | nil => intro t; rfl
    | cons effect effects ih =>
      intro t
      rw [List.foldl_cons, ih]
      cases effect <;> simp [runAnswer]
  exact kept _ _

end Tracker

@[simp] theorem Stopper.state_stop [LiveResource τ] (s : Stopper) (t : Tracker κ τ) :
    (s.stop t).state = (update t.state .stop).1 := by
  cases control : s.control <;> simp [Stopper.stop, update, control]

@[simp] theorem Stopper.observed_stop [LiveResource τ] (s : Stopper) (t : Tracker κ τ) :
    (s.stop t).observed = t.observed := by
  cases control : s.control <;> simp [Stopper.stop, update, control]

namespace Tracker

inductive Act (κ τ : Type) where
  | track (key : κ)
  | stop
  | stopBy (stopper : Stopper)
  | answer (poll : Nat) (result : Except ServiceError τ)

end Tracker

/-- A tracker and the polls that it has started. -/
structure Tended (κ τ : Type) where
  tracker : Tracker κ τ := {}
  polls : List (TrackedPoll κ) := []

namespace Tended

variable [LiveResource τ]

def step (t : Tended κ τ) : Tracker.Act κ τ → Tended κ τ
  | .track key =>
    let (result, tracker) := t.tracker.track key
    { tracker, polls := t.polls ++ (result.toOption.bind id).toList }
  | .stop => { t with tracker := t.tracker.stop }
  | .stopBy stopper => { t with tracker := stopper.stop t.tracker }
  | .answer i result => match t.polls[i]? with
    | some poll => { t with tracker := t.tracker.answer poll result }
    | none => t

def run (t : Tended κ τ) (acts : List (Tracker.Act κ τ)) : Tended κ τ := acts.foldl step t

structure Pursued (p : Pursuit κ τ) (t : Tended κ τ) : Prop where
  state : p.state = t.tracker.state
  polls : ∀ poll ∈ t.polls, ⟨poll.generation, poll.key⟩ ∈ p.polls

theorem Pursued.stops {p : Pursuit κ τ} {t : Tended κ τ} (pursued : Pursued p t)
    {tracker : Tracker κ τ} (stopped : tracker.state = (update t.tracker.state .stop).1) :
    Pursued (p.run [.stop]) { t with tracker } := by
  obtain ⟨state, polls⟩ := p.hear_keeps none .stop
  refine ⟨?_, fun poll member => polls _ (.inl (pursued.polls poll member))⟩
  show (p.hear none .stop).state = tracker.state
  rw [state, stopped, pursued.state]

theorem Pursued.tracks {p : Pursuit κ τ} {t : Tended κ τ} (pursued : Pursued p t) (key : κ) :
    Pursued (p.step (.track key)) (t.step (.track key)) := by
  obtain ⟨state, known⟩ := p.hear_keeps none (.track key)
  obtain ⟨turned, started⟩ := t.tracker.track_keeps key
  simp only [Tended.step]
  -- the poll that may be started is one that the machine has just asked for
  generalize t.tracker.track key = result at turned started
  obtain ⟨outcome, tracker⟩ := result
  constructor
  · show (p.hear none (.track key)).state = tracker.state
    rw [state, turned, pursued.state]
  · intro poll member
    apply known
    rcases List.mem_append.mp member with old | new
    · exact .inl (pursued.polls poll old)
    · right
      have isOk : outcome = .ok (some poll) := by
        cases outcome with
        | error e => cases new
        | ok taken =>
          cases taken with
          | none => cases new
          | some own => rw [List.mem_singleton.mp new]
      obtain ⟨generation, same⟩ := started poll isOk
      simp [update, generation, same, pursued.state]

theorem Pursued.answers {p : Pursuit κ τ} {t : Tended κ τ} (pursued : Pursued p t) (i : Nat)
    (result : Except ServiceError τ) :
    ∃ moves, Pursued (p.run moves) (t.step (.answer i result)) := by
  simp only [Tended.step]
  cases found : t.polls[i]? with
  | none => exact ⟨[], pursued⟩
  | some poll =>
    -- the poll makes the fetch that is answered
    let f : Fetch κ := ⟨poll.generation, poll.key⟩
    obtain ⟨j, here⟩ := List.mem_iff_getElem?.mp
      (pursued.polls poll (List.mem_of_getElem? found))
    let heard : Except String τ := match result with
      | .ok value => .ok value
      | .error e => .error e.userMessage
    refine ⟨[.fetch j, .answer p.fetches.length heard], ?_⟩
    have fetched : p.step (.fetch j) = { p with fetches := p.fetches ++ [f] } := by
      simp only [Pursuit.step, here]
      rfl
    have known : (p.fetches ++ [f])[p.fetches.length]? = some f := by simp
    obtain ⟨state, polls⟩ := ({ p with
      fetches := p.fetches ++ [f], answers := p.answers ++ [(f, heard)] } :
        Pursuit κ τ).hear_keeps (some f) (f.msg heard)
    simp only [Pursuit.run, List.foldl_cons, List.foldl_nil, fetched]
    simp only [Pursuit.step, known]
    refine ⟨?_, fun own member => polls _ (.inl (pursued.polls own member))⟩
    rw [state, Tracker.state_answer, pursued.state]
    cases result <;> rfl

theorem Pursued.step {p : Pursuit κ τ} {t : Tended κ τ} (pursued : Pursued p t)
    (act : Tracker.Act κ τ) : ∃ moves, Pursued (p.run moves) (t.step act) := by
  cases act with
  | track key => exact ⟨[.track key], pursued.tracks key⟩
  | stop => exact ⟨[.stop], pursued.stops rfl⟩
  | stopBy stopper => exact ⟨[.stop], pursued.stops (stopper.state_stop t.tracker)⟩
  | answer i result => exact pursued.answers i result

theorem pursued_run (acts : List (Tracker.Act κ τ)) :
    ∃ moves, Pursued (Pursuit.run {} moves) (run ({} : Tended κ τ) acts) := by
  have first : Pursued ({} : Pursuit κ τ) {} := ⟨rfl, by simp⟩
  generalize ({} : Pursuit κ τ) = p at first
  generalize ({} : Tended κ τ) = t at first
  induction acts generalizing p t with
  | nil => exact ⟨[], first⟩
  | cons act acts ih =>
    obtain ⟨moves, next⟩ := first.step act
    obtain ⟨later, last⟩ := ih _ _ next
    refine ⟨moves ++ later, ?_⟩
    rw [Pursuit.run, List.foldl_append]
    exact last

end Tended
end TranscodeConsole
