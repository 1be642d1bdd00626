import TranscodeConsole.Proofs.Poll.Step
import TranscodeConsole.Proofs.Tracking.Answered
import TranscodeConsole.Rehearsal.Tracked
import Mathlib.Data.List.Induction

/-!
A tracker that follows one key, whatever the service answers and however long it takes: it fetches
once more when it has heard the answer before, tells its observer of every answer, and is done with
the first that is final or an error.
-/
namespace TranscodeConsole.Rehearsal

open Poll Tracking

variable {κ τ : Type}

namespace Source

def left (source : Source κ τ) (key : κ) (script : Script) (times : List Nat) : Script :=
  times.foldl (fun script now => (source.call now key script).2) script

/-- Calls for a key get these replies, one after the other. -/
def Supplies (source : Source κ τ) (key : κ) (script : Script) (replies : Nat → Reply τ) : Prop :=
  ∀ times now, (source.call now key (source.left key script times)).1 =
    ⟨now + (replies times.length).delay, (replies times.length).result⟩

theorem left_snoc (source : Source κ τ) (key : κ) (script : Script) (times : List Nat) (now : Nat) :
    source.left key script (times ++ [now]) =
      (source.call now key (source.left key script times)).2 := by
  simp [left]

end Source

namespace Script

/-- The `n`th reply that a list of them gives; the last one is given again and again. -/
def replyAt (name : String) (replies : List (Reply τ)) (n : Nat) : Reply τ :=
  replies[min n (replies.length - 1)]?.getD ⟨0, .error (nothingFor name)⟩

theorem answer_eq (name : String) (now : Nat) (replies : List (Reply τ)) :
    (answer name now replies).1 =
        ⟨now + (replyAt name replies 0).delay, (replyAt name replies 0).result⟩ ∧
      ∀ n, replyAt name (answer name now replies).2 n = replyAt name replies (n + 1) := by
  match replies with
  | [] => exact ⟨rfl, fun n => rfl⟩
  | [last] => exact ⟨rfl, fun n => by simp [answer, replyAt]⟩
  | reply :: next :: rest =>
    refine ⟨rfl, fun n => ?_⟩
    simp only [answer, replyAt, List.length_cons, Nat.add_sub_cancel]
    rw [Nat.add_min_add_right, List.getElem?_cons_succ]

end Script

theorem Source.supplies_script {source : Source κ τ} {key : κ} {name : String}
    {replies : Script → List (Reply τ)}
    (calls : ∀ now script,
      (source.call now key script).1 = (Script.answer name now (replies script)).1 ∧
        replies (source.call now key script).2 = (Script.answer name now (replies script)).2)
    (script : Script) : source.Supplies key script (Script.replyAt name (replies script)) := by
  intro times now
  induction times generalizing script with
  | nil =>
    rw [(calls now _).1]
    exact (Script.answer_eq name now _).1
  | cons time times ih =>
    have later := ih (source.call time key script).2
    have next := (Script.answer_eq name time (replies script)).2 times.length
    rw [(calls time script).2, next] at later
    exact later

theorem Source.exists_supplies (key : κ) (script : Script) (replies : Nat → Reply τ) :
    ∃ source : Source κ τ, source.Supplies key script replies := by
  let source : Source κ τ := ⟨fun now _ left =>
    let reply := replies (left.calls.length - script.calls.length)
    (⟨now + reply.delay, reply.result⟩, left.note now "")⟩
  have made : ∀ times, (source.left key script times).calls.length =
      script.calls.length + times.length := by
    intro times
    induction times using List.reverseRecOn with
    | nil => rfl
    | append_singleton times now ih =>
      rw [Source.left_snoc, List.length_append, ← Nat.add_assoc, ← ih]
      rfl
  refine ⟨source, ?_⟩
  intro times now
  simp only [source, made, Nat.add_sub_cancel_left]

def answers (replies : Nat → Reply τ) (n : Nat) : List (Except ServiceError τ) :=
  (List.range n).map fun i => (replies i).result

theorem answers_succ (replies : Nat → Reply τ) (n : Nat) :
    answers replies (n + 1) = answers replies n ++ [(replies n).result] := by
  simp [answers, List.range_succ]

variable [LiveResource τ]

theorem any_answers {replies : Nat → Reply τ} {n : Nat} :
    (answers replies n).any isLast = false ↔ ∀ i < n, isLast (replies i).result = false := by
  simp [answers]

/-- How far a tracker has come with the replies to its fetches. -/
structure Follows (source : Source κ τ) (key : κ) (script : Script) (replies : Nat → Reply τ)
    (fetches : List Nat) (heard : Nat) (t : Tracker κ τ) (left : Script) : Prop where
  left : left = source.left key script fetches
  heard_le : heard ≤ fetches.length
  fetches_le : fetches.length ≤ heard + 1
  more : ∀ i, i + 1 < fetches.length → isLast (replies i).result = false
  tells : t.Tells key (answers replies heard)

abbrev Moment (κ τ : Type) := Worker (Pending τ) × Tracked κ τ × Script

/-- Where the poll of a tracker stands between two of its steps. -/
structure Stands (source : Source κ τ) (script : Script) (replies : Nat → Reply τ)
    (poll : TrackedPoll κ) (fetches : List Nat) (heard : Nat) (m : Moment κ τ) : Prop where
  follows : Follows source poll.key script replies fetches heard m.2.1.tracker m.2.2
  observed : m.2.1.tracker.observed = true
  generation : m.2.1.tracker.state.generation = poll.generation
  stopped : poll.control.isStopped m.2.1.tracker.marks = !m.2.1.tracker.state.polling
  phase : match m.1.phase with
    | .ticking => fetches.length = heard
    | .refreshing pending => fetches.length = heard + 1 ∧ pending.result = (replies heard).result
    | .over => m.2.1.tracker.state.polling = false

namespace Stands

variable {source : Source κ τ} {script : Script} {replies : Nat → Reply τ} {poll : TrackedPoll κ}
  {fetches : List Nat} {heard : Nat} {m n : Moment κ τ}

theorem open_ (stands : Stands source script replies poll fetches heard m)
    (live : poll.control.isStopped m.2.1.tracker.marks = false) :
    m.2.1.tracker.state.polling = true ∧ ∀ i < heard, isLast (replies i).result = false := by
  have polling : m.2.1.tracker.state.polling = true := by simpa [live] using stands.stopped
  have shown : m.2.1.tracker.state.polling = !(answers replies heard).any isLast :=
    stands.follows.tells.polling
  refine ⟨polling, any_answers.mp ?_⟩
  simpa [polling] using shown

theorem answered {ticker : Ticker} {phase : Phase (Pending τ)} {tracked : Tracked κ τ}
    {left : Script} {result : Except ServiceError τ}
    (stands : Stands source script replies poll fetches heard (⟨ticker, phase⟩, tracked, left))
    (live : poll.control.isStopped tracked.tracker.marks = false)
    (made : fetches.length = heard + 1) (same : result = (replies heard).result) :
    Stands source script replies poll fetches (heard + 1)
      (⟨ticker, .ticking⟩, tracked.answer poll result, left) := by
  have polling : tracked.tracker.state.polling = true := (stands.open_ live).1
  have accepted : tracked.tracker.state.accepts poll.generation = true :=
    (State.accepts_iff _ _).mpr ⟨polling, stands.generation.symm⟩
  have answer := Tracker.answer_accepted accepted result
  constructor
  case follows =>
    constructor
    case left => exact stands.follows.left
    case heard_le => omega
    case fetches_le => omega
    case more => exact stands.follows.more
    case tells =>
      rw [answers_succ, ← same]
      exact stands.follows.tells.hears stands.observed accepted result
  case observed =>
    show (tracked.tracker.answer poll result).observed = true
    rw [answer]
    exact stands.observed
  case generation =>
    show (tracked.tracker.answer poll result).state.generation = poll.generation
    rw [answer, ← stands.generation]
    cases result <;> rfl
  case stopped => exact Tracker.stopped_answer accepted stands.stopped result
  case phase => exact made

theorem fetched {before after : Ticker} {tracked : Tracked κ τ} {left : Script}
    (stands : Stands source script replies poll fetches heard (⟨before, .ticking⟩, tracked, left))
    (supplies : source.Supplies poll.key script replies)
    (live : poll.control.isStopped tracked.tracker.marks = false) (now : Nat) :
    Stands source script replies poll (fetches ++ [now]) heard
      (⟨after, .refreshing (source.call now poll.key left).1⟩, tracked,
        (source.call now poll.key left).2) := by
  have open_ := (stands.open_ live).2
  have heardAll : fetches.length = heard := stands.phase
  have same : left = source.left poll.key script fetches := stands.follows.left
  have made : (fetches ++ [now]).length = heard + 1 := by simp [heardAll]
  constructor
  case follows =>
    constructor
    case left => rw [Source.left_snoc, ← same]
    case heard_le => omega
    case fetches_le => omega
    case more =>
      intro i before
      exact open_ i (by omega)
    case tells => exact stands.follows.tells
  case observed => exact stands.observed
  case generation => exact stands.generation
  case stopped => exact stands.stopped
  case phase =>
    refine ⟨made, ?_⟩
    rw [same, supplies fetches now, heardAll]

theorem step (stands : Stands source script replies poll fetches heard m)
    (supplies : source.Supplies poll.key script replies) {now : Nat}
    (step : Worker.Step (Tracked.refresh source poll) now m n) :
    ∃ fetches' heard', Stands source script replies poll fetches' heard' n ∧
      fetches.length + heard ≤ fetches'.length + heard' ∧
      (poll.control.isStopped m.2.1.tracker.marks = false →
        fetches.length + heard < fetches'.length + heard') := by
  cases step with
  | @leaves t s cancelled =>
    have cancelled : poll.control.isStopped s.1.tracker.marks = true := cancelled
    refine ⟨fetches, heard, { stands with phase := ?_ }, Nat.le_refl _, by simp [cancelled]⟩
    simpa [cancelled] using stands.stopped
  | @begins t s live phase due =>
    obtain ⟨ticker, _⟩ := t
    obtain ⟨tracked, left⟩ := s
    cases phase
    have live : poll.control.isStopped tracked.tracker.marks = false := live
    have made : Stands source script replies poll (fetches ++ [now]) heard
        (⟨ticker.take now, _⟩, tracked, _) := stands.fetched supplies live now
    have more : (fetches ++ [now]).length = heard + 1 := made.phase.1
    have before : fetches.length = heard := stands.phase
    simp only [Tracked.refresh]
    split
    · exact ⟨_, heard + 1, made.answered live more made.phase.2, by omega, fun _ => by omega⟩
    · exact ⟨_, heard, made, by omega, fun _ => by omega⟩
  | @resumes t work s live phase =>
    obtain ⟨ticker, _⟩ := t
    obtain ⟨tracked, left⟩ := s
    cases phase
    have live : poll.control.isStopped tracked.tracker.marks = false := live
    obtain ⟨made, same⟩ := stands.phase
    exact ⟨fetches, heard + 1, stands.answered live made same, by omega, fun _ => by omega⟩

theorem steps (stands : Stands source script replies poll fetches heard m)
    (supplies : source.Supplies poll.key script replies)
    (steps : Worker.Steps (Tracked.refresh source poll) m n) :
    ∃ fetches' heard', Stands source script replies poll fetches' heard' n ∧
      fetches.length + heard ≤ fetches'.length + heard' := by
  induction steps with
  | refl => exact ⟨fetches, heard, stands, Nat.le_refl _⟩
  | tail _ last ih =>
    obtain ⟨_, _, stands, le⟩ := ih
    obtain ⟨now, last⟩ := last
    obtain ⟨fetches', heard', stands, further, _⟩ := stands.step supplies last
    exact ⟨fetches', heard', stands, Nat.le_trans le further⟩

end Stands

theorem workers_steps {source : Source κ τ} {poll : TrackedPoll κ} {m n : Moment κ τ}
    (steps : Worker.Steps (Tracked.refresh source poll) m n) : n.2.1.workers = m.2.1.workers := by
  induction steps with
  | refl => rfl
  | tail _ last ih =>
    obtain ⟨now, last⟩ := last
    rw [← ih]
    cases last with
    | leaves => rfl
    | @begins t s =>
      simp only [Tracked.refresh]
      split <;> rfl
    | resumes => rfl

end TranscodeConsole.Rehearsal
