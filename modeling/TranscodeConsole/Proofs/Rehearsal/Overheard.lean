import TranscodeConsole.Proofs.Rehearsal.Arrivals
import TranscodeConsole.Proofs.Rehearsal.Waits
import TranscodeConsole.Rehearsal.Commands

/-!
The tasks behind a command take no notice of the events that it has taken: they come to what they
would have come to with all events left where they are, and rest behind every turn.
-/
namespace TranscodeConsole

open Poll Tracking

variable {κ τ : Type}

/-! ### Events that were taken -/

def Tracker.putBack (taken : List (TrackEvent τ)) (t : Tracker κ τ) : Tracker κ τ :=
  { t with events := taken ++ t.events }

theorem Tracker.answer_putBack [LiveResource τ] (taken : List (TrackEvent τ)) (t : Tracker κ τ)
    (poll : TrackedPoll κ) (result : Except ServiceError τ) :
    (t.putBack taken).answer poll result = (t.answer poll result).putBack taken := by
  cases accepted : t.state.accepts poll.generation with
  | false =>
    rw [answer_refused accepted, answer_refused]
    exact accepted
  | true =>
    rw [answer_accepted accepted, answer_accepted]
    · cases observed : t.observed <;> simp [putBack, observed]
    · exact accepted

namespace Rehearsal

namespace Tracked

def putBack (taken : List (TrackEvent τ)) (t : Tracked κ τ) : Tracked κ τ :=
  { t with tracker := t.tracker.putBack taken }

variable [LiveResource τ]

theorem run_putBack (source : Source κ τ) (poll : TrackedPoll κ) (taken : List (TrackEvent τ))
    (now : Nat) (worker : Worker (Pending τ)) (t : Tracked κ τ) (script : Script) :
    worker.run (refresh source poll) now (t.putBack taken, script) =
      (worker.run (refresh source poll) now (t, script)).map id (Prod.map (putBack taken) id) := by
  have answered : ∀ (t : Tracked κ τ) (result : Except ServiceError τ),
      (t.putBack taken).answer poll result = (t.answer poll result).putBack taken := by
    intro t result
    simp only [answer, putBack, Tracker.answer_putBack]
  refine Worker.run_map (f := Prod.map (putBack taken) id) (fun _ => rfl) ?_ ?_ worker (t, script)
  · rintro ⟨t, script⟩
    simp only [refresh, Prod.map_apply, id, answered]
    split <;> rfl
  · rintro work ⟨t, script⟩
    simp only [refresh, Prod.map_apply, id, answered]

theorem turn_putBack (source : Source κ τ) (taken : List (TrackEvent τ)) (now : Nat) (mark : Mark)
    (t : Tracked κ τ) (script : Script) :
    (t.putBack taken).turn source now mark script =
      (t.turn source now mark script).map (putBack taken) id := by
  have found : (t.putBack taken).find? mark = t.find? mark := rfl
  simp only [turn, found]
  cases t.find? mark with
  | none => rfl
  | some w =>
    simp only [run_putBack]
    generalize w.worker.run (refresh source w.poll) now (t, script) = after
    obtain ⟨⟨ticker, phase⟩, t, script⟩ := after
    cases phase <;> rfl

end Tracked

namespace Following

def putBack (taken : List (TrackEvent τ)) (w : Following κ τ) : Following κ τ :=
  { w with tracked := w.tracked.putBack taken }

variable [LiveResource τ]

theorem unnoticed (source : Source κ τ) (taken : List (TrackEvent τ)) :
    Stage.Unnoticed (plan source) (putBack taken) where
  tasks _ := rfl
  wake _ _ := rfl
  turn now mark w := by
    simp only [plan, putBack, Tracked.turn_putBack]
    rfl

end Following

/-! ### What was told -/

/-- The events by which an observer is told of the first `n` replies. -/
def told (replies : Nat → Reply τ) (n : Nat) : List (TrackEvent τ) :=
  (answers replies n).map .ofAnswer

section

variable {replies : Nat → Reply τ} {taken events : List (TrackEvent τ)} {n : Nat}

theorem told_succ (replies : Nat → Reply τ) (n : Nat) :
    told replies (n + 1) = told replies n ++ [.ofAnswer (replies n).result] := by
  simp [told, answers_succ]

theorem told_add (replies : Nat → Reply τ) (n more : Nat) :
    ∃ later, told replies (n + more) = told replies n ++ later := by
  induction more with
  | zero => exact ⟨[], by simp⟩
  | succ more ih =>
    obtain ⟨later, same⟩ := ih
    exact ⟨later ++ [.ofAnswer (replies (n + more)).result], by
      rw [← Nat.add_assoc, told_succ, same, List.append_assoc]⟩

theorem length_told (replies : Nat → Reply τ) (n : Nat) : (told replies n).length = n := by
  simp [told, answers]

theorem taken_eq (heard : taken ++ events = told replies n) :
    taken = told replies taken.length := by
  have short : taken.length ≤ n := by
    rw [← length_told replies n, ← heard, List.length_append]
    omega
  obtain ⟨later, same⟩ := told_add replies taken.length (n - taken.length)
  rw [Nat.add_sub_cancel' short, ← heard] at same
  exact (List.append_inj same (length_told replies _).symm).1

end

namespace Following

variable [LiveResource τ] {source : Source κ τ} {script : Script} {replies : Nat → Reply τ}
  {poll : TrackedPoll κ} {taken : List (TrackEvent τ)} {s : Stage (Following κ τ) Mark}

omit [LiveResource τ] in
theorem takeEvent_cons {t tracked : Tracked κ τ} {event : TrackEvent τ}
    (takes : t.takeEvent = (some event, tracked)) :
    ∃ events, t.tracker.events = event :: events ∧
      tracked = { t with tracker := { t.tracker with events } } := by
  unfold Tracked.takeEvent at takes
  split at takes
  · rename_i first events here
    cases takes
    exact ⟨events, here, rfl⟩
  · cases takes

omit [LiveResource τ] in
theorem takeEvent_putBack {w : Following κ τ} {event : TrackEvent τ} {tracked : Tracked κ τ}
    (takes : w.tracked.takeEvent = (some event, tracked)) (taken : List (TrackEvent τ)) :
    ({ w with tracked } : Following κ τ).putBack (taken ++ [event]) = w.putBack taken := by
  obtain ⟨events, here, rfl⟩ := takeEvent_cons takes
  simp [putBack, Tracked.putBack, Tracker.putBack, here]

/-- A stage whose observer has taken these events of what its poll was answered. -/
structure Overheard (source : Source κ τ) (script : Script) (replies : Nat → Reply τ)
    (poll : TrackedPoll κ) (taken : List (TrackEvent τ)) (s : Stage (Following κ τ) Mark) :
    Prop where
  tidy : s.Tidy
  attends : ∃ fetches heard worker,
    Attends source script replies poll fetches heard worker (s.world.putBack taken)

namespace Overheard

theorem heard (overheard : Overheard source script replies poll taken s) :
    ∃ n, taken ++ s.world.tracked.tracker.events = told replies n := by
  obtain ⟨_, heard, _, attends⟩ := overheard.attends
  exact ⟨heard, attends.stands.follows.tells.events⟩

theorem run (overheard : Overheard source script replies poll taken s)
    (supplies : source.Supplies poll.key script replies) (await : Stage.Await (Following κ τ)) :
    Overheard source script replies poll taken (s.run (plan source) await).2 := by
  let keeps (w : Following κ τ) := ∃ fetches heard worker,
    Attends source script replies poll fetches heard worker (w.putBack taken)
  have kept : (s.run (plan source) await).2.Tidy ∧ keeps (s.run (plan source) await).2.world := by
    refine Stage.run_keeps keeps ?_ ?_ await overheard.tidy overheard.attends
    · rintro w ⟨_, _, _, attends⟩
      exact tasks_nodup (w := w.putBack taken) attends
    · rintro w now mark ⟨_, _, _, attends⟩
      have turned := attends.turn supplies now mark
      rwa [(unnoticed source taken).turn] at turned
  exact ⟨kept.1, kept.2⟩

theorem takes (overheard : Overheard source script replies poll taken s) {event : TrackEvent τ}
    {tracked : Tracked κ τ} (takes : s.world.tracked.takeEvent = (some event, tracked)) :
    Overheard source script replies poll (taken ++ [event])
      { s with world := { s.world with tracked } } := by
  refine ⟨⟨overheard.tidy.queue, overheard.tidy.order⟩, ?_⟩
  rw [takeEvent_putBack takes]
  exact overheard.attends

end Overheard

theorem wake_ne_later (source : Source κ τ) (w : Following κ τ) (mark : Mark) :
    (plan source).wake w mark ≠ .later := by
  show w.tracked.wake mark ≠ .later
  unfold Tracked.wake pollWake
  repeat' split
  all_goals simp

theorem restful (supplies : source.Supplies poll.key script replies) :
    Stage.Restful (plan source) (Overheard source script replies poll taken) where
  yields s _ mark := wake_ne_later source s.world mark
  turn s mark later overheard queue := by
    obtain ⟨tidy, _, _, _, attends⟩ := overheard
    have unnoticed := unnoticed source taken
    have noticed : (s.notice (plan source)).Tidy :=
      tidy.notice (tasks_nodup (w := s.world.putBack taken) attends)
    have rests := queue_rests (s := s.onWorld (putBack taken)) attends supplies
      ⟨tidy.queue, tidy.order⟩ (by rw [unnoticed.notice]; exact queue)
    have turned := attends.turn supplies s.now mark
    rw [unnoticed.notice, unnoticed.turned, unnoticed.notice] at rests
    rw [unnoticed.turn] at turned
    exact ⟨⟨noticed.turn queue, turned⟩, rests⟩
  clock s t overheard := by
    obtain ⟨tidy, _, _, _, attends⟩ := overheard
    have noticed : (s.notice (plan source)).Tidy :=
      tidy.notice (tasks_nodup (w := s.world.putBack taken) attends)
    exact ⟨⟨noticed.queue, noticed.order⟩, _, _, _, attends⟩

end Following
end Rehearsal
end TranscodeConsole
