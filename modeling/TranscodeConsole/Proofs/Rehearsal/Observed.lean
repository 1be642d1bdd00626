import TranscodeConsole.Proofs.Rehearsal.Overheard
import TranscodeConsole.Proofs.Watch.Shown

/-!
What a command makes of the events that its tracker tells it of. Whatever time it is given, it comes
to something and accounts for the first answers to its fetches; and given enough time, for as many
as there are before the last.
-/
namespace TranscodeConsole.Rehearsal

open Poll Tracking Display

variable {κ τ φ : Type}

namespace Following

variable [LiveResource τ] {source : Source κ τ} {script : Script} {replies : Nat → Reply τ}
  {poll : TrackedPoll κ} {taken : List (TrackEvent τ)} {s : Stage (Following κ τ) Mark}

/-! ### Taking events -/

omit [LiveResource τ] in
theorem hasNews_eq (taken : List (TrackEvent τ)) (w : Following κ τ) :
    decide (taken.length < (w.putBack taken).tracked.tracker.events.length) =
      w.tracked.hasNews := by
  simp only [putBack, Tracked.putBack, Tracker.putBack, Tracked.hasNews, List.length_append]
  cases w.tracked.tracker.events <;> simp

omit [LiveResource τ] in
theorem takeEvent_some {t : Tracked κ τ} (news : t.hasNews = true) :
    ∃ event tracked, t.takeEvent = (some event, tracked) := by
  unfold Tracked.hasNews at news
  unfold Tracked.takeEvent
  cases here : t.tracker.events with
  | nil => simp [here] at news
  | cons event events => exact ⟨event, _, rfl⟩

omit [LiveResource τ] in
theorem putBack_injective (taken : List (TrackEvent τ)) :
    Function.Injective (putBack (κ := κ) taken) := by
  rintro ⟨⟨⟨state, marks, owner, observed, events⟩, workers⟩, script⟩
    ⟨⟨⟨state', marks', owner', observed', events'⟩, workers'⟩, script'⟩ same
  simpa [putBack, Tracked.putBack, Tracker.putBack] using same

theorem Overheard.goesOn (overheard : Overheard source script replies poll taken s)
    (supplies : source.Supplies poll.key script replies) {limit : Deadline}
    {after : Stage (Following κ τ) Mark}
    (ran : s.runFrom (plan source) { holds := fun _ w => w.tracked.hasNews, limit := some limit }
      true = some (true, after)) :
    ∃ event tracked, after.world.tracked.takeEvent = (some event, tracked) ∧
      let next := { after with world := { after.world with tracked } }
      Overheard source script replies poll (taken ++ [event]) next ∧
      (next.rank (plan source) limit < s.rank (plan source) limit ∨
        next.rank (plan source) limit = s.rank (plan source) limit ∧
        next.world.tracked.tracker.events.length < s.world.tracked.tracker.events.length) := by
  obtain ⟨event, tracked, taking⟩ := takeEvent_some (Stage.runFrom_met ran)
  have waited : Overheard source script replies poll taken after := by
    have kept := overheard.run supplies
      { holds := fun _ w => w.tracked.hasNews, limit := some limit }
    rwa [Stage.run, ran, Option.getD_some] at kept
  refine ⟨event, tracked, taking, waited.takes taking, ?_⟩
  have unmoved : ({ after with world := { after.world with tracked } } :
      Stage (Following κ τ) Mark).rank (plan source) limit = after.rank (plan source) limit := by
    have moved := (unnoticed source taken).rank limit after
    rw [← moved, ← (unnoticed source (taken ++ [event])).rank limit]
    simp only [Stage.onWorld, takeEvent_putBack taking]
  rcases (restful supplies).met rfl overheard ran with rfl | less
  · obtain ⟨events, here, same⟩ := takeEvent_cons taking
    refine .inr ⟨unmoved.trans (Stage.rank_notice _ limit s), ?_⟩
    have fewer : events.length < (event :: events).length := Nat.lt_succ_self _
    rw [← here] at fewer
    simpa [same] using fewer
  · exact .inl (unmoved ▸ less)

/-! ### What it comes to -/

/-- What was told behind the events that were taken before, and what came of it. -/
structure Accounts (see : φ → TrackEvent τ → Reaction × φ) (replies : Nat → Reply τ)
    (taken : List (TrackEvent τ)) (seen : φ) (printed : List String)
    (outcome : Option Ending × List String × Stage (Following κ τ) Mark)
    (events : List (TrackEvent τ)) : Prop where
  heard : ∃ n, taken ++ events = told replies n
  printed : String.join outcome.2.1.reverse =
    String.join printed.reverse ++ String.join (reactAll see seen events).1
  ending : outcome.1 = (reactAll see seen events).2

variable {see : φ → TrackEvent τ → Reaction × φ} {seen : φ} {printed : List String}
  {outcome : Option Ending × List String × Stage (Following κ τ) Mark} {event : TrackEvent τ}

omit [LiveResource τ] in
theorem Accounts.last {ending : Ending} (decided : (see seen event).1.ending = some ending)
    (heard : ∃ n, taken ++ [event] = told replies n) (s : Stage (Following κ τ) Mark) :
    Accounts see replies taken seen printed
      (some ending, (see seen event).1.printed :: printed, s) [event] where
  heard := heard
  printed := by simp [reactAll, decided]
  ending := by simp [reactAll, decided]

omit [LiveResource τ] in
theorem Accounts.cons {events : List (TrackEvent τ)} (open_ : (see seen event).1.ending = none)
    (later : Accounts see replies (taken ++ [event]) (see seen event).2
      ((see seen event).1.printed :: printed) outcome events) :
    Accounts see replies taken seen printed outcome (event :: events) where
  heard := by simpa using later.heard
  printed := by
    rw [later.printed]
    simp [reactAll, open_, String.append_assoc]
  ending := by simpa [reactAll, open_] using later.ending

theorem attendFrom_takes {limit : Deadline} {after : Stage (Following κ τ) Mark}
    {tracked : Tracked κ τ}
    (ran : s.run (plan source) { holds := fun _ w => w.tracked.hasNews, limit := some limit } =
      (true, after))
    (taking : after.world.tracked.takeEvent = (some event, tracked)) :
    let next := { after with world := { after.world with tracked } }
    s.attendFrom (plan source) (showing see) limit seen printed =
      match (see seen event).1.ending with
      | some ending => some (some ending, (see seen event).1.printed :: printed, next)
      | none => next.attendFrom (plan source) (showing see) limit (see seen event).2
          ((see seen event).1.printed :: printed) := by
  rw [Stage.attendFrom]
  cases decided : (see seen event).1.ending <;>
    simp only [showing, ran, taking, Option.elim_some, decided]

theorem attendFrom_accounts (supplies : source.Supplies poll.key script replies)
    (see : φ → TrackEvent τ → Reaction × φ) (limit : Deadline) (seen : φ) (printed : List String)
    {taken : List (TrackEvent τ)} {s : Stage (Following κ τ) Mark}
    (overheard : Overheard source script replies poll taken s) :
    ∃ outcome events,
      s.attendFrom (plan source) (showing see) limit seen printed = some outcome ∧
        Accounts see replies taken seen printed outcome events := by
  obtain ⟨⟨met, after⟩, ran⟩ : ∃ ending, s.runFrom (plan source)
      { holds := fun _ w => w.tracked.hasNews, limit := some limit } true = some ending :=
    (restful supplies).runFrom rfl overheard true
  have ran' : s.run (plan source) { holds := fun _ w => w.tracked.hasNews, limit := some limit } =
      (met, after) := by rw [Stage.run, ran, Option.getD_some]
  cases met with
  | false =>
    obtain ⟨n, heard⟩ := overheard.heard
    refine ⟨(none, printed, after), [], ?_, ⟨_, by simpa using taken_eq heard⟩, ?_, rfl⟩
    · rw [Stage.attendFrom]
      simp only [showing, ran']
    · simp [reactAll]
  | true =>
    obtain ⟨event, tracked, taking, next, less⟩ := overheard.goesOn supplies ran
    rw [attendFrom_takes ran' taking]
    cases decided : (see seen event).1.ending with
    | some ending =>
      obtain ⟨n, heard⟩ := next.heard
      exact ⟨_, [event], rfl, .last decided ⟨_, taken_eq heard⟩ _⟩
    | none =>
      obtain ⟨outcome, events, comes, later⟩ := attendFrom_accounts supplies see limit
        (see seen event).2 ((see seen event).1.printed :: printed) next
      exact ⟨outcome, event :: events, comes, later.cons decided⟩
termination_by (s.rank (plan source) limit, s.world.tracked.tracker.events.length)
decreasing_by
  rcases less with less | ⟨same, fewer⟩
  · exact .left _ _ less
  · simp only [same]
    exact .right _ fewer

theorem Overheard.hears (overheard : Overheard source script replies poll taken s)
    (supplies : source.Supplies poll.key script replies) {k : Nat} (before : taken.length ≤ k)
    (arrives : ∀ n, taken.length ≤ n → n ≤ k →
      Arrives source n true (s.onWorld (putBack taken))) :
    ∃ (after : Stage (Following κ τ) Mark) (event : TrackEvent τ) (tracked : Tracked κ τ),
      Stage.Ends (plan source) (fun _ w => w.tracked.hasNews) none true s after ∧
      after.world.tracked.takeEvent = (some event, tracked) ∧
      let next := { after with world := { after.world with tracked } }
      Overheard source script replies poll (taken ++ [event]) next ∧
      ∀ n, taken.length + 1 ≤ n → n ≤ k →
        Arrives source n true (next.onWorld (putBack (taken ++ [event]))) := by
  obtain ⟨shadow, first⟩ := arrives taken.length (Nat.le_refl _) before
  obtain ⟨after, ends, rfl⟩ := (unnoticed source taken).ends (putBack_injective taken)
    (fun _ w => hasNews_eq taken w) first
  obtain ⟨event, tracked, taking⟩ := takeEvent_some ends.met
  have waited : Overheard source script replies poll taken after := by
    obtain ⟨time, reaches⟩ := ends.run
    have ran := overheard.run supplies
      { holds := fun _ w => w.tracked.hasNews, limit := some { time } }
    rwa [reaches { time } (Nat.le_refl _)] at ran
  refine ⟨after, event, tracked, ends, taking, waited.takes taking, ?_⟩
  intro n further le
  obtain ⟨_, whole⟩ := arrives n (by omega) le
  have weaker : ∀ (now : Nat) (w : Following κ τ),
      decide (n < w.tracked.tracker.events.length) = true →
      decide (taken.length < w.tracked.tracker.events.length) = true := by
    intro _ w enough
    simp only [decide_eq_true_eq] at enough ⊢
    omega
  have same : ({ after with world := { after.world with tracked } } :
      Stage (Following κ τ) Mark).onWorld (putBack (taken ++ [event])) =
        after.onWorld (putBack taken) := by
    simp only [Stage.onWorld, takeEvent_putBack taking]
  rw [same]
  exact ⟨_, first.goesOn weaker whole⟩

theorem attendFrom_hears (supplies : source.Supplies poll.key script replies)
    (see : φ → TrackEvent τ → Reaction × φ) {k : Nat}
    (overheard : Overheard source script replies poll taken s) (before : taken.length ≤ k)
    (arrives : ∀ n, taken.length ≤ n → n ≤ k →
      Arrives source n true (s.onWorld (putBack taken))) (seen : φ) :
    ∃ time, ∀ limit : Deadline, time ≤ limit.time → ∀ printed, ∃ outcome events,
      s.attendFrom (plan source) (showing see) limit seen printed = some outcome ∧
        Accounts see replies taken seen printed outcome events ∧
        (outcome.1 = none → k < (taken ++ events).length) := by
  induction left : k - taken.length using Nat.strongRecOn generalizing taken s seen with
  | ind _ ih =>
    obtain ⟨after, event, tracked, ends, taking, next, later⟩ :=
      overheard.hears supplies before arrives
    obtain ⟨time, reaches⟩ := ends.run
    cases decided : (see seen event).1.ending with
    | some ending =>
      refine ⟨time, ?_⟩
      intro limit late printed
      rw [attendFrom_takes (reaches limit late) taking, decided]
      obtain ⟨n, heard⟩ := next.heard
      exact ⟨_, [event], rfl, .last decided ⟨_, taken_eq heard⟩ _, by simp⟩
    | none =>
      have length : (taken ++ [event]).length = taken.length + 1 := List.length_append
      by_cases enough : taken.length = k
      · -- whatever comes now, that were the first `k` and one more
        refine ⟨time, ?_⟩
        intro limit late printed
        rw [attendFrom_takes (reaches limit late) taking, decided]
        obtain ⟨outcome, events, comes, accounts⟩ := attendFrom_accounts supplies see limit
          (see seen event).2 ((see seen event).1.printed :: printed) next
        refine ⟨outcome, event :: events, comes, accounts.cons decided, fun _ => ?_⟩
        simp only [List.length_append, List.length_cons]
        omega
      · obtain ⟨time', hears⟩ := ih _ (by omega) next (by omega)
          (fun n further le => later n (by omega) le) (see seen event).2 rfl
        refine ⟨max time time', ?_⟩
        intro limit late printed
        rw [attendFrom_takes (reaches limit (by omega)) taking, decided]
        obtain ⟨outcome, events, comes, accounts, enough⟩ := hears limit (by omega) _
        exact ⟨outcome, event :: events, comes, accounts.cons decided, by simpa using enough⟩

end Following

/-! ### Commands that follow something -/

/-- What is shown and decided is what these events come to. -/
structure Outcome.Tells (see : φ → TrackEvent τ → Reaction × φ) (seen : φ)
    (events : List (TrackEvent τ)) (o : Outcome) : Prop where
  printed : o.printed = String.join (reactAll see seen events).1
  ending : o.ending = (reactAll see seen events).2

variable [LiveResource τ] {source : Source κ τ} {key : κ} {script : Script}
  {replies : Nat → Reply τ}

theorem follow_eq (source : Source κ τ) (see : φ → TrackEvent τ → Reaction × φ) (limit : Deadline)
    (now interval : Nat) (key : κ) (seen : φ) (script : Script) :
    follow source see limit now interval key seen script =
      attend (Following.plan source) (showing see) Following.script limit seen
        (Following.opening key script now interval) := rfl

theorem follow_begins (supplies : source.Supplies key script replies) (now interval : Nat) :
    ∃ poll, poll.key = key ∧
      Following.Overheard source script replies poll []
        (Following.opening key script now interval) ∧
      ∀ n, (∀ i < n, isLast (replies i).result = false) →
        Following.Arrives source n true (Following.opening key script now interval) := by
  obtain ⟨poll, worker, rfl, _, attends⟩ :=
    Following.attends_start source script replies now interval key
  have attended : Following.Attended source script replies poll [] 0 worker
      (Following.opening poll.key script now interval) :=
    ⟨attends, ⟨List.nodup_nil, List.nodup_nil⟩, by simp [Following.opening]⟩
  exact ⟨poll, rfl, ⟨attended.tidy, _, _, _, attends⟩,
    fun n more => attended.arrives supplies more (Nat.zero_le n) true⟩

theorem follow_tells (supplies : source.Supplies key script replies)
    (see : φ → TrackEvent τ → Reaction × φ) (limit : Deadline) (now interval : Nat) (seen : φ) :
    ∃ n, (follow source see limit now interval key seen script).Tells see seen
      (told replies n) := by
  obtain ⟨poll, rfl, overheard, _⟩ := follow_begins supplies now interval
  obtain ⟨outcome, events, comes, accounts⟩ :=
    Following.attendFrom_accounts supplies see limit seen [] overheard
  obtain ⟨n, heard⟩ := accounts.heard
  obtain rfl : events = told replies n := heard
  rw [follow_eq, attend, comes]
  exact ⟨n, by simpa [Outcome.after] using accounts.printed, accounts.ending⟩

theorem follow_hears (supplies : source.Supplies key script replies)
    (see : φ → TrackEvent τ → Reaction × φ) (now interval : Nat) (seen : φ) {k : Nat}
    (more : ∀ i < k, isLast (replies i).result = false) :
    ∃ time, ∀ limit : Deadline, time ≤ limit.time → ∃ n, k < n ∧
      (follow source see limit now interval key seen script).Tells see seen (told replies n) := by
  obtain ⟨poll, rfl, overheard, arrives⟩ := follow_begins supplies now interval
  obtain ⟨time, hears⟩ := Following.attendFrom_hears supplies see overheard (Nat.zero_le k)
    (fun n _ le => arrives n fun i before => more i (by omega)) seen
  refine ⟨time, ?_⟩
  intro limit late
  obtain ⟨outcome, events, comes, accounts, enough⟩ := hears limit late []
  obtain ⟨n, heard⟩ := accounts.heard
  obtain rfl : events = told replies n := heard
  have tells : (follow source see limit now interval poll.key seen script).Tells see seen
      (told replies n) := by
    rw [follow_eq, attend, comes]
    exact ⟨by simpa [Outcome.after] using accounts.printed, accounts.ending⟩
  by_cases further : k < n
  · exact ⟨n, further, tells⟩
  · -- it has ended before, so the answers behind change nothing
    have ended : (reactAll see seen (told replies n)).2 ≠ none := by
      rw [← accounts.ending]
      intro goesOn
      have length := enough goesOn
      rw [List.nil_append, length_told] at length
      exact further length
    obtain ⟨later, same⟩ := told_add replies n (k + 1 - n)
    rw [Nat.add_sub_cancel' (by omega)] at same
    refine ⟨k + 1, Nat.lt_succ_self k, ?_⟩
    rw [same]
    exact ⟨by rw [reactAll_append ended, tells.printed], by rw [reactAll_append ended, tells.ending]⟩

end TranscodeConsole.Rehearsal
