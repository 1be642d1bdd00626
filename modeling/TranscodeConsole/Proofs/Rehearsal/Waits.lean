import TranscodeConsole.Proofs.Rehearsal.Stage

/-!
Waiting on a stage, round by round. A change of the world of which the tasks take no notice can be
made before the wait or behind it, and whoever waits for something first can wait for more then.
-/
namespace TranscodeConsole.Rehearsal.Stage

variable {σ κ : Type} [DecidableEq κ] {plan : Plan σ κ} {s : Stage σ κ}

/-! ### Rounds -/

/-- What comes of a wait until the next turn or move of the clock. -/
inductive Round (σ κ : Type) where
  | ends (met : Bool) (after : Stage σ κ)
  | goesOn (look : Bool) (s : Stage σ κ)

def pause (plan : Plan σ κ) (await : Await σ) (s : Stage σ κ) : Round σ κ :=
  match s.yielded plan with
  | k :: rest => .goesOn false { s with queue := k :: rest }
  | [] =>
    let late := Round.ends false { s with now := (await.limit.map (·.time)).getD s.now }
    match s.nextTime plan await.alarm with
    | some t => if await.limit.all (t ≤ ·.time) then .goesOn true { s with now := t } else late
    | none => late

def round (plan : Plan σ κ) (await : Await σ) (look : Bool) (s : Stage σ κ) : Round σ κ :=
  if look && await.holds s.now s.world then .ends true s
  else if await.isOver s.now then .ends false s
  else match s.queue with
    | k :: rest => .goesOn false (s.turn plan k rest)
    | [] => if await.holds s.now s.world then .ends true s else s.pause plan await

def Round.andThen (later : Bool → Stage σ κ → Option (Bool × Stage σ κ)) :
    Round σ κ → Option (Bool × Stage σ κ)
  | .ends met after => some (met, after)
  | .goesOn look s => later look s

variable {await : Await σ} {look : Bool}

theorem runFrom_round (plan : Plan σ κ) (await : Await σ) (look : Bool) (s : Stage σ κ) :
    s.runFrom plan await look =
      ((s.notice plan).round plan await look).andThen fun look s => s.runFrom plan await look := by
  rw [runFrom, round, pause]
  repeat' split
  all_goals simp_all [Round.andThen]

theorem runFrom_rounds {motive : Bool → Stage σ κ → Bool × Stage σ κ → Prop}
    (ends : ∀ look s met after, (s.notice plan).round plan await look = .ends met after →
      motive look s (met, after))
    (goesOn : ∀ look s look' s' ending, (s.notice plan).round plan await look = .goesOn look' s' →
      motive look' s' ending → motive look s ending)
    {ending : Bool × Stage σ κ} (ran : s.runFrom plan await look = some ending) :
    motive look s ending := by
  refine runFrom.partial_correctness plan await motive ?_ look s ending ran
  clear ran
  intro later ih look s ending ran
  have first : ((s.notice plan).round plan await look).andThen later = some ending := by
    rw [← ran, round, pause]
    clear ran ends goesOn ih
    repeat' split
    all_goals simp_all [Round.andThen]
  cases made : (s.notice plan).round plan await look with
  | ends met after =>
    rw [made] at first
    cases first
    exact ends look s met after made
  | goesOn look' s' =>
    rw [made] at first
    exact goesOn look s look' s' ending made (ih look' s' ending first)

/-! ### Waits that come to an end -/

theorem notice_noticed (order : ∀ k, k ∈ s.order ↔ k ∈ plan.tasks s.world)
    (queue : ∀ k ∈ s.queue, k ∈ plan.tasks s.world)
    (ready : ∀ k ∈ plan.tasks s.world, (plan.wake s.world k).isReady s.now = true → k ∈ s.queue) :
    s.notice plan = s := by
  have known : s.order.filter ((plan.tasks s.world).contains ·) = s.order :=
    List.filter_eq_self.mpr fun k member => by simpa using (order k).mp member
  have new : (plan.tasks s.world).filter (!s.order.contains ·) = [] :=
    List.filter_eq_nil_iff.mpr fun k member => by simpa using (order k).mpr member
  have queued : s.queue.filter ((plan.tasks s.world).contains ·) = s.queue :=
    List.filter_eq_self.mpr fun k member => by simpa using queue k member
  have nobody : (s.order.filter fun k =>
      !s.queue.contains k && (plan.wake s.world k).isReady s.now) = [] := by
    refine List.filter_eq_nil_iff.mpr fun k member => ?_
    have asleep := mt (ready k ((order k).mp member))
    simpa using asleep
  simp only [notice, known, new, queued, nobody, List.append_nil]

theorem notice_notice (plan : Plan σ κ) (s : Stage σ κ) :
    (s.notice plan).notice plan = s.notice plan := by
  apply notice_noticed
  · exact fun k => mem_order_notice
  · exact fun k queued => (mem_queue_notice.mp queued).1
  · exact fun k task ready => mem_queue_notice.mpr ⟨task, .inr ready⟩

theorem round_met {after : Stage σ κ} (ends : s.round plan await look = .ends true after) :
    after = s ∧ await.holds s.now s.world = true := by
  unfold round pause at ends
  repeat' split at ends
  all_goals cases ends
  all_goals simp_all

theorem runFrom_met {after : Stage σ κ} (ran : s.runFrom plan await look = some (true, after)) :
    await.holds after.now after.world = true := by
  refine runFrom_rounds (motive := fun _ _ ending => ending.1 = true →
    await.holds ending.2.now ending.2.world = true) ?_ ?_ ran rfl
  · rintro look s _ after made rfl
    obtain ⟨rfl, met⟩ := round_met made
    exact met
  · exact fun _ _ _ _ _ _ later => later

theorem goesOn_cases {look' : Bool} {s' : Stage σ κ}
    (made : s.round plan await look = .goesOn look' s') :
    (∃ k rest, s.queue = k :: rest ∧ s' = s.turn plan k rest) ∨
    (s.queue = [] ∧ ∃ k rest, s.yielded plan = k :: rest ∧ s' = { s with queue := k :: rest }) ∨
    (s.queue = [] ∧ ∃ t, s.nextTime plan await.alarm = some t ∧
      await.limit.all (t ≤ ·.time) = true ∧ s' = { s with now := t }) := by
  unfold round pause at made
  repeat' split at made
  all_goals cases made
  · exact .inl ⟨_, _, ‹_›, rfl⟩
  · exact .inr (.inl ⟨‹_›, _, _, ‹_›, rfl⟩)
  · exact .inr (.inr ⟨‹_›, _, ‹_›, ‹_›, rfl⟩)

theorem earliest_mem {times : List Nat} {t : Nat} (first : earliest times = some t) :
    t ∈ times := by
  have found : ∀ {best : Option Nat}, times.foldl (fun best t => some (match best with
      | some b => min b t
      | none => t)) best = some t → best = some t ∨ t ∈ times := by
    clear first
    induction times with
    | nil => exact .inl
    | cons u times ih =>
      intro best first
      rcases ih first with here | later
      · cases best with
        | none => simp_all
        | some b => grind
      · exact .inr (.tail _ later)
  exact (found first).resolve_left (by simp)

omit [DecidableEq κ] in
theorem lt_nextTime {alarm : Option Nat} {t : Nat} (next : s.nextTime plan alarm = some t) :
    s.now < t := by
  simpa using (List.mem_filter.mp (earliest_mem next)).2

/-- What is left of the time until a deadline, where a moment at which somebody can run counts for
more than one at which nobody can. -/
def rank (plan : Plan σ κ) (limit : Deadline) (s : Stage σ κ) : Nat :=
  2 * (limit.time + 1 - s.now) + if (s.notice plan).queue = [] then 0 else 1

theorem rank_notice (plan : Plan σ κ) (limit : Deadline) (s : Stage σ κ) :
    (s.notice plan).rank plan limit = s.rank plan limit := by
  rw [rank, rank, notice_notice, now_notice]

/-- On these stages nobody can run behind a turn before the clock moves, and nobody gives way. -/
structure Restful (plan : Plan σ κ) (keeps : Stage σ κ → Prop) : Prop where
  yields : ∀ s, keeps s → ∀ k, plan.wake s.world k ≠ .later
  turn : ∀ s k rest, keeps s → (s.notice plan).queue = k :: rest →
    keeps ((s.notice plan).turn plan k rest) ∧
      (((s.notice plan).turn plan k rest).notice plan).queue = []
  clock : ∀ s t, keeps s → keeps { s.notice plan with now := t }

namespace Restful

variable {keeps : Stage σ κ → Prop} {limit : Deadline}

theorem goesOn (restful : Restful plan keeps) (within : await.limit = some limit) (kept : keeps s)
    {look' : Bool} {s' : Stage σ κ}
    (made : (s.notice plan).round plan await look = .goesOn look' s') :
    keeps s' ∧ s'.rank plan limit < s.rank plan limit := by
  rcases goesOn_cases made with ⟨k, rest, queue, rfl⟩ | ⟨_, k, rest, yielded, _⟩ |
    ⟨queue, t, next, early, rfl⟩
  · obtain ⟨kept', rests⟩ := restful.turn s k rest kept queue
    have now : ((s.notice plan).turn plan k rest).now = s.now := rfl
    refine ⟨kept', ?_⟩
    simp only [rank, rests, queue, now]
    simp
  · have here : k ∈ (s.notice plan).yielded plan := by simp [yielded]
    exact absurd (of_decide_eq_true (List.mem_filter.mp here).2) (restful.yields s kept k)
  · have later : (s.notice plan).now < t := lt_nextTime next
    have inTime : t ≤ limit.time := by simpa [within] using early
    rw [now_notice] at later
    refine ⟨restful.clock s t kept, ?_⟩
    simp only [rank, queue, ite_true]
    split <;> omega

theorem runFrom (restful : Restful plan keeps) (within : await.limit = some limit) (kept : keeps s)
    (look : Bool) : ∃ ending, s.runFrom plan await look = some ending := by
  induction here : s.rank plan limit using Nat.strongRecOn generalizing s look with
  | ind _ ih =>
    rw [runFrom_round]
    cases made : (s.notice plan).round plan await look with
    | ends met after => exact ⟨_, rfl⟩
    | goesOn look' s' =>
      obtain ⟨kept', less⟩ := restful.goesOn within kept made
      exact ih _ (here ▸ less) kept' look' rfl

theorem met (restful : Restful plan keeps) (within : await.limit = some limit) (kept : keeps s)
    {after : Stage σ κ} (ran : s.runFrom plan await look = some (true, after)) :
    after = s.notice plan ∨ after.rank plan limit < s.rank plan limit := by
  refine runFrom_rounds (motive := fun _ s ending => keeps s → ending.1 = true →
    ending.2 = s.notice plan ∨ ending.2.rank plan limit < s.rank plan limit) ?_ ?_ ran kept rfl
  · rintro look s _ after made _ rfl
    exact .inl (round_met made).1
  · intro look s look' s' ending made later kept met
    obtain ⟨kept', less⟩ := restful.goesOn within kept made
    rcases later kept' met with same | lower
    · exact .inr (by rwa [same, rank_notice])
    · exact .inr (Nat.lt_trans lower less)

end Restful

/-! ### Changes of which nobody takes notice -/

/-- A change of the world of which no task takes notice. -/
structure Unnoticed (plan : Plan σ κ) (f : σ → σ) : Prop where
  tasks : ∀ w, plan.tasks (f w) = plan.tasks w
  wake : ∀ w k, plan.wake (f w) k = plan.wake w k
  turn : ∀ now k w, plan.turn now k (f w) = f (plan.turn now k w)

def onWorld (f : σ → σ) (s : Stage σ κ) : Stage σ κ := { s with world := f s.world }

def Round.onWorld (f : σ → σ) : Round σ κ → Round σ κ
  | .ends met after => .ends met (after.onWorld f)
  | .goesOn look s => .goesOn look (s.onWorld f)

namespace Unnoticed

variable {f : σ → σ}

theorem notice (unnoticed : Unnoticed plan f) (s : Stage σ κ) :
    (s.onWorld f).notice plan = (s.notice plan).onWorld f := by
  simp [Stage.notice, Stage.onWorld, unnoticed.tasks, unnoticed.wake]

theorem rank (unnoticed : Unnoticed plan f) (limit : Deadline) (s : Stage σ κ) :
    (s.onWorld f).rank plan limit = s.rank plan limit := by
  simp only [Stage.rank, unnoticed.notice]
  rfl

theorem turned (unnoticed : Unnoticed plan f) (s : Stage σ κ) (k : κ) (rest : List κ) :
    (s.onWorld f).turn plan k rest = (s.turn plan k rest).onWorld f := by
  simp [Stage.turn, Stage.onWorld, unnoticed.turn]

omit [DecidableEq κ] in
theorem pause (unnoticed : Unnoticed plan f) (holds told : Nat → σ → Bool) (alarm : Option Nat)
    (limit : Option Deadline) (s : Stage σ κ) :
    (s.onWorld f).pause plan { holds := told, alarm, limit } =
      (s.pause plan { holds, alarm, limit }).onWorld f := by
  have yielded : (s.onWorld f).yielded plan = s.yielded plan := by
    simp [Stage.yielded, Stage.onWorld, unnoticed.wake]
  have next : (s.onWorld f).nextTime plan alarm = s.nextTime plan alarm := by
    unfold Stage.nextTime
    simp only [show (s.onWorld f).world = f s.world from rfl, unnoticed.wake]
    rfl
  simp only [Stage.pause, yielded, next]
  repeat' split
  all_goals rfl

theorem round (unnoticed : Unnoticed plan f) {holds told : Nat → σ → Bool}
    (same : ∀ now w, told now (f w) = holds now w) (alarm : Option Nat) (limit : Option Deadline)
    (look : Bool) (s : Stage σ κ) :
    (s.onWorld f).round plan { holds := told, alarm, limit } look =
      (s.round plan { holds, alarm, limit } look).onWorld f := by
  have met : told (s.onWorld f).now (s.onWorld f).world = holds s.now s.world := same _ _
  have queue : (s.onWorld f).queue = s.queue := rfl
  simp only [Stage.round, met, unnoticed.turned, unnoticed.pause holds told, queue]
  cases s.queue <;> simp only [apply_ite (Round.onWorld f)] <;> rfl

theorem runFrom (unnoticed : Unnoticed plan f) {holds told : Nat → σ → Bool}
    (same : ∀ now w, told now (f w) = holds now w) {alarm : Option Nat} {limit : Option Deadline}
    {ending : Bool × Stage σ κ}
    (ran : (s.onWorld f).runFrom plan { holds := told, alarm, limit } look = some ending) :
    ∃ after, s.runFrom plan { holds, alarm, limit } look = some (ending.1, after) ∧
      ending.2 = after.onWorld f := by
  refine runFrom_rounds (motive := fun look u ending => ∀ s : Stage σ κ, u = s.onWorld f →
    ∃ after, s.runFrom plan { holds, alarm, limit } look = some (ending.1, after) ∧
      ending.2 = after.onWorld f) ?_ ?_ ran s rfl
  · rintro look _ met after made s rfl
    rw [unnoticed.notice, unnoticed.round same] at made
    rw [runFrom_round]
    cases here : (s.notice plan).round plan { holds, alarm, limit } look with
    | ends met' after' =>
      rw [here] at made
      cases made
      exact ⟨after', rfl, rfl⟩
    | goesOn look' s' =>
      rw [here] at made
      cases made
  · rintro look _ look' u' ending made later s rfl
    rw [unnoticed.notice, unnoticed.round same] at made
    rw [runFrom_round]
    cases here : (s.notice plan).round plan { holds, alarm, limit } look with
    | ends met' after' =>
      rw [here] at made
      cases made
    | goesOn look'' s' =>
      rw [here] at made
      cases made
      exact later s' rfl

theorem ends (unnoticed : Unnoticed plan f) (injective : Function.Injective f)
    {holds told : Nat → σ → Bool} (same : ∀ now w, told now (f w) = holds now w)
    {alarm : Option Nat} {last : Stage σ κ} (ends : Ends plan told alarm look (s.onWorld f) last) :
    ∃ after, Ends plan holds alarm look s after ∧ last = after.onWorld f := by
  obtain ⟨time, reaches⟩ := ends
  obtain ⟨after, _, rfl⟩ := unnoticed.runFrom same (reaches { time } (Nat.le_refl _))
  refine ⟨after, ⟨time, ?_⟩, rfl⟩
  intro limit late
  obtain ⟨after', ran, moved⟩ := unnoticed.runFrom same (reaches limit late)
  obtain ⟨world, now, queue, order⟩ := after
  obtain ⟨world', now', queue', order'⟩ := after'
  simp only [Stage.onWorld, Stage.mk.injEq] at moved
  obtain ⟨worlds, rfl, rfl, rfl⟩ := moved
  rw [ran, injective worlds]

end Unnoticed

/-! ### Waiting for more -/

theorem round_look (unmet : await.holds s.now s.world = false) (look look' : Bool) :
    s.round plan await look = s.round plan await look' := by
  simp [round, unmet]

variable {less more : Nat → σ → Bool} {alarm : Option Nat} {limit : Option Deadline}

theorem round_more (weaker : ∀ now w, more now w = true → less now w = true) {look' : Bool}
    {s' : Stage σ κ}
    (goesOn : s.round plan { holds := less, alarm, limit } look = .goesOn look' s') :
    s.round plan { holds := more, alarm, limit } look = .goesOn look' s' := by
  cases met : less s.now s.world with
  | false =>
    have unmet : more s.now s.world = false := by
      rw [← Bool.not_eq_true]
      intro met'
      simp [weaker _ _ met'] at met
    rw [← goesOn]
    simp only [round, met, unmet]
    rfl
  | true =>
    -- nobody looks before the queue is empty
    cases look with
    | true => simp [round, met] at goesOn
    | false =>
      cases queue : s.queue with
      | nil =>
        simp only [round, met, queue, Bool.false_and, Bool.false_eq_true, ite_false, ite_true]
          at goesOn
        split at goesOn <;> cases goesOn
      | cons k rest =>
        rw [← goesOn]
        simp only [round, queue]
        rfl

theorem runFrom_more (weaker : ∀ now w, more now w = true → less now w = true)
    {after last : Stage σ κ}
    (first : s.runFrom plan { holds := less, alarm, limit } look = some (true, after))
    (whole : s.runFrom plan { holds := more, alarm, limit } look = some (true, last)) :
    after.runFrom plan { holds := more, alarm, limit } true =
      some (true, if more after.now after.world then after else last) := by
  refine runFrom_rounds (motive := fun look s ending =>
    s.runFrom plan { holds := more, alarm, limit } look = some (true, last) → ending.1 = true →
      ending.2.runFrom plan { holds := more, alarm, limit } true =
        some (true, if more ending.2.now ending.2.world then ending.2 else last))
    ?_ ?_ first whole rfl
  · rintro look s _ after made whole rfl
    obtain ⟨rfl, _⟩ := round_met made
    rw [runFrom_round, notice_notice]
    cases met : more (s.notice plan).now (s.notice plan).world with
    | true =>
      have ends : (s.notice plan).round plan { holds := more, alarm, limit } true =
          .ends true (s.notice plan) := by simp only [round, met, Bool.and_self, ite_true]
      rw [ends]
      rfl
    | false =>
      rw [runFrom_round, round_look met look true] at whole
      exact whole
  · intro look s look' s' ending made later whole met
    rw [runFrom_round, round_more weaker made] at whole
    exact later whole met

theorem Ends.goesOn (weaker : ∀ now w, more now w = true → less now w = true)
    {after last : Stage σ κ} (first : Ends plan less alarm look s after)
    (whole : Ends plan more alarm look s last) :
    Ends plan more alarm true after (if more after.now after.world then after else last) := by
  obtain ⟨time, reaches⟩ := first
  obtain ⟨time', reaches'⟩ := whole
  refine ⟨max time time', ?_⟩
  intro limit late
  exact runFrom_more weaker (reaches limit (by omega)) (reaches' limit (by omega))

theorem Ends.met {holds : Nat → σ → Bool} {after : Stage σ κ}
    (ends : Ends plan holds alarm look s after) : holds after.now after.world = true := by
  obtain ⟨time, reaches⟩ := ends
  exact runFrom_met (reaches { time } (Nat.le_refl _))

end TranscodeConsole.Rehearsal.Stage
