import TranscodeConsole.Rehearsal.Stage

/-!
What waiting on a stage comes to, told from one turn or move of the clock to the next. A deadline
that is late enough is never met on the way.
-/
namespace TranscodeConsole.Rehearsal.Stage

variable {σ κ : Type} [DecidableEq κ] {plan : Plan σ κ} {s : Stage σ κ}

/-! ### Taking notice -/

@[simp] theorem world_notice : (s.notice plan).world = s.world := rfl

@[simp] theorem now_notice : (s.notice plan).now = s.now := rfl

theorem mem_order_notice {k : κ} : k ∈ (s.notice plan).order ↔ k ∈ plan.tasks s.world := by
  simp only [notice, List.mem_append, List.mem_filter, List.contains_eq_mem, decide_eq_true_eq,
    Bool.not_eq_eq_eq_not, Bool.not_true, decide_eq_false_iff_not]
  constructor
  · rintro (⟨_, member⟩ | ⟨member, _⟩) <;> exact member
  · intro member
    by_cases known : k ∈ s.order
    · exact .inl ⟨known, member⟩
    · exact .inr ⟨member, fun old => known old.1⟩

theorem mem_queue_notice {k : κ} :
    k ∈ (s.notice plan).queue ↔
      k ∈ plan.tasks s.world ∧ (k ∈ s.queue ∨ (plan.wake s.world k).isReady s.now = true) := by
  have order : k ∈ (s.notice plan).order ↔ k ∈ plan.tasks s.world := mem_order_notice
  show k ∈ s.queue.filter _ ++ (s.notice plan).order.filter _ ↔ _
  simp only [List.mem_append, List.mem_filter, List.contains_eq_mem, decide_eq_true_eq,
    Bool.and_eq_true, Bool.not_eq_eq_eq_not, Bool.not_true, decide_eq_false_iff_not, order]
  constructor
  · rintro (⟨queued, member⟩ | ⟨member, _, ready⟩)
    · exact ⟨member, .inl queued⟩
    · exact ⟨member, .inr ready⟩
  · rintro ⟨member, earlier⟩
    by_cases queued : k ∈ s.queue
    · exact .inl ⟨queued, member⟩
    · have ready := earlier.resolve_left queued
      exact .inr ⟨member, fun old => queued old.1, ready⟩

structure Tidy (s : Stage σ κ) : Prop where
  queue : s.queue.Nodup
  order : s.order.Nodup

theorem Tidy.notice (tidy : s.Tidy) (tasks : (plan.tasks s.world).Nodup) :
    (s.notice plan).Tidy := by
  have order : (s.notice plan).order.Nodup := by
    refine List.nodup_append.mpr ⟨tidy.order.filter _, tasks.filter _, ?_⟩
    intro a known b new same
    subst same
    simp only [List.mem_filter, List.contains_eq_mem, Bool.not_eq_eq_eq_not, Bool.not_true,
      decide_eq_false_iff_not] at known new
    exact new.2 known
  refine ⟨List.nodup_append.mpr ⟨tidy.queue.filter _, order.filter _, ?_⟩, order⟩
  intro a queued b ready same
  subst same
  simp only [List.mem_filter, List.contains_eq_mem, Bool.and_eq_true, Bool.not_eq_eq_eq_not,
    Bool.not_true, decide_eq_false_iff_not] at queued ready
  exact ready.2.1 queued

theorem Tidy.turn (tidy : s.Tidy) {k : κ} {rest : List κ} (queue : s.queue = k :: rest) :
    (s.turn plan k rest).Tidy := by
  have nodup := tidy.queue
  rw [queue] at nodup
  refine ⟨(List.nodup_cons.mp nodup).2, List.nodup_append.mpr ⟨tidy.order.erase k, by simp, ?_⟩⟩
  intro a old b new same
  subst same
  rw [List.mem_singleton.mp new] at old
  exact (List.Nodup.not_mem_erase tidy.order) old

/-! ### What a stage keeps -/

theorem runFrom_keeps (keeps : σ → Prop) (tasks : ∀ w, keeps w → (plan.tasks w).Nodup)
    (turns : ∀ w now k, keeps w → keeps (plan.turn now k w)) {await : Await σ} {look : Bool}
    {ending : Bool × Stage σ κ} (tidy : s.Tidy) (kept : keeps s.world)
    (ran : s.runFrom plan await look = some ending) : ending.2.Tidy ∧ keeps ending.2.world := by
  refine runFrom.partial_correctness plan await
    (fun _ s ending => s.Tidy → keeps s.world → ending.2.Tidy ∧ keeps ending.2.world)
    ?_ look s ending ran tidy kept
  clear ran tidy kept
  intro later ih look s ending ran tidy kept
  have noticed : (s.notice plan).Tidy := tidy.notice (tasks _ kept)
  have ended : ∀ now : Nat, Tidy { s.notice plan with now } := fun _ =>
    ⟨noticed.queue, noticed.order⟩
  simp only at ran
  -- the foreground goes on, or its time is over
  split at ran
  · cases ran
    exact ⟨noticed, kept⟩
  split at ran
  · cases ran
    exact ⟨noticed, kept⟩
  -- a task has its turn
  split at ran
  · rename_i k rest queue
    exact ih _ _ _ ran (noticed.turn queue) (turns _ _ _ kept)
  split at ran
  · cases ran
    exact ⟨noticed, kept⟩
  split at ran
  · rename_i k rest yielded
    refine ih _ _ _ ran ⟨?_, noticed.order⟩ kept
    rw [← yielded]
    exact noticed.order.filter _
  -- nobody can run before the clock moves
  split at ran
  · split at ran
    · exact ih _ _ _ ran (ended _) kept
    · cases ran
      exact ⟨ended _, kept⟩
  · cases ran
    exact ⟨ended _, kept⟩

theorem run_keeps (keeps : σ → Prop) (tasks : ∀ w, keeps w → (plan.tasks w).Nodup)
    (turns : ∀ w now k, keeps w → keeps (plan.turn now k w)) (await : Await σ) (tidy : s.Tidy)
    (kept : keeps s.world) : (s.run plan await).2.Tidy ∧ keeps (s.run plan await).2.world := by
  unfold run
  cases ran : s.runFrom plan await true with
  | none => exact ⟨tidy, kept⟩
  | some ending => exact runFrom_keeps keeps tasks turns tidy kept ran

/-! ### Waiting -/

/-- Waiting from `s` on comes to its end at `after`, if the deadline is late enough. -/
def Ends (plan : Plan σ κ) (holds : Nat → σ → Bool) (alarm : Option Nat) (look : Bool)
    (s after : Stage σ κ) : Prop :=
  ∃ time, ∀ limit : Deadline, time ≤ limit.time →
    s.runFrom plan { holds, alarm, limit := some limit } look = some (true, after)

variable {holds : Nat → σ → Bool} {alarm : Option Nat} {look : Bool} {after : Stage σ κ}

theorem Ends.run (ends : Ends plan holds alarm true s after) :
    ∃ time, ∀ limit : Deadline, time ≤ limit.time →
      s.run plan { holds, alarm, limit := some limit } = (true, after) := by
  obtain ⟨time, reaches⟩ := ends
  refine ⟨time, ?_⟩
  intro limit late
  rw [Stage.run, reaches limit late, Option.getD_some]

theorem isOver_late {holds : Nat → σ → Bool} {alarm : Option Nat} {limit : Deadline} {now : Nat}
    (late : now < limit.time) :
    ({ holds, alarm, limit := some limit } : Await σ).isOver now = false := by
  simp [Await.isOver, Nat.not_le.mpr late]

theorem ends_met (met : holds s.now s.world = true)
    (looks : look = true ∨ (s.notice plan).queue = []) :
    Ends plan holds alarm look s (s.notice plan) := by
  refine ⟨s.now + 1, ?_⟩
  intro limit late
  rw [runFrom]
  rcases looks with rfl | empty
  · simp [met]
  · cases look with
    | true => simp [met]
    | false => simp [isOver_late late, empty, met]

theorem ends_turn {k : κ} {rest : List κ} (queue : (s.notice plan).queue = k :: rest)
    (waits : look = false ∨ holds s.now s.world = false)
    (later : Ends plan holds alarm false ((s.notice plan).turn plan k rest) after) :
    Ends plan holds alarm look s after := by
  obtain ⟨time, reaches⟩ := later
  refine ⟨max time (s.now + 1), ?_⟩
  intro limit late
  have passes : (look && holds s.now s.world) = false := by
    rcases waits with rfl | unmet
    · rfl
    · rw [unmet, Bool.and_false]
  rw [runFrom]
  simp only [now_notice, world_notice, passes, Bool.false_eq_true, ite_false,
    isOver_late (by omega : s.now < limit.time), queue]
  exact reaches limit (by omega)

theorem ends_yield {k : κ} {rest : List κ} (empty : (s.notice plan).queue = [])
    (unmet : holds s.now s.world = false) (yielded : (s.notice plan).yielded plan = k :: rest)
    (later : Ends plan holds alarm false { s.notice plan with queue := k :: rest } after) :
    Ends plan holds alarm look s after := by
  obtain ⟨time, reaches⟩ := later
  refine ⟨max time (s.now + 1), ?_⟩
  intro limit late
  rw [runFrom]
  simp only [now_notice, world_notice, unmet, Bool.and_false, Bool.false_eq_true, ite_false,
    isOver_late (by omega : s.now < limit.time), empty, yielded]
  exact reaches limit (by omega)

theorem ends_clock {t : Nat} (empty : (s.notice plan).queue = [])
    (unmet : holds s.now s.world = false) (yielded : (s.notice plan).yielded plan = [])
    (next : (s.notice plan).nextTime plan alarm = some t)
    (later : Ends plan holds alarm true { s.notice plan with now := t } after) :
    Ends plan holds alarm look s after := by
  obtain ⟨time, reaches⟩ := later
  refine ⟨max time (max (s.now + 1) t), ?_⟩
  intro limit late
  have inTime : t ≤ limit.time := by omega
  rw [runFrom]
  simp only [now_notice, world_notice, unmet, Bool.and_false, Bool.false_eq_true, ite_false,
    isOver_late (by omega : s.now < limit.time), empty, yielded, next, Option.all_some, inTime,
    decide_true, ite_true]
  simpa only [world_notice, empty] using reaches limit (by omega)

end TranscodeConsole.Rehearsal.Stage
