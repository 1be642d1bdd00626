import TranscodeConsole.Proofs.Rehearsal.Followed
import TranscodeConsole.Proofs.Rehearsal.Stage

/-!
The poll of a tracker on its stage, with nobody else at work. Whenever it has a turn that it can
use it comes further, and whenever nobody can run the clock moves to where it goes on; so it hears
of one reply after the other, up to one that is final or an error.
-/
namespace TranscodeConsole.Rehearsal

open Poll Tracking

variable {κ τ : Type} [LiveResource τ]

def workersOf (poll : TrackedPoll κ) (worker : Worker (Pending τ)) : List (TrackedWorker κ τ) :=
  match worker.phase with
  | .over => []
  | .ticking | .refreshing _ => [⟨poll, worker⟩]

/-- A tracker alone with its service and this poll. -/
structure Attends (source : Source κ τ) (script : Script) (replies : Nat → Reply τ)
    (poll : TrackedPoll κ) (fetches : List Nat) (heard : Nat) (worker : Worker (Pending τ))
    (w : Following κ τ) : Prop where
  workers : w.tracked.workers = workersOf poll worker
  stands : Stands source script replies poll fetches heard (worker, w.tracked, w.script)

namespace Attends

variable {source : Source κ τ} {script : Script} {replies : Nat → Reply τ} {poll : TrackedPoll κ}
  {fetches : List Nat} {heard : Nat} {worker : Worker (Pending τ)} {w : Following κ τ}

theorem find_own (attends : Attends source script replies poll fetches heard worker w)
    (stays : worker.phase ≠ .over) : w.tracked.find? poll.control.mark = some ⟨poll, worker⟩ := by
  unfold Tracked.find?
  rw [attends.workers, workersOf]
  split
  · rename_i ended
    exact absurd ended stays
  · simp
  · simp

theorem find_other (attends : Attends source script replies poll fetches heard worker w)
    {mark : Mark} (other : worker.phase = .over ∨ poll.control.mark ≠ mark) :
    w.tracked.find? mark = none := by
  unfold Tracked.find?
  rw [attends.workers, workersOf]
  split <;> simp_all

theorem turn_other (attends : Attends source script replies poll fetches heard worker w) (now : Nat)
    {mark : Mark} (other : worker.phase = .over ∨ poll.control.mark ≠ mark) :
    (Following.plan source).turn now mark w = w := by
  simp [Following.plan, Tracked.turn, attends.find_other other]

theorem turn_own (attends : Attends source script replies poll fetches heard worker w)
    (stays : worker.phase ≠ .over) (now : Nat) :
    let after := worker.run (Tracked.refresh source poll) now (w.tracked, w.script)
    (Following.plan source).turn now poll.control.mark w =
      ⟨{ after.2.1 with workers := workersOf poll after.1 }, after.2.2⟩ := by
  have kept := workers_steps
    (Worker.steps_run (Tracked.refresh source poll) now worker (w.tracked, w.script))
  simp only [Following.plan, Tracked.turn, attends.find_own stays]
  generalize worker.run (Tracked.refresh source poll) now (w.tracked, w.script) = after at kept ⊢
  obtain ⟨worker', tracked, left⟩ := after
  have none_ : tracked.workers.filter (·.poll.control.mark ≠ poll.control.mark) = [] := by
    have kept : tracked.workers = w.tracked.workers := kept
    rw [kept, attends.workers, workersOf]
    split <;> simp
  simp only [none_, workersOf]
  split
  · rename_i ended
    rw [ended]
  · rename_i other
    split
    · rename_i ended
      exact absurd ended other
    · rfl
    · rfl

theorem of_moment {m : Moment κ τ} (stands : Stands source script replies poll fetches heard m) :
    Attends source script replies poll fetches heard m.1
      ⟨{ m.2.1 with workers := workersOf poll m.1 }, m.2.2⟩ :=
  ⟨rfl, ⟨stands.follows, stands.observed, stands.generation, stands.stopped, stands.phase⟩⟩

theorem turn (attends : Attends source script replies poll fetches heard worker w)
    (supplies : source.Supplies poll.key script replies) (now : Nat) (mark : Mark) :
    ∃ fetches' heard' worker', Attends source script replies poll fetches' heard' worker'
      ((Following.plan source).turn now mark w) := by
  by_cases other : worker.phase = .over ∨ poll.control.mark ≠ mark
  · rw [attends.turn_other now other]
    exact ⟨fetches, heard, worker, attends⟩
  · simp only [ne_eq, not_or, Decidable.not_not] at other
    obtain ⟨stays, rfl⟩ := other
    obtain ⟨fetches', heard', stands, _⟩ := attends.stands.steps supplies
      (Worker.steps_run (Tracked.refresh source poll) now worker (w.tracked, w.script))
    rw [attends.turn_own stays]
    exact ⟨fetches', heard', _, of_moment stands⟩

theorem live (attends : Attends source script replies poll fetches heard worker w)
    (more : ∀ i < heard, isLast (replies i).result = false) :
    poll.control.isStopped w.tracked.tracker.marks = false := by
  have shown : w.tracked.tracker.state.polling = !(answers replies heard).any isLast :=
    attends.stands.follows.tells.polling
  rw [any_answers.mpr more] at shown
  simpa [shown] using attends.stands.stopped

theorem stays (attends : Attends source script replies poll fetches heard worker w)
    (live : poll.control.isStopped w.tracked.tracker.marks = false) : worker.phase ≠ .over := by
  intro ended
  have idle := attends.stands.phase
  simp only [ended] at idle
  have polling := (attends.stands.open_ live).1
  simp [idle] at polling

theorem wake (attends : Attends source script replies poll fetches heard worker w)
    (live : poll.control.isStopped w.tracked.tracker.marks = false) :
    w.tracked.wake poll.control.mark = match worker.phase with
      | .ticking => .at worker.ticker.due
      | .refreshing pending => .at pending.due
      | .over => .never := by
  unfold Tracked.wake
  by_cases ended : worker.phase = .over
  · rw [attends.find_other (.inl ended), ended]
  · rw [attends.find_own ended]
    simp only [pollWake, live]
    cases worker.phase <;> rfl

theorem asleep (attends : Attends source script replies poll fetches heard worker w) {now : Nat}
    (rests : worker.phase = .over ∨
      (∃ pending, worker.phase = .refreshing pending ∧ now < pending.due) ∨
      (worker.phase = .ticking ∧ worker.ticker.isDue now = false ∧
        poll.control.isStopped w.tracked.tracker.marks = false)) :
    (w.tracked.wake poll.control.mark).isReady now = false := by
  rcases rests with ended | ⟨pending, phase, late⟩ | ⟨phase, early, live⟩
  · unfold Tracked.wake
    rw [attends.find_other (.inl ended)]
    rfl
  · -- a fetch that is still under way was made by a poll that is followed
    have made := attends.stands.phase
    simp only [phase] at made
    have live := attends.live fun i before => attends.stands.follows.more i (by omega)
    rw [attends.wake live, phase]
    simpa [Wake.isReady] using late
  · rw [attends.wake live, phase]
    simpa [Wake.isReady, Ticker.isDue] using early

theorem rests (attends : Attends source script replies poll fetches heard worker w)
    (supplies : source.Supplies poll.key script replies) (stays : worker.phase ≠ .over)
    (now : Nat) :
    (((Following.plan source).turn now poll.control.mark w).tracked.wake
      poll.control.mark).isReady now = false := by
  obtain ⟨_, _, stands, _⟩ := attends.stands.steps supplies
    (Worker.steps_run (Tracked.refresh source poll) now worker (w.tracked, w.script))
  rw [attends.turn_own stays]
  apply (of_moment stands).asleep
  apply Worker.run_rests
  · intro s pending begun
    simp only [Tracked.refresh] at begun
    split at begun
    · cases begun
    · rename_i late
      cases begun
      simpa using late
  · intro earlier s pending resumed
    cases resumed

theorem advances (attends : Attends source script replies poll fetches heard worker w)
    (supplies : source.Supplies poll.key script replies) {now : Nat}
    (live : poll.control.isStopped w.tracked.tracker.marks = false)
    (awake : worker.phase = .ticking → worker.ticker.isDue now = true) :
    ∃ fetches' heard' worker', Attends source script replies poll fetches' heard' worker'
        ((Following.plan source).turn now poll.control.mark w) ∧
      fetches.length + heard < fetches'.length + heard' := by
  have stays := attends.stays live
  obtain ⟨m, first, later⟩ : ∃ m : Moment κ τ,
      Worker.Step (Tracked.refresh source poll) now (worker, w.tracked, w.script) m ∧
        Worker.Steps _ m _ := Worker.run_goesOn live stays awake
  obtain ⟨_, _, begun, _, further⟩ := attends.stands.step supplies first
  obtain ⟨fetches', heard', stands, le⟩ := begun.steps supplies later
  rw [attends.turn_own stays]
  exact ⟨fetches', heard', _, of_moment stands, Nat.lt_of_lt_of_le (further live) le⟩

end Attends

namespace Following

variable {source : Source κ τ} {script : Script} {replies : Nat → Reply τ} {poll : TrackedPoll κ}
  {fetches : List Nat} {heard : Nat} {worker : Worker (Pending τ)}
  {s : Stage (Following κ τ) Mark}

structure Attended (source : Source κ τ) (script : Script) (replies : Nat → Reply τ)
    (poll : TrackedPoll κ) (fetches : List Nat) (heard : Nat) (worker : Worker (Pending τ))
    (s : Stage (Following κ τ) Mark) : Prop where
  attends : Attends source script replies poll fetches heard worker s.world
  tidy : s.Tidy
  queued : poll.control.mark ∈ s.queue → worker.phase = .ticking →
    worker.ticker.isDue s.now = true

/-- The foreground comes to see the answer to the `n`th fetch. -/
def Arrives (source : Source κ τ) (n : Nat) (look : Bool) (s : Stage (Following κ τ) Mark) : Prop :=
  ∃ after, Stage.Ends (plan source) (fun _ w => n < w.tracked.tracker.events.length) none look s
    after

theorem mem_tasks (attends : Attends source script replies poll fetches heard worker s.world)
    {mark : Mark} : mark ∈ (plan source).tasks s.world ↔
      worker.phase ≠ .over ∧ mark = poll.control.mark := by
  show mark ∈ s.world.tracked.workers.map _ ↔ _
  rw [attends.workers, workersOf]
  split <;> simp_all

theorem tasks_nodup {w : Following κ τ}
    (attends : Attends source script replies poll fetches heard worker w) :
    ((plan source).tasks w).Nodup := by
  show (w.tracked.workers.map _).Nodup
  rw [attends.workers, workersOf]
  split <;> simp

theorem length_events {w : Following κ τ}
    (attends : Attends source script replies poll fetches heard worker w) :
    w.tracked.tracker.events.length = heard := by
  rw [attends.stands.follows.tells.events]
  simp [answers]

theorem queue_rests (attends : Attends source script replies poll fetches heard worker s.world)
    (supplies : source.Supplies poll.key script replies) (tidy : s.Tidy) {mark : Mark}
    {later : List Mark} (queue : (s.notice (plan source)).queue = mark :: later) :
    (((s.notice (plan source)).turn (plan source) mark later).notice (plan source)).queue = [] := by
  have noticed : (s.notice (plan source)).Tidy := tidy.notice (tasks_nodup attends)
  have queued : mark ∈ (s.notice (plan source)).queue := by simp [queue]
  obtain ⟨stays, rfl⟩ := (mem_tasks attends).mp (Stage.mem_queue_notice.mp queued).1
  have alone : poll.control.mark ∉ later := by
    have nodup := noticed.queue
    rw [queue] at nodup
    exact (List.nodup_cons.mp nodup).1
  obtain ⟨_, _, _, attends'⟩ := attends.turn supplies s.now poll.control.mark
  rw [List.eq_nil_iff_forall_not_mem]
  intro k inQueue
  obtain ⟨task, waiting⟩ := Stage.mem_queue_notice.mp inQueue
  obtain ⟨_, rfl⟩ := (mem_tasks (s := (s.notice (plan source)).turn (plan source)
    poll.control.mark later) attends').mp task
  rcases waiting with old | ready
  · exact alone old
  · have asleep := attends.rests supplies stays s.now
    have awake : (((plan source).turn s.now poll.control.mark s.world).tracked.wake
      poll.control.mark).isReady s.now = true := ready
    rw [asleep] at awake
    cases awake

namespace Attended

theorem ready (attended : Attended source script replies poll fetches heard worker s)
    (live : poll.control.isStopped s.world.tracked.tracker.marks = false)
    (queued : poll.control.mark ∈ (s.notice (plan source)).queue)
    (phase : worker.phase = .ticking) : worker.ticker.isDue s.now = true := by
  rcases (Stage.mem_queue_notice.mp queued).2 with earlier | ready
  · exact attended.queued earlier phase
  · have isReady : (s.world.tracked.wake poll.control.mark).isReady s.now = true := ready
    rw [attended.attends.wake live, phase] at isReady
    simpa [Wake.isReady, Ticker.isDue] using isReady

theorem arrives_turn (attended : Attended source script replies poll fetches heard worker s)
    (supplies : source.Supplies poll.key script replies) {n : Nat}
    (more : ∀ i < n, isLast (replies i).result = false) (waits : heard ≤ n) {look : Bool}
    (busy : (s.notice (plan source)).queue ≠ [])
    (ih : ∀ {fetches' heard' worker' s'},
      Attended source script replies poll fetches' heard' worker' s' →
      fetches.length + heard < fetches'.length + heard' → heard' ≤ n → Arrives source n false s') :
    Arrives source n look s := by
  have attends := attended.attends
  have live := attends.live fun i before => more i (by omega)
  obtain ⟨mark, later, queue⟩ := List.exists_cons_of_ne_nil busy
  have noticed : (s.notice (plan source)).Tidy := attended.tidy.notice (tasks_nodup attends)
  have queued : mark ∈ (s.notice (plan source)).queue := by simp [queue]
  obtain ⟨stays, rfl⟩ := (mem_tasks attends).mp (Stage.mem_queue_notice.mp queued).1
  have alone : poll.control.mark ∉ later := by
    have nodup := noticed.queue
    rw [queue] at nodup
    exact (List.nodup_cons.mp nodup).1
  obtain ⟨fetches', heard', worker', attends', further⟩ :=
    attends.advances supplies live (attended.ready live queued)
  let next := (s.notice (plan source)).turn (plan source) poll.control.mark later
  have attended' : Attended source script replies poll fetches' heard' worker' next :=
    ⟨attends', noticed.turn queue, fun old => absurd old alone⟩
  have unmet : decide (n < s.world.tracked.tracker.events.length) = false := by
    rw [length_events attends]
    simpa using waits
  suffices goesOn : Arrives source n false next by
    obtain ⟨after, ends⟩ := goesOn
    exact ⟨after, Stage.ends_turn queue (.inr unmet) ends⟩
  by_cases arrived : heard' ≤ n
  · exact ih attended' further arrived
  · refine ⟨_, Stage.ends_met ?_ (.inr (queue_rests attends supplies attended.tidy queue))⟩
    rw [length_events attended'.attends]
    simpa using arrived

theorem arrives_clock (attended : Attended source script replies poll fetches heard worker s)
    {n : Nat} (more : ∀ i < n, isLast (replies i).result = false) (waits : heard ≤ n) {look : Bool}
    (empty : (s.notice (plan source)).queue = [])
    (goesOn : ∀ {s'}, Attended source script replies poll fetches heard worker s' →
      (s'.notice (plan source)).queue ≠ [] → Arrives source n true s') :
    Arrives source n look s := by
  have attends := attended.attends
  have live := attends.live fun i before => more i (by omega)
  have noticed : (s.notice (plan source)).Tidy := attended.tidy.notice (tasks_nodup attends)
  have stays := attends.stays live
  have task : poll.control.mark ∈ (plan source).tasks s.world :=
    (mem_tasks attends).mpr ⟨stays, rfl⟩
  have alone : (s.notice (plan source)).order = [poll.control.mark] := by
    rw [← List.perm_singleton, List.perm_ext_iff_of_nodup noticed.order (by simp)]
    intro k
    rw [Stage.mem_order_notice, mem_tasks attends, List.mem_singleton]
    exact ⟨And.right, fun same => ⟨stays, same⟩⟩
  obtain ⟨time, wakes⟩ : ∃ time, (plan source).wake s.world poll.control.mark = .at time := by
    have wake := attends.wake live
    cases phase : worker.phase with
    | ticking =>
      simp only [phase] at wake
      exact ⟨_, wake⟩
    | refreshing pending =>
      simp only [phase] at wake
      exact ⟨_, wake⟩
    | _ => exact absurd phase stays
  have late : s.now < time := by
    rw [← Nat.not_le]
    intro early
    have queued : poll.control.mark ∈ (s.notice (plan source)).queue :=
      Stage.mem_queue_notice.mpr ⟨task, .inr (by simp [wakes, Wake.isReady, early])⟩
    simp [empty] at queued
  have yielded : (s.notice (plan source)).yielded (plan source) = [] := by
    simp [Stage.yielded, alone, wakes]
  have moves : (s.notice (plan source)).nextTime (plan source) none = some time := by
    simp [Stage.nextTime, alone, wakes, Wake.time?, Stage.earliest, late]
  have unmet : decide (n < s.world.tracked.tracker.events.length) = false := by
    rw [length_events attends]
    simpa using waits
  let next : Stage (Following κ τ) Mark := { s.notice (plan source) with now := time }
  have queued : poll.control.mark ∈ (next.notice (plan source)).queue :=
    Stage.mem_queue_notice.mpr ⟨task, .inr (by simp [next, wakes, Wake.isReady])⟩
  have attended' : Attended source script replies poll fetches heard worker next := by
    refine ⟨attends, ⟨noticed.queue, noticed.order⟩, ?_⟩
    intro old
    have inQueue : poll.control.mark ∈ (s.notice (plan source)).queue := old
    simp [empty] at inQueue
  obtain ⟨after, ends⟩ := goesOn attended' (List.ne_nil_of_mem queued)
  exact ⟨after, Stage.ends_clock empty unmet yielded moves ends⟩

theorem arrives (attended : Attended source script replies poll fetches heard worker s)
    (supplies : source.Supplies poll.key script replies) {n : Nat}
    (more : ∀ i < n, isLast (replies i).result = false) (waits : heard ≤ n) (look : Bool) :
    Arrives source n look s := by
  induction left : 2 * n + 2 - (fetches.length + heard) using Nat.strongRecOn
    generalizing fetches heard worker s look with
  | ind left_ ih =>
    -- of the first `n + 1` fetches no more are made, and no more are heard
    have le : fetches.length ≤ heard + 1 := attended.attends.stands.follows.fetches_le
    have busy : ∀ {s' : Stage (Following κ τ) Mark} {look : Bool},
        Attended source script replies poll fetches heard worker s' →
        (s'.notice (plan source)).queue ≠ [] → Arrives source n look s' := by
      intro s' look attended busy
      refine attended.arrives_turn supplies more waits busy fun attended' further waits' => ?_
      have le' := attended'.attends.stands.follows.fetches_le
      exact ih _ (by omega) attended' waits' false rfl
    by_cases empty : (s.notice (plan source)).queue = []
    · exact attended.arrives_clock more waits empty busy
    · exact busy attended empty

end Attended

theorem attends_start (source : Source κ τ) (script : Script) (replies : Nat → Reply τ)
    (now interval : Nat) (key : κ) :
    let tracked := (Tracked.track now interval key ({} : Tracked κ τ)).2
    ∃ poll worker, poll.key = key ∧ tracked.workers = [⟨poll, worker⟩] ∧
      Attends source script replies poll [] 0 worker ⟨tracked, script⟩ := by
  refine ⟨⟨⟨1, 0⟩, 1, key⟩, { ticker := Ticker.start now interval }, rfl, rfl, rfl, ?_⟩
  constructor
  case follows => exact ⟨rfl, Nat.le_refl _, by simp, by simp, ⟨rfl, rfl, rfl, rfl, rfl, rfl⟩⟩
  case observed => rfl
  case generation => rfl
  case stopped => rfl
  case phase => rfl

def opening (key : κ) (script : Script) (now interval : Nat) : Stage (Following κ τ) Mark :=
  { world := ⟨(Tracked.track now interval key {}).2, script⟩, now }

/-- What a tracker does that is turned to `key` and left alone with the service. -/
structure Heeds (source : Source κ τ) (key : κ) (script : Script) (replies : Nat → Reply τ)
    (now interval : Nat) : Prop where
  started : (Tracked.track now interval key ({} : Tracked κ τ)).1 = .ok ()
  steps : ∃ poll worker,
    (Tracked.track now interval key ({} : Tracked κ τ)).2.workers = [⟨poll, worker⟩] ∧
    ∀ m, Worker.Steps (Tracked.refresh source poll)
        (worker, (Tracked.track now interval key ({} : Tracked κ τ)).2, script) m →
      ∃ fetches heard, Follows source key script replies fetches heard m.2.1.tracker m.2.2
  seen : ∀ await, ∃ fetches heard, Follows source key script replies fetches heard
    ((opening key script now interval).run (plan source) await).2.world.tracked.tracker
    ((opening key script now interval).run (plan source) await).2.world.script
  /-- The answer to a fetch comes, if none before it was the last. -/
  arrives : ∀ n, (∀ i < n, isLast (replies i).result = false) → ∃ time, ∀ limit : Deadline,
    time ≤ limit.time → ((opening key script now interval).run (plan source)
      { holds := fun _ w => n < w.tracked.tracker.events.length, limit := some limit }).1 = true

theorem Attended.heeds {now interval : Nat}
    (attended : Attended source script replies poll [] 0 worker
      (opening poll.key script now interval))
    (own : (Tracked.track now interval poll.key ({} : Tracked κ τ)).2.workers = [⟨poll, worker⟩])
    (supplies : source.Supplies poll.key script replies) :
    Heeds source poll.key script replies now interval := by
  constructor
  case started => rfl
  case steps =>
    refine ⟨poll, worker, own, ?_⟩
    intro m steps
    obtain ⟨fetches, heard, stands, _⟩ := attended.attends.stands.steps supplies steps
    exact ⟨fetches, heard, stands.follows⟩
  case seen =>
    intro await
    let keeps (w : Following κ τ) := ∃ fetches heard worker,
      Attends source script replies poll fetches heard worker w
    have kept : keeps ((opening poll.key script now interval).run (plan source) await).2.world := by
      refine (Stage.run_keeps keeps ?_ ?_ await attended.tidy ⟨_, _, _, attended.attends⟩).2
      · rintro w ⟨_, _, _, attends⟩
        exact tasks_nodup attends
      · rintro w now mark ⟨_, _, _, attends⟩
        exact attends.turn supplies now mark
    obtain ⟨fetches, heard, _, attends⟩ := kept
    exact ⟨fetches, heard, attends.stands.follows⟩
  case arrives =>
    intro n more
    obtain ⟨after, ends⟩ := attended.arrives supplies more (Nat.zero_le n) true
    obtain ⟨time, reaches⟩ := ends.run
    refine ⟨time, ?_⟩
    intro limit late
    rw [reaches limit late]

/-- Whatever the replies of a service, and any there are: a tracker has heard of every fetch but the
last, or of all, and shows and has told what it has heard. Behind an answer that is final or an
error it fetches nothing. -/
theorem heeds_replies (key : κ) (script : Script) (replies : Nat → Reply τ) (now interval : Nat) :
    (∃ source : Source κ τ, source.Supplies key script replies) ∧
    ∀ source : Source κ τ, source.Supplies key script replies →
      Heeds source key script replies now interval := by
  refine ⟨Source.exists_supplies key script replies, ?_⟩
  intro source supplies
  obtain ⟨poll, worker, rfl, own, attends⟩ := attends_start source script replies now interval key
  exact Attended.heeds ⟨attends, ⟨List.nodup_nil, List.nodup_nil⟩, by simp [opening]⟩ own supplies

/-- A job that is finished at the second look, which takes its time. -/
theorem heeds_finished_job :
    let started : JobSnapshot := ⟨.started, 0, [], none⟩
    let base : Service.Base :=
      { url := { scheme := "http".toList, host := some (.name "h".toList) } }
    let completed : JobSnapshot := { started with status := .completed }
    let script : Script :=
      { base, jobStatus := [{ result := .ok started }, { delay := 40, result := .ok completed }] }
    let replies := Script.replyAt "job_status" script.jobStatus
    Source.jobs.Supplies Uuid.nil script replies ∧ isLast (replies 1).result = true ∧
    Heeds Source.jobs Uuid.nil script replies 0 1000 ∧
    ∃ time, ∀ limit : Deadline, time ≤ limit.time →
      ((opening Uuid.nil script 0 1000).run (plan Source.jobs)
        { holds := fun _ w => 1 < w.tracked.tracker.events.length, limit := some limit }).1 = true := by
  intro started base completed script replies
  have supplies : Source.jobs.Supplies Uuid.nil script replies :=
    Source.supplies_script (fun _ _ => ⟨rfl, rfl⟩) script
  have heeds := (heeds_replies Uuid.nil script replies 0 1000).2 Source.jobs supplies
  refine ⟨supplies, rfl, heeds, heeds.arrives 1 ?_⟩
  intro i before
  rw [Nat.lt_one_iff.mp before]
  rfl

end Following

end TranscodeConsole.Rehearsal
