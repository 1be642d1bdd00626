import TranscodeConsole.Proofs.Quick.Relay
import TranscodeConsole.Proofs.Rehearsal.Stage

/-!
The poll and the observer of a quick transcode on its stage: whatever one of them does in a turn, it
could have done in steps of its own, between which the others might have had theirs.
-/
namespace TranscodeConsole.Rehearsal.Quick

open Poll QuickTranscode

/-! ### The poll at work -/

def standOf : Poll.Phase (Pending JobSnapshot) → PollStand
  | .ticking => .ticking
  | .refreshing _ => .fetching
  | .over => .gone

theorem told_all (poll : TrackedPoll Uuid) (effects : List (Tracking.Effect Uuid JobSnapshot)) :
    ∀ r : Relay, r.poll = some ⟨poll, .telling effects⟩ →
      r.run (List.replicate (effects.length + 1) .tell) = { r with
        tracker := effects.foldl (Tracker.runAnswer poll.control) r.tracker
        poll := some ⟨poll, .ticking⟩ } := by
  induction effects with
  | nil =>
    intro r here
    simp [Relay.step, Relay.tell, here]
  | cons effect effects ih =>
    intro r here
    have told : r.tell = { r with
        tracker := r.tracker.runAnswer poll.control effect
        poll := some ⟨poll, .telling effects⟩ } := by
      simp [Relay.tell, here]
    have later := ih r.tell (by rw [told])
    rw [List.length_cons, List.replicate_succ, Relay.run_cons, Relay.step, later, told]
    rfl

def PollComes (r : Relay) (poll : TrackedPoll Uuid) (tracker : Tracker Uuid JobSnapshot)
    (stand : PollStand) : Prop :=
  ∃ moves, r.run moves = { r with tracker, poll := some ⟨poll, stand⟩ }

theorem PollComes.same {r : Relay} {poll : TrackedPoll Uuid} {tracker : Tracker Uuid JobSnapshot}
    {stand : PollStand} (same : r.tracker = tracker) (here : r.poll = some ⟨poll, stand⟩) :
    PollComes r poll tracker stand :=
  ⟨[], by rw [← same, ← here]; rfl⟩

theorem PollComes.trans {r : Relay} {poll : TrackedPoll Uuid}
    {tracker after : Tracker Uuid JobSnapshot} {stand later : PollStand}
    (first : PollComes r poll tracker stand)
    (next : PollComes { r with tracker, poll := some ⟨poll, stand⟩ } poll after later) :
    PollComes r poll after later := by
  obtain ⟨moves, comes⟩ := first
  obtain ⟨further, goes⟩ := next
  refine ⟨moves ++ further, ?_⟩
  rw [Relay.run_append, comes, goes]

theorem polls_answer (poll : TrackedPoll Uuid) (result : Except ServiceError JobSnapshot)
    {r : Relay} (here : r.poll = some ⟨poll, .fetching⟩) :
    PollComes r poll (r.tracker.answer poll result) .ticking := by
  have heard : ∀ state effects,
      Tracking.update r.tracker.state (statusMsg poll result) = (state, effects) →
      r.status result = { r with
        tracker := { r.tracker with state }, poll := some ⟨poll, .telling effects⟩ } := by
    intro state effects updated
    simp [Relay.status, here, updated]
  have answer : r.tracker.answer poll result =
      (Tracking.update r.tracker.state (statusMsg poll result)).2.foldl
        (Tracker.runAnswer poll.control)
        { r.tracker with
          state := (Tracking.update r.tracker.state (statusMsg poll result)).1 } := by
    cases result <;> rfl
  generalize Tracking.update r.tracker.state (statusMsg poll result) = outcome at heard answer
  obtain ⟨state, effects⟩ := outcome
  have told := told_all poll effects (r.status result) (by rw [heard _ _ rfl])
  refine ⟨.status result :: List.replicate (effects.length + 1) .tell, ?_⟩
  rw [Relay.run_cons, Relay.step, told, heard _ _ rfl, answer]

theorem polls_fetch {poll : TrackedPoll Uuid} {r : Relay} (here : r.poll = some ⟨poll, .ticking⟩) :
    PollComes r poll r.tracker .fetching :=
  ⟨[.fetch], by simp [Relay.step, Relay.fetch, here]⟩

theorem polls_leave {poll : TrackedPoll Uuid} {r : Relay} {phase : Poll.Phase (Pending JobSnapshot)}
    (here : r.poll = some ⟨poll, standOf phase⟩)
    (stopped : poll.control.isStopped r.tracker.marks = true) :
    PollComes r poll r.tracker .gone := by
  cases phase with
  | ticking =>
    refine ⟨[.leave], ?_⟩
    simp [Relay.step, Relay.leave, here, standOf, stopped]
  | refreshing work =>
    refine ⟨[.leave], ?_⟩
    simp [Relay.step, Relay.leave, here, standOf, stopped]
  | _ => exact .same rfl here

theorem polls_run (poll : TrackedPoll Uuid) (now : Nat) (worker : Worker (Pending JobSnapshot))
    (s : Tracked Uuid JobSnapshot × Script) {r : Relay} (tracker : r.tracker = s.1.tracker)
    (here : r.poll = some ⟨poll, standOf worker.phase⟩) :
    let ran := worker.run (Tracked.refresh .jobs poll) now s
    ran.2.1.workers = s.1.workers ∧ PollComes r poll ran.2.1.tracker (standOf ran.1.phase) := by
  fun_induction Worker.run (Tracked.refresh .jobs poll) now worker s generalizing r with
  | case1 worker s stopped =>
    have stopped : poll.control.isStopped s.1.tracker.marks = true := stopped
    rw [← tracker] at stopped
    have leaves := polls_leave here stopped
    rw [tracker] at leaves
    exact ⟨rfl, leaves⟩
  | case2 | case7 => exact ⟨rfl, .same tracker here⟩
  | case3 _ _ _ _ _ _ _ resumed => cases resumed
  | case4 worker s _ work phase after resumed ih =>
    cases resumed
    rw [phase] at here
    have answers := polls_answer poll work.result here
    rw [tracker] at answers
    obtain ⟨workers, later⟩ := @ih { r with
      tracker := s.1.tracker.answer poll work.result, poll := some ⟨poll, .ticking⟩ } rfl rfl
    exact ⟨workers, answers.trans later⟩
  | case5 worker s _ phase _ work after begun =>
    rw [phase] at here
    have fetches := polls_fetch here
    simp only [Tracked.refresh] at begun
    split at begun
    · cases begun
    · cases begun
      rw [tracker] at fetches
      exact ⟨rfl, fetches⟩
  | case6 worker s _ phase _ after begun ih =>
    rw [phase] at here
    have fetches := polls_fetch here
    rw [tracker] at fetches
    simp only [Tracked.refresh] at begun
    split at begun
    · cases begun
      have answers := fetches.trans (polls_answer poll
        (Source.jobs.call now poll.key s.2).1.result rfl)
      obtain ⟨workers, later⟩ := @ih { r with
        tracker := s.1.tracker.answer poll (Source.jobs.call now poll.key s.2).1.result
        poll := some ⟨poll, .ticking⟩ } rfl rfl
      exact ⟨workers, answers.trans later⟩
    · cases begun

/-! ### The observer at work -/

def observerStand (o : Observer) : ObserverStand :=
  o.fetching.elim .waiting fun fetch => .fetching fetch.1

structure Sees (r : Relay) (o : Observer) (w : Quick) : Prop where
  state : r.state = w.state
  tracker : r.tracker = w.tracked.tracker
  observer : r.observer = some ⟨o.stopper, observerStand o, o.queue⟩

def ObserverComes (r : Relay) (o : Observer) (w : Quick) : Prop :=
  ∃ moves found, r.run moves = { r with
    state := w.state
    tracker := w.tracked.tracker
    observer := some ⟨o.stopper, observerStand o, o.queue⟩
    found }

theorem Sees.comes {r : Relay} {o : Observer} {w : Quick} (sees : Sees r o w) :
    ObserverComes r o w :=
  ⟨[], r.found, by rw [← sees.state, ← sees.tracker, ← sees.observer]; rfl⟩

theorem ObserverComes.trans {r : Relay} {o after : Observer} {w later : Quick}
    (first : ObserverComes r o w) (next : ∀ q : Relay, Sees q o w → ObserverComes q after later) :
    ObserverComes r after later := by
  obtain ⟨moves, found, comes⟩ := first
  have sees : Sees (r.run moves) o w := by
    rw [comes]
    exact ⟨rfl, rfl, rfl⟩
  obtain ⟨further, found', goes⟩ := next _ sees
  refine ⟨moves ++ further, found', ?_⟩
  rw [Relay.run_append, goes, comes]

theorem analysed_comes {r : Relay} {o : Observer} {w : Quick} (sees : Sees r o w) {result : Uuid}
    {pending : Pending (Option FileFormat)} (fetching : o.fetching = some (result, pending))
    (answer : Except ServiceError (Option FileFormat)) :
    ObserverComes r (analysed result answer o w).1 (analysed result answer o w).2 := by
  have observer := sees.observer
  rw [observerStand, fetching] at observer
  refine ⟨[.analysis answer], (r.analysis answer).found, ?_⟩
  simp only [Relay.run_cons, Relay.run_nil, Relay.step, Relay.analysis, observer,
    Option.elim_some, analysed, step, sees.state, sees.tracker]
  rfl

theorem observeStep_comes (now : Nat) {r : Relay} {o : Observer} {w : Quick} (sees : Sees r o w)
    (idle : o.fetching = none) :
    ObserverComes r (observeStep now o w).2.1 (observeStep now o w).2.2 ∧
      ((observeStep now o w).1 = true → (observeStep now o w).2.1.fetching = none) := by
  have observer := sees.observer
  rw [observerStand, idle] at observer
  cases duties : o.queue with
  | nil =>
    rw [duties] at observer
    cases events : w.tracked.tracker.events with
    | nil =>
      simp only [observeStep, duties, events]
      exact ⟨sees.comes, by simp⟩
    | cons event later =>
      simp only [observeStep, duties, events]
      refine ⟨⟨[.take, .hear], r.found, ?_⟩, fun _ => idle⟩
      have ready : r.tracker.events = event :: later := by rw [sees.tracker, events]
      simp [Relay.step, Relay.take, Relay.hear, observer, ready, step, observerStand,
        idle, sees.state, ← sees.tracker]
  | cons effect queue =>
    rw [duties] at observer
    cases effect with
    | fetchAnalysis result =>
      simp only [observeStep, duties]
      generalize w.script.callAnalysis now result = called
      obtain ⟨pending, script⟩ := called
      let waiting : Observer := { o with queue, fetching := some (result, pending) }
      have asks : ObserverComes r waiting { w with script } := by
        refine ⟨[.attend], r.found, ?_⟩
        simp [Relay.step, Relay.attend, observer, observerStand, waiting, ← sees.state,
          ← sees.tracker]
      simp only
      split
      · exact ⟨asks.trans fun q sees => analysed_comes sees rfl pending.result, fun _ => rfl⟩
      · exact ⟨asks, by simp⟩
    | stopTracking =>
      simp only [observeStep, duties]
      refine ⟨⟨[.attend], r.found, ?_⟩, fun _ => idle⟩
      simp [Relay.step, Relay.attend, observer, observerStand, idle, stopTracked,
        sees.state, ← sees.tracker]
    | createJob | startTracking | upload =>
      simp only [observeStep, duties]
      refine ⟨⟨[.attend], r.found, ?_⟩, fun _ => idle⟩
      simp [Relay.step, Relay.attend, observer, observerStand, idle, sees.state,
        ← sees.tracker]

theorem observe_comes (now : Nat) (o : Observer) (w : Quick) {r : Relay} (sees : Sees r o w)
    (idle : o.fetching = none) :
    ObserverComes r (observe now o w).1 (observe now o w).2 := by
  fun_induction observe now o w generalizing r with
  | case1 o w next after stepped ih =>
    obtain ⟨comes, goesOn⟩ := observeStep_comes now sees idle
    rw [stepped] at comes goesOn
    exact comes.trans fun q sees => ih sees (goesOn rfl)
  | case2 o w next after stepped =>
    have comes := (observeStep_comes now sees idle).1
    rw [stepped] at comes
    exact comes

theorem observerTurn_comes (now : Nat) {r : Relay} {o : Observer} {w : Quick} (sees : Sees r o w) :
    ObserverComes r (observerTurn now o w).1 (observerTurn now o w).2 := by
  unfold observerTurn
  cases fetching : o.fetching with
  | none => exact observe_comes now o w sees fetching
  | some fetch =>
    obtain ⟨result, pending⟩ := fetch
    exact (analysed_comes sees fetching pending.result).trans fun q sees =>
      observe_comes now _ _ sees rfl

theorem workers_observeStep (now : Nat) (o : Observer) (w : Quick) :
    (observeStep now o w).2.2.tracked.workers = w.tracked.workers := by
  unfold observeStep
  split
  · simp only
    split <;> rfl
  · rfl
  · rfl
  · split <;> rfl

theorem workers_observe (now : Nat) (o : Observer) (w : Quick) :
    (observe now o w).2.tracked.workers = w.tracked.workers := by
  fun_induction observe now o w with
  | case1 o w next after stepped ih =>
    have same := workers_observeStep now o w
    rw [stepped] at same
    exact ih.trans same
  | case2 o w next after stepped =>
    have same := workers_observeStep now o w
    rw [stepped] at same
    exact same

theorem workers_observerTurn (now : Nat) (o : Observer) (w : Quick) :
    (observerTurn now o w).2.tracked.workers = w.tracked.workers := by
  unfold observerTurn
  split
  · exact workers_observe now _ _
  · exact workers_observe now o w

/-! ### The stage -/

inductive Follows : Option JobPoll → List (TrackedWorker Uuid JobSnapshot) → Prop where
  | idle : Follows none []
  | gone {poll : TrackedPoll Uuid} : Follows (some ⟨poll, .gone⟩) []
  | works (w : TrackedWorker Uuid JobSnapshot) :
      Follows (some ⟨w.poll, standOf w.worker.phase⟩) [w]

/-- The tasks behind the command stand as they do on the stage. -/
structure Relays (r : Relay) (w : Quick) : Prop where
  state : r.state = w.state
  tracker : r.tracker = w.tracked.tracker
  poll : Follows r.poll w.tracked.workers
  observer : r.observer = w.observer.map fun o => ⟨o.stopper, observerStand o, o.queue⟩

def Comes (r : Relay) (w : Quick) : Prop :=
  ∃ moves, Relays (r.run moves) w ∧ (r.run moves).front = r.front ∧
    (r.run moves).shown = r.shown ∧ (r.run moves).printed = r.printed

theorem Relays.comes {r : Relay} {w : Quick} (relays : Relays r w) : Comes r w :=
  ⟨[], relays, rfl, rfl, rfl⟩

theorem Comes.trans {r : Relay} {w after : Quick} (comes : Comes r w)
    (later : ∀ q : Relay, Relays q w → Comes q after) : Comes r after := by
  obtain ⟨moves, relays, front, shown, printed⟩ := comes
  obtain ⟨further, relays', front', shown', printed'⟩ := later _ relays
  refine ⟨moves ++ further, ?_⟩
  rw [Relay.run_append]
  exact ⟨relays', front'.trans front, shown'.trans shown, printed'.trans printed⟩

theorem turn_comes {r : Relay} {w : Quick} (relays : Relays r w) (now : Nat) (task : QuickTask) :
    Comes r (w.turn now task) := by
  cases task with
  | poll replaced mark =>
    have poll := relays.poll
    simp only [turn, Tracked.turn, Tracked.find?]
    generalize follows : r.poll = p at poll
    generalize workers : w.tracked.workers = all at poll
    cases poll with
    | idle => exact relays.comes
    | gone => exact relays.comes
    | works v =>
      by_cases own : v.poll.control.mark = mark
      · obtain ⟨same, moves, comes⟩ :=
          polls_run v.poll now v.worker (w.tracked, w.script) relays.tracker follows
        simp only [List.find?_singleton, own, decide_true, ite_true]
        generalize v.worker.run (Tracked.refresh .jobs v.poll) now (w.tracked, w.script) =
          ran at same comes
        obtain ⟨worker, tracked, script⟩ := ran
        simp only at same comes ⊢
        have others : tracked.workers.filter (·.poll.control.mark ≠ mark) = [] := by
          rw [same, workers]
          simp [own]
        refine ⟨moves, ?_⟩
        rw [comes, others]
        cases phase : worker.phase with
        | ticking =>
          have follows := Follows.works { v with worker }
          simp only [phase] at follows
          exact ⟨⟨relays.state, rfl, follows, relays.observer⟩, rfl, rfl, rfl⟩
        | refreshing work =>
          have follows := Follows.works { v with worker }
          simp only [phase] at follows
          exact ⟨⟨relays.state, rfl, follows, relays.observer⟩, rfl, rfl, rfl⟩
        | _ => exact ⟨⟨relays.state, rfl, .gone, relays.observer⟩, rfl, rfl, rfl⟩
      · simp only [List.find?_singleton, own, decide_false, Bool.false_eq_true, ite_false]
        exact relays.comes
  | observer replaced =>
    simp only [turn]
    cases here : w.observer with
    | none => exact relays.comes
    | some o =>
      have sees : Sees r o w := ⟨relays.state, relays.tracker, by rw [relays.observer, here]; rfl⟩
      obtain ⟨moves, found, comes⟩ := observerTurn_comes now sees
      refine ⟨moves, ?_⟩
      rw [comes]
      refine ⟨⟨rfl, rfl, ?_, rfl⟩, rfl, rfl, rfl⟩
      show Follows r.poll (observerTurn now o w).2.tracked.workers
      rw [workers_observerTurn]
      exact relays.poll

theorem tasks_nodup {r : Relay} {w : Quick} (relays : Relays r w) : w.tasks.Nodup := by
  have poll := relays.poll
  unfold tasks Tracked.tasks
  generalize w.tracked.workers = workers at poll
  generalize r.poll = p at poll
  cases poll <;> cases w.observer <;> simp

theorem run_comes {r : Relay} {s : QuickStage} (relays : Relays r s.world) (tidy : s.Tidy)
    (await : Stage.Await Quick) :
    (s.run plan await).2.Tidy ∧ Comes r (s.run plan await).2.world := by
  refine Stage.run_keeps (Comes r) ?_ ?_ await tidy relays.comes
  · rintro w ⟨moves, relays, _⟩
    exact tasks_nodup relays
  · intro w now task comes
    exact comes.trans fun q relays => turn_comes relays now task

end TranscodeConsole.Rehearsal.Quick
