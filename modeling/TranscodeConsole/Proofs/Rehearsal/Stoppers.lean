import TranscodeConsole.Proofs.Rehearsal.Followed
import TranscodeConsole.Proofs.Tracking.Stopped

/-!
A tracker and the stoppers that are taken of it, whoever uses them and when. By a stopper that knows
the running poll, or when none runs, the tracker really stops: it is silent until a key is tracked,
and then that key is polled. By any other stopper only the machine stops. The poll goes on unheard,
and no key can be tracked while it does.
-/
namespace TranscodeConsole.Rehearsal

open Poll Tracking

/-- A tracker with its service, and the stoppers that were taken of it. -/
structure Shared (κ τ : Type) where
  tracked : Tracked κ τ := {}
  script : Script
  stoppers : List Stopper := []

namespace Shared

inductive Act (κ : Type) where
  | track (now interval : Nat) (key : κ)
  | stop
  | takeStopper
  | stopBy (stopper : Nat)
  /-- A poll goes on: it begins a refresh, or completes one, or makes several at once. -/
  | turn (now : Nat) (mark : Mark)

variable {κ τ : Type}

def Act.tracks : Act κ → Bool
  | .track .. => true
  | .stop | .takeStopper | .stopBy _ | .turn .. => false

def Act.isIdle : Act κ → Bool
  | .takeStopper | .turn .. => true
  | .track .. | .stop | .stopBy _ => false

variable [LiveResource τ]

def start (observed : Bool) (script : Script) : Shared κ τ :=
  { tracked := { tracker := { observed } }, script }

def act (source : Source κ τ) (g : Shared κ τ) : Act κ → Shared κ τ
  | .track now interval key => { g with tracked := (g.tracked.track now interval key).2 }
  | .stop => { g with tracked := g.tracked.stop }
  | .takeStopper => { g with stoppers := g.stoppers ++ [g.tracked.tracker.stopper] }
  | .stopBy i => match g.stoppers[i]? with
    | some s => { g with tracked := { g.tracked with tracker := s.stop g.tracked.tracker } }
    | none => g
  | .turn now mark =>
    let (tracked, script) := g.tracked.turn source now mark g.script
    { g with tracked, script }

def run (source : Source κ τ) (g : Shared κ τ) (acts : List (Act κ)) : Shared κ τ :=
  acts.foldl (act source) g

/-- The machine and the poll say the same, and whatever a poll fetches is heard while it was not
called off. -/
structure InTune (source : Source κ τ) (g : Shared κ τ) : Prop where
  agrees : g.tracked.tracker.state.polling = g.tracked.tracker.isPolling
  heard : ∀ w ∈ g.tracked.workers, ∀ m,
    Worker.Steps (Tracked.refresh source w.poll) (w.worker, g.tracked, g.script) m →
    w.poll.control.isStopped m.2.1.tracker.marks = false → m.2.1.tracker.Hears w.poll

structure Resumed (source : Source κ τ) (key : κ) (g : Shared κ τ) : Prop where
  polls : ∃ w ∈ g.tracked.workers, w.poll.key = key ∧
    g.tracked.tracker.control = some w.poll.control ∧ g.tracked.tracker.Hears w.poll
  inTune : ∀ acts, (∀ a ∈ acts, a.isIdle = true) → (g.run source acts).InTune source

/-- A tracker that has really stopped. -/
structure Ceased (source : Source κ τ) (g : Shared κ τ) : Prop where
  /-- Nothing is fetched and nothing is heard until a key is tracked. -/
  silent : ∀ acts, (∀ a ∈ acts, a.tracks = false) → (g.run source acts).script = g.script ∧
    (g.run source acts).tracked.tracker.state.view = g.tracked.tracker.state.view ∧
    (g.run source acts).tracked.tracker.events = g.tracked.tracker.events
  agrees : ∀ acts, (∀ a ∈ acts, a.tracks = false) →
    (g.run source acts).tracked.tracker.state.polling = false ∧
      (g.run source acts).tracked.tracker.isPolling = false
  resumes : ∀ acts, (∀ a ∈ acts, a.tracks = false) → ∀ now interval key,
    ((g.run source acts).tracked.track now interval key).1 = .ok () ∧
      ((g.run source acts).act source (.track now interval key)).Resumed source key

/-- A tracker whose machine has stopped while this poll goes on. -/
structure Drifted (running : Control) (g : Shared κ τ) : Prop where
  machine : g.tracked.tracker.state.polling = false
  poll : g.tracked.tracker.control = some running
  blocks : ∀ now interval key, (g.tracked.track now interval key).1 = .error ⟨running.id⟩

/-! ### The polls that were started, and the stoppers that know them -/

structure Sound (g : Shared κ τ) : Prop where
  cancelled : ∀ mark, g.tracked.tracker.marks.isCancelled mark = true →
    mark < g.tracked.tracker.marks.issued
  held : ∀ own, g.tracked.tracker.owner.held = some own →
    own.mark < g.tracked.tracker.marks.issued
  stoppers : ∀ s ∈ g.stoppers, ∀ own, s.control = some own →
    own.mark < g.tracked.tracker.marks.issued
  workers : ∀ w ∈ g.tracked.workers, w.poll.control.mark < g.tracked.tracker.marks.issued
  only : ∀ w ∈ g.tracked.workers,
    w.poll.control.isStopped g.tracked.tracker.marks = false →
      g.tracked.tracker.owner.held = some w.poll.control

structure Keeps (g after : Shared κ τ) : Prop where
  ages : g.tracked.tracker.Ages after.tracked.tracker
  workers : ∀ w ∈ after.tracked.workers, ∃ before ∈ g.tracked.workers, before.poll = w.poll
  stoppers : ∀ s ∈ after.stoppers, s ∈ g.stoppers ∨ s.control = g.tracked.tracker.control

variable {source : Source κ τ} {g after : Shared κ τ}

omit [LiveResource τ] in
theorem Sound.keeps (sound : g.Sound) (keeps : g.Keeps after) : after.Sound := by
  have issued := keeps.ages.issued
  constructor
  case cancelled =>
    intro mark gone
    rw [issued]
    exact (keeps.ages.known mark gone).elim (sound.cancelled mark) id
  case held =>
    intro own held
    rw [issued]
    exact sound.held own (keeps.ages.owner ▸ held)
  case stoppers =>
    intro s taken own control
    rw [issued]
    rcases keeps.stoppers s taken with before | now
    · exact sound.stoppers s before own control
    · rw [now, Tracker.control, Owner.control, Option.filter_eq_some_iff] at control
      exact sound.held own control.1
  case workers =>
    intro w works
    obtain ⟨before, worked, same⟩ := keeps.workers w works
    rw [issued, ← same]
    exact sound.workers before worked
  case only =>
    intro w works live
    obtain ⟨before, worked, same⟩ := keeps.workers w works
    rw [keeps.ages.owner, ← same]
    exact sound.only before worked (keeps.ages.live (same ▸ live))

omit [LiveResource τ] in
theorem Sound.stopped (sound : g.Sound) (idle : g.tracked.tracker.isPolling = false)
    {w : TrackedWorker κ τ} (works : w ∈ g.tracked.workers) :
    w.poll.control.isStopped g.tracked.tracker.marks = true := by
  cases gone : w.poll.control.isStopped g.tracked.tracker.marks with
  | true => rfl
  | false =>
    have stopped := (Tracker.isPolling_eq_false _).mp idle _ (sound.only w works gone)
    rw [gone] at stopped
    cases stopped

theorem ages_steps {poll : TrackedPoll κ} {m n : Moment κ τ}
    (old : poll.control.mark < m.2.1.tracker.marks.issued)
    (steps : Worker.Steps (Tracked.refresh source poll) m n) :
    m.2.1.tracker.Ages n.2.1.tracker := by
  induction steps with
  | refl => exact .of_same rfl rfl
  | tail _ last ih =>
    obtain ⟨now, last⟩ := last
    have young := ih.issued ▸ old
    cases last with
    | leaves => exact ih
    | begins =>
      simp only [Tracked.refresh]
      split
      · exact ih.trans (Tracker.ages_answer young _)
      · exact ih
    | resumes => exact ih.trans (Tracker.ages_answer young _)

theorem steps_stopped {poll : TrackedPoll κ} {m n : Moment κ τ}
    (stopped : poll.control.isStopped m.2.1.tracker.marks = true)
    (steps : Worker.Steps (Tracked.refresh source poll) m n) : n.2 = m.2 := by
  induction steps with
  | refl => rfl
  | @tail before _ _ last ih =>
    have gone : poll.control.isStopped before.2.1.tracker.marks = true := by rwa [ih]
    obtain ⟨now, last⟩ := last
    cases last with
    | leaves => exact ih
    | begins live | resumes live => exact absurd (live.symm.trans gone) Bool.false_ne_true

theorem polls_steps {poll : TrackedPoll κ} {m n : Moment κ τ}
    (polls : m.2.1.tracker.Polls poll)
    (steps : Worker.Steps (Tracked.refresh source poll) m n) : n.2.1.tracker.Polls poll := by
  induction steps with
  | refl => exact polls
  | tail _ last ih =>
    obtain ⟨now, last⟩ := last
    cases last with
    | leaves => exact ih
    | begins live =>
      simp only [Tracked.refresh]
      split
      · exact ih.answer live _
      · exact ih
    | resumes live => exact ih.answer live _

theorem act_turn (source : Source κ τ) (g : Shared κ τ) (now : Nat) (mark : Mark) :
    g.act source (.turn now mark) = g ∨ ∃ w ∈ g.tracked.workers, ∃ m : Moment κ τ,
      Worker.Steps (Tracked.refresh source w.poll) (w.worker, g.tracked, g.script) m ∧
      (g.act source (.turn now mark)).tracked.tracker = m.2.1.tracker ∧
      (g.act source (.turn now mark)).script = m.2.2 ∧
      (g.act source (.turn now mark)).stoppers = g.stoppers ∧
      ∀ v ∈ (g.act source (.turn now mark)).tracked.workers,
        v ∈ g.tracked.workers ∨ v.poll = w.poll := by
  cases found : g.tracked.find? mark with
  | none => exact .inl (by simp [act, Tracked.turn, found])
  | some w =>
    right
    have steps :=
      Worker.steps_run (Tracked.refresh source w.poll) now w.worker (g.tracked, g.script)
    have kept := workers_steps steps
    refine ⟨w, List.mem_of_find?_eq_some found, _, steps, ?_⟩
    simp only [act, Tracked.turn, found]
    generalize w.worker.run (Tracked.refresh source w.poll) now (g.tracked, g.script) = m at kept ⊢
    obtain ⟨⟨ticker, phase⟩, tracked, script⟩ := m
    have kept : tracked.workers = g.tracked.workers := kept
    have others : ∀ v ∈ tracked.workers.filter (·.poll.control.mark ≠ mark),
        v ∈ g.tracked.workers := fun v works => kept ▸ (List.mem_filter.mp works).1
    cases phase with
    | ticking | refreshing work =>
      refine ⟨rfl, rfl, trivial, fun v works => ?_⟩
      rcases List.mem_append.mp works with other | own
      · exact .inl (others v other)
      · rw [List.mem_singleton.mp own]
        exact .inr rfl
    | _ => exact ⟨rfl, rfl, trivial, fun v works => .inl (others v works)⟩

theorem Sound.turn (sound : g.Sound) (source : Source κ τ) (now : Nat) (mark : Mark) :
    g.Keeps (g.act source (.turn now mark)) := by
  rcases g.act_turn source now mark with same | ⟨w, works, m, steps, tracker, _, stoppers, others⟩
  · rw [same]
    exact ⟨.of_same rfl rfl, fun w works => ⟨w, works, rfl⟩, fun s taken => .inl taken⟩
  · constructor
    case ages =>
      rw [tracker]
      exact ages_steps (sound.workers w works) steps
    case workers =>
      intro v worked
      rcases others v worked with before | own
      · exact ⟨v, before, rfl⟩
      · exact ⟨w, works, own.symm⟩
    case stoppers =>
      rw [stoppers]
      exact fun s taken => .inl taken

theorem Sound.act (sound : g.Sound) (source : Source κ τ) {a : Act κ} (other : a.tracks = false) :
    g.Keeps (g.act source a) := by
  cases a with
  | track now interval key => cases other
  | stop =>
    exact ⟨Tracker.ages_stop sound.held, fun w works => ⟨w, works, rfl⟩, fun s taken => .inl taken⟩
  | takeStopper =>
    refine ⟨.of_same rfl rfl, fun w works => ⟨w, works, rfl⟩, fun s taken => ?_⟩
    rcases List.mem_append.mp taken with before | own
    · exact .inl before
    · rw [List.mem_singleton.mp own]
      exact .inr rfl
  | stopBy i =>
    simp only [Shared.act]
    split
    · rename_i s taken
      exact ⟨Tracker.ages_stopBy (sound.stoppers s (List.mem_of_getElem? taken)),
        fun w works => ⟨w, works, rfl⟩, fun s taken => .inl taken⟩
    · exact ⟨.of_same rfl rfl, fun w works => ⟨w, works, rfl⟩, fun s taken => .inl taken⟩
  | turn now mark => exact sound.turn source now mark

/-! ### Tracking a key -/

omit [LiveResource τ] in
theorem Sound.starts (sound : g.Sound) (idle : g.tracked.tracker.isPolling = false) (key : κ)
    (worker : Worker (Pending τ)) :
    Sound { g with tracked := {
      tracker := g.tracked.tracker.starts key
      workers := g.tracked.workers ++ [⟨g.tracked.tracker.nextPoll key, worker⟩] } } := by
  constructor
  case cancelled => exact fun mark gone => Nat.lt_succ_of_lt (sound.cancelled mark gone)
  case held =>
    intro own held
    cases held
    exact Nat.lt_succ_self _
  case stoppers =>
    exact fun s taken own control => Nat.lt_succ_of_lt (sound.stoppers s taken own control)
  case workers =>
    intro w works
    rcases List.mem_append.mp works with before | own
    · exact Nat.lt_succ_of_lt (sound.workers w before)
    · rw [List.mem_singleton.mp own]
      exact Nat.lt_succ_self _
  case only =>
    intro w works live
    rcases List.mem_append.mp works with before | own
    · have stopped := sound.stopped idle before
      exact absurd (live.symm.trans stopped) Bool.false_ne_true
    · rw [List.mem_singleton.mp own]
      rfl

theorem track_free (free : g.tracked.tracker.state.polling = true ∨
    g.tracked.tracker.isPolling = false) (now interval : Nat) (key : κ) :
    g.tracked.track now interval key = (.ok (), {
      tracker := g.tracked.tracker.cleared.starts key
      workers := g.tracked.workers ++
        [⟨g.tracked.tracker.cleared.nextPoll key, { ticker := Ticker.start now interval }⟩] }) := by
  simp only [Tracked.track, Tracker.track_free free]

theorem track_running {running : Control} (runs : g.tracked.tracker.control = some running)
    (idle : g.tracked.tracker.state.polling = false) (now interval : Nat) (key : κ) :
    g.tracked.track now interval key = (.error ⟨running.id⟩, { g.tracked with
      tracker := { g.tracked.tracker with state := g.tracked.tracker.state.turnedTo key } }) := by
  simp only [Tracked.track, Tracker.track_running runs idle]

theorem Sound.step (sound : g.Sound) (source : Source κ τ) (a : Act κ) :
    (g.act source a).Sound := by
  cases tracks : a.tracks with
  | false => exact sound.keeps (sound.act source tracks)
  | true =>
    cases a with
    | track now interval key =>
      by_cases free : g.tracked.tracker.state.polling = true ∨ g.tracked.tracker.isPolling = false
      · have cleared : Sound { g with tracked := { g.tracked with
            tracker := g.tracked.tracker.cleared } } :=
          sound.keeps ⟨Tracker.ages_cleared sound.held, fun w works => ⟨w, works, rfl⟩,
            fun s taken => .inl taken⟩
        simp only [Shared.act, track_free free]
        exact cleared.starts (Tracker.isPolling_cleared free) key _
      · simp only [not_or, Bool.not_eq_true, Bool.not_eq_false] at free
        obtain ⟨running, runs⟩ := Option.isSome_iff_exists.mp free.2
        simp only [Shared.act, track_running runs free.1]
        exact sound.keeps ⟨.of_same rfl rfl, fun w works => ⟨w, works, rfl⟩,
          fun s taken => .inl taken⟩
    | stop | takeStopper | stopBy i | turn now mark => cases tracks

theorem sound_run (source : Source κ τ) (observed : Bool) (script : Script) (acts : List (Act κ)) :
    (run source (start observed script) acts).Sound := by
  have first : (start observed script : Shared κ τ).Sound := by
    constructor <;> simp [start, Marks.isCancelled]
  unfold run
  generalize start observed script = g at first
  induction acts generalizing g with
  | nil => exact first
  | cons a acts ih => exact ih _ (first.step source a)

/-! ### A tracker that has stopped -/

structure Rests (g : Shared κ τ) : Prop where
  sound : g.Sound
  machine : g.tracked.tracker.state.polling = false
  idle : g.tracked.tracker.isPolling = false

theorem Rests.act (rests : g.Rests) (source : Source κ τ) {a : Act κ} (other : a.tracks = false) :
    (g.act source a).Rests ∧ (g.act source a).script = g.script ∧
      (g.act source a).tracked.tracker.state.view = g.tracked.tracker.state.view ∧
      (g.act source a).tracked.tracker.events = g.tracked.tracker.events := by
  have keeps := rests.sound.act source other
  have sound := rests.sound.keeps keeps
  have idle := keeps.ages.idle rests.idle
  have machine := rests.machine
  cases a with
  | track now interval key => cases other
  | stop =>
    refine ⟨⟨sound, rfl, idle⟩, rfl, ?_, rfl⟩
    simp [Shared.act, Tracked.stop, Tracker.stop, update, State.view, machine, Tracker.stopPoll]
  | takeStopper => exact ⟨⟨sound, machine, idle⟩, rfl, rfl, rfl⟩
  | stopBy i =>
    simp only [Shared.act] at sound idle ⊢
    split at sound <;> rename_i taken
    · simp only [taken] at idle
      refine ⟨⟨sound, by simp [Tracker.stopBy_eq, update], idle⟩, rfl, ?_, ?_⟩ <;>
        simp [Tracker.stopBy_eq, update, State.view, machine]
    · exact ⟨rests, rfl, rfl, rfl⟩
  | turn now mark =>
    rcases g.act_turn source now mark with same | ⟨w, works, m, steps, tracker, script, _, _⟩
    · rw [same]
      exact ⟨rests, rfl, rfl, rfl⟩
    · have still := steps_stopped (rests.sound.stopped rests.idle works) steps
      rw [still] at tracker script
      rw [tracker, script]
      exact ⟨⟨sound, by rw [tracker]; exact machine, idle⟩, rfl, rfl, rfl⟩

theorem Rests.run (rests : g.Rests) (source : Source κ τ) (acts : List (Act κ))
    (others : ∀ a ∈ acts, a.tracks = false) :
    (g.run source acts).Rests ∧ (g.run source acts).script = g.script ∧
      (g.run source acts).tracked.tracker.state.view = g.tracked.tracker.state.view ∧
      (g.run source acts).tracked.tracker.events = g.tracked.tracker.events := by
  induction acts generalizing g with
  | nil => exact ⟨rests, rfl, rfl, rfl⟩
  | cons a acts ih =>
    obtain ⟨first, script, view, events⟩ := rests.act source (others a (.head _))
    obtain ⟨last, script', view', events'⟩ := ih first fun b later => others b (.tail _ later)
    exact ⟨last, script'.trans script, view'.trans view, events'.trans events⟩

/-! ### A tracker that polls -/

structure Tuned (g : Shared κ τ) : Prop where
  sound : g.Sound
  agrees : g.tracked.tracker.state.polling = g.tracked.tracker.isPolling
  present : ∀ w ∈ g.tracked.workers,
    w.poll.control.isStopped g.tracked.tracker.marks = false →
      g.tracked.tracker.state.generation = w.poll.generation

omit [LiveResource τ] in
theorem Tuned.polls (tuned : g.Tuned) {w : TrackedWorker κ τ} (works : w ∈ g.tracked.workers)
    (live : w.poll.control.isStopped g.tracked.tracker.marks = false) :
    g.tracked.tracker.Polls w.poll := by
  have held := tuned.sound.only w works live
  refine ⟨held, tuned.present w works live, ?_⟩
  rw [tuned.agrees, Tracker.isPolling_of_held held, Bool.not_not]

theorem Tuned.act (tuned : g.Tuned) {a : Act κ} (idle : a.isIdle = true) :
    (g.act source a).Tuned := by
  cases a with
  | track | stop | stopBy => cases idle
  | takeStopper =>
    exact ⟨tuned.sound.keeps (tuned.sound.act source rfl), tuned.agrees, tuned.present⟩
  | turn now mark =>
    have keeps := tuned.sound.turn source now mark
    have sound := tuned.sound.keeps keeps
    rcases g.act_turn source now mark with same | ⟨w, works, m, steps, tracker, _, _, others⟩
    · rw [same]
      exact tuned
    · have kept : m.2.1.tracker.state.polling = m.2.1.tracker.isPolling ∧
          m.2.1.tracker.state.generation = g.tracked.tracker.state.generation := by
        cases gone : w.poll.control.isStopped g.tracked.tracker.marks with
        | true =>
          rw [steps_stopped gone steps]
          exact ⟨tuned.agrees, rfl⟩
        | false =>
          have before := tuned.polls works gone
          have polls := polls_steps before steps
          exact ⟨polls.agrees, polls.generation.trans before.generation.symm⟩
      rw [← tracker] at kept
      refine ⟨sound, kept.1, ?_⟩
      intro v worked live
      obtain ⟨before, there, same⟩ := keeps.workers v worked
      rw [kept.2, ← same]
      exact tuned.present before there (keeps.ages.live (same ▸ live))

theorem Tuned.inTune (tuned : g.Tuned) : g.InTune source := by
  refine ⟨tuned.agrees, ?_⟩
  intro w works m steps live
  have lived := (ages_steps (tuned.sound.workers w works) steps).live live
  exact Tracker.hears_of_accepts ((polls_steps (tuned.polls works lived) steps).accepts live)

theorem Tuned.run (tuned : g.Tuned) (acts : List (Act κ)) (idle : ∀ a ∈ acts, a.isIdle = true) :
    (g.run source acts).Tuned := by
  induction acts generalizing g with
  | nil => exact tuned
  | cons a acts ih =>
    exact ih (tuned.act (idle a (.head _))) fun b later => idle b (.tail _ later)

theorem Rests.tracks (rests : g.Rests) (now interval : Nat) (key : κ) :
    (g.tracked.track now interval key).1 = .ok () ∧
      (g.act source (.track now interval key)).Resumed source key := by
  have started := track_free (.inr rests.idle) now interval key
  refine ⟨by rw [started], ?_⟩
  have cleared : g.tracked.tracker.cleared = g.tracked.tracker := by
    simp [Tracker.cleared, rests.machine]
  have sound := rests.sound.starts rests.idle key { ticker := Ticker.start now interval }
  simp only [Shared.act, started, cleared]
  have live : (g.tracked.tracker.nextPoll key).control.isStopped
      (g.tracked.tracker.starts key).marks = false := by
    cases gone : (g.tracked.tracker.nextPoll key).control.isStopped
        (g.tracked.tracker.starts key).marks with
    | false => rfl
    | true => exact absurd (rests.sound.cancelled _ gone) (Nat.lt_irrefl _)
  have polls : (g.tracked.tracker.starts key).Polls (g.tracked.tracker.nextPoll key) :=
    ⟨rfl, rfl, live⟩
  refine ⟨⟨_, List.mem_append_right _ (.head _), rfl, polls.control live,
    Tracker.hears_of_accepts (polls.accepts live)⟩, ?_⟩
  refine fun acts idle => Tuned.inTune (Tuned.run ⟨sound, polls.agrees, ?_⟩ acts idle)
  intro w works lives
  rcases List.mem_append.mp works with before | own
  · have stopped := rests.sound.stopped rests.idle before
    exact absurd (lives.symm.trans stopped) Bool.false_ne_true
  · rw [List.mem_singleton.mp own]
    rfl

theorem Rests.ceased (rests : g.Rests) : g.Ceased source := by
  constructor
  case silent => exact fun acts others => (rests.run source acts others).2
  case agrees =>
    intro acts others
    have later := (rests.run source acts others).1
    exact ⟨later.machine, later.idle⟩
  case resumes =>
    intro acts others now interval key
    exact (rests.run source acts others).1.tracks now interval key

theorem Sound.knows (sound : g.Sound) (source : Source κ τ) (acts : List (Act κ))
    (others : ∀ a ∈ acts, a.tracks = false) {running : Control}
    (runs : (g.run source acts).tracked.tracker.control = some running) :
    g.tracked.tracker.stopper.Knows running := by
  refine ⟨running, ?_, rfl⟩
  induction acts generalizing g with
  | nil => exact runs
  | cons a acts ih =>
    have other := others a (.head _)
    exact (sound.act source other).ages.control
      (ih (sound.step source a) (fun b later => others b (.tail _ later)) runs)

/-- Whatever was done with a tracker before: by a stopper that knows the running poll, if one runs,
it really stops. By any other the poll goes on, and is in the way of the next. -/
theorem stopBy_ceases (source : Source κ τ) (observed : Bool) (script : Script)
    (acts : List (Act κ)) {i : Nat} {s : Stopper}
    (taken : (run source (start observed script) acts).stoppers[i]? = some s) :
    let g := run source (start observed script) acts
    ((∀ running, g.tracked.tracker.control = some running → s.Knows running) →
      (g.act source (.stopBy i)).Ceased source) ∧
    ∀ running, g.tracked.tracker.control = some running → ¬ s.Knows running →
      (g.act source (.stopBy i)).Drifted running := by
  intro g
  have sound : g.Sound := sound_run source observed script acts
  have stops : g.act source (.stopBy i) =
      { g with tracked := { g.tracked with tracker := s.stop g.tracked.tracker } } := by
    have taken : g.stoppers[i]? = some s := taken
    simp only [Shared.act, taken]
  have machine : (s.stop g.tracked.tracker).state.polling = false := by
    rw [Tracker.stopBy_eq]
    rfl
  constructor
  · intro knows
    have after := sound.step source (.stopBy i)
    rw [stops] at after ⊢
    exact Rests.ceased ⟨after, machine, Tracker.isPolling_stopBy knows⟩
  · intro running runs unknown
    rw [stops]
    have goesOn := Tracker.control_stopBy runs unknown
    refine ⟨machine, goesOn, fun now interval key => ?_⟩
    rw [track_running goesOn machine]

theorem stopper_of_present_poll_ceases :
    let base : Service.Base :=
      { url := { scheme := "http".toList, host := some (.name "h".toList) } }
    let g : Shared Unit QueueStats :=
      run Source.queues (start true { base }) [.track 0 1000 (), .takeStopper]
    g.stoppers[0]? = some ⟨some ⟨1, 0⟩⟩ ∧ g.tracked.tracker.control = some ⟨1, 0⟩ ∧
      (g.act Source.queues (.stopBy 0)).Ceased Source.queues := by
  intro base g
  refine ⟨rfl, rfl, (stopBy_ceases Source.queues true { base } _ rfl).1 ?_⟩
  intro running runs
  exact Sound.knows (sound_run Source.queues true { base } [.track 0 1000 ()]) Source.queues
    [.takeStopper] (by simp [Act.tracks]) runs

/-- A stopper of the poll before the present one. -/
theorem stopper_of_earlier_poll_drifts :
    let base : Service.Base :=
      { url := { scheme := "http".toList, host := some (.name "h".toList) } }
    let g : Shared Unit QueueStats := run Source.queues (start true { base })
      [.track 0 1000 (), .takeStopper, .track 0 1000 (), .stopBy 0]
    g.tracked.tracker.state.polling = false ∧ g.tracked.tracker.isPolling = true ∧
      (g.tracked.track 0 1000 ()).1 = .error ⟨2⟩ ∧ ¬ g.Ceased Source.queues := by
  intro base g
  refine ⟨rfl, rfl, rfl, fun ceased => ?_⟩
  have stopped : g.tracked.tracker.isPolling = false := (ceased.agrees [] (by simp)).2
  cases stopped

end Shared
end TranscodeConsole.Rehearsal
