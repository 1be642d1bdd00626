import TranscodeConsole.Proofs.Poll.Workshop
import TranscodeConsole.Rehearsal.Polls

/-!
The rehearsed polls of one owner are a workshop, turn by turn. A refresh there stops its own poll or
does not, and then it takes its time or is complete at once.
-/
namespace TranscodeConsole.Rehearsal

open Poll

namespace Polls

def routine (costs : Costs) (c : Control) (number : Nat) : Routine Costs where
  rest := (if costs.stopOn = some number then [.stopBy c] else []) ::
    if costs.time number = 0 then [] else [[]]

def phaseOf : Phase Nap → Phase (List (List (Deed Costs)))
  | .ticking => .ticking
  | .refreshing _ => .refreshing [[]]
  | .over => .over

def workerOf (t : Worker Nap) : Worker (List (List (Deed Costs))) := ⟨t.ticker, phaseOf t.phase⟩

def employed (p : RunningPoll) : Employed Costs := ⟨p.control, p.costs, p.count, workerOf p.worker⟩

structure Mirrors (v : Polls) (w : Workshop Costs) : Prop where
  marks : w.marks = v.marks
  polls : w.polls = v.running.map employed

/-- The polls that come about by the use of one owner, with the poll that is awaited. -/
inductive Played : Polls → Option Control → Prop where
  | new : Played {} none
  | start {v : Polls} (played : Played v none) (now interval : Nat) (costs : Costs) :
      Played (v.start now interval costs).2 none
  | stop {v : Polls} (played : Played v none) : Played v.stop none
  | stopBy {v : Polls} {awaited : Option Control} (played : Played v awaited) {p : RunningPoll}
      (runs : p ∈ v.running) : Played { v with marks := p.control.stop v.marks } awaited
  | turn {v : Polls} {awaited : Option Control} (played : Played v awaited) (now : Nat)
      (mark : Mark) : Played (v.turn now mark) awaited
  | await {v : Polls} (played : Played v none) :
      Played { v with owner := v.owner.release.2 } v.owner.release.1
  | leave {v : Polls} {c : Control} (played : Played v (some c)) :
      Played { v with marks := c.stop v.marks } none

variable {v : Polls} {w : Workshop Costs}

structure Follows (c : Control) (u v : Polls) (before after : Workshop Costs) : Prop where
  mirrors : v.Mirrors after
  owner : v.owner = u.owner
  holding : after.holding = before.holding
  started : .starts c ∈ after.log

theorem begins {p : RunningPoll} {now : Nat} {s s' : Nat × Polls} {left : Option Nap}
    (begun : (refresh p).begin now s = (left, s')) (mirrors : s.2.Mirrors w)
    (live : p.control.isStopped s.2.marks = false) (started : .starts p.control ∈ w.log) :
    ∃ after, (Workshop.refresh routine (employed p)).begin now (s.1, w) =
        (left.map fun _ => [[]], s'.1, after) ∧ Follows p.control s.2 s'.2 w after := by
  obtain ⟨marks, polls⟩ := mirrors
  cases begun
  by_cases stops : p.costs.stopOn = some (s.1 + 1) <;> by_cases quick : p.costs.time (s.1 + 1) = 0
  all_goals
    refine ⟨((Workshop.refresh routine (employed p)).begin now (s.1, w)).2.2,
        Prod.ext ?_ (Prod.ext ?_ rfl), ⟨?_, ?_⟩, ?_, ?_, ?_⟩ <;>
      simp [Workshop.refresh, routine, employed, Workshop.performAll, Workshop.perform,
        Workshop.note, Workshop.goOn, Workshop.cancel, note, stops, quick, live, marks, polls,
        started]

theorem resumes {p : RunningPoll} {now : Nat} {nap : Nap} {s s' : Nat × Polls} {left : Option Nap}
    (resumed : (refresh p).resume now nap s = (left, s')) (mirrors : s.2.Mirrors w)
    (started : .starts p.control ∈ w.log) :
    ∃ after, (Workshop.refresh routine (employed p)).resume now [[]] (s.1, w) =
        (left.map fun _ => [[]], s'.1, after) ∧ Follows p.control s.2 s'.2 w after := by
  obtain ⟨marks, polls⟩ := mirrors
  cases resumed
  refine ⟨((Workshop.refresh routine (employed p)).resume now [[]] (s.1, w)).2.2,
      Prod.ext ?_ (Prod.ext ?_ rfl), ⟨?_, ?_⟩, ?_, ?_, ?_⟩ <;>
    simp [Workshop.refresh, employed, Workshop.performAll, Workshop.note, Workshop.goOn, note,
      marks, polls, started]

structure Accords (p : RunningPoll) (v : Polls) (w : Workshop Costs)
    (ran : Worker Nap × Nat × Polls)
    (ran' : Worker (List (List (Deed Costs))) × Nat × Workshop Costs) : Prop where
  worker : ran'.1 = workerOf ran.1
  count : ran'.2.1 = ran.2.1
  follows : Follows p.control v ran.2.2 w ran'.2.2

theorem Follows.trans {c : Control} {t u v : Polls} {before middle after : Workshop Costs}
    (first : Follows c t u before middle) (later : Follows c u v middle after) :
    Follows c t v before after :=
  ⟨later.mirrors, later.owner.trans first.owner, later.holding.trans first.holding, later.started⟩

theorem accords_run (p : RunningPoll) (now : Nat) (t : Worker Nap) (s : Nat × Polls)
    (mirrors : s.2.Mirrors w) (started : .starts p.control ∈ w.log) :
    Accords p s.2 w (t.run (refresh p) now s)
      ((workerOf t).run (Workshop.refresh routine (employed p)) now (s.1, w)) := by
  have same : ∀ {s : Nat × Polls} {w : Workshop Costs}, s.2.Mirrors w →
      (Workshop.refresh routine (employed p)).cancelled (s.1, w) = (refresh p).cancelled s := by
    intro s w mirrors
    simp [Workshop.refresh, refresh, employed, mirrors.marks]
  have stays : ∀ {t : Worker Nap} {s : Nat × Polls} {w : Workshop Costs}, s.2.Mirrors w →
      .starts p.control ∈ w.log → Accords p s.2 w (t, s) (workerOf t, s.1, w) :=
    fun mirrors started => ⟨rfl, rfl, mirrors, rfl, rfl, started⟩
  have phases : ∀ {t : Worker Nap} {phase : Phase Nap}, t.phase = phase →
      (workerOf t).phase = phaseOf phase := fun phase => congrArg phaseOf phase
  fun_induction t.run (refresh p) now s generalizing w with
  | case1 t s cancelled =>
    rw [Worker.run, same mirrors, if_pos cancelled]
    exact stays (t := { t with phase := .over }) mirrors started
  | case2 t s live phase =>
    rw [Worker.run_over (phases phase)]
    exact stays mirrors started
  | case3 t s live work phase left s' resumed => cases resumed
  | case4 t s live work phase s' resumed ih =>
    obtain ⟨after, made, follows⟩ := resumes resumed mirrors started
    rw [Worker.run_resumes (by simpa [same mirrors] using live) (phases phase), made]
    have later := ih follows.mirrors follows.started
    exact ⟨later.worker, later.count, follows.trans later.follows⟩
  | case5 t s live phase due work s' begun =>
    obtain ⟨after, made, follows⟩ :=
      begins begun mirrors (by simpa [refresh] using live) started
    rw [Worker.run_begins (by simpa [same mirrors] using live) (phases phase) due, made]
    exact ⟨rfl, rfl, follows⟩
  | case6 t s live phase due s' begun ih =>
    obtain ⟨after, made, follows⟩ :=
      begins begun mirrors (by simpa [refresh] using live) started
    rw [Worker.run_begins (by simpa [same mirrors] using live) (phases phase) due, made]
    have later := ih follows.mirrors follows.started
    exact ⟨later.worker, later.count, follows.trans later.follows⟩
  | case7 t s live phase early =>
    rw [Worker.run_early (by simpa [same mirrors] using live) (phases phase)
      (by simpa [workerOf] using early)]
    exact stays mirrors started

theorem find_employed (mirrors : v.Mirrors w) (mark : Mark) :
    w.find? mark = (v.find? mark).map employed := by
  rw [Workshop.find?, mirrors.polls, List.find?_map]
  rfl

theorem others_employed (mirrors : v.Mirrors w) (mark : Mark) :
    w.polls.filter (·.control.mark ≠ mark) =
      (v.running.filter (·.control.mark ≠ mark)).map employed := by
  rw [mirrors.polls, List.filter_map]
  rfl

theorem Mirrors.turn (mirrors : v.Mirrors w) (sound : w.Sound none) (now : Nat) (mark : Mark) :
    (v.turn now mark).Mirrors (w.turn routine now mark) ∧
      (w.turn routine now mark).holding = w.holding ∧ (v.turn now mark).owner = v.owner := by
  unfold Polls.turn Workshop.turn
  rw [find_employed mirrors mark]
  cases found : v.find? mark with
  | none => exact ⟨mirrors, rfl, rfl⟩
  | some p =>
    have here : employed p ∈ w.polls := by
      rw [mirrors.polls]
      exact List.mem_map_of_mem (List.mem_of_find?_eq_some found)
    have accords := accords_run p now p.worker (p.count, v) mirrors (sound.started _ here)
    simp only [Option.map_some]
    generalize p.worker.run (refresh p) now (p.count, v) = ran at accords ⊢
    change Accords p v w ran ((employed p).worker.run (Workshop.refresh routine (employed p)) now
      ((employed p).count, w)) at accords
    generalize (employed p).worker.run (Workshop.refresh routine (employed p)) now
      ((employed p).count, w) = ran' at accords ⊢
    obtain ⟨worker, count, after⟩ := ran
    obtain ⟨_, _, after'⟩ := ran'
    obtain ⟨same, same', follows⟩ := accords
    cases same
    cases same'
    have others := others_employed follows.mirrors mark
    have back : after'.polls.filter (·.control.mark ≠ mark) ++
        [employed { p with worker, count }] =
          (after.running.filter (fun q : RunningPoll => q.control.mark ≠ mark) ++
            [{ p with worker, count }]).map employed := by
      rw [List.map_append, ← others, List.map_singleton]
    obtain ⟨ticker, phase⟩ := worker
    cases phase with
    | ticking | refreshing => exact ⟨⟨follows.mirrors.marks, back⟩, follows.holding, follows.owner⟩
    | _ => exact ⟨⟨follows.mirrors.marks, others⟩, follows.holding, follows.owner⟩

structure Stands (v : Polls) (awaited : Option Control) (w : Workshop Costs) : Prop where
  mirrors : v.Mirrors w
  holding : w.holding = awaited.elim (.free v.owner) (.awaiting v.owner)

theorem Stands.start (stands : v.Stands none w) (now interval : Nat) (costs : Costs) :
    (v.start now interval costs).2.Stands none (w.perform (.start now interval costs)) := by
  obtain ⟨⟨marks, polls⟩, holding⟩ := stands
  have free : w.holding = .free v.owner := holding
  simp only [Workshop.perform, free, Workshop.start, Polls.start, marks]
  cases started : v.owner.start v.marks with
  | error e => exact ⟨⟨marks, polls⟩, free⟩
  | ok result =>
    refine ⟨⟨rfl, ?_⟩, rfl⟩
    simp [Workshop.note, polls, employed, workerOf, phaseOf]

theorem Stands.stop (stands : v.Stands none w) : v.stop.Stands none (w.perform .stop) := by
  obtain ⟨⟨marks, polls⟩, holding⟩ := stands
  have free : w.holding = .free v.owner := holding
  simp only [Workshop.perform, free]
  exact ⟨⟨by simp [Workshop.stop, Polls.stop, marks], polls⟩, free⟩

theorem Stands.cancel {awaited : Option Control} (stands : v.Stands awaited w) {c : Control}
    (started : .starts c ∈ w.log) :
    ({ v with marks := c.stop v.marks } : Polls).Stands awaited (w.perform (.stopBy c)) := by
  obtain ⟨⟨marks, polls⟩, holding⟩ := stands
  have same : w.perform (.stopBy c) = w.cancel c := by
    unfold Workshop.perform
    split <;> simp_all
  rw [same]
  exact ⟨⟨by simp [Workshop.cancel, Workshop.note, marks], polls⟩, holding⟩

theorem Stands.await (stands : v.Stands none w) :
    ({ v with owner := v.owner.release.2 } : Polls).Stands v.owner.release.1
      (w.perform .await) := by
  obtain ⟨⟨marks, polls⟩, holding⟩ := stands
  have free : w.holding = .free v.owner := holding
  simp only [Workshop.perform, free, Workshop.await, Owner.release]
  cases held : v.owner.held <;> exact ⟨⟨marks, polls⟩, rfl⟩

theorem Stands.leave {c : Control} (stands : v.Stands (some c) w) :
    ({ v with marks := c.stop v.marks } : Polls).Stands none (w.perform .leave) := by
  obtain ⟨⟨marks, polls⟩, holding⟩ := stands
  have waits : w.holding = .awaiting v.owner c := holding
  simp only [Workshop.perform, waits]
  exact ⟨⟨by simp [Workshop.cancel, Workshop.note, marks], polls⟩, rfl⟩

theorem Stands.turn {awaited : Option Control} (stands : v.Stands awaited w)
    (sound : w.Sound none) (now : Nat) (mark : Mark) :
    (v.turn now mark).Stands awaited (w.turn routine now mark) := by
  obtain ⟨mirrors, held, owner⟩ := stands.mirrors.turn sound now mark
  exact ⟨mirrors, held.trans (owner ▸ stands.holding)⟩

theorem Played.workshop {awaited : Option Control} (played : Played v awaited) :
    ∃ acts, v.Stands awaited (({} : Workshop Costs).run routine acts) := by
  -- each time one act more is done
  have snoc : ∀ {u : Polls} {awaited : Option Control} {acts : List (Workshop.Act Costs)}
      (a : Workshop.Act Costs),
      u.Stands awaited ((({} : Workshop Costs).run routine acts).act routine a) →
        ∃ acts, u.Stands awaited (({} : Workshop Costs).run routine acts) := by
    intro u awaited acts a stands
    exact ⟨acts ++ [a], by simpa [Workshop.run] using stands⟩
  induction played with
  | new => exact ⟨[], ⟨rfl, rfl⟩, rfl⟩
  | start played now interval costs ih =>
    obtain ⟨acts, stands⟩ := ih
    exact snoc (.deed (.start now interval costs)) (stands.start now interval costs)
  | stop played ih =>
    obtain ⟨acts, stands⟩ := ih
    exact snoc (.deed .stop) stands.stop
  | @stopBy v awaited played p runs ih =>
    obtain ⟨acts, stands⟩ := ih
    have here : employed p ∈ (({} : Workshop Costs).run routine acts).polls := by
      rw [stands.mirrors.polls]
      exact List.mem_map_of_mem runs
    have started := (Workshop.sound_start.run routine acts).started _ here
    exact snoc (.deed (.stopBy p.control)) (stands.cancel started)
  | turn played now mark ih =>
    obtain ⟨acts, stands⟩ := ih
    exact snoc (.turn now mark) (stands.turn (Workshop.sound_start.run routine acts) now mark)
  | await played ih =>
    obtain ⟨acts, stands⟩ := ih
    exact snoc (.deed .await) stands.await
  | leave played ih =>
    obtain ⟨acts, stands⟩ := ih
    exact snoc (.deed .leave) stands.leave

theorem Played.one_live {awaited : Option Control} (played : Played v awaited) {p q : RunningPoll}
    (here : p ∈ v.running) (there : q ∈ v.running) (live : p.control.isStopped v.marks = false)
    (live' : q.control.isStopped v.marks = false) : p.control = q.control := by
  obtain ⟨acts, stands⟩ := played.workshop
  have sound := Workshop.sound_start.run routine acts
  have started : ∀ r ∈ v.running,
      .starts r.control ∈ (({} : Workshop Costs).run routine acts).log := by
    intro r works
    refine sound.started (employed r) ?_
    rw [stands.mirrors.polls]
    exact List.mem_map_of_mem works
  refine sound.governed.one _ _ (started p here) (started q there) ?_ ?_
  · rwa [stands.mirrors.marks]
  · rwa [stands.mirrors.marks]

end Polls
end TranscodeConsole.Rehearsal
