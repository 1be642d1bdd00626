import TranscodeConsole.Proofs.Poll.History
import TranscodeConsole.Proofs.Poll.Step

/-!
An owner of polls with everyone who has to do with it: those who start, stop and await its polls,
who hold a control of one, and the polls themselves, which may do all of this in their refreshes.
Whatever they do, and whenever a poll gets its turn, the history obeys the rule.
-/
namespace TranscodeConsole.Poll

/-- What somebody does with an owner of polls; `ι` names what there is to refresh. -/
inductive Deed (ι : Type) where
  | start (now interval : Nat) (job : ι)
  | stop
  /-- Begins to wait for the end of the held poll. -/
  | await
  | leave
  | stopBy (c : Control)
  | drop

/-- What a refresh does when it is made, and then from each point at which it waits to the next. -/
structure Routine (ι : Type) where
  first : List (Deed ι) := []
  rest : List (List (Deed ι)) := []

inductive Holding where
  | free (o : Owner)
  | awaiting (o : Owner) (poll : Control)
  | dropped

structure Employed (ι : Type) where
  control : Control
  job : ι
  count : Nat := 0
  worker : Worker (List (List (Deed ι)))

structure Workshop (ι : Type) where
  marks : Marks := {}
  holding : Holding := .free {}
  polls : List (Employed ι) := []
  log : List Note := []

namespace Holding

def owner? : Holding → Option Owner
  | free o | awaiting o _ => some o
  | dropped => none

def poll? : Holding → Option Control
  | free o => o.held
  | awaiting _ c => some c
  | dropped => none

end Holding

namespace Workshop

variable {ι : Type}

def note (n : Note) (w : Workshop ι) : Workshop ι := { w with log := w.log ++ [n] }

def cancel (c : Control) (w : Workshop ι) : Workshop ι :=
  { w with marks := c.stop w.marks }.note (.stops c)

def start (o : Owner) (now interval : Nat) (job : ι) (w : Workshop ι) : Workshop ι :=
  match o.start w.marks with
  | .error e => w.note (.refuses e.id)
  | .ok (control, o, marks) =>
    let poll : Employed ι := { control, job, worker := { ticker := .start now interval } }
    { w with marks, holding := .free o, polls := w.polls ++ [poll] }.note (.starts control)

def stop (o : Owner) (w : Workshop ι) : Workshop ι :=
  { w with marks := o.stop w.marks, log := w.log ++ (o.held.map .stops).toList }

def await (o : Owner) (w : Workshop ι) : Workshop ι :=
  match o.release with
  | (some c, o) => { w with holding := .awaiting o c }
  | (none, o) => { w with holding := .free o }

/-- Nothing else is done with an owner while its poll is awaited. -/
def perform (w : Workshop ι) (d : Deed ι) : Workshop ι :=
  match w.holding, d with
  | _, .stopBy c => if .starts c ∈ w.log then w.cancel c else w
  | .free o, .start now interval job => w.start o now interval job
  | .free o, .stop => w.stop o
  | .free o, .await => w.await o
  | .free o, .drop => { w.stop o with holding := .dropped }
  | .awaiting o c, .leave => { w.cancel c with holding := .free o }
  | _, _ => w

def performAll (w : Workshop ι) (deeds : List (Deed ι)) : Workshop ι := deeds.foldl perform w

def goOn (c : Control) (work : List (List (Deed ι))) (w : Workshop ι) :
    Option (List (List (Deed ι))) × Workshop ι :=
  let w := (w.note (.proceeds c)).performAll (work.headD [])
  match work.tail with
  | [] => (none, w.note (.completes c))
  | more => (some more, w)

/-- A refresh that calls off its poll while it is made is dropped at once. -/
def refresh (jobs : ι → Control → Nat → Routine ι) (p : Employed ι) :
    Refresh (Nat × Workshop ι) (List (List (Deed ι))) where
  cancelled w := p.control.isStopped w.2.marks
  begin _ := fun (count, w) =>
    let routine := jobs p.job p.control (count + 1)
    let w := (w.note (.begins p.control)).performAll routine.first
    let (work, w) :=
      if p.control.isStopped w.marks then (none, w) else w.goOn p.control routine.rest
    (work, count + 1, w)
  resume _ work := fun (count, w) =>
    let (work, w) := w.goOn p.control work
    (work, count, w)

def find? (w : Workshop ι) (mark : Mark) : Option (Employed ι) :=
  w.polls.find? (·.control.mark = mark)

def turn (jobs : ι → Control → Nat → Routine ι) (now : Nat) (mark : Mark) (w : Workshop ι) :
    Workshop ι :=
  match w.find? mark with
  | none => w
  | some p =>
    let (worker, count, w) := p.worker.run (refresh jobs p) now (p.count, w)
    let others := w.polls.filter (·.control.mark ≠ mark)
    match worker.phase with
    | .over => { w with polls := others }
    | _ => { w with polls := others ++ [{ p with worker, count }] }

inductive Act (ι : Type) where
  | deed (d : Deed ι)
  | turn (now : Nat) (mark : Mark)

variable (jobs : ι → Control → Nat → Routine ι)

def act (w : Workshop ι) : Act ι → Workshop ι
  | .deed d => w.perform d
  | .turn now mark => w.turn jobs now mark

def run (w : Workshop ι) (acts : List (Act ι)) : Workshop ι := acts.foldl (act jobs) w

/-- What an owner of polls may be trusted in. -/
structure Governed (w : Workshop ι) : Prop where
  disciplined : Disciplined w.log
  stopped : ∀ c, .starts c ∈ w.log → (c.isStopped w.marks = true ↔ .stops c ∈ w.log)
  one : ∀ c d, .starts c ∈ w.log → .starts d ∈ w.log →
    c.isStopped w.marks = false → d.isStopped w.marks = false → c = d
  refuses : ∀ o c, w.holding = .free o → o.held = some c → c.isStopped w.marks = false →
    ∀ now interval job, w.perform (.start now interval job) = w.note (.refuses c.id)
  starts : ∀ o, w.holding = .free o → (∀ c, o.held = some c → c.isStopped w.marks = true) →
    ∀ now interval job, ∃ c, (w.perform (.start now interval job)).log = w.log ++ [.starts c] ∧
      (w.perform (.start now interval job)).holding.poll? = some c ∧
      c.isStopped (w.perform (.start now interval job)).marks = false

/-! ### What is true of every workshop -/

/-- Where a poll stands, as the history tells it. -/
def Fits {ω : Type} (c : Control) (log : List Note) : Phase ω → Prop
  | .ticking => Runs c log → isBusy c log = false
  | .refreshing _ => isBusy c log = true
  | .over => .stops c ∈ log

/-- One poll is excepted, the one that has its turn. -/
structure Sound (own : Option Control) (w : Workshop ι) : Prop where
  lawful : Lawful w.log
  cancelled : ∀ mark, w.marks.isCancelled mark = true → mark < w.marks.issued
  issued : ∀ c, .starts c ∈ w.log → c.mark < w.marks.issued
  distinct : ∀ c d, .starts c ∈ w.log → .starts d ∈ w.log → c.mark = d.mark → c = d
  stopped : ∀ c, .starts c ∈ w.log → (c.isStopped w.marks = true ↔ .stops c ∈ w.log)
  held : ∀ c, w.holding.poll? = some c → .starts c ∈ w.log
  only : ∀ c, Runs c w.log → w.holding.poll? = some c
  numbered : ∀ o, w.holding.owner? = some o → ∀ c, .starts c ∈ w.log → c.id ≤ o.lastId
  released : ∀ o c, w.holding = .awaiting o c → o.held = none
  started : ∀ p ∈ w.polls, .starts p.control ∈ w.log
  fits : ∀ p ∈ w.polls, own ≠ some p.control → Fits p.control w.log p.worker.phase

variable {own : Option Control} {w after : Workshop ι} {c : Control} {log : List Note} {n : Note}

/-! ### Entries of the history -/

theorem fits_snoc {ω : Type} {phase : Phase ω} (started : .starts c ∈ log)
    (other : n.worker? ≠ some c) (fits : Fits c log phase) : Fits c (log ++ [n]) phase := by
  have same : isBusy c (log ++ [n]) = isBusy c log := by
    rw [isBusy_snoc, busyAfter_other other]
  cases phase with
  | ticking =>
    intro runs
    rw [same]
    exact fits ⟨started, (runs_snoc.mp runs).2.1⟩
  | refreshing work => exact same.trans fits
  | _ => exact List.mem_append_left _ fits

def Quiet (log after : List Note) : Prop :=
  ∃ more, after = log ++ more ∧ ∀ n ∈ more, n.worker? = none

theorem Quiet.refl (log : List Note) : Quiet log log := ⟨[], by simp, by simp⟩

theorem Quiet.snoc {log : List Note} {n : Note} (quiet : n.worker? = none) :
    Quiet log (log ++ [n]) :=
  ⟨[n], rfl, by simpa using quiet⟩

theorem Quiet.trans {log middle after : List Note} (first : Quiet log middle)
    (later : Quiet middle after) : Quiet log after := by
  obtain ⟨more, rfl, quiet⟩ := first
  obtain ⟨rest, rfl, quiet'⟩ := later
  exact ⟨more ++ rest, List.append_assoc .., by simpa [or_imp, forall_and] using ⟨quiet, quiet'⟩⟩

theorem Quiet.isBusy {log after : List Note} (quiet : Quiet log after) (c : Control) :
    Poll.isBusy c after = Poll.isBusy c log := by
  obtain ⟨more, rfl, quiet⟩ := quiet
  induction more using List.reverseRecOn with
  | nil => simp
  | append_singleton more n ih =>
    have last : n.worker? ≠ some c := by simp [quiet n (by simp)]
    rw [← List.append_assoc, isBusy_snoc, busyAfter_other last]
    exact ih fun m here => quiet m (by simp [here])

theorem Quiet.mem {log after : List Note} (quiet : Quiet log after) (here : n ∈ log) :
    n ∈ after := by
  obtain ⟨more, rfl, _⟩ := quiet
  exact List.mem_append_left _ here

theorem Sound.note (sound : w.Sound own) (allowed : Allowed w.log n)
    (starts : ∀ c, n ≠ .starts c) (stops : ∀ c, n ≠ .stops c)
    (works : n.worker? = none ∨ n.worker? = own) : (w.note n).Sound own := by
  have started : ∀ {c}, .starts c ∈ w.log ++ [n] → .starts c ∈ w.log := by
    intro c here
    simpa [(starts c).symm] using here
  have stopped : ∀ {c}, .stops c ∈ w.log ++ [n] ↔ .stops c ∈ w.log := by
    intro c
    simp [(stops c).symm]
  constructor
  case lawful => exact sound.lawful.snoc allowed
  case cancelled => exact sound.cancelled
  case issued => exact fun c here => sound.issued c (started here)
  case distinct => exact fun c d here there => sound.distinct c d (started here) (started there)
  case stopped => exact fun c here => (sound.stopped c (started here)).trans stopped.symm
  case held => exact fun c held => List.mem_append_left _ (sound.held c held)
  case only =>
    intro c runs
    exact sound.only c ⟨started runs.1, fun gone => runs.2 (stopped.mpr gone)⟩
  case numbered => exact fun o owns c here => sound.numbered o owns c (started here)
  case released => exact sound.released
  case started => exact fun p works => List.mem_append_left _ (sound.started p works)
  case fits =>
    intro p employed other
    refine fits_snoc (sound.started p employed) ?_ (sound.fits p employed other)
    rcases works with none | mine
    · simp [none]
    · rwa [mine]

theorem Sound.cancel (sound : w.Sound own) (started : .starts c ∈ w.log) :
    (w.cancel c).Sound own := by
  have same : ∀ {d}, .starts d ∈ w.log ++ [.stops c] → .starts d ∈ w.log := by simp
  constructor
  case lawful => exact sound.lawful.snoc started
  case cancelled =>
    intro mark gone
    simp only [Workshop.cancel, Workshop.note, Control.stop, Marks.isCancelled_cancel,
      Marks.issued_cancel, Bool.or_eq_true, beq_iff_eq] at gone ⊢
    rcases gone with before | rfl
    · exact sound.cancelled mark before
    · exact sound.issued c started
  case issued =>
    intro d here
    have issued : (w.cancel c).marks.issued = w.marks.issued := by
      simp [Workshop.cancel, Workshop.note, Control.stop]
    rw [issued]
    exact sound.issued d (same here)
  case distinct => exact fun d e here there => sound.distinct d e (same here) (same there)
  case stopped =>
    intro d here
    have marked : d.isStopped (w.cancel c).marks = true ↔
        d.isStopped w.marks = true ∨ d.mark = c.mark := by
      simp [Workshop.cancel, Workshop.note, Control.stop, Control.isStopped]
    have told : .stops d ∈ (w.cancel c).log ↔ .stops d ∈ w.log ∨ d = c := by
      simp [Workshop.cancel, Workshop.note]
    rw [marked, told, sound.stopped d (same here)]
    exact or_congr_right ⟨sound.distinct d c (same here) started, fun same => same ▸ rfl⟩
  case held => exact fun d held => List.mem_append_left _ (sound.held d held)
  case only =>
    intro d runs
    exact sound.only d ⟨same runs.1, fun gone => runs.2 (List.mem_append_left _ gone)⟩
  case numbered => exact fun o owns d here => sound.numbered o owns d (same here)
  case released => exact sound.released
  case started => exact fun p works => List.mem_append_left _ (sound.started p works)
  case fits =>
    intro p employed other
    exact fits_snoc (sound.started p employed) (by simp [Note.worker?])
      (sound.fits p employed other)

theorem Sound.rehold (sound : w.Sound own) {holding : Holding}
    (poll : ∀ c, holding.poll? = some c → w.holding.poll? = some c)
    (keeps : ∀ c, Runs c w.log → holding.poll? = some c)
    (owner : ∀ o, holding.owner? = some o → ∃ before, w.holding.owner? = some before ∧
      before.lastId = o.lastId)
    (released : ∀ o c, holding = .awaiting o c → o.held = none) :
    ({ w with holding } : Workshop ι).Sound own := by
  constructor
  case held => exact fun c held => sound.held c (poll c held)
  case only => exact keeps
  case numbered =>
    intro o owns c here
    obtain ⟨before, known, same⟩ := owner o owns
    exact same ▸ sound.numbered before known c here
  case released => exact released
  all_goals first
    | exact sound.lawful | exact sound.cancelled | exact sound.issued | exact sound.distinct
    | exact sound.stopped | exact sound.started | exact sound.fits

/-! ### Deeds -/

theorem Sound.runs_iff (sound : w.Sound own) (started : .starts c ∈ w.log) :
    Runs c w.log ↔ c.isStopped w.marks = false := by
  have stopped := sound.stopped c started
  constructor
  · intro runs
    cases gone : c.isStopped w.marks with
    | false => rfl
    | true => exact absurd (stopped.mp gone) runs.2
  · intro valid
    exact ⟨started, fun told => by simp [stopped.mpr told] at valid⟩

theorem Sound.vacant (sound : w.Sound own) {o : Owner} (free : w.holding = .free o)
    (vacant : o.control w.marks = none) : ∀ c, ¬ Runs c w.log := by
  intro c runs
  have held : o.held = some c := by simpa [free, Holding.poll?] using sound.only c runs
  have valid := (sound.runs_iff runs.1).mp runs
  simp [Owner.control, held, valid] at vacant

def coming (o : Owner) (w : Workshop ι) : Control := ⟨o.lastId + 1, w.marks.issued⟩

section Coming

variable {d e : Control} {o : Owner} (sound : w.Sound own)
include sound

theorem Sound.fresh : .starts (w.coming o) ∉ w.log ∧ .stops (w.coming o) ∉ w.log := by
  have unknown : .starts (w.coming o) ∉ w.log := fun here =>
    Nat.lt_irrefl _ (sound.issued _ here)
  exact ⟨unknown, fun told => unknown (sound.lawful.started_of_stops told)⟩

theorem Sound.distinct_coming (here : .starts d ∈ w.log ∨ d = w.coming o)
    (there : .starts e ∈ w.log ∨ e = w.coming o) (same : d.mark = e.mark) : d = e := by
  rcases here with old | rfl <;> rcases there with old' | rfl
  · exact sound.distinct d e old old' same
  · exact absurd same (Nat.ne_of_lt (sound.issued d old))
  · exact absurd same (Nat.ne_of_gt (sound.issued e old'))
  · rfl

theorem Sound.stopped_coming (here : .starts d ∈ w.log ∨ d = w.coming o) :
    d.isStopped w.marks = true ↔ .stops d ∈ w.log ++ [.starts (w.coming o)] := by
  have told : .stops d ∈ w.log ++ [.starts (w.coming o)] ↔ .stops d ∈ w.log := by simp
  rw [told]
  rcases here with old | rfl
  · exact sound.stopped d old
  · constructor
    · exact fun gone => absurd (sound.cancelled _ gone) (Nat.lt_irrefl _)
    · exact fun told => absurd told sound.fresh.2

theorem Sound.fits_coming {p : Employed ι} (other : own ≠ some p.control)
    (employed : p ∈ w.polls ∨ p.control = w.coming o ∧ p.worker.phase = .ticking) :
    Fits p.control (w.log ++ [.starts (w.coming o)]) p.worker.phase := by
  rcases employed with old | ⟨new, ticks⟩
  · exact fits_snoc (sound.started p old) (by simp [Note.worker?]) (sound.fits p old other)
  · rw [new, ticks]
    intro _
    rw [isBusy_snoc]
    exact Bool.eq_false_iff.mpr fun busy => sound.fresh.1 (sound.lawful.started_of_busy busy)

theorem Sound.starts (free : w.holding = .free o) (vacant : o.control w.marks = none)
    (now interval : Nat) (job : ι) :
    (w.start o now interval job).Sound own ∧
      (w.start o now interval job).log = w.log ++ [.starts (w.coming o)] := by
  have none := sound.vacant free vacant
  have numbered := sound.numbered o (by simp [free, Holding.owner?])
  have started : ∀ {d}, .starts d ∈ w.log ++ [.starts (w.coming o)] →
      .starts d ∈ w.log ∨ d = w.coming o := by simp
  simp only [Workshop.start, Owner.start, vacant, Marks.issue, Workshop.note]
  refine ⟨?sound, rfl⟩
  constructor
  case lawful =>
    exact sound.lawful.snoc ⟨none, fun d here => Nat.lt_succ_of_le (numbered d here)⟩
  case cancelled => exact fun mark gone => Nat.lt_succ_of_lt (sound.cancelled mark gone)
  case issued =>
    intro d here
    rcases started here with old | rfl
    · exact Nat.lt_succ_of_lt (sound.issued d old)
    · exact Nat.lt_succ_self _
  case distinct =>
    exact fun d e here there => sound.distinct_coming (started here) (started there)
  case stopped => exact fun d here => sound.stopped_coming (started here)
  case held =>
    rintro _ ⟨⟩
    simp
  case only =>
    -- no other poll runs, for the owner had none that was still valid
    intro d runs
    rcases started runs.1 with old | rfl
    · exact absurd ⟨old, fun gone => runs.2 (List.mem_append_left _ gone)⟩ (none d)
    · rfl
  case numbered =>
    rintro _ ⟨⟩ d here
    rcases started here with old | rfl
    · exact Nat.le_succ_of_le (numbered d old)
    · exact Nat.le_refl _
  case released =>
    rintro o c ⟨⟩
  case started =>
    intro p employed
    rcases List.mem_append.mp employed with old | new
    · exact List.mem_append_left _ (sound.started p old)
    · cases List.mem_singleton.mp new
      exact List.mem_append_right _ List.mem_cons_self
  case fits =>
    intro p employed other
    refine sound.fits_coming other ((List.mem_append.mp employed).imp id fun new => ?_)
    cases List.mem_singleton.mp new
    exact ⟨rfl, rfl⟩

end Coming

theorem stop_eq (o : Owner) (w : Workshop ι) :
    w.stop o = o.held.elim w w.cancel := by
  cases held : o.held <;> simp [stop, Owner.stop, held, cancel, note]

def Kept (own : Option Control) (w after : Workshop ι) : Prop :=
  after.Sound own ∧ Quiet w.log after.log

theorem Sound.kept (sound : w.Sound own) : w.Kept own w := ⟨sound, .refl _⟩

theorem Sound.kept_cancel (sound : w.Sound own) (started : .starts c ∈ w.log) :
    w.Kept own (w.cancel c) := ⟨sound.cancel started, .snoc rfl⟩

theorem Sound.kept_stop (sound : w.Sound own) {o : Owner} (free : w.holding = .free o) :
    w.Kept own (w.stop o) := by
  rw [stop_eq]
  cases held : o.held with
  | none => exact sound.kept
  | some c => exact sound.kept_cancel (sound.held c (by simp [free, Holding.poll?, held]))

theorem Sound.kept_start (sound : w.Sound own) {o : Owner} (free : w.holding = .free o)
    (now interval : Nat) (job : ι) : w.Kept own (w.start o now interval job) := by
  cases running : o.control w.marks with
  | none =>
    obtain ⟨started, log⟩ := sound.starts free running now interval job
    refine ⟨started, ?_⟩
    rw [log]
    exact .snoc rfl
  | some c =>
    have same : w.start o now interval job = w.note (.refuses c.id) := by
      simp [Workshop.start, Owner.start, running]
    rw [same]
    obtain ⟨held, valid⟩ := Option.filter_eq_some_iff.mp running
    have started := sound.held c (by simp [free, Holding.poll?, held])
    have runs := (sound.runs_iff started).mpr (by simpa using valid)
    exact ⟨sound.note ⟨c, rfl, runs⟩ (by simp) (by simp) (.inl rfl), .snoc rfl⟩

theorem Sound.kept_await (sound : w.Sound own) {o : Owner} (free : w.holding = .free o) :
    w.Kept own (w.await o) := by
  have only : ∀ c, Runs c w.log → o.held = some c := by simpa [free, Holding.poll?] using sound.only
  have same : (w.await o).log = w.log := by
    cases held : o.held <;> simp [Workshop.await, Owner.release, held]
  refine ⟨?_, by rw [same]; exact .refl _⟩
  unfold Workshop.await
  cases held : o.held with
  | none =>
    simp only [Owner.release, held]
    refine sound.rehold (by simp [Holding.poll?]) (fun c runs => ?_)
      (by simp [Holding.owner?, free]) (by simp)
    cases held.symm.trans (only c runs)
  | some c =>
    simp only [Owner.release, held]
    refine sound.rehold (by simp [Holding.poll?, free, held]) (fun d runs => ?_)
      (by simp [Holding.owner?, free]) (by simp)
    exact held.symm.trans (only d runs)

theorem Sound.kept_leave (sound : w.Sound own) {o : Owner} (waits : w.holding = .awaiting o c) :
    w.Kept own { w.cancel c with holding := .free o } := by
  have stopped := sound.cancel (sound.held c (by simp [waits, Holding.poll?]))
  have released := sound.released o c waits
  have same : (w.cancel c).holding = .awaiting o c := waits
  refine ⟨stopped.rehold (by simp [Holding.poll?, released]) (fun d runs => ?_)
    (by simp [Holding.owner?, same]) (by simp), .snoc rfl⟩
  have mine : some c = some d := by simpa [same, Holding.poll?] using stopped.only d runs
  cases mine
  exact absurd (List.mem_append_right _ (List.mem_singleton_self _)) runs.2

theorem Sound.kept_drop (sound : w.Sound own) {o : Owner} (free : w.holding = .free o) :
    w.Kept own { w.stop o with holding := .dropped } := by
  obtain ⟨stopped, quiet⟩ := sound.kept_stop free
  refine ⟨stopped.rehold (by simp [Holding.poll?]) (fun c runs => ?_) (by simp [Holding.owner?])
    (by simp), quiet⟩
  have same : (w.stop o).holding = .free o := free
  have held : o.held = some c := by simpa [same, Holding.poll?] using stopped.only c runs
  exact absurd (by simp [Workshop.stop, held]) runs.2

theorem Sound.kept_perform (sound : w.Sound own) (d : Deed ι) : w.Kept own (w.perform d) := by
  unfold perform
  split
  · split
    · rename_i started
      exact sound.kept_cancel started
    · exact sound.kept
  · rename_i free
    exact sound.kept_start free _ _ _
  · rename_i free
    exact sound.kept_stop free
  · rename_i free
    exact sound.kept_await free
  · rename_i free
    exact sound.kept_drop free
  · rename_i waits
    exact sound.kept_leave waits
  · exact sound.kept

theorem Sound.kept_performAll (sound : w.Sound own) (deeds : List (Deed ι)) :
    w.Kept own (w.performAll deeds) := by
  induction deeds generalizing w with
  | nil => exact sound.kept
  | cons d deeds ih =>
    obtain ⟨here, first⟩ := sound.kept_perform d
    obtain ⟨there, later⟩ := ih here
    exact ⟨there, first.trans later⟩

/-! ### The turn of a poll -/

structure Working {ω : Type} (c : Control) (phase : Phase ω) (w : Workshop ι) : Prop where
  sound : w.Sound (some c)
  started : .starts c ∈ w.log
  fits : Fits c w.log phase

theorem Sound.goesOn (sound : w.Sound (some c)) (runs : Runs c w.log)
    (busy : isBusy c w.log = true) (work : List (List (Deed ι))) :
    (w.goOn c work).2.Working c (Phase.behind (w.goOn c work).1) := by
  have proceeds : (w.note (.proceeds c)).Sound (some c) :=
    sound.note ⟨runs, busy⟩ (by simp) (by simp) (.inr rfl)
  obtain ⟨performed, quiet⟩ := proceeds.kept_performAll (work.headD [])
  have started := quiet.mem (List.mem_append_left _ runs.1)
  have still : isBusy c ((w.note (.proceeds c)).performAll (work.headD [])).log = true := by
    rw [quiet.isBusy]
    exact (isBusy_snoc ..).trans busy
  unfold goOn
  split
  · have completes := performed.note (n := .completes c) still (by simp) (by simp) (.inr rfl)
    refine ⟨completes, List.mem_append_left _ started, fun _ => ?_⟩
    simp [Workshop.note, busyAfter]
  · exact ⟨performed, started, still⟩

theorem Working.runs {ω : Type} {phase : Phase ω} (working : w.Working c phase)
    (live : c.isStopped w.marks = false) : Runs c w.log :=
  (working.sound.runs_iff working.started).mpr live

theorem Sound.makes (sound : w.Sound (some c)) (runs : Runs c w.log) (idle : isBusy c w.log = false)
    (routine : Routine ι) :
    let made := (w.note (.begins c)).performAll routine.first
    made.Sound (some c) ∧ .starts c ∈ made.log ∧ isBusy c made.log = true := by
  have begins : (w.note (.begins c)).Sound (some c) :=
    sound.note ⟨runs, idle⟩ (by simp) (by simp) (.inr rfl)
  obtain ⟨performed, quiet⟩ := begins.kept_performAll routine.first
  refine ⟨performed, quiet.mem (List.mem_append_left _ runs.1), ?_⟩
  rw [quiet.isBusy]
  simp [Workshop.note, busyAfter]

theorem Working.begins {jobs : ι → Control → Nat → Routine ι} {p : Employed ι}
    (working : w.Working p.control (.ticking : Phase (List (List (Deed ι)))))
    (live : p.control.isStopped w.marks = false) (now count : Nat) :
    let begun := (refresh jobs p).begin now (count, w)
    begun.2.2.Working p.control (Phase.behind begun.1) := by
  have runs := working.runs live
  obtain ⟨sound, started, busy⟩ :=
    working.sound.makes runs (working.fits runs) (jobs p.job p.control (count + 1))
  simp only [refresh]
  split
  · rename_i stopped
    refine ⟨sound, started, fun runs => ?_⟩
    exact absurd ((sound.stopped p.control started).mp stopped) runs.2
  · rename_i valid
    have runs := (sound.runs_iff started).mpr (by simpa using valid)
    exact sound.goesOn runs busy _

theorem Working.step {jobs : ι → Control → Nat → Routine ι} {p : Employed ι}
    {now count count' : Nat} {t t' : Worker (List (List (Deed ι)))}
    (working : w.Working p.control t.phase)
    (step : Worker.Step (refresh jobs p) now (t, count, w) (t', count', after)) :
    after.Working p.control t'.phase := by
  cases step with
  | leaves cancelled =>
    exact ⟨working.sound, working.started,
      (working.sound.stopped p.control working.started).mp cancelled⟩
  | begins live phase due =>
    rw [phase] at working
    exact working.begins live now count
  | resumes live phase =>
    have busy := working.fits
    rw [phase] at busy
    exact working.sound.goesOn (working.runs live) busy _

theorem Working.steps {jobs : ι → Control → Nat → Routine ι} {p : Employed ι}
    {m m' : Worker (List (List (Deed ι))) × Nat × Workshop ι}
    (working : m.2.2.Working p.control m.1.phase) (steps : Worker.Steps (refresh jobs p) m m') :
    m'.2.2.Working p.control m'.1.phase := by
  induction steps with
  | refl => exact working
  | tail _ step ih =>
    obtain ⟨now, step⟩ := step
    exact ih.step step

theorem Working.rests {ω : Type} {phase : Phase ω} (working : w.Working c phase)
    {polls : List (Employed ι)}
    (known : ∀ q ∈ polls, (q ∈ w.polls ∧ q.control ≠ c) ∨
      (q.control = c ∧ Fits c w.log q.worker.phase)) :
    ({ w with polls } : Workshop ι).Sound none := by
  refine { working.sound with started := fun q employed => ?_, fits := fun q employed _ => ?_ }
  · rcases known q employed with ⟨other, _⟩ | ⟨rfl, _⟩
    · exact working.sound.started q other
    · exact working.started
  · rcases known q employed with ⟨other, apart⟩ | ⟨rfl, fits⟩
    · exact working.sound.fits q other fun same => apart (Option.some.inj same).symm
    · exact fits

theorem Sound.turn (sound : w.Sound none) (jobs : ι → Control → Nat → Routine ι) (now : Nat)
    (mark : Mark) : (w.turn jobs now mark).Sound none := by
  unfold Workshop.turn
  split
  · exact sound
  · rename_i p found
    have here := List.mem_of_find?_eq_some found
    have mine : p.control.mark = mark := by simpa using List.find?_some found
    have begins : w.Working p.control p.worker.phase :=
      ⟨{ sound with fits := fun q employed _ => sound.fits q employed (by simp) },
        sound.started p here, sound.fits p here (by simp)⟩
    have working := begins.steps (m := (p.worker, p.count, w))
      (Worker.steps_run (refresh jobs p) now p.worker (p.count, w))
    generalize p.worker.run (refresh jobs p) now (p.count, w) = ran at working ⊢
    obtain ⟨worker, count, after⟩ := ran
    have others : ∀ q ∈ after.polls.filter (·.control.mark ≠ mark),
        q ∈ after.polls ∧ q.control ≠ p.control := by
      intro q kept
      obtain ⟨employed, apart⟩ := List.mem_filter.mp kept
      exact ⟨employed, fun same => by simp [same, mine] at apart⟩
    have back : ({ after with polls := after.polls.filter (·.control.mark ≠ mark) ++
        [{ p with worker, count }] } : Workshop ι).Sound none := by
      refine working.rests fun q employed => ?_
      rcases List.mem_append.mp employed with kept | own
      · exact .inl (others q kept)
      · cases List.mem_singleton.mp own
        exact .inr ⟨rfl, working.fits⟩
    simp only
    split
    · exact working.rests fun q employed => .inl (others q employed)
    · exact back

/-! ### Any course of acts -/

theorem sound_start : ({} : Workshop ι).Sound none := by
  constructor <;> simp [Holding.poll?, Lawful.nil, Runs, Marks.isCancelled]

theorem Sound.run (sound : w.Sound none) (jobs : ι → Control → Nat → Routine ι)
    (acts : List (Act ι)) : (w.run jobs acts).Sound none := by
  induction acts generalizing w with
  | nil => exact sound
  | cons a acts ih =>
    refine ih ?_
    cases a with
    | deed d => exact (sound.kept_perform d).1
    | turn now mark => exact sound.turn jobs now mark

theorem Sound.governed (sound : w.Sound none) : w.Governed := by
  constructor
  case disciplined => exact sound.lawful.disciplined
  case stopped => exact sound.stopped
  case one =>
    intro c d here there valid valid'
    exact sound.lawful.one ((sound.runs_iff here).mpr valid) ((sound.runs_iff there).mpr valid')
  case refuses =>
    intro o c free held valid now interval job
    have running : o.control w.marks = some c := by simp [Owner.control, held, valid]
    simp [perform, free, Workshop.start, Owner.start, running]
  case starts =>
    intro o free stopped now interval job
    have vacant : o.control w.marks = none := by
      cases held : o.held with
      | none => simp [Owner.control, held]
      | some c => simp [Owner.control, held, stopped c held]
    obtain ⟨started, log⟩ := sound.starts free vacant now interval job
    have same : w.perform (.start now interval job) = w.start o now interval job := by
      simp [perform, free]
    have poll : (w.start o now interval job).holding.poll? = some (w.coming o) := by
      simp [Workshop.start, Owner.start, vacant, Marks.issue, Workshop.note, Holding.poll?, coming]
    rw [same]
    refine ⟨_, log, poll, ?_⟩
    have here := started.held _ poll
    refine (started.runs_iff here).mp ⟨here, ?_⟩
    rw [log]
    simpa using sound.fresh.2

/-- However an owner of polls is used, by those who hold it or a control of one of its polls and by
the polls themselves, and whenever a poll gets its turn: at most one poll runs, none is started
while another runs, numbers are given once, the refreshes of a poll do not overlap, and a poll that
was stopped makes none and goes on with none. -/
theorem governed_run (jobs : ι → Control → Nat → Routine ι) (acts : List (Act ι)) :
    (({} : Workshop ι).run jobs acts).Governed :=
  (sound_start.run jobs acts).governed

/-- A refresh that stops its own poll while it is made does nothing more. -/
example :
    (({} : Workshop Unit).run (fun _ c n => if n = 2 then { first := [.stopBy c] } else {})
      [.deed (.start 0 10 ()), .turn 0 0, .turn 10 0, .turn 20 0]).log =
      [.starts ⟨1, 0⟩, .begins ⟨1, 0⟩, .proceeds ⟨1, 0⟩, .completes ⟨1, 0⟩, .begins ⟨1, 0⟩,
        .stops ⟨1, 0⟩] := by
  cbv

end Workshop
end TranscodeConsole.Poll
