import TranscodeConsole.Proofs.Feed.Paging
import TranscodeConsole.Proofs.Listing.Crew

/-!
What a listing shows while any number of readers are at work. The listing always shows a part of
the latest load's feed, from its beginning and without gaps; whoever still holds that feed holds
exactly the rest of it, and there is never more than one who does.
-/
namespace TranscodeConsole.Listing

open Feed

namespace Stand

def isOver : Stand → Bool
  | .leaving _ | .gone => true
  | _ => false

def holds : Stand → Option (List (Event BatchEntry) × Session)
  | .reading page => some ([], page.session)
  | .asking page entry | .handing page entry => some ([.record entry], page.session)
  | .reporting page error => some ([.rejected error], page.session)
  | .parking session => some ([], session)
  | .ending .. | .leaving _ | .gone => none

end Stand

/-- A reader of this generation that may still send something. -/
structure Worker.OnDuty (w : Worker) (generation : Nat) : Prop where
  generation : w.generation = generation
  busy : w.stand.isOver = false

namespace Crew

abbrev state (c : Crew) : State := c.desk.state

def events (c : Crew) : List (Event BatchEntry) :=
  feedEvents BatchEntry.read (max c.options.lineLimit 1) (Body.closing c.feed) (Body.content c.feed)

structure Continues (c : Crew) (pending : List (Event BatchEntry)) (session : Session) : Prop where
  live : session.live = true
  follows : ∃ said, Shows c.state said ∧ c.events = said ++ (pending ++ rest session)

def NoneParked (c : Crew) : Prop :=
  ∀ p, c.desk.parked = some p → p.generation ≠ c.state.generation

structure Sound (c : Crew) : Prop where
  workers_le : ∀ w ∈ c.workers, w.generation ≤ c.state.generation
  parked_le : ∀ p, c.desk.parked = some p → p.generation ≤ c.state.generation
  duty : ∀ i w, c.workers[i]? = some w → w.OnDuty c.state.generation →
    i + 1 = c.workers.length ∧ c.state.status = .loading ∧ c.opening = none
  opening : ∀ o, c.opening = some o → o.generation = c.state.generation ∧
    c.state.status = .loading ∧ Shows c.state [] ∧ c.NoneParked
  shown : ∃ said, said <+: c.events ∧ Shows c.state said
  held : ∀ w ∈ c.workers, w.OnDuty c.state.generation → ∀ pending session,
    w.stand.holds = some (pending, session) → c.Continues pending session ∧ c.NoneParked
  parked : ∀ p, c.desk.parked = some p → p.generation = c.state.generation →
    c.Continues [] p.session

theorem sound_new (base : Service.Base) (options : Options) :
    ({ base, options } : Crew).Sound where
  workers_le := by simp
  parked_le := by simp
  duty := by simp
  opening := by simp
  shown := ⟨[], List.nil_prefix, rfl, rfl⟩
  held := by simp
  parked := by simp

/-- A move that leaves the listing alone, and parks nothing but sessions that are out of date. -/
structure Calm (d after : Desk) : Prop where
  state : after.state = d.state
  parked : ∀ p, after.parked = some p →
    d.parked = some p ∨ p.generation < d.state.generation

theorem Sound.of_calm {c : Crew} (sound : c.Sound) {desk : Desk} (calm : Calm c.desk desk) :
    ({ c with desk } : Crew).Sound := by
  obtain ⟨state, cursor, parked⟩ := desk
  obtain ⟨same, kept⟩ := calm
  simp only at same kept
  subst same
  have noneParked : c.NoneParked →
      ({ c with desk := ⟨c.desk.state, cursor, parked⟩ } : Crew).NoneParked := by
    intro none_ p isParked
    rcases kept p isParked with old | lt
    · exact none_ p old
    · exact Nat.ne_of_lt lt
  refine ⟨sound.workers_le, ?_, sound.duty, ?_, sound.shown, ?_, ?_⟩
  · intro p isParked
    rcases kept p isParked with old | lt
    · exact sound.parked_le p old
    · exact Nat.le_of_lt lt
  · intro o isOpening
    obtain ⟨generation, loading, nothing, none_⟩ := sound.opening o isOpening
    exact ⟨generation, loading, nothing, noneParked none_⟩
  · intro w member duty pending session holds
    obtain ⟨continues, none_⟩ := sound.held w member duty pending session holds
    exact ⟨⟨continues.live, continues.follows⟩, noneParked none_⟩
  · intro p isParked generation
    rcases kept p isParked with old | lt
    · have continues := sound.parked p old generation
      exact ⟨continues.live, continues.follows⟩
    · exact absurd generation (Nat.ne_of_lt lt)

theorem Sound.of_off_duty {c : Crew} (sound : c.Sound) {i : Nat} {w after : Worker}
    (here : c.workers[i]? = some w) (same : after.generation = w.generation)
    (off : ¬ after.OnDuty c.state.generation) :
    ({ c with workers := c.workers.set i after } : Crew).Sound := by
  have le := sound.workers_le w (List.mem_of_getElem? here)
  refine ⟨?_, sound.parked_le, ?_, ?_, sound.shown, ?_, ?_⟩
  · intro v member
    rcases List.mem_or_eq_of_mem_set member with old | rfl
    · exact sound.workers_le v old
    · exact same ▸ le
  · intro j v found duty
    by_cases own : i = j
    · subst own
      rw [List.getElem?_set_self (List.getElem?_eq_some_iff.mp here).1] at found
      cases found
      exact absurd duty off
    · rw [List.getElem?_set_ne own] at found
      simpa using sound.duty j v found duty
  · intro o isOpening
    obtain ⟨generation, loading, nothing, none_⟩ := sound.opening o isOpening
    exact ⟨generation, loading, nothing, none_⟩
  · intro v member duty pending session holds
    rcases List.mem_or_eq_of_mem_set member with old | rfl
    · obtain ⟨continues, none_⟩ := sound.held v old duty pending session holds
      exact ⟨⟨continues.live, continues.follows⟩, none_⟩
    · exact absurd duty off
  · intro p isParked generation
    have continues := sound.parked p isParked generation
    exact ⟨continues.live, continues.follows⟩

structure Served (c : Crew) (desk : Desk) (stand : Stand) : Prop where
  generation : desk.state.generation = c.state.generation
  loading : stand.isOver = false → desk.state.status = .loading
  parked_le : ∀ p, desk.parked = some p → p.generation ≤ c.state.generation
  shown : ∃ said, said <+: c.events ∧ Shows desk.state said
  held : ∀ pending session, stand.holds = some (pending, session) →
    ({ c with desk } : Crew).Continues pending session ∧ ({ c with desk } : Crew).NoneParked
  parked : ∀ p, desk.parked = some p → p.generation = c.state.generation →
    ({ c with desk } : Crew).Continues [] p.session

theorem Sound.of_on_duty {c : Crew} (sound : c.Sound) {i : Nat} {w : Worker} {desk : Desk}
    {stand : Stand} (here : c.workers[i]? = some w) (duty : w.OnDuty c.state.generation)
    (served : Served c desk stand) :
    ({ c with desk, workers := c.workers.set i { w with stand } } : Crew).Sound := by
  obtain ⟨last, _, unopened⟩ := sound.duty i w here duty
  have inside := (List.getElem?_eq_some_iff.mp here).1
  have alone : ∀ j v, c.workers[j]? = some v → v.OnDuty c.state.generation → j = i := by
    intro j v found onDuty
    have := (sound.duty j v found onDuty).1
    omega
  have only : ∀ j v, (c.workers.set i { w with stand })[j]? = some v →
      v.OnDuty desk.state.generation → j = i ∧ v = { w with stand } := by
    intro j v found onDuty
    by_cases own : i = j
    · subst own
      rw [List.getElem?_set_self inside] at found
      exact ⟨rfl, (Option.some.inj found).symm⟩
    · rw [List.getElem?_set_ne own] at found
      rw [served.generation] at onDuty
      exact absurd (alone j v found onDuty).symm own
  refine ⟨?_, ?_, ?_, ?_, served.shown, ?_, ?_⟩
  · intro v member
    show v.generation ≤ desk.state.generation
    rw [served.generation]
    rcases List.mem_or_eq_of_mem_set member with old | rfl
    · exact sound.workers_le v old
    · exact sound.workers_le w (List.mem_of_getElem? here)
  · intro p isParked
    show p.generation ≤ desk.state.generation
    rw [served.generation]
    exact served.parked_le p isParked
  · intro j v found onDuty
    obtain ⟨rfl, rfl⟩ := only j v found onDuty
    exact ⟨by simpa using last, served.loading onDuty.busy, unopened⟩
  · intro o isOpening
    simp [unopened] at isOpening
  · intro v member onDuty pending session holds
    obtain ⟨j, found⟩ := List.mem_iff_getElem?.mp member
    obtain ⟨_, rfl⟩ := only j v found onDuty
    obtain ⟨continues, none_⟩ := served.held pending session holds
    exact ⟨⟨continues.live, continues.follows⟩, none_⟩
  · intro p isParked generation
    have continues := served.parked p isParked (generation.trans served.generation)
    exact ⟨continues.live, continues.follows⟩

/-! ### Readers -/

theorem update_refused {s : State} {generation : Nat} (refused : s.accepts generation = false) :
    (∀ entry, update s (.record generation entry) = (s, [])) ∧
    (∀ message, update s (.malformed generation message) = (s, [])) ∧
    ∀ word : LastWord, update s (word.msg generation) = (s, []) := by
  refine ⟨fun _ => update_ignored refused, fun _ => update_ignored refused, ?_⟩
  intro word
  cases word <;> exact update_ignored refused

theorem act_refused {w : Worker} {d : Desk} (now : Nat) (heeds : Bool)
    (refused : d.state.accepts w.generation = false) :
    (w.act now heeds d).2.state = d.state := by
  obtain ⟨generation, stand, aborted⟩ := w
  obtain ⟨record, malformed, word⟩ := update_refused refused
  cases stand with
  | handing page entry => exact congrArg Prod.fst (record entry)
  | reporting page error => exact congrArg Prod.fst (malformed error.message)
  | parking session => exact Desk.state_park d generation session
  | ending last session => exact congrArg Prod.fst (word last)
  | _ => rfl

theorem act_parked {w : Worker} {d : Desk} {p : Parked} (now : Nat) (heeds : Bool)
    (parked : (w.act now heeds d).2.parked = some p) :
    d.parked = some p ∨ p.generation = w.generation ∧ ∃ session, w.stand = .parking session := by
  obtain ⟨generation, stand, aborted⟩ := w
  cases stand with
  | parking session =>
    cases parked
    exact .inr ⟨rfl, session, rfl⟩
  | _ => exact .inl parked

theorem act_off_duty {w : Worker} {d : Desk} (now : Nat) (heeds : Bool)
    (le : w.generation ≤ d.state.generation) (off : ¬ w.OnDuty d.state.generation) :
    Calm d (w.act now heeds d).2 ∧
      ¬ ({ w with stand := (w.act now heeds d).1 } : Worker).OnDuty d.state.generation := by
  by_cases present : w.generation = d.state.generation
  · obtain ⟨generation, stand, aborted⟩ := w
    cases stand with
    | leaving session =>
      exact ⟨⟨rfl, fun _ isParked => .inl isParked⟩, fun duty => nomatch duty.busy⟩
    | gone => exact ⟨⟨rfl, fun _ isParked => .inl isParked⟩, off⟩
    | _ => exact absurd ⟨present, rfl⟩ off
  · have refused : d.state.accepts w.generation = false := by simp [State.accepts, present]
    refine ⟨⟨act_refused now heeds refused, fun p isParked => ?_⟩,
      fun duty => present duty.generation⟩
    rcases act_parked now heeds isParked with old | ⟨own, _⟩
    · exact .inl old
    · exact .inr (own ▸ Nat.lt_of_le_of_ne le present)

theorem Served.of_calm {c : Crew} (sound : c.Sound) (loading : c.state.status = .loading)
    (none_ : c.NoneParked) {stand : Stand}
    (held : ∀ pending session, stand.holds = some (pending, session) →
      c.Continues pending session) : Served c c.desk stand where
  generation := rfl
  loading _ := loading
  parked_le := sound.parked_le
  shown := sound.shown
  held pending session holds := ⟨held pending session holds, none_⟩
  parked p isParked generation := absurd generation (none_ p isParked)

theorem Continues.tells {c : Crew} {session after : Session} {said : List (Event BatchEntry)}
    (continues : c.Continues [] session) (tells : session.Tells BatchEntry.read said after) :
    c.Continues said after := by
  obtain ⟨live, before, shows, all⟩ := continues
  exact ⟨tells.live, before, shows, by rw [all, rest, tells.remaining]; rfl⟩

theorem Served.of_said {c : Crew} (sound : c.Sound) (none_ : c.NoneParked) {m : Msg}
    {event : Event BatchEntry} {session : Session} (continues : c.Continues [event] session)
    (told : ∀ said, Shows c.state said → Shows (c.desk.send m).state (said ++ [event]))
    (generation : (c.desk.send m).state.generation = c.state.generation)
    (loading : (c.desk.send m).state.status = .loading) {stand : Stand}
    (held : ∀ pending s, stand.holds = some (pending, s) → pending = [] ∧ s = session) :
    Served c (c.desk.send m) stand := by
  obtain ⟨live, said, shows, all⟩ := continues
  have noneParked : ({ c with desk := c.desk.send m } : Crew).NoneParked := by
    intro p isParked
    show p.generation ≠ (c.desk.send m).state.generation
    rw [generation]
    exact none_ p isParked
  have goesOn : c.events = (said ++ [event]) ++ ([] ++ rest session) := by
    rw [all]
    simp
  refine ⟨generation, fun _ => loading, sound.parked_le, ⟨_, ⟨_, goesOn.symm⟩, told said shows⟩,
    ?_, ?_⟩
  · intro pending s holds
    obtain ⟨rfl, rfl⟩ := held pending s holds
    exact ⟨⟨live, _, told said shows, goesOn⟩, noneParked⟩
  · intro p isParked same
    exact absurd same (none_ p isParked)

theorem update_word (s : State) (word : LastWord) (generation : Nat) :
    (update s (word.msg generation)).1.generation = s.generation ∧
    (update s (word.msg generation)).1.entries = s.entries ∧
    (update s (word.msg generation)).1.malformed = s.malformed := by
  cases word with
  | pageFilled =>
    simp only [LastWord.msg, update]
    split <;> exact ⟨rfl, rfl, rfl⟩
  | exhausted =>
    simp only [LastWord.msg, update]
    split <;> exact ⟨rfl, rfl, rfl⟩
  | failed error =>
    simp only [LastWord.msg, update]
    split <;> exact ⟨rfl, rfl, rfl⟩

theorem act_reading {c : Crew} {page : Page} (continues : c.Continues [] page.session)
    (aborted : Bool) (now : Nat) (heeds : Bool) {pending : List (Event BatchEntry)}
    {session : Session}
    (holds : ((⟨c.state.generation, .reading page, aborted⟩ : Worker).act now heeds c.desk).1.holds =
      some (pending, session)) : c.Continues pending session := by
  simp only [Worker.act] at holds
  by_cases cancelled : (heeds && c.desk.cursor.marks.isCancelled page.session.mark) = true
  · have isOver := (page.step_cancelled BatchEntry.read now).1
    rw [cancelled] at holds
    generalize page.step BatchEntry.read true now = result at isOver holds
    obtain ⟨step, after⟩ := result
    simp only at isOver
    subst isOver
    cases holds
  · have stepped := page.stepped_step BatchEntry.read now continues.live
    rw [Bool.not_eq_true] at cancelled
    rw [cancelled] at holds
    generalize page.step BatchEntry.read false now = result at stepped holds
    obtain ⟨step, after⟩ := result
    simp only at stepped
    cases stepped with
    | offer _ tells => cases holds; exact continues.tells tells
    | rejected _ tells => cases holds; exact continues.tells tells
    | moved tells => cases holds; exact continues.tells tells
    | pausing => cases holds; exact continues
    | waiting _ tells => cases holds; exact continues.tells tells
    | silent tells => cases holds; exact continues.tells tells
    | exhausted => cases holds
    | failed => cases holds

section OnDuty

variable {c : Crew} {page : Page} {entry : BatchEntry} {error : ServiceError} {session : Session}
  (sound : c.Sound) (aborted : Bool) (now : Nat) (heeds : Bool)
include sound

theorem served_handing (loading : c.state.status = .loading) (none_ : c.NoneParked)
    (continues : c.Continues [.record entry] page.session) :
    let acted := (⟨c.state.generation, .handing page entry, aborted⟩ : Worker).act now heeds c.desk
    Served c acted.2 acted.1 := by
  have sent := Desk.state_record loading entry
  have told : ∀ said, Shows c.state said →
      Shows (c.desk.send (.record c.state.generation entry)).state (said ++ [.record entry]) :=
    fun said shows => shows.record loading entry
  refine Served.of_said sound none_ continues told (by rw [sent]) (by rw [sent]; exact loading) ?_
  intro pending session holds
  simp only [Worker.act] at holds
  have answered := page.answered_taken now
  generalize page.answer true now = result at answered holds
  obtain ⟨how, after⟩ := result
  simp only at answered holds
  cases answered with
  | full _ | yields _ | pauses _ =>
    cases holds
    exact ⟨rfl, rfl⟩

theorem served_reporting (loading : c.state.status = .loading) (none_ : c.NoneParked)
    (continues : c.Continues [.rejected error] page.session) :
    let acted :=
      (⟨c.state.generation, .reporting page error, aborted⟩ : Worker).act now heeds c.desk
    Served c acted.2 acted.1 := by
  have sent := Desk.state_malformed loading error.message
  have told : ∀ said, Shows c.state said →
      Shows (c.desk.send (.malformed c.state.generation error.message)).state
        (said ++ [.rejected error]) := fun said shows => shows.rejected loading error
  refine Served.of_said sound none_ continues told (by rw [sent]) (by rw [sent]; exact loading) ?_
  intro pending session holds
  cases holds
  exact ⟨rfl, rfl⟩

theorem served_parking (loading : c.state.status = .loading) (continues : c.Continues [] session) :
    let acted := (⟨c.state.generation, .parking session, aborted⟩ : Worker).act now heeds c.desk
    Served c acted.2 acted.1 := by
  obtain ⟨live, said, shows, all⟩ := continues
  refine ⟨by simp [Worker.act], fun _ => by simpa [Worker.act] using loading, ?_, ?_, ?_, ?_⟩
  · intro p isParked
    cases isParked
    exact Nat.le_refl _
  · simpa [Worker.act] using sound.shown
  · intro pending s holds
    cases holds
  · intro p isParked same
    cases isParked
    refine ⟨live, said, ?_, all⟩
    show Shows (c.desk.park c.state.generation session).state said
    rw [Desk.state_park]
    exact shows

theorem served_ending (word : LastWord) (ended : Option Session) :
    let acted := (⟨c.state.generation, .ending word ended, aborted⟩ : Worker).act now heeds c.desk
    Served c acted.2 acted.1 := by
  obtain ⟨generation, entries, malformed⟩ := update_word c.state word c.state.generation
  have shows : ∀ said, Shows c.state said →
      Shows (c.desk.send (word.msg c.state.generation)).state said := fun said shows =>
    ⟨entries.trans shows.entries, malformed.trans shows.malformed⟩
  refine ⟨generation, ?_, sound.parked_le, ?_, ?_, ?_⟩
  · intro goesOn
    cases ended <;> cases goesOn
  · obtain ⟨said, isPrefix, shown⟩ := sound.shown
    exact ⟨said, isPrefix, shows said shown⟩
  · intro pending s holds
    cases ended <;> cases holds
  · intro p isParked same
    obtain ⟨live, said, shown, all⟩ := sound.parked p isParked same
    exact ⟨live, said, shows said shown, all⟩

theorem act_on_duty {i : Nat} {w : Worker} (here : c.workers[i]? = some w)
    (duty : w.OnDuty c.state.generation) :
    Served c (w.act now heeds c.desk).2 (w.act now heeds c.desk).1 := by
  obtain ⟨_, loading, _⟩ := sound.duty i w here duty
  have held := sound.held w (List.mem_of_getElem? here) duty
  obtain ⟨generation, stand, aborted⟩ := w
  obtain ⟨rfl, busy⟩ := duty
  cases stand with
  | reading page =>
    obtain ⟨continues, none_⟩ := held [] page.session rfl
    apply Served.of_calm sound loading none_
    intro pending session holds
    exact act_reading continues aborted now heeds holds
  | asking page entry =>
    obtain ⟨continues, none_⟩ := held [.record entry] page.session rfl
    apply Served.of_calm sound loading none_
    intro pending session holds
    simp only [Worker.act, ite_true, Stand.holds, Option.some.injEq, Prod.mk.injEq] at holds
    obtain ⟨rfl, rfl⟩ := holds
    exact continues
  | handing page entry =>
    obtain ⟨continues, none_⟩ := held [.record entry] page.session rfl
    exact served_handing sound aborted now heeds loading none_ continues
  | reporting page error =>
    obtain ⟨continues, none_⟩ := held [.rejected error] page.session rfl
    exact served_reporting sound aborted now heeds loading none_ continues
  | parking session =>
    exact served_parking sound aborted now heeds loading (held [] session rfl).1
  | ending word session => exact served_ending sound aborted now heeds word session
  | leaving session => cases busy
  | gone => cases busy

end OnDuty

theorem sound_work {c : Crew} (sound : c.Sound) (i now : Nat) (heeds : Bool) :
    (c.work i now heeds).Sound := by
  unfold work
  split
  · exact sound
  · rename_i w here
    by_cases duty : w.OnDuty c.state.generation
    · exact sound.of_on_duty here duty (act_on_duty sound now heeds here duty)
    · have le := sound.workers_le w (List.mem_of_getElem? here)
      obtain ⟨calm, off⟩ := act_off_duty now heeds le duty
      have later := sound.of_calm calm
      refine later.of_off_duty (w := w) here rfl ?_
      show ¬ Worker.OnDuty _ (w.act now heeds c.desk).2.state.generation
      rw [calm.state]
      exact off

end Crew
end TranscodeConsole.Listing
