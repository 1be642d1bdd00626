import TranscodeConsole.Proofs.Feed.Reading
import TranscodeConsole.Proofs.Listing.Shown

/-!
A listing belongs to its latest load. What is asked of it keeps the readers in order, so that
whatever the order of all steps, nothing is shown but the latest feed from its beginning; and once
the feed was given up, nothing changes any more until the next load.
-/
namespace TranscodeConsole.Listing

open Feed

namespace Crew

structure Vacant (c : Crew) : Prop where
  workers_le : ∀ w ∈ c.workers, w.generation ≤ c.state.generation
  idle : ∀ w ∈ c.workers, ¬ w.OnDuty c.state.generation
  parked_le : ∀ p, c.desk.parked = some p → p.generation ≤ c.state.generation
  noneParked : c.NoneParked

theorem Vacant.sound {c : Crew} (vacant : c.Vacant)
    (opening : ∀ o, c.opening = some o → o.generation = c.state.generation ∧
      c.state.status = .loading ∧ Shows c.state [])
    (shown : ∃ said, said <+: c.events ∧ Shows c.state said) : c.Sound where
  workers_le := vacant.workers_le
  parked_le := vacant.parked_le
  duty _ _ found duty := absurd duty (vacant.idle _ (List.mem_of_getElem? found))
  opening o isOpening :=
    have ⟨generation, loading, nothing⟩ := opening o isOpening
    ⟨generation, loading, nothing, vacant.noneParked⟩
  shown := shown
  held w member duty := absurd duty (vacant.idle w member)
  parked p isParked generation := absurd generation (vacant.noneParked p isParked)

theorem Sound.vacant_next {c : Crew} (sound : c.Sound) {desk : Desk} {opening : Option Opening}
    {feed : List BodyItem} (next : desk.state.generation = c.state.generation + 1)
    (unparked : desk.parked = none) : ({ c with desk, opening, feed } : Crew).Vacant where
  workers_le w member := by
    have := sound.workers_le w member
    show w.generation ≤ desk.state.generation
    omega
  idle w member duty := by
    have le := sound.workers_le w member
    have same : w.generation = desk.state.generation := duty.generation
    omega
  parked_le p isParked := by simp [unparked] at isParked
  noneParked p isParked := by simp [unparked] at isParked

theorem Sound.vacant_same {c : Crew} (sound : c.Sound)
    (free : c.state.status = .idle ∨ c.opening.isSome) {desk : Desk} {opening : Option Opening}
    {feed : List BodyItem} (same : desk.state.generation = c.state.generation)
    (stale : ∀ p, desk.parked = some p → p.generation < c.state.generation) :
    ({ c with desk, opening, feed } : Crew).Vacant where
  workers_le w member := by
    show w.generation ≤ desk.state.generation
    rw [same]
    exact sound.workers_le w member
  idle w member duty := by
    obtain ⟨i, found⟩ := List.mem_iff_getElem?.mp member
    have onDuty : w.OnDuty c.state.generation := ⟨duty.generation.trans same, duty.busy⟩
    obtain ⟨_, loading, unopened⟩ := sound.duty i w found onDuty
    rcases free with idle | opening
    · simp [loading] at idle
    · simp [unopened] at opening
  parked_le p isParked := by
    have lt := stale p isParked
    show p.generation ≤ desk.state.generation
    omega
  noneParked p isParked := by
    have lt := stale p isParked
    show p.generation ≠ desk.state.generation
    omega

theorem Vacant.hire {c : Crew} (vacant : c.Vacant) (loading : c.state.status = .loading)
    (unopened : c.opening = none) {session : Session} (continues : c.Continues [] session) :
    (c.hire c.state.generation session).Sound := by
  obtain ⟨live, said, shows, all⟩ := continues
  let hired : Worker := ⟨c.state.generation, .reading (Page.start session), false⟩
  have only : ∀ w ∈ c.workers ++ [hired], w.OnDuty c.state.generation → w = hired := by
    intro w member duty
    rcases List.mem_append.mp member with old | new
    · exact absurd duty (vacant.idle w old)
    · exact List.mem_singleton.mp new
  refine ⟨?_, vacant.parked_le, ?_, ?_, ⟨said, ⟨_, all.symm⟩, shows⟩, ?_, ?_⟩
  · intro w member
    rcases List.mem_append.mp member with old | new
    · exact vacant.workers_le w old
    · rw [List.mem_singleton.mp new]
      exact Nat.le_refl _
  · intro i w found duty
    refine ⟨?_, loading, unopened⟩
    show i + 1 = (c.workers ++ [hired]).length
    have found : (c.workers ++ [hired])[i]? = some w := found
    have inside := (List.getElem?_eq_some_iff.mp found).1
    by_cases old : i < c.workers.length
    · rw [List.getElem?_append_left old] at found
      exact absurd duty (vacant.idle w (List.mem_of_getElem? found))
    · rw [List.length_append, List.length_singleton] at inside ⊢
      omega
  · intro o isOpening
    exact absurd (unopened.symm.trans isOpening) (by simp)
  · intro w member duty pending s holds
    obtain rfl := only w member duty
    cases holds
    exact ⟨⟨live, said, shows, all⟩, vacant.noneParked⟩
  · intro p isParked generation
    exact absurd generation (vacant.noneParked p isParked)

theorem Sound.abandon {c : Crew} (sound : c.Sound) : ({ c with opening := none } : Crew).Sound where
  workers_le := sound.workers_le
  parked_le := sound.parked_le
  duty i w found duty :=
    have ⟨last, loading, _⟩ := sound.duty i w found duty
    ⟨last, loading, rfl⟩
  opening _ isOpening := nomatch isOpening
  shown := sound.shown
  held w member duty pending session holds :=
    have ⟨continues, noneParked⟩ := sound.held w member duty pending session holds
    ⟨⟨continues.live, continues.follows⟩, noneParked⟩
  parked p isParked generation :=
    have continues := sound.parked p isParked generation
    ⟨continues.live, continues.follows⟩

/-! ### Requests -/

inductive Called (c : Crew) (request : Request) : Crew → Prop where
  | ignored (starts : c.starts request = false) : Called c request { c with opening := none }
  | loads {desk : Desk} {opening : Option Opening} (starts : c.starts request = true)
      (next : desk.state.generation = c.state.generation + 1) (unparked : desk.parked = none)
      (nothing : Shows desk.state [])
      (waits : ∀ o, opening = some o →
        o.generation = desk.state.generation ∧ desk.state.status = .loading) :
      Called c request { c with desk, opening, feed := [] }
  | cancels {desk : Desk} (starts : c.starts request = false)
      (next : desk.state.generation = c.state.generation + 1) (unparked : desk.parked = none)
      (entries : desk.state.entries = c.state.entries)
      (malformed : desk.state.malformed = c.state.malformed)
      (idle : desk.state.status = .idle) (noMore : desk.state.moreAvailable = false) :
      Called c request { c with desk, opening := none }
  | resumes {desk : Desk} {p : Parked} (starts : c.starts request = false)
      (idle : c.state.status = .idle) (more : c.state.moreAvailable = true)
      (parked : c.desk.parked = some p) (own : p.generation = c.state.generation)
      (same : desk.state.generation = c.state.generation) (unparked : desk.parked = none)
      (entries : desk.state.entries = c.state.entries)
      (malformed : desk.state.malformed = c.state.malformed)
      (loading : desk.state.status = .loading) :
      Called c request
        (({ c with desk, opening := none } : Crew).hire desk.state.generation p.session)
  | ends {desk : Desk} (starts : c.starts request = false) (idle : c.state.status = .idle)
      (more : c.state.moreAvailable = true) (same : desk.state.generation = c.state.generation)
      (unparked : desk.parked = none) (entries : desk.state.entries = c.state.entries)
      (malformed : desk.state.malformed = c.state.malformed) :
      Called c request { c with desk, opening := none }

theorem openFailed_state {d : Desk} (loading : d.state.status = .loading) (error : ServiceError) :
    (d.openFailed d.state.generation error).state.generation = d.state.generation ∧
    (d.openFailed d.state.generation error).state.entries = d.state.entries ∧
    (d.openFailed d.state.generation error).state.malformed = d.state.malformed ∧
    (d.openFailed d.state.generation error).parked = none := by
  simp [Desk.openFailed, Desk.request_failed loading, update, State.accepts, loading]

theorem called_load {c : Crew} {request : Request} {batch : Uuid} {filter : Filter}
    (asked : c.state.asked request.msg = some (batch, filter)) :
    Called c request (c.call request) := by
  have starts : c.starts request = true := by simp [Crew.starts, asked]
  have empty : Shows (c.state.beginLoad batch filter) [] := ⟨rfl, rfl⟩
  have begun : (({ c.desk with state := c.state.beginLoad batch filter } : Desk).cancelStream).state =
      c.state.beginLoad batch filter := Desk.state_cancelStream _
  have unparked := Desk.parked_cancelStream
    ({ c.desk with state := c.state.beginLoad batch filter } : Desk)
  simp only [call, Desk.request_asked asked, starts, ite_true, List.foldl_cons, List.foldl_nil,
    begin]
  generalize ({ c.desk with state := c.state.beginLoad batch filter } : Desk).cancelStream =
    desk at begun unparked
  have next : desk.state.generation = c.state.generation + 1 := by rw [begun]; rfl
  have loading : desk.state.status = .loading := by rw [begun]; rfl
  cases c.base.resolve Service.batchContent (Desk.query batch filter) with
  | error error =>
    obtain ⟨generation, entries, malformed, gone⟩ := openFailed_state loading error
    rw [next] at generation entries malformed gone
    refine .loads starts generation gone ⟨?_, ?_⟩ (by simp)
    · rw [entries, begun]
      exact empty.entries
    · rw [malformed, begun]
      exact empty.malformed
  | ok url =>
    refine .loads starts next unparked (begun ▸ empty) fun o isOpening => ?_
    cases isOpening
    exact ⟨next.symm, loading⟩

theorem called_more {c : Crew} (idle : c.state.status = .idle)
    (more : c.state.moreAvailable = true) : Called c .more (c.call .more) := by
  have starts : c.starts .more = false := rfl
  by_cases fits : ∃ p, c.desk.parked = some p ∧ p.generation = c.state.generation ∧
      p.session.isActive c.desk.cursor.marks = true
  · obtain ⟨p, parked, own, active⟩ := fits
    have asked := Desk.request_parked idle more parked own active
    simp only [call, Request.msg, asked, starts, List.foldl_cons, List.foldl_nil, begin]
    exact .resumes starts idle more parked own rfl rfl rfl rfl rfl
  · have nothing : ∀ p, c.desk.parked = some p → p.generation = c.state.generation →
        p.session.isActive c.desk.cursor.marks = false := fun p parked own =>
      (Bool.not_eq_true _).mp fun active => fits ⟨p, parked, own, active⟩
    obtain ⟨errands, unparked, ended⟩ := Desk.request_unparked idle more nothing
    simp only [call, Request.msg, errands, starts, List.foldl_nil]
    refine .ends starts idle more ?_ unparked ?_ ?_
    · rw [ended]; rfl
    · rw [ended]; rfl
    · rw [ended]; rfl

theorem called_call (c : Crew) (request : Request) : Called c request (c.call request) := by
  by_cases heeded : c.state.heeds request.msg = true
  · cases request with
    | load batch filter => exact called_load rfl
    | changeFilter filter =>
      obtain ⟨⟨batch, filter⟩, asked⟩ := Option.isSome_iff_exists.mp heeded
      exact called_load asked
    | more =>
      have parked : c.state.status = .idle ∧ c.state.moreAvailable = true := by
        simpa [State.heeds, Request.msg] using heeded
      exact called_more parked.1 parked.2
    | cancel =>
      exact .cancels rfl (by simp) (by simp) (by simp) (by simp) (by simp) (by simp)
  · have deaf : c.state.heeds request.msg = false := by simpa using heeded
    have starts : c.starts request = false := by
      cases asked : c.state.asked request.msg with
      | none => simp [Crew.starts, asked]
      | some load => simp [heeds_of_asked asked] at deaf
    simp only [call, Desk.request_ignored deaf, starts]
    exact .ignored starts

theorem sound_call {c : Crew} (sound : c.Sound) (request : Request) :
    (c.call request).Sound := by
  have called := called_call c request
  generalize c.call request = after at called
  have kept : ∀ {state : State}, state.entries = c.state.entries →
      state.malformed = c.state.malformed → ∀ said, Shows c.state said → Shows state said :=
    fun entries malformed said shows =>
      ⟨entries.trans shows.entries, malformed.trans shows.malformed⟩
  obtain ⟨said, isPrefix, shows⟩ := sound.shown
  cases called with
  | ignored => exact sound.abandon
  | loads starts next unparked nothing waits =>
    refine (sound.vacant_next next unparked).sound ?_ ⟨[], List.nil_prefix, nothing⟩
    intro o isOpening
    obtain ⟨generation, loading⟩ := waits o isOpening
    exact ⟨generation, loading, nothing⟩
  | cancels starts next unparked entries malformed =>
    exact (sound.vacant_next next unparked).sound (by simp)
      ⟨said, isPrefix, kept entries malformed said shows⟩
  | @resumes desk p starts idle more parked own same unparked entries malformed loading =>
    obtain ⟨live, before, shown, all⟩ := sound.parked p parked own
    exact (sound.vacant_same (.inl idle) same (by simp [unparked])).hire loading rfl
      ⟨live, before, kept entries malformed before shown, all⟩
  | ends starts idle more same unparked entries malformed =>
    exact (sound.vacant_same (.inl idle) same (by simp [unparked])).sound (by simp)
      ⟨said, isPrefix, kept entries malformed said shows⟩

theorem sound_reply {c : Crew} (sound : c.Sound)
    (result : Except ServiceError (List BodyItem)) : (c.reply result).Sound := by
  unfold reply
  split
  · exact sound
  · rename_i o isOpening
    obtain ⟨generation, loading, nothing, noneParked⟩ := sound.opening o isOpening
    have stale : ∀ p, c.desk.parked = some p → p.generation < c.state.generation :=
      fun p isParked => Nat.lt_of_le_of_ne (sound.parked_le p isParked) (noneParked p isParked)
    have free : c.state.status = .idle ∨ c.opening.isSome := .inr (by simp [isOpening])
    cases result with
    | ok items =>
      have vacant : ({ c with opening := none, feed := items } : Crew).Vacant :=
        sound.vacant_same free rfl stale
      simp only [generation]
      exact vacant.hire loading rfl ⟨rfl, [], nothing, rfl⟩
    | error error =>
      obtain ⟨same, entries, malformed, unparked⟩ :=
        openFailed_state (d := { c.desk with cursor := c.desk.cursor.release o.active.id })
          loading error
      simp only [generation]
      obtain ⟨said, isPrefix, shows⟩ := sound.shown
      apply (sound.vacant_same free same (by simp [unparked])).sound (by simp)
      exact ⟨said, isPrefix, entries.trans shows.entries, malformed.trans shows.malformed⟩

theorem Sound.of_workers {c : Crew} (sound : c.Sound) {workers : List Worker}
    {current : Option Nat} (length : workers.length = c.workers.length)
    (same : ∀ (i : Nat) (w : Worker), workers[i]? = some w → ∃ v, c.workers[i]? = some v ∧
      v.generation = w.generation ∧ v.stand = w.stand) :
    ({ c with workers, current } : Crew).Sound := by
  have source : ∀ w ∈ workers, ∃ v ∈ c.workers, v.generation = w.generation ∧
      v.stand = w.stand := by
    intro w member
    obtain ⟨i, found⟩ := List.mem_iff_getElem?.mp member
    obtain ⟨v, here, equal⟩ := same i w found
    exact ⟨v, List.mem_of_getElem? here, equal⟩
  have onDuty : ∀ {v w : Worker}, v.generation = w.generation → v.stand = w.stand →
      w.OnDuty c.state.generation → v.OnDuty c.state.generation :=
    fun generation stand duty => ⟨generation.trans duty.generation, stand ▸ duty.busy⟩
  refine ⟨?_, sound.parked_le, ?_, ?_, sound.shown, ?_, ?_⟩
  · intro w member
    obtain ⟨v, old, generation, _⟩ := source w member
    exact generation ▸ sound.workers_le v old
  · intro i w found duty
    obtain ⟨v, here, generation, stand⟩ := same i w found
    obtain ⟨last, loading, unopened⟩ := sound.duty i v here (onDuty generation stand duty)
    exact ⟨last.trans length.symm, loading, unopened⟩
  · intro o isOpening
    obtain ⟨generation, loading, nothing, noneParked⟩ := sound.opening o isOpening
    exact ⟨generation, loading, nothing, noneParked⟩
  · intro w member duty pending session holds
    obtain ⟨v, old, generation, stand⟩ := source w member
    obtain ⟨continues, noneParked⟩ :=
      sound.held v old (onDuty generation stand duty) pending session (stand ▸ holds)
    exact ⟨⟨continues.live, continues.follows⟩, noneParked⟩
  · intro p isParked generation
    have continues := sound.parked p isParked generation
    exact ⟨continues.live, continues.follows⟩

theorem sound_teardown {c : Crew} (sound : c.Sound) : c.teardown.Sound := by
  have cancelled := sound_call sound .cancel
  unfold teardown
  generalize c.call .cancel = d at cancelled
  refine cancelled.of_workers ?_ ?_
  · cases d.current <;> simp
  · intro i w found
    cases current : d.current with
    | none => exact ⟨w, by simpa [current] using found, rfl, rfl⟩
    | some j =>
      simp only [current, Option.elim_some, List.getElem?_modify] at found
      obtain ⟨v, here, changed⟩ := Option.map_eq_some_iff.mp found
      refine ⟨v, here, ?_, ?_⟩ <;> (subst changed; split <;> rfl)

theorem sound_abort {c : Crew} (sound : c.Sound) (i : Nat) : (c.abort i).Sound := by
  unfold abort
  split
  · rename_i generation page here
    exact sound.of_off_duty here rfl fun duty => nomatch duty.busy
  · exact sound

theorem sound_step {c : Crew} (sound : c.Sound) (move : Move) : (c.step move).Sound := by
  cases move with
  | call request => exact sound_call sound request
  | teardown => exact sound_teardown sound
  | reply result => exact sound_reply sound result
  | settle => exact sound.of_workers rfl fun _ w found => ⟨w, found, rfl, rfl⟩
  | work i now heeds => exact sound_work sound i now heeds
  | abort i => exact sound_abort sound i

theorem sound_run {c : Crew} (sound : c.Sound) (moves : List Move) : (c.run moves).Sound := by
  induction moves generalizing c with
  | nil => exact sound
  | cons move moves ih => exact ih (sound_step sound move)

/-! ### After the feed was given up -/

def loads (c : Crew) : Move → Bool
  | .call request => c.starts request
  | _ => false

def loadless (c : Crew) : List Move → Bool
  | [] => true
  | move :: moves => !c.loads move && (c.step move).loadless moves

/-- Nothing is read, and nothing is going to be. -/
structure Quiet (c : Crew) : Prop where
  idle : c.state.status = .idle
  noMore : c.state.moreAvailable = false
  unopened : c.opening = none

structure SameShown (c after : Crew) : Prop where
  entries : after.state.entries = c.state.entries
  malformed : after.state.malformed = c.state.malformed

theorem quiet_cancel (c : Crew) : (c.call .cancel).Quiet ∧ SameShown c (c.call .cancel) := by
  have cancelled : (c.call .cancel).state = (update c.state .cancel).1 :=
    Desk.state_cancelStream _
  refine ⟨⟨?_, ?_, rfl⟩, ?_, ?_⟩ <;> (rw [cancelled]; rfl)

theorem quiet_teardown (c : Crew) : c.teardown.Quiet ∧ SameShown c c.teardown := by
  obtain ⟨⟨idle, noMore, unopened⟩, entries, malformed⟩ := quiet_cancel c
  exact ⟨⟨idle, noMore, unopened⟩, entries, malformed⟩

theorem quiet_step {c : Crew} (quiet : c.Quiet) {move : Move} (keeps : c.loads move = false) :
    (c.step move).Quiet ∧ SameShown c (c.step move) := by
  obtain ⟨idle, noMore, unopened⟩ := quiet
  cases move with
  | call request =>
    have called := called_call c request
    simp only [step]
    generalize c.call request = after at called
    cases called with
    | ignored => exact ⟨⟨idle, noMore, rfl⟩, rfl, rfl⟩
    | loads starts => exact absurd (keeps.symm.trans starts) (by simp)
    | cancels _ _ _ entries malformed idle noMore => exact ⟨⟨idle, noMore, rfl⟩, entries, malformed⟩
    | resumes _ _ more => exact absurd (noMore.symm.trans more) (by simp)
    | ends _ _ more => exact absurd (noMore.symm.trans more) (by simp)
  | teardown => exact quiet_teardown c
  | reply result =>
    have stays : c.reply result = c := by simp [reply, unopened]
    simp only [step, stays]
    exact ⟨⟨idle, noMore, unopened⟩, rfl, rfl⟩
  | settle => exact ⟨⟨idle, noMore, unopened⟩, rfl, rfl⟩
  | work i now heeds =>
    have same : (c.work i now heeds).state = c.state := by
      unfold work
      split
      · rfl
      · exact act_refused now heeds (by simp [State.accepts, idle])
    have still : (c.work i now heeds).opening = c.opening := by
      unfold work
      split <;> rfl
    refine ⟨⟨?_, ?_, still.trans unopened⟩, ?_, ?_⟩
    · exact same ▸ idle
    · exact same ▸ noMore
    · exact congrArg State.entries same
    · exact congrArg State.malformed same
  | abort i =>
    simp only [step]
    unfold abort
    split <;> exact ⟨⟨idle, noMore, unopened⟩, rfl, rfl⟩

theorem quiet_run {c : Crew} (quiet : c.Quiet) {moves : List Move}
    (keeps : c.loadless moves = true) : SameShown c (c.run moves) := by
  induction moves generalizing c with
  | nil => exact ⟨rfl, rfl⟩
  | cons move moves ih =>
    simp only [loadless, Bool.and_eq_true, Bool.not_eq_true'] at keeps
    obtain ⟨later, entries, malformed⟩ := quiet_step quiet keeps.1
    obtain ⟨entries', malformed'⟩ := ih later keeps.2
    exact ⟨entries'.trans entries, malformed'.trans malformed⟩

/-- Whatever is asked for, and in whatever order the readers take their steps: the listing shows
what the feed of the latest load says up to some point, and nothing else. From a cancellation or a
teardown on it stays as it is until the next load. -/
theorem shows_latest_feed (base : Service.Base) (options : Options) (moves : List Move) :
    let c : Crew := run { base, options } moves
    (∃ said, said <+: c.events ∧ Shows c.state said) ∧
    ∀ halt, halt = .call .cancel ∨ halt = .teardown →
      ∀ later, (c.step halt).loadless later = true → SameShown c ((c.step halt).run later) := by
  intro c
  refine ⟨(sound_run (sound_new base options) moves).shown, ?_⟩
  intro halt gives_up later keeps
  have halted : (c.step halt).Quiet ∧ SameShown c (c.step halt) := by
    rcases gives_up with rfl | rfl
    · exact quiet_cancel c
    · exact quiet_teardown c
  obtain ⟨quiet, entries, malformed⟩ := halted
  obtain ⟨entries', malformed'⟩ := quiet_run quiet keeps
  exact ⟨entries'.trans entries, malformed'.trans malformed⟩

/-- A reader that has its second record in hand when the feed is cancelled sends it for nothing. -/
theorem late_record_is_dropped :
    let base : Service.Base :=
      { url := { scheme := "http".toList, host := some (.name "h".toList) } }
    let item := Bytes.ascii "[\"00000000000000000000000000000000\",\"a\",null,2]\n"
    let reads := Move.work 0 0 true
    let c : Crew := run { base, options := { pageLimit := 5, pace := 0 } }
      [.call (.load .nil none), .reply (.ok [.chunk (item ++ item)]), reads, reads, reads, reads,
        reads, reads, reads]
    let later := [reads, .call .more, reads]
    c.workers.map (·.stand.isOver) = [false] ∧ c.state.entries.length = 1 ∧
      (c.step (.call .cancel)).loadless later = true ∧
      SameShown c ((c.step (.call .cancel)).run later) := by
  intro base item reads c later
  have keeps : (c.step (.call .cancel)).loadless later = true := by decide +kernel
  exact ⟨by decide +kernel, by decide +kernel, keeps,
    (shows_latest_feed _ _ _).2 (.call .cancel) (.inl rfl) later keeps⟩

end Crew
end TranscodeConsole.Listing
