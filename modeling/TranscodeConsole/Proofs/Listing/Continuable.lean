import TranscodeConsole.Proofs.Listing.Assured
import TranscodeConsole.Proofs.Listing.LatestLoad

/-!
Whether a listing that offers more has it. A page that was filled has its session parked, and
nobody gives that session up as long as the listing rests; but all readers have the one parking
place, and a reader that was given up behind the last record of its page still parks there. As long
as none does so in the place of a session of the present load, more can be read whenever it is
offered.
-/
namespace TranscodeConsole.Listing

open Feed

namespace Crew

variable {c : Crew}

/-! ### Requests -/

theorem Assured.supersedes (assured : c.Assured) (sound : c.Sound) {desk : Desk}
    {opening : Option Opening} {feed : List BodyItem}
    (next : desk.state.generation = c.state.generation + 1) (orderly : desk.Orderly)
    (given : ∀ mark, c.desk.cursor.Owns mark → desk.GivenUp mark) (unparked : desk.parked = none)
    (noMore : desk.state.moreAvailable = false)
    (fresh : ∀ o, opening = some o →
      desk.cursor.Owns o.active.mark ∧ ¬ desk.GivenUp o.active.mark) :
    ({ c with desk, opening, feed } : Crew).Assured := by
  have former : ∀ w ∈ c.workers, w.generation ≠ desk.state.generation := by
    intro w member
    have le := sound.workers_le w member
    omega
  constructor
  case desk => exact orderly
  case owns => exact fun w member mark own => .inl (given mark (assured.owns w member mark own))
  case stale => exact fun w member _ mark own => given mark (assured.owns w member mark own)
  case staleParked => simp [unparked]
  case valid => exact fun w member duty => absurd duty.generation (former w member)
  case opening => exact fresh
  case aborted => exact fun w member _ => former w member
  case left => exact fun w member present => absurd present (former w member)
  case filled => exact fun w member duty => absurd duty.generation (former w member)
  case ready =>
    intro more
    rw [show ({ c with desk, opening, feed } : Crew).state.moreAvailable = _ from noMore] at more
    cases more

theorem Assured.abandons (assured : c.Assured) : ({ c with opening := none } : Crew).Assured :=
  { assured with opening := by rintro _ ⟨⟩ }

theorem Assured.gone (assured : c.Assured) (sound : c.Sound) (open_ : ¬ c.state.Closed)
    (unread : c.state.status = .loading → c.opening.isSome = true) :
    ∀ w ∈ c.workers, w.generation = c.state.generation → w.stand = .gone := by
  intro w member present
  obtain ⟨i, here⟩ := List.mem_iff_getElem?.mp member
  cases stand : w.stand with
  | gone => rfl
  | leaving session => exact absurd (assured.left w member present session stand) open_
  | _ =>
    obtain ⟨_, loading, unopened⟩ := sound.duty i w here ⟨present, by rw [stand]; rfl⟩
    have opening := unread loading
    rw [unopened] at opening
    cases opening

theorem Worker.Fits.of_gone {w : Worker} {desk : Desk} (fits : Fits w c.desk)
    (gone : w.generation = c.state.generation → w.stand = .gone)
    (generation : desk.state.generation = c.state.generation)
    (cursor : desk.cursor = c.desk.cursor) : Fits w desk := by
  obtain ⟨state, cursor', parked⟩ := desk
  simp only at generation cursor
  subst cursor
  constructor
  case owns => exact fits.owns
  case stale => exact fun former => fits.stale fun same => former (same.trans generation.symm)
  case valid =>
    intro duty mark own
    rw [gone (duty.generation.trans generation)] at own
    cases own
  case aborted => exact fun isAborted same => fits.aborted isAborted (same.trans generation)
  case left =>
    intro same session leaves
    rw [gone (same.trans generation)] at leaves
    cases leaves
  case filled =>
    intro duty session ends
    rw [gone (duty.generation.trans generation)] at ends
    cases ends

theorem fits_hired {d : Desk} {session : Session} (owns : d.cursor.Owns session.mark)
    (valid : ¬ d.GivenUp session.mark) :
    Worker.Fits ⟨d.state.generation, .reading (Page.start session), false⟩ d where
  owns := by
    rintro _ ⟨⟩
    exact owns
  stale former := absurd rfl former
  valid := by
    rintro _ _ ⟨⟩
    exact valid
  aborted := by rintro ⟨⟩
  left := by rintro _ _ ⟨⟩
  filled := by rintro _ _ ⟨⟩

theorem Assured.hires (assured : c.Assured)
    (gone : ∀ w ∈ c.workers, w.generation = c.state.generation → w.stand = .gone) {desk : Desk}
    {feed : List BodyItem} {session : Session}
    (generation : desk.state.generation = c.state.generation)
    (cursor : desk.cursor = c.desk.cursor)
    (parked : ∀ p, desk.parked = some p → c.desk.parked = some p)
    (ready : desk.state.moreAvailable = true → desk.Ready)
    (owns : c.desk.cursor.Owns session.mark) (valid : ¬ c.desk.GivenUp session.mark) :
    (({ c with desk, opening := none, feed } : Crew).hire c.state.generation session).Assured := by
  apply assured_of_fits
  case desk =>
    refine ⟨by show desk.cursor.Orderly; rw [cursor]; exact assured.desk.cursor, ?_⟩
    intro p isParked
    show desk.cursor.Owns _
    rw [cursor]
    exact assured.desk.parked p (parked p isParked)
  case fits =>
    intro w found
    rcases List.mem_append.mp found with old | new
    · exact (assured.fits old).of_gone (gone w old) generation cursor
    · rw [List.mem_singleton.mp new, ← generation]
      have still : ¬ desk.GivenUp session.mark := by rwa [Desk.GivenUp, cursor]
      exact fits_hired (cursor ▸ owns) still
  case staleParked =>
    intro p isParked former
    have stale := assured.staleParked p (parked p isParked) fun same =>
      former (same.trans generation.symm)
    show desk.cursor.marks.isCancelled p.session.mark = true
    rw [cursor]
    exact stale
  case opening => rintro _ ⟨⟩
  case ready => exact ready

theorem openFailed_marks {d : Desk} (orderly : d.Orderly) (loading : d.state.status = .loading)
    (error : ServiceError) :
    (d.openFailed d.state.generation error).Orderly ∧
      (∀ mark, d.cursor.Owns mark → (d.openFailed d.state.generation error).GivenUp mark) ∧
      (d.openFailed d.state.generation error).state.Closed := by
  rw [Desk.openFailed, Desk.request_failed loading]
  obtain ⟨still, given⟩ := (orderly.withState
    (update d.state (.failed d.state.generation error.userMessage)).1).orderly.cancelStream
  refine ⟨still, given, ?_⟩
  constructor <;> simp [update, State.accepts, loading]

theorem assured_load (assured : c.Assured) (sound : c.Sound) {request : Request} {batch : Uuid}
    {filter : Filter} (asked : c.state.asked request.msg = some (batch, filter)) :
    (c.call request).Assured := by
  have starts : c.starts request = true := by simp [Crew.starts, asked]
  obtain ⟨orderly, given⟩ :=
    (assured.desk.withState (c.state.beginLoad batch filter)).orderly.cancelStream
  have begun :
      (({ c.desk with state := c.state.beginLoad batch filter } : Desk).cancelStream).state =
        c.state.beginLoad batch filter := Desk.state_cancelStream _
  have unparked := Desk.parked_cancelStream
    ({ c.desk with state := c.state.beginLoad batch filter } : Desk)
  simp only [call, Desk.request_asked asked, starts, ite_true, List.foldl_cons, List.foldl_nil,
    begin]
  generalize ({ c.desk with state := c.state.beginLoad batch filter } : Desk).cancelStream =
    desk at orderly given begun unparked
  have next : desk.state.generation = c.state.generation + 1 := by rw [begun]; rfl
  have loading : desk.state.status = .loading := by rw [begun]; rfl
  have noMore : desk.state.moreAvailable = false := by rw [begun]; rfl
  have given : ∀ mark, c.desk.cursor.Owns mark → desk.cursor.Owns mark := fun mark owns =>
    .inl (given mark owns)
  cases c.base.resolve Service.batchContent (Desk.query batch filter) with
  | error error =>
    obtain ⟨generation, _, _, gone⟩ := openFailed_state loading error
    obtain ⟨still, fails, closed⟩ := openFailed_marks orderly loading error
    rw [next] at generation gone still fails closed
    exact assured.supersedes sound generation still (fun mark owns => fails mark (given mark owns))
      gone closed.noMore (by simp)
  | ok url =>
    have fresh := Cursor.fresh_connect orderly.cursor
    generalize desk.cursor.connect = result at fresh
    obtain ⟨active, cursor⟩ := result
    simp only at fresh
    refine assured.supersedes sound next ⟨fresh.orderly, ?_⟩
      (fun mark owns => fresh.others mark (given mark owns)) unparked noMore ?_
    · simp [unparked]
    · rintro o ⟨⟩
      refine ⟨.inr ⟨active, fresh.current, rfl⟩, ?_⟩
      show ¬ cursor.marks.isCancelled active.mark = true
      simp [fresh.valid]

theorem assured_cancel (assured : c.Assured) (sound : c.Sound) : (c.call .cancel).Assured := by
  obtain ⟨orderly, given⟩ :=
    (assured.desk.withState (update c.state .cancel).1).orderly.cancelStream
  have starts : c.starts .cancel = false := rfl
  simp only [call, Request.msg, Desk.request_cancel, starts, List.foldl_nil]
  exact assured.supersedes sound (by simp [update]) orderly given (by simp) (by simp [update])
    (by simp)

theorem Assured.resumable (assured : c.Assured) (sound : c.Sound)
    (more : c.state.moreAvailable = true) :
    ∃ p, c.desk.parked = some p ∧ p.generation = c.state.generation ∧
      p.session.isActive c.desk.cursor.marks = true := by
  obtain ⟨p, isParked, own, valid⟩ := assured.ready more
  have live := (sound.parked p isParked own).live
  exact ⟨p, isParked, own, by simpa [Session.isActive, live, Desk.GivenUp] using valid⟩

theorem assured_more (assured : c.Assured) (sound : c.Sound) (idle : c.state.status = .idle)
    (more : c.state.moreAvailable = true) : (c.call .more).Assured := by
  obtain ⟨p, parked, own, active⟩ := assured.resumable sound more
  have starts : c.starts .more = false := rfl
  have asked := Desk.request_parked idle more parked own active
  simp only [call, Request.msg, asked, starts, List.foldl_cons, List.foldl_nil, begin]
  have valid : p.session.live = true ∧ c.desk.cursor.marks.isCancelled p.session.mark = false := by
    simpa [Session.isActive] using active
  have gone := assured.gone sound (fun closed => by simp [closed.noMore] at more)
    (fun loading => by simp [idle] at loading)
  refine assured.hires gone ?_ ?_ ?_ ?_ (assured.desk.parked p parked) ?_
  · rfl
  · rfl
  · simp
  · simp
  · simp [Desk.GivenUp, valid.2]

theorem assured_call (assured : c.Assured) (sound : c.Sound) (request : Request) :
    (c.call request).Assured := by
  by_cases heeded : c.state.heeds request.msg = true
  · cases request with
    | load batch filter => exact assured_load assured sound rfl
    | changeFilter filter =>
      obtain ⟨⟨batch, filter⟩, asked⟩ := Option.isSome_iff_exists.mp heeded
      exact assured_load assured sound asked
    | more =>
      have offered : c.state.status = .idle ∧ c.state.moreAvailable = true := by
        simpa [State.heeds, Request.msg] using heeded
      exact assured_more assured sound offered.1 offered.2
    | cancel => exact assured_cancel assured sound
  · have deaf : c.state.heeds request.msg = false := by simpa using heeded
    have starts : c.starts request = false := by
      cases asked : c.state.asked request.msg with
      | none => simp [Crew.starts, asked]
      | some load => simp [heeds_of_asked asked] at deaf
    simp only [call, Desk.request_ignored deaf, starts]
    exact assured.abandons

theorem Assured.orderly_release (assured : c.Assured) (noneParked : c.NoneParked) (id : Nat) :
    ({ c.desk with cursor := c.desk.cursor.release id } : Desk).Orderly := by
  unfold Cursor.release
  split
  · refine ⟨⟨assured.desk.cursor.cancelled, by simp⟩, fun p isParked => ?_⟩
    exact .inl (assured.staleParked p isParked (noneParked p isParked))
  · exact assured.desk

theorem Assured.owns_release (assured : c.Assured) {w : Worker} (member : w ∈ c.workers)
    (gone : w.generation = c.state.generation → w.stand = .gone) (id : Nat) {mark : Mark}
    (own : w.stand.mark? = some mark) : (c.desk.cursor.release id).Owns mark := by
  have marks : (c.desk.cursor.release id).marks = c.desk.cursor.marks := by
    unfold Cursor.release
    split <;> rfl
  left
  rw [marks]
  by_cases present : w.generation = c.state.generation
  · rw [gone present] at own
    cases own
  · exact assured.stale w member present mark own

theorem assured_reply (assured : c.Assured) (sound : c.Sound)
    (result : Except ServiceError (List BodyItem)) : (c.reply result).Assured := by
  have later := sound_reply sound result
  unfold reply at later ⊢
  cases isOpening : c.opening with
  | none => exact assured
  | some o =>
    obtain ⟨generation, loading, _, noneParked⟩ := sound.opening o isOpening
    obtain ⟨owns, valid⟩ := assured.opening o isOpening
    have gone := assured.gone sound (fun closed => by simp [closed.idle] at loading)
      (fun _ => by simp [isOpening])
    rw [isOpening] at later
    cases result with
    | ok items =>
      simp only [generation]
      exact assured.hires gone rfl rfl (fun _ => id) assured.ready owns valid
    | error error =>
      simp only [generation] at later ⊢
      -- the mark of the feed that was to be opened is forgotten, but no reader has it
      have held : ∀ w ∈ c.workers, ∀ mark, w.stand.mark? = some mark →
          (c.desk.cursor.release o.active.id).Owns mark := fun w member _ own =>
        assured.owns_release member (gone w member) o.active.id own
      obtain ⟨same, _, _, unparked⟩ := openFailed_state
        (d := { c.desk with cursor := c.desk.cursor.release o.active.id }) loading error
      obtain ⟨orderly, fails, closed⟩ :=
        openFailed_marks (assured.orderly_release noneParked o.active.id) loading error
      apply later.assured closed orderly
      case owns => exact fun w member mark own => .inl (fails mark (held w member mark own))
      case stale => exact fun w member _ mark own => fails mark (held w member mark own)
      case staleParked => exact fun p isParked => by simp [unparked] at isParked
      case aborted =>
        intro w member isAborted
        rw [state, same]
        exact assured.aborted w member isAborted

theorem Worker.Fits.alike {v w : Worker} {d : Desk} (fits : Fits v d)
    (generation : v.generation = w.generation) (stand : v.stand = w.stand)
    (aborted : w.aborted = true → w.generation ≠ d.state.generation) : Fits w d := by
  obtain ⟨vGeneration, vStand, vAborted⟩ := v
  obtain ⟨wGeneration, wStand, wAborted⟩ := w
  simp only at generation stand
  subst generation stand
  exact ⟨fits.owns, fits.stale, fun duty => fits.valid ⟨duty.generation, duty.busy⟩, aborted,
    fits.left, fun duty => fits.filled ⟨duty.generation, duty.busy⟩⟩

theorem Assured.of_workers (assured : c.Assured) {workers : List Worker} {current : Option Nat}
    (same : ∀ w ∈ workers, ∃ v ∈ c.workers, v.generation = w.generation ∧ v.stand = w.stand)
    (aborted : ∀ w ∈ workers, w.aborted = true → w.generation ≠ c.state.generation) :
    ({ c with workers, current } : Crew).Assured := by
  refine assured_of_fits assured.desk (fun w member => ?_) assured.staleParked assured.opening
    assured.ready
  obtain ⟨v, old, generation, stand⟩ := same w member
  exact (assured.fits old).alike generation stand (aborted w member)

theorem assured_teardown (assured : c.Assured) (sound : c.Sound) : c.teardown.Assured := by
  have cancelled := assured_cancel assured sound
  have next : (c.call .cancel).state.generation = c.state.generation + 1 := by
    show (Desk.cancelStream _).state.generation = _
    rw [Desk.state_cancelStream]
  have le : ∀ w ∈ (c.call .cancel).workers, w.generation ≤ c.state.generation := sound.workers_le
  unfold teardown
  generalize c.call .cancel = d at cancelled next le
  have source : ∀ w ∈ d.current.elim d.workers
      (fun i => d.workers.modify i fun w => { w with aborted := true }),
      ∃ v ∈ d.workers, v.generation = w.generation ∧ v.stand = w.stand := by
    intro w member
    cases current : d.current with
    | none => exact ⟨w, by simpa [current] using member, rfl, rfl⟩
    | some j =>
      obtain ⟨i, found⟩ := List.mem_iff_getElem?.mp member
      simp only [current, Option.elim_some, List.getElem?_modify] at found
      obtain ⟨v, here, changed⟩ := Option.map_eq_some_iff.mp found
      refine ⟨v, List.mem_of_getElem? here, ?_, ?_⟩ <;> (subst changed; split <;> rfl)
  apply cancelled.of_workers source
  intro w member _ present
  obtain ⟨v, old, generation, _⟩ := source w member
  have := le v old
  omega

theorem assured_abort (assured : c.Assured) (i : Nat) : (c.abort i).Assured := by
  unfold abort
  split
  · rename_i generation page here
    have former := assured.aborted _ (List.mem_of_getElem? here) rfl
    exact assured.of_step here (assured.stays former (fun _ own => own) fun _ => rfl)
  · exact assured

theorem assured_step (assured : c.Assured) (sound : c.Sound) {move : Move}
    (courteous : c.overwrites move = false) : (c.step move).Assured := by
  cases move with
  | call request => exact assured_call assured sound request
  | teardown => exact assured_teardown assured sound
  | reply result => exact assured_reply assured sound result
  | settle => exact { assured with }
  | work i now heeds => exact assured_work assured sound i now heeds courteous
  | abort i => exact assured_abort assured i

theorem assured_run (assured : c.Assured) (sound : c.Sound) {moves : List Move}
    (courteous : c.courteous moves = true) : (c.run moves).Assured := by
  induction moves generalizing c with
  | nil => exact assured
  | cons move moves ih =>
    simp only [Crew.courteous, Bool.and_eq_true, Bool.not_eq_true'] at courteous
    exact ih (assured_step assured sound courteous.1) (sound_step sound move) courteous.2

/-- In whatever order requests, answers and steps of readers follow: as long as no reader of a
former load parks in the place of a session of the present one, a listing that offers more has a
session to read it from, and a request for more reads on there. -/
theorem offered_is_parked (base : Service.Base) (options : Options) (moves : List Move)
    (courteous : ({ base, options } : Crew).courteous moves = true) :
    let c : Crew := run { base, options } moves
    c.state.moreAvailable = true → ∃ p, c.desk.parked = some p ∧
      p.generation = c.state.generation ∧ p.session.isActive c.desk.cursor.marks = true ∧
      (c.state.status = .idle → (c.call .more).workers =
        c.workers ++ [⟨c.state.generation, .reading (Page.start p.session), false⟩]) := by
  intro c more
  have sound : c.Sound := sound_run (sound_new base options) moves
  have assured : c.Assured :=
    assured_run (assured_new base options) (sound_new base options) courteous
  obtain ⟨p, parked, own, active⟩ := assured.resumable sound more
  refine ⟨p, parked, own, active, fun idle => ?_⟩
  simp [call, Request.msg, Desk.request_parked idle more parked own active, begin, hire]

/-- A reader has the last record of its page behind it when another load is made, whose first page
is filled and parked; only then does the former reader park. A request for more finds no session of
the present load, and takes the feed for exhausted, though it has another record. -/
theorem overwritten_feed_ends :
    let base : Service.Base :=
      { url := { scheme := "http".toList, host := some (.name "h".toList) } }
    let item := Bytes.ascii "[\"00000000000000000000000000000000\",\"a\",null,2]\n"
    let load := [Move.call (.load .nil none), .reply (.ok [.chunk (item ++ item)])]
    let c : Crew := run { base, options := { pageLimit := 1, pace := 0 } }
      (load ++ List.replicate 4 (.work 0 0 true) ++ load ++ List.replicate 6 (.work 1 0 true))
    let late := c.step (.work 0 0 true)
    c.overwrites (.work 0 0 true) = true ∧ c.state.moreAvailable = true ∧
      late.state = c.state ∧ (records late.events).length = 2 ∧
      late.desk.parked.map (·.generation) = some 1 ∧ late.state.generation = 2 ∧
      (late.call .more).workers.length = 2 ∧
      (late.call .more).state = { c.state with moreAvailable := false, pages := 2 } ∧
      c.state.entries.length = 1 := by
  decide +kernel

end Crew
end TranscodeConsole.Listing
