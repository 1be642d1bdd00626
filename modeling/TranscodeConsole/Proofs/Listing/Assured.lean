import TranscodeConsole.Proofs.Listing.Marks
import TranscodeConsole.Proofs.Listing.Shown

/-!
Which sessions of a crew were given up. Those of former loads all were, whoever has them still; the
one of the present load was not, as long as somebody reads it or it is parked. So a page that was
filled has a session to go on with, unless a reader of a former load parks in its place.
-/
namespace TranscodeConsole.Listing

open Feed

def Stand.mark? : Stand → Option Mark
  | .reading page | .asking page _ | .handing page _ | .reporting page _ => some page.session.mark
  | .parking session | .leaving session => some session.mark
  | .ending _ session => session.map (·.mark)
  | .gone => none

structure State.Closed (s : State) : Prop where
  idle : s.status = .idle
  noMore : s.moreAvailable = false

namespace Desk

def GivenUp (d : Desk) (mark : Mark) : Prop := d.cursor.marks.isCancelled mark = true

def Ready (d : Desk) : Prop :=
  ∃ p, d.parked = some p ∧ p.generation = d.state.generation ∧ ¬ d.GivenUp p.session.mark

theorem Ready.of_same {d after : Desk} (ready : d.Ready)
    (generation : after.state.generation = d.state.generation) (cursor : after.cursor = d.cursor)
    (parked : after.parked = d.parked) : after.Ready := by
  obtain ⟨p, isParked, own, valid⟩ := ready
  refine ⟨p, parked.trans isParked, own.trans generation.symm, ?_⟩
  rw [GivenUp, cursor]
  exact valid

theorem cursor_park {d : Desk} (given : ∀ p, d.parked = some p → d.GivenUp p.session.mark)
    (generation : Nat) (session : Session) : (d.park generation session).cursor = d.cursor := by
  unfold park unpark
  split
  · rename_i p parked
    have same := letGo_cancelled (d := { d with parked := none }) (given p parked)
    show (({ d with parked := none } : Desk).letGo p.session).cursor = d.cursor
    rw [same]
  · rfl

end Desk

namespace Crew

/-- A move by which a reader of a former load parks in the place of a session of the present one. -/
def overwrites (c : Crew) : Move → Bool
  | .work i _ _ => match c.workers[i]? with
    | some ⟨generation, .parking _, _⟩ =>
      generation ≠ c.state.generation && c.desk.parked.any (·.generation = c.state.generation)
    | _ => false
  | _ => false

def courteous (c : Crew) : List Move → Bool
  | [] => true
  | move :: moves => !c.overwrites move && (c.step move).courteous moves

/-- What an assured crew says of one of its readers. -/
structure Worker.Fits (w : Worker) (d : Desk) : Prop where
  owns : ∀ mark, w.stand.mark? = some mark → d.cursor.Owns mark
  stale : w.generation ≠ d.state.generation → ∀ mark, w.stand.mark? = some mark → d.GivenUp mark
  valid : w.OnDuty d.state.generation → ∀ mark, w.stand.mark? = some mark → ¬ d.GivenUp mark
  aborted : w.aborted = true → w.generation ≠ d.state.generation
  left : w.generation = d.state.generation → ∀ session, w.stand = .leaving session →
    d.state.Closed
  filled : w.OnDuty d.state.generation → ∀ session, w.stand = .ending .pageFilled session →
    session = none ∧ d.Ready

structure Assured (c : Crew) : Prop where
  desk : c.desk.Orderly
  owns : ∀ w ∈ c.workers, ∀ mark, w.stand.mark? = some mark → c.desk.cursor.Owns mark
  stale : ∀ w ∈ c.workers, w.generation ≠ c.state.generation → ∀ mark,
    w.stand.mark? = some mark → c.desk.GivenUp mark
  staleParked : ∀ p, c.desk.parked = some p → p.generation ≠ c.state.generation →
    c.desk.GivenUp p.session.mark
  valid : ∀ w ∈ c.workers, w.OnDuty c.state.generation → ∀ mark, w.stand.mark? = some mark →
    ¬ c.desk.GivenUp mark
  opening : ∀ o, c.opening = some o →
    c.desk.cursor.Owns o.active.mark ∧ ¬ c.desk.GivenUp o.active.mark
  aborted : ∀ w ∈ c.workers, w.aborted = true → w.generation ≠ c.state.generation
  left : ∀ w ∈ c.workers, w.generation = c.state.generation → ∀ session,
    w.stand = .leaving session → c.state.Closed
  filled : ∀ w ∈ c.workers, w.OnDuty c.state.generation → ∀ session,
    w.stand = .ending .pageFilled session → session = none ∧ c.desk.Ready
  ready : c.state.moreAvailable = true → c.desk.Ready

theorem assured_new (base : Service.Base) (options : Options) :
    ({ base, options } : Crew).Assured where
  desk := ⟨Cursor.orderly_new, by simp⟩
  owns := by simp
  stale := by simp
  staleParked := by simp
  valid := by simp
  opening := by simp
  aborted := by simp
  left := by simp
  filled := by simp
  ready := by simp

variable {c : Crew}

theorem Assured.fits (assured : c.Assured) {w : Worker} (member : w ∈ c.workers) :
    Worker.Fits w c.desk :=
  ⟨assured.owns w member, assured.stale w member, assured.valid w member,
    assured.aborted w member, assured.left w member, assured.filled w member⟩

theorem assured_of_fits (desk : c.desk.Orderly) (fits : ∀ w ∈ c.workers, Worker.Fits w c.desk)
    (staleParked : ∀ p, c.desk.parked = some p → p.generation ≠ c.state.generation →
      c.desk.GivenUp p.session.mark)
    (opening : ∀ o, c.opening = some o →
      c.desk.cursor.Owns o.active.mark ∧ ¬ c.desk.GivenUp o.active.mark)
    (ready : c.state.moreAvailable = true → c.desk.Ready) : c.Assured where
  desk := desk
  owns w member := (fits w member).owns
  stale w member := (fits w member).stale
  staleParked := staleParked
  valid w member := (fits w member).valid
  opening := opening
  aborted w member := (fits w member).aborted
  left w member := (fits w member).left
  filled w member := (fits w member).filled
  ready := ready

/-! ### Readers -/

structure Assured.Step (c : Crew) (w : Worker) (stand : Stand) (desk : Desk) : Prop where
  generation : desk.state.generation = c.state.generation
  cursor : desk.cursor = c.desk.cursor
  mark : ∀ mark, stand.mark? = some mark → w.stand.mark? = some mark
  busy : stand.isOver = false → w.stand.isOver = false
  parked : ∀ p, desk.parked = some p →
    c.desk.parked = some p ∨ p.generation = w.generation ∧ w.stand.mark? = some p.session.mark
  closed : c.state.Closed → desk.state.Closed
  left : w.generation = c.state.generation → ∀ session, stand = .leaving session →
    desk.state.Closed
  filled : w.generation = c.state.generation → ∀ session, stand = .ending .pageFilled session →
    session = none ∧ desk.Ready
  still : c.desk.Ready → desk.Ready
  ready : desk.state.moreAvailable = true → desk.Ready

theorem Worker.Fits.beside {v w : Worker} {stand : Stand} {desk : Desk} (fits : Fits v c.desk)
    (step : Assured.Step c w stand desk) : Fits v desk := by
  obtain ⟨state, cursor, parked⟩ := desk
  obtain ⟨generation, sameCursor, _, _, _, closed, _, _, still, _⟩ := step
  simp only at generation sameCursor closed
  subst sameCursor
  have onDuty : v.OnDuty state.generation → v.OnDuty c.state.generation := fun duty =>
    ⟨duty.generation.trans generation, duty.busy⟩
  constructor
  case owns => exact fits.owns
  case stale => exact fun former => fits.stale fun same => former (same.trans generation.symm)
  case valid => exact fun duty => fits.valid (onDuty duty)
  case aborted => exact fun gone same => fits.aborted gone (same.trans generation)
  case left =>
    intro present session leaves
    exact closed (fits.left (present.trans generation) session leaves)
  case filled =>
    intro duty session ends
    obtain ⟨nothing, isReady⟩ := fits.filled (onDuty duty) session ends
    exact ⟨nothing, still isReady⟩

theorem Worker.Fits.moves {w : Worker} {stand : Stand} {desk : Desk} (fits : Fits w c.desk)
    (step : Assured.Step c w stand desk) : Fits { w with stand } desk := by
  obtain ⟨state, cursor, parked⟩ := desk
  obtain ⟨generation, sameCursor, mark, busy, _, _, left, filled, _, _⟩ := step
  simp only at generation sameCursor left
  subst sameCursor
  constructor
  case owns => exact fun m own => fits.owns m (mark m own)
  case stale =>
    intro former m own
    exact fits.stale (fun same => former (same.trans generation.symm)) m (mark m own)
  case valid =>
    intro duty m own
    exact fits.valid ⟨duty.generation.trans generation, busy duty.busy⟩ m (mark m own)
  case aborted => exact fun gone same => fits.aborted gone (same.trans generation)
  case left => exact fun present => left (present.trans generation)
  case filled => exact fun duty => filled (duty.generation.trans generation)

theorem Assured.of_step (assured : c.Assured) {i : Nat} {w : Worker} {stand : Stand} {desk : Desk}
    (here : c.workers[i]? = some w) (step : Assured.Step c w stand desk) :
    ({ c with desk, workers := c.workers.set i { w with stand } } : Crew).Assured := by
  have fits := assured.fits (List.mem_of_getElem? here)
  apply assured_of_fits
  case desk =>
    refine ⟨by rw [step.cursor]; exact assured.desk.cursor, fun p isParked => ?_⟩
    rw [step.cursor]
    rcases step.parked p isParked with old | ⟨_, own⟩
    · exact assured.desk.parked p old
    · exact fits.owns _ own
  case fits =>
    intro v found
    rcases List.mem_or_eq_of_mem_set found with old | rfl
    · exact (assured.fits old).beside step
    · exact fits.moves step
  case staleParked =>
    intro p isParked former
    have former : p.generation ≠ c.state.generation := fun same =>
      former (same.trans step.generation.symm)
    rw [Desk.GivenUp, step.cursor]
    rcases step.parked p isParked with old | ⟨same, own⟩
    · exact assured.staleParked p old former
    · exact fits.stale (same ▸ former) _ own
  case opening =>
    intro o isOpening
    rw [Desk.GivenUp, step.cursor]
    exact assured.opening o isOpening
  case ready => exact step.ready

theorem mark_after (page : Page) (cancelled : Bool) (now : Nat) {mark : Mark}
    (own : (Stand.after (page.step BatchEntry.read cancelled now).2
      (page.step BatchEntry.read cancelled now).1).mark? = some mark) :
    page.session.mark = mark := by
  have same := page.mark_step BatchEntry.read cancelled now
  generalize page.step BatchEntry.read cancelled now = result at own same
  obtain ⟨step, after⟩ := result
  simp only at own same
  rw [← same]
  cases step with
  | ended how => cases how <;> exact Option.some.inj own
  | _ => exact Option.some.inj own

theorem mark_handed (page : Page) (now : Nat) {mark : Mark}
    (own : (match page.answer true now with
      | (some how, page) => Stand.close page.session how
      | (none, page) => .reading page).mark? = some mark) : page.session.mark = mark := by
  have same := page.session_answer true now
  generalize page.answer true now = result at own same
  obtain ⟨how, after⟩ := result
  simp only at own same
  rw [← same]
  cases how with
  | none => exact Option.some.inj own
  | some how => cases how <;> exact Option.some.inj own

theorem mark_act (w : Worker) (now : Nat) (heeds : Bool) (d : Desk) {mark : Mark}
    (own : (w.act now heeds d).1.mark? = some mark) : w.stand.mark? = some mark := by
  obtain ⟨generation, stand, aborted⟩ := w
  cases stand with
  | reading page => exact congrArg some (mark_after page _ now own)
  | asking page entry =>
    simp only [Worker.act] at own
    split at own <;> exact own
  | handing page entry => exact congrArg some (mark_handed page now own)
  | reporting page error => exact own
  | parking session => cases own
  | ending word session => cases session <;> exact own
  | leaving session => cases own
  | gone => cases own

theorem act_desk (w : Worker) (now : Nat) (heeds : Bool) (d : Desk) :
    (∃ state, (w.act now heeds d).2 = { d with state }) ∨
      (∃ session, w.stand = .parking session) ∨ ∃ session, w.stand = .leaving session := by
  obtain ⟨generation, stand, aborted⟩ := w
  cases stand with
  | parking session => exact .inr (.inl ⟨session, rfl⟩)
  | leaving session => exact .inr (.inr ⟨session, rfl⟩)
  | _ => exact .inl ⟨_, rfl⟩

theorem busy_act (w : Worker) (now : Nat) (heeds : Bool) (d : Desk)
    (busy : (w.act now heeds d).1.isOver = false) : w.stand.isOver = false := by
  obtain ⟨generation, stand, aborted⟩ := w
  cases stand <;> first | rfl | exact busy

theorem Assured.stays (assured : c.Assured) {w : Worker}
    (former : w.generation ≠ c.state.generation) {stand : Stand}
    (mark : ∀ mark, stand.mark? = some mark → w.stand.mark? = some mark)
    (busy : stand.isOver = false → w.stand.isOver = false) : Assured.Step c w stand c.desk where
  generation := rfl
  cursor := rfl
  mark := mark
  busy := busy
  parked _ isParked := .inl isParked
  closed := id
  left present := absurd present former
  filled present := absurd present former
  still := id
  ready := assured.ready

theorem Assured.parks_late (assured : c.Assured) {w : Worker}
    (former : w.generation ≠ c.state.generation) {session : Session}
    (parks : w.stand = .parking session)
    (free : ∀ p, c.desk.parked = some p → p.generation ≠ c.state.generation) :
    Assured.Step c w (.ending .pageFilled none) (c.desk.park w.generation session) := by
  have unready : ¬ c.desk.Ready := by
    rintro ⟨p, isParked, own, _⟩
    exact free p isParked own
  constructor
  case generation => simp
  case cursor =>
    exact Desk.cursor_park (fun p isParked => assured.staleParked p isParked (free p isParked)) _ _
  case mark => rintro _ ⟨⟩
  case busy => exact fun _ => by rw [parks]; rfl
  case parked =>
    rintro p ⟨⟩
    exact .inr ⟨rfl, by rw [parks]; rfl⟩
  case closed => simp
  case left => exact fun present => absurd present former
  case filled => exact fun present => absurd present former
  case still => exact fun ready => absurd ready unready
  case ready =>
    intro more
    rw [Desk.state_park] at more
    exact absurd (assured.ready more) unready

theorem Assured.step_stale (assured : c.Assured) {i : Nat} {w : Worker} (now : Nat) (heeds : Bool)
    (here : c.workers[i]? = some w) (former : w.generation ≠ c.state.generation)
    (courteous : c.overwrites (.work i now heeds) = false) :
    Assured.Step c w (w.act now heeds c.desk).1 (w.act now heeds c.desk).2 := by
  have refused : c.state.accepts w.generation = false := by simp [State.accepts, former]
  have state := act_refused (d := c.desk) now heeds refused
  have mark : ∀ mark, (w.act now heeds c.desk).1.mark? = some mark → w.stand.mark? = some mark :=
    fun _ own => mark_act w now heeds c.desk own
  have busy := busy_act w now heeds c.desk
  obtain ⟨after, same⟩ | ⟨session, parks⟩ | ⟨session, leaves⟩ := act_desk w now heeds c.desk
  · have unchanged : (w.act now heeds c.desk).2 = c.desk := by
      rw [same] at state ⊢
      rw [show after = c.desk.state from state]
    rw [unchanged]
    exact assured.stays former mark busy
  · -- it may park, but not in the place of a session of the present load
    obtain ⟨generation, stand, aborted⟩ := w
    subst parks
    refine assured.parks_late former rfl fun p isParked own => ?_
    simp [overwrites, here, former, isParked, own] at courteous
  · have given := assured.stale w (List.mem_of_getElem? here) former session.mark
      (by rw [leaves]; rfl)
    have unchanged : (w.act now heeds c.desk).2 = c.desk := by
      simp only [Worker.act, leaves]
      exact Desk.letGo_cancelled given
    rw [unchanged]
    exact assured.stays former mark busy

/-! ### The reader on duty -/

theorem Assured.tells (assured : c.Assured) {w : Worker} (loading : c.state.status = .loading)
    {stand : Stand} {state : State} (generation : state.generation = c.state.generation)
    (mark : ∀ mark, stand.mark? = some mark → w.stand.mark? = some mark)
    (busy : stand.isOver = false → w.stand.isOver = false)
    (left : ∀ session, stand = .leaving session → state.Closed)
    (filled : ∀ session, stand ≠ .ending .pageFilled session)
    (ready : state.moreAvailable = true → c.state.moreAvailable = true ∨ c.desk.Ready) :
    Assured.Step c w stand { c.desk with state } := by
  have still : c.desk.Ready → ({ c.desk with state } : Desk).Ready := fun ready =>
    ready.of_same generation rfl rfl
  constructor
  case generation => exact generation
  case cursor => rfl
  case mark => exact mark
  case busy => exact busy
  case parked => exact fun p isParked => .inl isParked
  case closed =>
    intro closed
    simp [closed.idle] at loading
  case left => exact fun _ => left
  case filled => exact fun _ session ends => absurd ends (filled session)
  case still => exact still
  case ready =>
    intro more
    rcases ready more with before | isReady
    · exact still (assured.ready before)
    · exact still isReady

theorem after_valid {page : Page} (live : page.session.live = true) (now : Nat) :
    (∀ session, Stand.after (page.step BatchEntry.read false now).2
        (page.step BatchEntry.read false now).1 ≠ .leaving session) ∧
      ∀ session, Stand.after (page.step BatchEntry.read false now).2
        (page.step BatchEntry.read false now).1 ≠ .ending .pageFilled session := by
  have stepped := page.stepped_step BatchEntry.read now live
  generalize page.step BatchEntry.read false now = result at stepped
  obtain ⟨step, after⟩ := result
  simp only at stepped
  cases stepped <;> simp [Stand.after, Stand.close]

theorem handed_valid (page : Page) (now : Nat) :
    ∀ stand, stand = (match page.answer true now with
      | (some how, page) => Stand.close page.session how
      | (none, page) => .reading page) →
      (∀ session, stand ≠ .leaving session) ∧ ∀ session, stand ≠ .ending .pageFilled session := by
  rintro stand rfl
  have answered := page.answered_taken now
  generalize page.answer true now = result at answered
  obtain ⟨how, after⟩ := result
  simp only at answered
  cases answered <;> simp [Stand.close]

theorem Assured.parks (assured : c.Assured) (loading : c.state.status = .loading)
    (unparked : c.NoneParked) {session : Session} (valid : ¬ c.desk.GivenUp session.mark)
    {aborted : Bool} :
    Assured.Step c ⟨c.state.generation, .parking session, aborted⟩ (.ending .pageFilled none)
      (c.desk.park c.state.generation session) := by
  have cursor : (c.desk.park c.state.generation session).cursor = c.desk.cursor :=
    Desk.cursor_park (fun p isParked => assured.staleParked p isParked (unparked p isParked)) _ _
  have isReady : (c.desk.park c.state.generation session).Ready := by
    refine ⟨⟨c.state.generation, session⟩, rfl, by simp, ?_⟩
    rw [Desk.GivenUp, cursor]
    exact valid
  constructor
  case generation => simp
  case cursor => exact cursor
  case mark => rintro _ ⟨⟩
  case busy => exact fun _ => rfl
  case parked =>
    rintro p ⟨⟩
    exact .inr ⟨rfl, rfl⟩
  case closed =>
    intro closed
    simp [closed.idle] at loading
  case left => rintro _ _ ⟨⟩
  case filled =>
    rintro _ _ ⟨⟩
    exact ⟨rfl, isReady⟩
  case still => exact fun _ => isReady
  case ready => exact fun _ => isReady

theorem Assured.ends (assured : c.Assured) (loading : c.state.status = .loading) (word : LastWord)
    (session : Option Session) {w : Worker}
    (mark : ∀ mark, (session.elim Stand.gone .leaving).mark? = some mark →
      w.stand.mark? = some mark)
    (busy : (session.elim Stand.gone .leaving).isOver = false → w.stand.isOver = false)
    (filled : word = .pageFilled → session = none ∧ c.desk.Ready) :
    Assured.Step c w (session.elim .gone .leaving)
      (c.desk.send (word.msg c.state.generation)) := by
  have accepted : c.desk.state.accepts c.state.generation = true :=
    (State.accepts_iff ..).mpr ⟨rfl, loading⟩
  have generation := (update_word c.state word c.state.generation).1
  apply assured.tells loading generation mark busy
  case left =>
    intro s leaves
    cases word with
    | pageFilled =>
      rw [(filled rfl).1] at leaves
      cases leaves
    | exhausted => constructor <;> simp [LastWord.msg, update, accepted, State.finishPage]
    | failed error => constructor <;> simp [LastWord.msg, update, accepted]
  case filled =>
    intro s
    cases session <;> simp
  case ready =>
    intro more
    cases word with
    | pageFilled => exact .inr (filled rfl).2
    | exhausted => simp [LastWord.msg, update, accepted, State.finishPage] at more
    | failed error => simp [LastWord.msg, update, accepted] at more

theorem Assured.step_on_duty (assured : c.Assured) (sound : c.Sound) {i : Nat} {w : Worker}
    (now : Nat) (heeds : Bool) (here : c.workers[i]? = some w)
    (duty : w.OnDuty c.state.generation) :
    Assured.Step c w (w.act now heeds c.desk).1 (w.act now heeds c.desk).2 := by
  have member : w ∈ c.workers := List.mem_of_getElem? here
  obtain ⟨_, loading, _⟩ := sound.duty i w here duty
  have mark : ∀ mark, (w.act now heeds c.desk).1.mark? = some mark → w.stand.mark? = some mark :=
    fun _ own => mark_act w now heeds c.desk own
  have busy := busy_act w now heeds c.desk
  have valid := assured.valid w member duty
  have held := sound.held w member duty
  have filled := assured.filled w member duty
  obtain ⟨generation, stand, aborted⟩ := w
  have present : generation = c.state.generation := duty.generation
  subst present
  cases stand with
  | reading page =>
    have uncancelled : c.desk.cursor.marks.isCancelled page.session.mark = false := by
      simpa [Desk.GivenUp] using valid _ rfl
    have goesOn := after_valid (held [] page.session rfl).1.live now
    simp only [Worker.act, uncancelled, Bool.and_false] at mark busy ⊢
    exact assured.tells loading rfl mark busy (fun s leaves => absurd leaves (goesOn.1 s)) goesOn.2
      .inl
  | asking page entry =>
    simp only [Worker.act, ite_true] at mark busy ⊢
    exact assured.tells loading rfl mark busy (by rintro _ ⟨⟩)
      (by rintro _ ⟨⟩) .inl
  | handing page entry =>
    have goesOn := handed_valid page now _ rfl
    have sent := Desk.state_record loading entry
    have generation : (c.desk.send (.record c.state.generation entry)).state.generation =
        c.state.generation := by rw [sent]
    have offered : (c.desk.send (.record c.state.generation entry)).state.moreAvailable =
        c.state.moreAvailable := by rw [sent]
    exact assured.tells loading generation mark busy (fun s leaves => absurd leaves (goesOn.1 s))
      goesOn.2 fun more => .inl (offered.symm.trans more)
  | reporting page error =>
    have sent := Desk.state_malformed loading error.message
    have generation : (c.desk.reject c.state.generation error).state.generation =
        c.state.generation := by rw [Desk.reject, sent]
    have offered : (c.desk.reject c.state.generation error).state.moreAvailable =
        c.state.moreAvailable := by rw [Desk.reject, sent]
    exact assured.tells loading generation mark busy (by rintro _ ⟨⟩)
      (by rintro _ ⟨⟩) fun more => .inl (offered.symm.trans more)
  | parking session =>
    have unparked := (held [] session rfl).2
    exact assured.parks loading unparked (valid _ rfl)
  | ending word session =>
    exact assured.ends loading word session mark busy
      (fun filled' => filled session (filled' ▸ rfl))
  | leaving session => cases duty.busy
  | gone => cases duty.busy

/-! ### Listings that rest -/

theorem Sound.assured (sound : c.Sound) (closed : c.state.Closed) (desk : c.desk.Orderly)
    (owns : ∀ w ∈ c.workers, ∀ mark, w.stand.mark? = some mark → c.desk.cursor.Owns mark)
    (stale : ∀ w ∈ c.workers, w.generation ≠ c.state.generation → ∀ mark,
      w.stand.mark? = some mark → c.desk.GivenUp mark)
    (staleParked : ∀ p, c.desk.parked = some p → p.generation ≠ c.state.generation →
      c.desk.GivenUp p.session.mark)
    (aborted : ∀ w ∈ c.workers, w.aborted = true → w.generation ≠ c.state.generation) :
    c.Assured := by
  have unread : ∀ w ∈ c.workers, ¬ w.OnDuty c.state.generation := by
    intro w member duty
    obtain ⟨i, here⟩ := List.mem_iff_getElem?.mp member
    have loading := (sound.duty i w here duty).2.1
    rw [closed.idle] at loading
    cases loading
  constructor
  case desk => exact desk
  case owns => exact owns
  case stale => exact stale
  case staleParked => exact staleParked
  case valid => exact fun w member duty => absurd duty (unread w member)
  case opening =>
    intro o isOpening
    have loading := (sound.opening o isOpening).2.1
    rw [closed.idle] at loading
    cases loading
  case aborted => exact aborted
  case left => exact fun _ _ _ _ _ => closed
  case filled => exact fun w member duty => absurd duty (unread w member)
  case ready =>
    intro more
    rw [closed.noMore] at more
    cases more

theorem Assured.leaves (assured : c.Assured) {i : Nat} {w : Worker}
    (here : c.workers[i]? = some w) (present : w.generation = c.state.generation)
    {session : Session} (leaves : w.stand = .leaving session)
    (sound : ({ c with
      desk := c.desk.letGo session, workers := c.workers.set i { w with stand := .gone } } :
        Crew).Sound) :
    ({ c with
      desk := c.desk.letGo session, workers := c.workers.set i { w with stand := .gone } } :
        Crew).Assured := by
  have member : w ∈ c.workers := List.mem_of_getElem? here
  have keeps := assured.desk.letGo session (assured.owns w member _ (by rw [leaves]; rfl))
  have given : ∀ mark, c.desk.GivenUp mark → (c.desk.letGo session).GivenUp mark := by
    intro mark given
    have cancelled : c.desk.cursor.marks.isCancelled mark = true := given
    simp [Desk.GivenUp, Desk.letGo, Cursor.cancelMark, cancelled]
  have source : ∀ v ∈ c.workers.set i { w with stand := .gone }, v ∈ c.workers ∨
      v = { w with stand := .gone } := fun v found => List.mem_or_eq_of_mem_set found
  apply sound.assured (assured.left w member present session leaves) keeps.orderly
  case owns =>
    intro v found mark own
    rcases source v found with old | rfl
    · exact keeps.owns mark (assured.owns v old mark own)
    · cases own
  case stale =>
    intro v found former mark own
    rcases source v found with old | rfl
    · exact given mark (assured.stale v old former mark own)
    · cases own
  case staleParked =>
    intro p isParked former
    exact given _ (assured.staleParked p isParked former)
  case aborted =>
    intro v found gone
    rcases source v found with old | rfl
    · exact assured.aborted v old gone
    · exact assured.aborted w member gone

theorem assured_work (assured : c.Assured) (sound : c.Sound) (i now : Nat) (heeds : Bool)
    (courteous : c.overwrites (.work i now heeds) = false) : (c.work i now heeds).Assured := by
  have later := sound_work sound i now heeds
  cases here : c.workers[i]? with
  | none =>
    rw [work, here]
    exact assured
  | some w =>
    rw [work_here here] at later ⊢
    by_cases present : w.generation = c.state.generation
    · by_cases busy : w.stand.isOver = false
      · exact assured.of_step here (assured.step_on_duty sound now heeds here ⟨present, busy⟩)
      · obtain ⟨generation, stand, aborted⟩ := w
        cases stand with
        | leaving session => exact assured.leaves here present rfl later
        | gone =>
          obtain ⟨inside, same⟩ := List.getElem?_eq_some_iff.mp here
          have unchanged := List.set_getElem_self inside
          rw [same] at unchanged
          simp only [Worker.act, unchanged]
          exact assured
        | _ => exact absurd rfl busy
    · exact assured.of_step here (assured.step_stale now heeds here present courteous)

end Crew
end TranscodeConsole.Listing
