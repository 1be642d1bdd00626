import TranscodeConsole.Proofs.Listing.Marks
import TranscodeConsole.Proofs.Listing.Serving

/-!
A listing between two pages: what is shown once the reader of a page has left, and what the next
request for more begins with.
-/
namespace TranscodeConsole.Listing

open Feed

inductive Paging.Rests (paging : Paging) (asked : Nat) (d : Desk) : Prop where
  | parked {session : Session} (lists : d.state.Of paging.batch paging.filter)
      (enough : asked * paging.limit ≤ (records paging.events).length)
      (idle : d.state.status = .idle) (more : d.state.moreAvailable = true)
      (pages : d.state.pages = asked) (noError : d.state.lastError = none)
      (shows : Shows d.state (firstRecords (asked * paging.limit) paging.events))
      (parked : d.parked = some ⟨d.state.generation, session⟩) (live : session.live = true)
      (valid : d.cursor.marks.isCancelled session.mark = false)
      (limit : session.pageLimit = paging.limit) (closing : session.closing = paging.closing)
      (said : ∃ said, Shows d.state said ∧ paging.events = said ++ rest session ∧
        (records said).length = asked * paging.limit)
  | closed (lists : d.state.Of paging.batch paging.filter)
      (few : (records paging.events).length < asked * paging.limit)
      (idle : d.state.status = .idle) (noMore : d.state.moreAvailable = false)
      (shows : Shows d.state paging.events) (unparked : d.parked = none)
      (ending : match paging.closing with
        | .failed error =>
          d.state.pages = (records paging.events).length / paging.limit ∧
            d.state.lastError = some error.userMessage
        | _ =>
          d.state.pages = (records paging.events).length / paging.limit + 1 ∧
            d.state.lastError = none)

namespace Serving

theorem Holds.pageFilled {serving : Serving} {d : Desk} (desk : serving.Holds d)
    (session : Session) :
    d.pageOver serving.generation session .limitReached =
      { d with
        state := d.state.finishPage true, parked := some ⟨serving.generation, session⟩ } := by
  obtain ⟨generation, loading, pages, cursor, unparked, _⟩ := desk
  simp [Desk.pageOver, Desk.park, Desk.unpark, unparked, Desk.send, Desk.apply, update,
    State.accepts, generation, loading]

theorem Holds.exhausted {serving : Serving} {d : Desk} (desk : serving.Holds d)
    (session : Session) :
    d.pageOver serving.generation session .exhausted =
      { d with
        state := d.state.finishPage false, cursor := d.cursor.cancelMark session.mark } := by
  obtain ⟨generation, loading, pages, cursor, unparked, _⟩ := desk
  simp [Desk.pageOver, Desk.letGo, Desk.send, Desk.apply, update, State.accepts, generation,
    loading]

theorem Holds.failed {serving : Serving} {d : Desk} (desk : serving.Holds d) (session : Session)
    (error : ServiceError) :
    d.feedFailed serving.generation session error =
      { d with
        state := { d.state with
          status := .idle, moreAvailable := false, lastError := some error.userMessage,
          dirty := true }
        cursor := d.cursor.cancelMark session.mark } := by
  obtain ⟨generation, loading, pages, cursor, unparked, _⟩ := desk
  simp [Desk.feedFailed, Desk.letGo, Desk.send, Desk.apply, update, State.accepts, generation,
    loading]

structure Left (serving : Serving) (d : Desk) : Prop where
  rests : serving.Rests (serving.pages + 1) d
  orderly : d.Orderly
  stale : ∀ mark, serving.cursor.marks.isCancelled mark = true →
    d.cursor.marks.isCancelled mark = true

theorem At.left {serving : Serving} {d : Desk} {p : Page} (here : serving.At d p)
    (full : p.session.onPage = serving.limit)
    (shows : Shows d.state
      (firstRecords ((serving.pages + 1) * serving.limit) serving.events)) :
    serving.Left (d.pageOver serving.generation p.session .limitReached) := by
  obtain ⟨said, shown, all, count⟩ := here.said
  have number : (records said).length = (serving.pages + 1) * serving.limit := by
    rw [count, full, Nat.add_mul, Nat.one_mul]
  have enough : (serving.pages + 1) * serving.limit ≤ (records serving.events).length := by
    rw [all, records_append, List.length_append, number]
    exact Nat.le_add_right _ _
  have valid : d.cursor.marks.isCancelled p.session.mark = false := by
    rw [here.desk.cursor, here.mark]
    exact serving.valid
  rw [here.desk.pageFilled]
  refine ⟨?_, ⟨here.desk.cursor ▸ serving.orderly, fun q parked => ?_⟩, fun mark old => ?_⟩
  · have lists := here.desk.lists
    refine .parked ⟨lists.batch, lists.filter⟩ enough rfl rfl ?_ rfl
      ⟨shows.entries, shows.malformed⟩ ?_ here.live valid
      here.limit here.closing ⟨said, ⟨shown.entries, shown.malformed⟩, all, number⟩
    · show d.state.pages + 1 = serving.pages + 1
      rw [here.desk.pages]
    · show some _ = some _
      rw [← here.desk.generation]
      rfl
  · cases parked
    show d.cursor.Owns p.session.mark
    rw [here.desk.cursor, here.mark]
    exact .inr serving.current
  · show d.cursor.marks.isCancelled mark = true
    rw [here.desk.cursor]
    exact old

theorem Ended.left {serving : Serving} {d : Desk} {p : Page} (isOver : serving.Ended d p)
    {state : State}
    (rests : serving.Rests (serving.pages + 1)
      { d with state, cursor := d.cursor.cancelMark p.session.mark }) :
    serving.Left { d with state, cursor := d.cursor.cancelMark p.session.mark } := by
  refine ⟨rests, ⟨?_, fun q parked => ?_⟩, fun mark old => ?_⟩
  · show (d.cursor.cancelMark p.session.mark).Orderly
    rw [isOver.desk.cursor, isOver.mark]
    exact serving.orderly.cancelMark (.inr serving.current)
  · exact absurd (isOver.desk.unparked.symm.trans parked) (by simp)
  · simp [Cursor.cancelMark, isOver.desk.cursor, old]

theorem Ended.pages {serving : Serving} {d : Desk} {p : Page} (isOver : serving.Ended d p) :
    d.state.pages = (records serving.events).length / serving.limit := by
  rw [isOver.desk.pages, Nat.div_eq_of_lt_le isOver.least isOver.most]

theorem Ended.left_exhausted {serving : Serving} {d : Desk} {p : Page} (isOver : serving.Ended d p)
    (closing : serving.closing = .ended) :
    serving.Left (d.pageOver serving.generation p.session .exhausted) := by
  have lists : (d.state.finishPage false).Of serving.batch serving.filter :=
    ⟨isOver.desk.lists.batch, isOver.desk.lists.filter⟩
  rw [isOver.desk.exhausted]
  refine isOver.left (.closed lists isOver.most rfl rfl ⟨isOver.shows.entries, isOver.shows.malformed⟩
    isOver.desk.unparked ?_)
  rw [closing]
  exact ⟨congrArg (· + 1) isOver.pages, rfl⟩

theorem Ended.left_failed {serving : Serving} {d : Desk} {p : Page} (isOver : serving.Ended d p)
    {error : ServiceError} (closing : serving.closing = .failed error) :
    serving.Left (d.feedFailed serving.generation p.session error) := by
  have lists : ({ d.state with
      status := .idle, moreAvailable := false, lastError := some error.userMessage, dirty := true } :
      State).Of serving.batch serving.filter :=
    ⟨isOver.desk.lists.batch, isOver.desk.lists.filter⟩
  rw [isOver.desk.failed]
  refine isOver.left (.closed lists isOver.most rfl rfl ⟨isOver.shows.entries, isOver.shows.malformed⟩
    isOver.desk.unparked ?_)
  rw [closing]
  exact ⟨isOver.pages, rfl⟩

end Serving
namespace Paging

/-- What is to be seen once so many pages were asked for. -/
structure Lists (paging : Paging) (asked : Nat) (v : View) : Prop where
  batch : v.batch = some paging.batch
  filter : v.filter = paging.filter
  loading : v.loading = false
  entries : v.entries = (records paging.events).take (asked * paging.limit)
  malformed : v.malformed = (rejected (firstRecords (asked * paging.limit) paging.events)).length
  more : v.moreAvailable = true ↔ asked * paging.limit ≤ (records paging.events).length
  pages : v.pages = min asked ((records paging.events).length / paging.limit +
    if paging.closing = .ended then 1 else 0)
  lastError : v.lastError = match paging.closing with
    | .failed error =>
      if (records paging.events).length < asked * paging.limit then some error.userMessage else none
    | _ => none

theorem Rests.lists {paging : Paging} {asked : Nat} {d : Desk} (rests : paging.Rests asked d) :
    paging.Lists asked d.state.view := by
  have positive := paging.some_
  cases rests with
  | parked lists enough idle more pages noError shows =>
    refine ⟨lists.batch, lists.filter, by simp [State.view, idle], ?_, shows.malformed,
      by simp [State.view, more, enough], ?_, ?_⟩
    · rw [← records_firstRecords]
      exact shows.entries
    · have le : asked ≤ (records paging.events).length / paging.limit :=
        (Nat.le_div_iff_mul_le positive).mpr enough
      show d.state.pages = _
      rw [pages]
      omega
    · show d.state.lastError = _
      rw [noError]
      split
      · rw [if_neg (Nat.not_lt.mpr enough)]
      · rfl
  | closed lists few idle noMore shows unparked ending =>
    have lt : (records paging.events).length / paging.limit < asked :=
      (Nat.div_lt_iff_lt_mul positive).mpr few
    refine ⟨lists.batch, lists.filter, by simp [State.view, idle], ?_, ?_,
      by simp [State.view, noMore, few], ?_, ?_⟩
    · rw [List.take_of_length_le (Nat.le_of_lt few)]
      exact shows.entries
    · rw [firstRecords_all few]
      exact shows.malformed
    · show d.state.pages = _
      cases closing : paging.closing with
      | ended =>
        rw [closing] at ending
        rw [ending.1, if_pos rfl]
        omega
      | failed error =>
        rw [closing] at ending
        rw [ending.1, if_neg (by simp)]
        omega
      | never => exact absurd closing paging.closes
    · show d.state.lastError = _
      cases closing : paging.closing with
      | ended =>
        rw [closing] at ending
        exact ending.2
      | failed error =>
        rw [closing] at ending
        simp only [few, ite_true]
        exact ending.2
      | never => exact absurd closing paging.closes

theorem Lists.of_ended {paging : Paging} {asked : Nat} {v : View} (lists : paging.Lists asked v)
    (ended : paging.closing = .ended) {count : Nat}
    (counted : (records paging.events).length = count) :
    v.entries.length = min (asked * paging.limit) count ∧
      v.pages = min asked (count / paging.limit + 1) ∧
      v.moreAvailable = decide (asked * paging.limit ≤ count) ∧ v.lastError = none := by
  subst counted
  refine ⟨?_, ?_, ?_, ?_⟩
  · rw [lists.entries, List.length_take]
  · rw [lists.pages, if_pos ended]
  · rw [Bool.eq_iff_iff, lists.more, decide_eq_true_eq]
  · rw [lists.lastError, ended]

structure Begins (paging : Paging) (asked : Nat) (d : Desk) (session : Session) (serving : Serving) :
    Prop where
  paging : serving.toPaging = paging
  pages : serving.pages = asked
  here : serving.At d (Page.start session)

theorem Rests.more {paging : Paging} {asked : Nat} {d : Desk} (rests : paging.Rests asked d)
    (orderly : d.Orderly) (more : d.state.moreAvailable = true) :
    ∃ session serving, (d.request .more).1 = [.read d.state.generation session] ∧
      serving.generation = d.state.generation ∧
      paging.Begins asked (d.request .more).2 session serving := by
  cases rests with
  | @parked session lists enough idle _ pages noError shows parked live valid limit closing said =>
    obtain ⟨said, shown, all, count⟩ := said
    have owned := orderly.parked _ parked
    have current : ∃ active, d.cursor.current = some active ∧ active.mark = session.mark := by
      rcases owned with cancelled | current
      · exact absurd (valid.symm.trans cancelled) (by simp)
      · exact current
    have active : session.isActive d.cursor.marks = true := by
      simp [Session.isActive, live, valid]
    have asks := Desk.request_parked idle more parked rfl active
    refine ⟨session, { paging with
      generation := d.state.generation, pages := asked, cursor := d.cursor,
      orderly := orderly.cursor, mark := session.mark, current, valid }, by rw [asks], rfl,
      rfl, rfl, ?_⟩
    rw [asks]
    exact ⟨⟨rfl, rfl, pages, rfl, rfl, ⟨lists.batch, lists.filter⟩⟩, live, rfl, limit, closing, said,
      ⟨shown.entries, shown.malformed⟩, all, count⟩
  | closed _ few idle noMore => exact absurd (noMore.symm.trans more) (by simp)

theorem Rests.later {paging : Paging} {asked : Nat} {d : Desk} (rests : paging.Rests asked d)
    (noMore : d.state.moreAvailable = false) (more : Nat) : paging.Rests (asked + more) d := by
  cases rests with
  | parked _ _ _ isMore => exact absurd (noMore.symm.trans isMore) (by simp)
  | closed lists few idle _ shows unparked ending =>
    refine .closed lists ?_ idle noMore shows unparked ending
    rw [Nat.add_mul]
    omega

end Paging
end TranscodeConsole.Listing
