import TranscodeConsole.Proofs.Feed.Cursor
import TranscodeConsole.Proofs.Feed.Paging
import TranscodeConsole.Proofs.Listing.Desk

/-!
A page that is read for a desk, up to its next wait or its end. While nobody interferes, the
listing shows the feed as far as it was read, and the page ends with the record that fills it or
with the feed.
-/
namespace TranscodeConsole.Listing

open Feed

structure State.Of (batch : Uuid) (filter : Filter) (s : State) : Prop where
  batch : s.batch = some batch
  filter : s.filter = filter

/-- The feed of a batch, and the pages in which it is shown. -/
structure Paging where
  batch : Uuid
  filter : Filter
  events : List (Event BatchEntry)
  closing : Closing
  closes : closing ≠ .never
  limit : Nat
  some_ : 0 < limit

/-- What stays as it is while a page is read for a desk. -/
structure Serving extends Paging where
  generation : Nat
  pages : Nat
  cursor : Cursor
  orderly : cursor.Orderly
  mark : Mark
  current : ∃ active, cursor.current = some active ∧ active.mark = mark
  valid : cursor.marks.isCancelled mark = false

namespace Serving

structure Holds (serving : Serving) (d : Desk) : Prop where
  generation : d.state.generation = serving.generation
  loading : d.state.status = .loading
  pages : d.state.pages = serving.pages
  cursor : d.cursor = serving.cursor
  unparked : d.parked = none
  lists : d.state.Of serving.batch serving.filter

structure At (serving : Serving) (d : Desk) (p : Page) : Prop where
  desk : serving.Holds d
  live : p.session.live = true
  mark : p.session.mark = serving.mark
  limit : p.session.pageLimit = serving.limit
  closing : p.session.closing = serving.closing
  said : ∃ said, Shows d.state said ∧ serving.events = said ++ rest p.session ∧
    (records said).length = serving.pages * serving.limit + p.session.onPage

structure Ended (serving : Serving) (d : Desk) (p : Page) : Prop where
  desk : serving.Holds d
  mark : p.session.mark = serving.mark
  shows : Shows d.state serving.events
  least : serving.pages * serving.limit ≤ (records serving.events).length
  most : (records serving.events).length < (serving.pages + 1) * serving.limit

def left (p : Page) : Page.Rest → Nat
  | .waiting _ => 2 * p.size
  | _ => 2 * p.size + 1

inductive Ran (serving : Serving) (p : Page) : Page.Rest → Page → Desk → Prop where
  | waits {rest : Page.Rest} {after : Page} {d : Desk} (here : serving.At d after)
      (room : after.session.onPage < serving.limit) (stands : after.StandsAt rest)
      (less : left after rest ≤ 2 * p.size) : Ran serving p rest after d
  | filled {after : Page} {d : Desk} (here : serving.At d after)
      (full : after.session.onPage = serving.limit)
      (shows : Shows d.state
        (firstRecords ((serving.pages + 1) * serving.limit) serving.events)) :
      Ran serving p (.ended .limitReached) after d
  | exhausted {after : Page} {d : Desk} (isOver : serving.Ended d after)
      (closing : serving.closing = .ended) : Ran serving p (.ended .exhausted) after d
  | failed {error : ServiceError} {after : Page} {d : Desk} (isOver : serving.Ended d after)
      (closing : serving.closing = .failed error) : Ran serving p (.failed error) after d

theorem Ran.mono {serving : Serving} {p q after : Page} {rest : Page.Rest} {d : Desk}
    (ran : serving.Ran q rest after d) (le : q.size ≤ p.size) : serving.Ran p rest after d := by
  cases ran with
  | waits here room stands less => exact .waits here room stands (by omega)
  | filled here full shows => exact .filled here full shows
  | exhausted isOver closing => exact .exhausted isOver closing
  | failed isOver closing => exact .failed isOver closing

theorem At.tells {serving : Serving} {d after : Desk} {p : Page} {session : Session}
    {told : List (Event BatchEntry)} (here : serving.At d p)
    (tells : p.session.Tells BatchEntry.read told session) (desk : serving.Holds after)
    (shows : ∀ said, Shows d.state said → Shows after.state (said ++ told)) (phase : PagePhase) :
    serving.At after { session, phase } := by
  obtain ⟨said, shown, all, count⟩ := here.said
  refine ⟨desk, tells.live, tells.mark.trans here.mark, tells.pageLimit.trans here.limit,
    tells.closing.trans here.closing, said ++ told, shows said shown, ?_, ?_⟩
  · rw [all, rest, tells.remaining, List.append_assoc]
  · rw [records_append, List.length_append, count, tells.onPage, Nat.add_assoc]

theorem Holds.record {serving : Serving} {d : Desk} (desk : serving.Holds d) (entry : BatchEntry) :
    serving.Holds (d.send (.record d.state.generation entry)) := by
  have sent := Desk.state_record desk.loading entry
  exact ⟨by rw [sent]; exact desk.generation, by rw [sent]; exact desk.loading,
    by rw [sent]; exact desk.pages, desk.cursor, desk.unparked,
    by rw [sent]; exact ⟨desk.lists.batch, desk.lists.filter⟩⟩

theorem Holds.rejected {serving : Serving} {d : Desk} (desk : serving.Holds d)
    (error : ServiceError) :
    serving.Holds (d.send (.malformed d.state.generation error.message)) := by
  have sent := Desk.state_malformed desk.loading error.message
  exact ⟨by rw [sent]; exact desk.generation, by rw [sent]; exact desk.loading,
    by rw [sent]; exact desk.pages, desk.cursor, desk.unparked,
    by rw [sent]; exact ⟨desk.lists.batch, desk.lists.filter⟩⟩

theorem At.ended {serving : Serving} {d : Desk} {p : Page} {session : Session}
    (here : serving.At d p) (room : p.session.onPage < serving.limit)
    (nothing : rest p.session = []) (mark : session.mark = p.session.mark) :
    serving.Ended d { p with session } := by
  obtain ⟨said, shown, all, count⟩ := here.said
  rw [nothing, List.append_nil] at all
  refine ⟨here.desk, mark.trans here.mark, all ▸ shown, ?_, ?_⟩
  · rw [all, count]
    exact Nat.le_add_right _ _
  · rw [all, count, Nat.add_mul, Nat.one_mul]
    omega

theorem ran_offer {serving : Serving} {d : Desk} {p : Page} {session : Session}
    {entry : BatchEntry} (now : Nat) (here : serving.At d p)
    (room : p.session.onPage < serving.limit)
    (tells : p.session.Tells BatchEntry.read [.record entry] session)
    (smaller : session.size < p.session.size) (pulls : p.phase = .pulling) :
    let answered := ({ p with session } : Page).answer true now
    serving.Ran p (answered.1.elim answered.2.rest .ended) answered.2
      (d.send (.record d.state.generation entry)) := by
  have shows : ∀ said, Shows d.state said →
      Shows (d.send (.record d.state.generation entry)).state (said ++ [.record entry]) :=
    fun said shown => shown.record here.desk.loading entry
  have goesOn := here.tells tells (here.desk.record entry) shows
  have count : session.onPage = p.session.onPage + 1 := tells.onPage
  have limit : session.pageLimit = serving.limit := tells.pageLimit.trans here.limit
  have answered := ({ p with session } : Page).answered_taken now
  generalize ({ p with session } : Page).answer true now = result at answered
  obtain ⟨how, next⟩ := result
  simp only at answered
  cases answered with
  | full full =>
    have full : session.pageLimit ≤ session.onPage := full
    refine .filled (goesOn p.phase) (by simp only; omega) ?_
    obtain ⟨said, shown, all, counted⟩ := here.said
    have prefix_ := firstRecords_record said entry (rest session)
    have number : (records said).length + 1 = (serving.pages + 1) * serving.limit := by
      rw [counted, Nat.add_mul, Nat.one_mul]
      omega
    rw [number] at prefix_
    have whole : serving.events = said ++ .record entry :: rest session := by
      rw [all, rest, tells.remaining]
      rfl
    rw [whole, prefix_]
    exact shows said shown
  | yields room =>
    refine .waits (goesOn .yielding) (limit ▸ room) (.yielding rfl) ?_
    simp only [left, Option.elim_none, Page.size, Page.rest, pulls, reduceCtorEq, ite_false, ite_true]
    omega
  | pauses room =>
    refine .waits (goesOn (.pausing (now + session.pace))) (limit ▸ room) (.pausing rfl) ?_
    simp only [left, Option.elim_none, Page.size, Page.rest, pulls, reduceCtorEq, ite_false, ite_true]
    omega

theorem ran_run (serving : Serving) (now : Nat) {p : Page} {d : Desk} (here : serving.At d p)
    (room : p.session.onPage < serving.limit) :
    let ran := Page.run BatchEntry.read (Desk.consumer serving.generation serving.mark) now p d
    serving.Ran p ran.1 ran.2.1 ran.2.2 := by
  induction size : p.size using Nat.strongRecOn generalizing p d with
  | ind k ih =>
    subst size
    -- Nobody else is at the desk during the turn, so the session stays valid all the while.
    have open_ : (Desk.consumer serving.generation serving.mark).cancelled d = false := by
      show d.cursor.marks.isCancelled serving.mark = false
      rw [here.desk.cursor]
      exact serving.valid
    have stepped := p.stepped_step BatchEntry.read now here.live
    rw [Page.run_eq (Desk.steady_consumer _ _), open_]
    generalize p.step BatchEntry.read false now = result at stepped
    obtain ⟨step, after⟩ := result
    simp only at stepped ⊢
    cases stepped with
    | @offer entry after pulls tells smaller =>
      have taken : (Desk.consumer serving.generation serving.mark).take entry d =
          (true, d.send (.record d.state.generation entry)) := by
        simp [Desk.consumer, Desk.offer, here.desk.generation]
      have ran := ran_offer now here room tells smaller pulls
      simp only [Page.proceed_record, taken]
      exact ran
    | @rejected error after pulls tells smaller =>
      have desk := here.desk.rejected error
      have goesOn := here.tells tells desk (fun _ shown => shown.rejected here.desk.loading error)
        p.phase
      have less : ({ p with session := after } : Page).size < p.size := by
        simp only [Page.size]
        omega
      have count : after.onPage = p.session.onPage := tells.onPage
      have ran := ih _ less goesOn (by simpa [count] using room) rfl
      rw [here.desk.generation] at ran
      exact ran.mono (Nat.le_of_lt less)
    | @moved after tells smaller =>
      have goesOn := here.tells tells here.desk (fun said shown => by simpa using shown) after.phase
      have count : after.session.onPage = p.session.onPage := tells.onPage
      exact (ih _ smaller goesOn (by simpa [count] using room) rfl).mono (Nat.le_of_lt smaller)
    | pausing pauses early => exact .waits here room (.pausing pauses) (Nat.le_refl _)
    | @waiting time after pulls tells waits late smaller =>
      have goesOn := here.tells tells here.desk (fun said shown => by simpa using shown) p.phase
      have count : after.onPage = p.session.onPage := tells.onPage
      refine .waits goesOn (by simpa [count] using room) (.starved pulls waits) ?_
      simp only [left, Page.size]
      omega
    | silent tells never => exact absurd (here.closing.symm.trans never) serving.closes
    | exhausted nothing ended mark =>
      exact .exhausted (here.ended room nothing mark) (here.closing.symm.trans ended)
    | failed nothing closing mark =>
      exact .failed (here.ended room nothing mark) (here.closing.symm.trans closing)

theorem ran_resumed (serving : Serving) {now : Nat} {p : Page} {d : Desk} {rest : Page.Rest}
    (here : serving.At d p) (room : p.session.onPage < serving.limit) (stands : p.StandsAt rest)
    (isOver : ∀ time, rest = .waiting (some time) → time ≤ now) :
    ∃ q : Page, q.size < p.size ∧
      let ran := Page.run BatchEntry.read (Desk.consumer serving.generation serving.mark) now p d
      serving.Ran q ran.1 ran.2.1 ran.2.2 := by
  obtain ⟨q, tells, smaller, same⟩ := stands.resumes isOver BatchEntry.read here.live
  have open_ : (Desk.consumer serving.generation serving.mark).cancelled d = false := by
    show d.cursor.marks.isCancelled serving.mark = false
    rw [here.desk.cursor]
    exact serving.valid
  have goesOn := here.tells tells here.desk (fun said shown => by simpa using shown) q.phase
  have count : q.session.onPage = p.session.onPage := tells.onPage
  refine ⟨q, smaller, ?_⟩
  rw [same _ d (Desk.steady_consumer _ _) open_]
  exact serving.ran_run now goesOn (by simpa [count] using room)

end Serving
end TranscodeConsole.Listing
