import TranscodeConsole.Proofs.Listing.LatestLoad
import TranscodeConsole.Proofs.Listing.Turns
import TranscodeConsole.Proofs.Rehearsal.Orderly

/-!
A listing on its stage is one of the ways in which a crew can work: whatever is asked of it, and
however long it is left alone, some order of the steps of its readers comes to the same.
-/
namespace TranscodeConsole.Rehearsal.Listings

open Feed Listing

/-- The crew has the desk of the listing, and reads the same pages. -/
structure Enacts (c : Crew) (w : Listings) : Prop where
  base : c.base = w.script.base
  options : c.options = w.options
  desk : c.desk = w.desk
  started : c.workers.length = w.started
  readers : ∀ r ∈ w.readers, c.workers[r.id]? = some ⟨r.generation, .reading r.page, false⟩
  current : c.current = w.current

/-! ### Readers at work -/

def Comes (c : Crew) (w : Listings) : Prop :=
  ∃ moves, Enacts (c.run moves) w ∧ (c.run moves).opening = c.opening

variable {c : Crew} {w : Listings}

theorem Enacts.comes (enacts : Enacts c w) : Comes c w := ⟨[], enacts, rfl⟩

theorem Comes.trans {after : Listings} (comes : Comes c w)
    (later : ∀ d : Crew, Enacts d w → Comes d after) : Comes c after := by
  obtain ⟨moves, enacts, opening⟩ := comes
  obtain ⟨further, enacts', opening'⟩ := later _ enacts
  refine ⟨moves ++ further, ?_, ?_⟩ <;> rw [Crew.run, List.foldl_append]
  · exact enacts'
  · exact opening'.trans opening

theorem Enacts.turn (enacts : Enacts c w) (now id : Nat) : Comes c (w.turn now id) := by
  unfold Listings.turn
  cases found : w.find? id with
  | none => exact enacts.comes
  | some r =>
    obtain ⟨member, rfl⟩ := mem_of_find found
    have own : r.page.session.mark = mark r := rfl
    have steps : Steps now r.generation (.reading r.page) w.desk _ _ := steps_run r.page own
    obtain ⟨moves, ran⟩ := steps.run enacts.desk (enacts.readers r member)
    have inside : r.id < c.workers.length :=
      (List.getElem?_eq_some_iff.mp (enacts.readers r member)).1
    simp only
    generalize Page.run BatchEntry.read (Desk.consumer r.generation (mark r)) now r.page w.desk =
      result at ran
    obtain ⟨rest, page, desk⟩ := result
    refine ⟨moves, ?_, by rw [ran]⟩
    rw [ran]
    have others : ∀ {stand : Stand}, ∀ v ∈ w.readers.filter (·.id ≠ r.id),
        (c.workers.set r.id ⟨r.generation, stand, false⟩)[v.id]? =
          some ⟨v.generation, .reading v.page, false⟩ := by
      intro stand v old
      obtain ⟨old, other⟩ := List.mem_filter.mp old
      have other : v.id ≠ r.id := by simpa using other
      rw [List.getElem?_set_ne other.symm]
      exact enacts.readers v old
    have gone : ∀ after : Desk, Enacts
        { c with desk := after, workers := c.workers.set r.id ⟨r.generation, .gone, false⟩ }
        { w with desk := after, readers := w.readers.filter (·.id ≠ r.id) } := fun after =>
      ⟨enacts.base, enacts.options, rfl, by simpa using enacts.started, others, enacts.current⟩
    have waits : ∀ wake, Enacts
        { c with desk, workers := c.workers.set r.id ⟨r.generation, .reading page, false⟩ }
        { w with
          desk, readers := w.readers.filter (·.id ≠ r.id) ++ [{ r with page, wake }] } := by
      intro wake
      refine ⟨enacts.base, enacts.options, rfl, by simpa using enacts.started, ?_, enacts.current⟩
      intro v now
      rcases List.mem_append.mp now with old | last
      · exact others v old
      · rw [List.mem_singleton.mp last]
        simp [inside]
    cases rest with
    | waiting time => exact waits _
    | yielding => exact waits _
    | ended how => exact gone _
    | failed error => exact gone _

theorem Enacts.run {s : Desktop} (enacts : Enacts c s.world) (orderly : Orderly s)
    (await : Stage.Await Listings) : Comes c (s.run plan await).2.world :=
  (Stage.run_keeps (fun w => w.WellKept ∧ Comes c w)
    (fun _ kept => kept.1.ids)
    (fun _ now id kept => ⟨kept.1.turn now id, kept.2.trans fun _ enacts => enacts.turn now id⟩)
    await orderly.tidy ⟨orderly.toWellKept, enacts.comes⟩).2.2

/-! ### Requests -/

theorem Enacts.hire (enacts : Enacts c w) (generation : Nat) (session : Session) :
    Enacts (c.hire generation session) (w.startReader generation session) := by
  refine ⟨enacts.base, enacts.options, enacts.desk, ?_, ?_, ?_⟩
  · simp [Crew.hire, startReader, enacts.started]
  · intro r member
    rcases List.mem_append.mp member with old | new
    · have here := enacts.readers r old
      have inside := (List.getElem?_eq_some_iff.mp here).1
      simpa [Crew.hire, List.getElem?_append_left inside] using here
    · rw [List.mem_singleton.mp new]
      simp [Crew.hire, enacts.started]
  · exact congrArg some enacts.started

theorem errands_request (d : Desk) (request : Request) :
    (d.request request.msg).1 = [] ∨ ∃ errand, (d.request request.msg).1 = [errand] := by
  have resumed : ∀ d : Desk, ∀ generation,
      (d.carryOut [.resumeStream generation]).1 = [] ∨
        ∃ errand, (d.carryOut [.resumeStream generation]).1 = [errand] := by
    intro d generation
    simp only [Desk.carryOut]
    generalize d.resume generation = result
    obtain ⟨taken, after⟩ := result
    cases taken with
    | none => exact .inl rfl
    | some session => exact .inr ⟨_, rfl⟩
  by_cases heeded : d.state.heeds request.msg = true
  · cases request with
    | load batch filter =>
      exact .inr ⟨_, congrArg Prod.fst (Desk.request_asked rfl)⟩
    | changeFilter filter =>
      obtain ⟨⟨batch, filter⟩, asked⟩ := Option.isSome_iff_exists.mp heeded
      exact .inr ⟨_, congrArg Prod.fst (Desk.request_asked asked)⟩
    | more =>
      have ready : d.state.status = .idle ∧ d.state.moreAvailable = true := by
        simpa [State.heeds, Request.msg] using heeded
      simp only [Request.msg, Desk.request_more ready.1 ready.2]
      exact resumed _ _
    | cancel => exact .inl rfl
  · rw [Desk.request_ignored (by simpa using heeded)]
    exact .inl rfl

section Reply

variable {d : Crew} {w : Listings} {generation : Nat} {active : ActiveSession} {url : Url}
  (enacts : Enacts d w) (opening : d.opening = some ⟨generation, active, url⟩)
include enacts opening

theorem Enacts.reply_ok (items : List BodyItem) :
    Enacts (d.reply (.ok items)) (w.startReader generation
      (Session.start active.id url.render active.mark items w.options)) := by
  have opened : Enacts { d with opening := none, feed := items } w :=
    ⟨enacts.base, enacts.options, enacts.desk, enacts.started, enacts.readers, enacts.current⟩
  have hired := opened.hire generation
    (Session.start active.id url.render active.mark items w.options)
  simp only [Crew.reply, opening]
  rw [← enacts.options] at hired ⊢
  exact hired

theorem Enacts.reply_error (error : ServiceError) :
    Enacts (d.reply (.error error)) { w with
      desk := Desk.openFailed { w.desk with cursor := w.desk.cursor.release active.id }
        generation error } := by
  simp only [Crew.reply, opening]
  refine ⟨enacts.base, enacts.options, ?_, enacts.started, enacts.readers, enacts.current⟩
  exact congrArg (fun desk : Desk => Desk.openFailed
    { desk with cursor := desk.cursor.release active.id } generation error) enacts.desk

end Reply

theorem Enacts.openFeed {s : Desktop} (enacts : Enacts c s.world) (orderly : Orderly s)
    (limit : Deadline) (generation : Nat) (batch : Uuid) (filter : Filter) :
    ∃ moves, Enacts ((c.begin (.openFeed generation batch filter)).run moves)
      (openFeed limit generation batch filter s).2.world := by
  have base := congrArg (Service.Base.resolve · Service.batchContent (Desk.query batch filter))
    enacts.base
  simp only [Listings.openFeed, Crew.begin]
  rw [base]
  cases s.world.script.base.resolve Service.batchContent (Desk.query batch filter) with
  | error error =>
    refine ⟨[], ⟨enacts.base, enacts.options, ?_, enacts.started, enacts.readers, enacts.current⟩⟩
    exact congrArg (Desk.openFailed · generation error) enacts.desk
  | ok url =>
    have connecting := orderly.connecting (s.world.script.callOpenStream s.now url).2
    have base : (s.world.script.callOpenStream s.now url).2.base = s.world.script.base := rfl
    rw [enacts.desk]
    simp only
    generalize s.world.script.callOpenStream s.now url = called at connecting base ⊢
    obtain ⟨reply, script⟩ := called
    generalize s.world.desk.cursor.connect = connected at connecting ⊢
    obtain ⟨active, cursor⟩ := connected
    simp only at connecting base ⊢
    let waiting : Desktop :=
      { s with world := { s.world with script, desk := { s.world.desk with cursor } } }
    let waits : Crew := { c with
      desk := { s.world.desk with cursor }, opening := some ⟨generation, active, url⟩ }
    have begins : Enacts waits waiting.world :=
      ⟨enacts.base.trans base.symm, enacts.options, rfl, enacts.started, enacts.readers,
        enacts.current⟩
    -- The readers go on while the feed is awaited; the answer of the service comes last.
    obtain ⟨moves, slept, opening⟩ :
        Comes waits (waiting.sleep plan reply.due limit).2.world :=
      begins.run connecting.orderly _
    show ∃ moves, Enacts (waits.run moves) _
    generalize Stage.sleep plan _ _ _ = result at slept ⊢
    obtain ⟨done, woken⟩ := result
    cases done with
    | false => exact ⟨moves, slept⟩
    | true =>
      refine ⟨moves ++ [.reply reply.result], ?_⟩
      rw [Crew.run, List.foldl_append]
      show Enacts ((waits.run moves).reply reply.result) _
      generalize waits.run moves = d at slept opening
      simp only [Bool.not_true, Bool.false_eq_true, ite_false]
      cases reply.result with
      | ok items => exact slept.reply_ok opening items
      | error error => exact slept.reply_error opening error

theorem Enacts.ask {s : Desktop} (enacts : Enacts c s.world) (orderly : Orderly s)
    (limit : Deadline) (request : Request) :
    ∃ moves, Enacts (c.run moves) (Listings.request limit request.msg s).2.world := by
  have orderly' := (orderly.onDesk (orderly.desk.request request.msg).1).orderly
  have few := errands_request s.world.desk request
  suffices called : ∃ moves,
      Enacts ((c.call request).run moves) (Listings.request limit request.msg s).2.world by
    obtain ⟨moves, enacts⟩ := called
    exact ⟨.call request :: moves, enacts⟩
  simp only [Listings.request, Crew.call, enacts.desk]
  generalize s.world.desk.request request.msg = result at orderly' few ⊢
  obtain ⟨errands, desk⟩ := result
  simp only at orderly' few ⊢
  let asks : Crew :=
    { c with desk, opening := none, feed := if c.starts request then [] else c.feed }
  have begins : Enacts asks { s.world with desk } :=
    ⟨enacts.base, enacts.options, rfl, enacts.started, enacts.readers, enacts.current⟩
  show ∃ moves, Enacts ((errands.foldl Crew.begin asks).run moves) _
  rcases few with rfl | ⟨errand, rfl⟩
  · exact ⟨[], begins⟩
  · cases errand with
    | read generation session => exact ⟨[], begins.hire generation session⟩
    | openFeed generation batch filter =>
      obtain ⟨moves, opened⟩ := begins.openFeed orderly' limit generation batch filter
      refine ⟨moves, ?_⟩
      simp only [runErrands]
      generalize Listings.openFeed limit generation batch filter _ = result at opened ⊢
      obtain ⟨done, after⟩ := result
      cases done <;> exact opened

theorem Enacts.teardown {s : Desktop} (enacts : Enacts c s.world) :
    ∃ moves, Enacts (c.run moves) s.world.teardown := by
  have cancels : Enacts (c.call .cancel) s.world.cancel :=
    ⟨enacts.base, enacts.options, congrArg (fun d : Desk => (d.request .cancel).2) enacts.desk,
      enacts.started, enacts.readers, enacts.current⟩
  suffices torn : ∃ moves, Enacts (c.teardown.run moves) s.world.teardown by
    obtain ⟨moves, torn⟩ := torn
    exact ⟨.teardown :: moves, torn⟩
  simp only [Crew.teardown, Listings.teardown]
  generalize c.call .cancel = d at cancels
  generalize s.world.cancel = w at cancels
  rw [cancels.current]
  have aside : ∀ {id : Nat}, ∀ v ∈ w.readers, v.id ≠ id →
      (d.workers.modify id fun w => { w with aborted := true })[v.id]? =
        some ⟨v.generation, .reading v.page, false⟩ := by
    intro id v member other
    rw [List.getElem?_modify, cancels.readers v member]
    simp [other.symm]
  cases w.current with
  | none =>
    exact ⟨[], cancels.base, cancels.options, cancels.desk, cancels.started, cancels.readers, rfl⟩
  | some id =>
    simp only [Option.elim_some, Option.bind_some]
    cases found : w.find? id with
    | none =>
      refine ⟨[], cancels.base, cancels.options, cancels.desk, ?_, fun v member => ?_, rfl⟩
      · simpa [Crew.run] using cancels.started
      · have other : v.id ≠ id := by simpa using List.find?_eq_none.mp found v member
        exact aside v member other
    | some r =>
      obtain ⟨member, rfl⟩ := mem_of_find found
      have here := cancels.readers r member
      have inside := (List.getElem?_eq_some_iff.mp here).1
      have aborted : (d.workers.modify r.id fun w => { w with aborted := true })[r.id]? =
          some ⟨r.generation, .reading r.page, true⟩ := by
        rw [List.getElem?_modify, here]
        simp
      refine ⟨[.abort r.id, .work r.id 0 true], ?_⟩
      simp only [Crew.run, List.foldl_cons, List.foldl_nil, Crew.step, Crew.abort, aborted]
      rw [Crew.work_here (w := ⟨r.generation, .leaving r.page.session, true⟩) (by simp [inside])]
      refine ⟨cancels.base, cancels.options, ?_, ?_, ?_, rfl⟩
      · exact congrArg (Desk.letGo · r.page.session) cancels.desk
      · simp only [List.length_set, List.length_modify]
        exact cancels.started
      · intro v old
        obtain ⟨old, other⟩ := List.mem_filter.mp old
        have other : v.id ≠ r.id := by simpa using other
        simp only [List.getElem?_set_ne other.symm]
        exact aside v old other

/-! ### Any course of events -/

theorem Enacts.perform {s : Desktop} (enacts : Enacts c s.world) (orderly : Orderly s) (act : Act) :
    ∃ moves, Enacts (c.run moves) (perform s act).world := by
  cases act with
  | ask limit request => exact enacts.ask orderly limit request
  | settle limit =>
    simp only [Listings.perform, settled]
    cases s.world.current with
    | none => exact ⟨[], enacts⟩
    | some id =>
      have unwaited : Enacts (c.step .settle) { s.world with current := none } :=
        ⟨enacts.base, enacts.options, enacts.desk, enacts.started, enacts.readers, rfl⟩
      have kept : ({ s.world with current := none } : Listings).WellKept :=
        ⟨orderly.ids, orderly.started, orderly.desk, orderly.owned⟩
      obtain ⟨moves, settles, _⟩ := unwaited.run (orderly.withWorld kept)
        { holds := fun _ w => (w.find? id).isNone, limit := some limit }
      exact ⟨.settle :: moves, settles⟩
  | wait length =>
    obtain ⟨moves, waits, _⟩ := enacts.run orderly _
    exact ⟨moves, waits⟩
  | teardown => exact enacts.teardown

theorem enacted (script : Script) (options : Options) (now : Nat) (acts : List Act) :
    ∃ moves, Enacts (Crew.run { base := script.base, options } moves)
      (performed script options now acts).world := by
  have orderly := orderly_new script options now
  have first : Enacts { base := script.base, options }
      ({ world := { script, options }, now } : Desktop).world := ⟨rfl, rfl, rfl, rfl, by simp, rfl⟩
  unfold performed
  generalize ({ base := script.base, options } : Crew) = c at first
  generalize ({ world := { script, options }, now } : Desktop) = s at first orderly
  induction acts generalizing c s with
  | nil => exact ⟨[], first⟩
  | cons act acts ih =>
    obtain ⟨moves, performs⟩ := first.perform orderly act
    obtain ⟨further, enacts⟩ := ih _ _ performs (orderly.perform act)
    refine ⟨moves ++ further, ?_⟩
    rw [Crew.run, List.foldl_append]
    exact enacts

end TranscodeConsole.Rehearsal.Listings
