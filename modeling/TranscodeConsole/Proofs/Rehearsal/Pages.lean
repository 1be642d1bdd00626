import TranscodeConsole.Proofs.Feed.Reading
import TranscodeConsole.Proofs.Rehearsal.Orderly
import TranscodeConsole.Proofs.Rehearsal.Settling
import TranscodeConsole.Proofs.Report
import TranscodeConsole.Rehearsal.Commands

/-!
Listings page by page, as an operator asks for them: a load, then one request for more after the
other, each waited for.
-/
namespace TranscodeConsole.Rehearsal.Listings

open Feed Listing

def pagingOf (batch : Uuid) (filter : Filter) (options : Options) (items : List BodyItem)
    (closes : Body.closing items ≠ .never) : Paging where
  batch := batch
  filter := filter
  events := feedEvents BatchEntry.read (max options.lineLimit 1) (Body.closing items)
    (Body.content items)
  closing := Body.closing items
  closes := closes
  limit := max options.pageLimit 1
  some_ := by omega

structure Begun (paging : Paging) (asked : Nat) (s : Desktop) : Prop where
  attended : ∃ serving r, Attended serving s r ∧ serving.toPaging = paging ∧
    serving.pages = asked ∧ s.world.current = some r.id

structure Rested (paging : Paging) (asked : Nat) (s : Desktop) : Prop where
  rests : paging.Rests asked s.world.desk
  orderly : Orderly s
  empty : s.world.readers = []
  unwaited : s.world.current = none

theorem attended_start {serving : Serving} {s : Desktop} {session : Session} (tidy : s.Tidy)
    (ids : (s.world.readers.map (·.id)).Nodup)
    (started : ∀ r ∈ s.world.readers, r.id < s.world.started)
    (stale : ∀ r ∈ s.world.readers, s.world.Stale r)
    (here : serving.At s.world.desk (Page.start session)) :
    ∃ r, Attended serving
        { s with world := s.world.startReader serving.generation session } r ∧
      (s.world.startReader serving.generation session).current = some r.id := by
  let reader : PageReader :=
    { id := s.world.started, generation := serving.generation, page := Page.start session }
  refine ⟨reader, ⟨⟨?_, by simp [startReader, reader], ?_, rfl, here, serving.some_, .inl rfl⟩,
    ⟨tidy.queue, tidy.order⟩, fun _ => ?_⟩, rfl⟩
  · show ((s.world.readers ++ [reader]).map (·.id)).Nodup
    rw [List.map_append, List.nodup_append]
    refine ⟨ids, by simp, ?_⟩
    intro a old b new equal
    obtain ⟨v, member, rfl⟩ := List.mem_map.mp old
    have lt := started v member
    simp only [List.map_cons, List.map_nil, List.mem_singleton] at new
    have : v.id = s.world.started := equal.trans new
    omega
  · intro v member other
    rcases List.mem_append.mp member with old | new
    · exact stale v old
    · exact absurd (List.mem_singleton.mp new ▸ rfl) other
  · intro time wake
    exact nomatch wake

/-- With a late enough deadline this is done, and comes to `after`. -/
def Reaches (act : Deadline → Bool × Desktop) (after : Desktop) : Prop :=
  ∃ time, ∀ limit : Deadline, time ≤ limit.time → act limit = (true, after)

theorem openFeed_ok {limit : Deadline} (generation : Nat) {batch : Uuid} {filter : Filter}
    {s woken : Desktop} {url : Url} {items : List BodyItem} {active : ActiveSession}
    {cursor : Cursor} {reply : Pending (List BodyItem)} {script : Script}
    (resolves : s.world.script.base.resolve Service.batchContent (Desk.query batch filter) = .ok url)
    (connects : s.world.desk.cursor.connect = (active, cursor))
    (call : s.world.script.callOpenStream s.now url = (reply, script))
    (opens : reply.result = .ok items)
    (slept : ({ s with world := { s.world with script, desk := { s.world.desk with cursor } } } :
      Desktop).sleep plan reply.due limit = (true, woken)) :
    openFeed limit generation batch filter s = (true, { woken with
      world := woken.world.startReader generation
        (Session.start active.id url.render active.mark items woken.world.options) }) := by
  simp only [openFeed, resolves, connects, call, slept, opens]
  rfl

theorem serves_first {before cursor : Cursor} {active : ActiveSession}
    (fresh : Cursor.Fresh before cursor active) {old : State} {batch : Uuid} {filter : Filter}
    {desk : Desk} (begun : desk.state = old.beginLoad batch filter) (unparked : desk.parked = none)
    (source : String) (options : Options) {items : List BodyItem}
    (closes : Body.closing items ≠ .never) :
    ∃ serving : Serving, serving.toPaging = pagingOf batch filter options items closes ∧
      serving.generation = old.generation + 1 ∧ serving.pages = 0 ∧
      serving.At { desk with cursor }
        (Page.start (Session.start active.id source active.mark items options)) := by
  let serving : Serving := { pagingOf batch filter options items closes with
    generation := old.generation + 1, pages := 0, cursor := cursor
    orderly := fresh.orderly, mark := active.mark
    current := ⟨active, fresh.current, rfl⟩, valid := fresh.valid }
  refine ⟨serving, rfl, rfl, rfl, ⟨?_, ?_, ?_, rfl, unparked, ?_, ?_⟩, rfl, rfl, rfl, rfl, ?_⟩
  · exact congrArg State.generation begun
  · exact congrArg State.status begun
  · exact congrArg State.pages begun
  · exact congrArg State.batch begun
  · exact congrArg State.filter begun
  · refine ⟨[], ⟨congrArg State.entries begun, congrArg State.malformed begun⟩, rfl, ?_⟩
    simp [serving, Page.start]

theorem begun_load {s : Desktop} (orderly : Orderly s) {batch : Uuid} {filter : Filter} {url : Url}
    {items : List BodyItem}
    (resolves : s.world.script.base.resolve Service.batchContent (Desk.query batch filter) = .ok url)
    (opens : (s.world.script.callOpenStream s.now url).1.result = .ok items)
    (closes : Body.closing items ≠ .never) :
    ∃ loaded, Reaches (fun limit => request limit (.load batch filter) s) loaded ∧
      Begun (pagingOf batch filter s.world.options items closes) 0 loaded := by
  let begins : Desk := { s.world.desk with state := s.world.desk.state.beginLoad batch filter }
  have deskOrderly : begins.Orderly := ⟨orderly.desk.cursor, orderly.desk.parked⟩
  obtain ⟨⟨cursorOrderly, _⟩, given⟩ := deskOrderly.cancelStream
  have fresh := Cursor.fresh_connect cursorOrderly
  generalize connects : begins.cancelStream.cursor.connect = connected at fresh
  obtain ⟨active, cursor⟩ := connected
  generalize call : s.world.script.callOpenStream s.now url = called at opens
  obtain ⟨reply, script⟩ := called
  let waiting : Desktop := { s with
    world := { s.world with script, desk := { begins.cancelStream with cursor } } }
  -- The load gives up every session so far, before the first byte of the feed is asked for.
  have stale : ∀ r ∈ waiting.world.readers, waiting.world.Stale r := fun r member =>
    fresh.others _ (.inl (given _ (orderly.owned r member)))
  have tidy : waiting.Tidy := ⟨orderly.tidy.queue, orderly.tidy.order⟩
  obtain ⟨⟨woken, now, queue, order⟩, readers, ends, world, kept, tidy⟩ :=
    sleeps tidy orderly.ids stale reply.due
  simp only at world
  subst world
  obtain ⟨serving, paging, generation, pages, here⟩ := serves_first fresh
    (Desk.state_cancelStream begins) (Desk.parked_cancelStream begins) url.render s.world.options
    closes
  obtain ⟨r, attended, current⟩ := attended_start tidy
    (orderly.ids.sublist (kept.map _)) (fun v member => orderly.started v (kept.subset member))
    (fun v member => stale v (kept.subset member)) here
  rw [generation] at attended current
  refine ⟨_, ?_, serving, r, attended, paging, pages, current⟩
  obtain ⟨time, reaches⟩ := ends.run
  refine ⟨time, ?_⟩
  intro limit late
  have slept : waiting.sleep plan reply.due limit = _ := reaches limit late
  have asked := Desk.request_asked (d := s.world.desk) (m := .load batch filter) rfl
  have opened := openFeed_ok (s.world.desk.state.generation + 1)
    (s := { s with world := { s.world with desk := begins.cancelStream } })
    resolves connects call opens slept
  simp only [request, asked, runErrands]
  rw [opened]

theorem attended_unwaited {serving : Serving} {s : Desktop} {r : PageReader}
    (attended : Attended serving s r) (current : Option Nat) :
    Attended serving { s with world := { s.world with current } } r := by
  obtain ⟨⟨ids, member, stale, generation, here, room, rests⟩, tidy, queued⟩ := attended
  exact ⟨⟨ids, member, stale, generation, here, room, rests⟩, ⟨tidy.queue, tidy.order⟩, queued⟩

theorem rested_settled {paging : Paging} {asked : Nat} {s : Desktop} (begun : Begun paging asked s) :
    ∃ after, Reaches (fun limit => settled limit s) after ∧ Rested paging (asked + 1) after := by
  obtain ⟨serving, r, attended, rfl, rfl, current⟩ := begun
  obtain ⟨after, ends, serves, empty, left, tidy⟩ :=
    (attended_unwaited attended none).settles true
  obtain ⟨time, reaches⟩ := ends.run
  refine ⟨after, ⟨time, fun limit late => ?_⟩, left.rests, ⟨⟨?_, ?_, left.orderly, ?_⟩, tidy⟩, empty,
    ?_⟩
  · simp only [settled, current]
    exact reaches limit late
  · rw [empty]
    exact List.nodup_nil
  · simp [empty]
  · simp [empty]
  · rw [serves]

theorem begun_more {paging : Paging} {asked : Nat} {s : Desktop} (rested : Rested paging asked s)
    (more : s.world.desk.state.moreAvailable = true) :
    ∃ loading, Reaches (fun limit => request limit .more s) loading ∧
      Begun paging asked loading := by
  obtain ⟨session, serving, errands, generation, begins⟩ :=
    rested.rests.more rested.orderly.desk more
  let asks : Desktop :=
    { s with world := { s.world with desk := (s.world.desk.request .more).2 } }
  have tidy : asks.Tidy := ⟨rested.orderly.tidy.queue, rested.orderly.tidy.order⟩
  have stale : ∀ r ∈ asks.world.readers, asks.world.Stale r := by
    intro r member
    have old : r ∈ s.world.readers := member
    simp [rested.empty] at old
  obtain ⟨r, attended, current⟩ := attended_start tidy rested.orderly.ids rested.orderly.started
    stale begins.here
  refine ⟨_, ⟨0, fun limit _ => ?_⟩, serving, r, attended, begins.paging, begins.pages, current⟩
  simp only [request]
  generalize asked : s.world.desk.request .more = result at errands
  obtain ⟨todo, desk⟩ := result
  simp only at errands
  subst errands
  simp only [runErrands, generation, asks, asked]

theorem request_more_over {s : Desktop} (noMore : s.world.desk.state.moreAvailable = false)
    (limit : Deadline) : request limit .more s = (true, s) := by
  have deaf : s.world.desk.state.heeds .more = false := by simp [State.heeds, noMore]
  simp only [request, Desk.request_ignored deaf, runErrands]

/-- A listing of which the first page was asked for, and `more` pages after it; each was waited
for. -/
def listed (limit : Deadline) (batch : Uuid) (filter : Filter) (s : Desktop) : Nat → Bool × Desktop
  | 0 => match request limit (.load batch filter) s with
    | (true, s) => settled limit s
    | (false, s) => (false, s)
  | more + 1 => match listed limit batch filter s more with
    | (true, s) => match request limit .more s with
      | (true, s) => settled limit s
      | (false, s) => (false, s)
    | (false, s) => (false, s)

theorem Reaches.andThen {first : Deadline → Bool × Desktop}
    {second : Deadline → Desktop → Bool × Desktop} {middle after : Desktop}
    (reaches : Reaches first middle) (later : Reaches (second · middle) after) :
    Reaches (fun limit => match first limit with
      | (true, s) => second limit s
      | (false, s) => (false, s)) after := by
  obtain ⟨time, ends⟩ := reaches
  obtain ⟨time', ends'⟩ := later
  refine ⟨max time time', ?_⟩
  intro limit late
  simp only [ends limit (by omega)]
  exact ends' limit (by omega)

theorem settled_rested {paging : Paging} {asked : Nat} {s : Desktop} (rested : Rested paging asked s)
    (limit : Deadline) : settled limit s = (true, s) := by
  simp only [settled, rested.unwaited]

theorem Rested.later {paging : Paging} {asked : Nat} {s : Desktop} (rested : Rested paging asked s)
    (noMore : s.world.desk.state.moreAvailable = false) (more : Nat) :
    Rested paging (asked + more) s :=
  ⟨rested.rests.later noMore more, rested.orderly, rested.empty, rested.unwaited⟩

theorem rested_more {paging : Paging} {asked : Nat} {s : Desktop} (rested : Rested paging asked s) :
    ∃ after, Reaches (fun limit => match request limit .more s with
      | (true, s) => settled limit s
      | (false, s) => (false, s)) after ∧ Rested paging (asked + 1) after := by
  cases more : s.world.desk.state.moreAvailable with
  | true =>
    obtain ⟨loading, asks, begun⟩ := begun_more rested more
    obtain ⟨after, settles, rests⟩ := rested_settled begun
    exact ⟨after, asks.andThen settles, rests⟩
  | false =>
    refine ⟨s, ⟨0, fun limit _ => ?_⟩, rested.later more 1⟩
    simp only [request_more_over more, settled_rested rested]

theorem rested_listed {s : Desktop} (orderly : Orderly s) {batch : Uuid} {filter : Filter}
    {url : Url} {items : List BodyItem}
    (resolves : s.world.script.base.resolve Service.batchContent (Desk.query batch filter) = .ok url)
    (opens : (s.world.script.callOpenStream s.now url).1.result = .ok items)
    (closes : Body.closing items ≠ .never) (more : Nat) :
    ∃ after, Reaches (fun limit => listed limit batch filter s more) after ∧
      Rested (pagingOf batch filter s.world.options items closes) (more + 1) after := by
  induction more with
  | zero =>
    obtain ⟨loaded, loads, begun⟩ := begun_load orderly resolves opens closes
    obtain ⟨after, settles, rests⟩ := rested_settled begun
    exact ⟨after, loads.andThen settles, rests⟩
  | succ more ih =>
    obtain ⟨before, lists, rested⟩ := ih
    obtain ⟨after, continues, rests⟩ := rested_more rested
    exact ⟨after, lists.andThen continues, rests⟩

theorem rested_readPages {paging : Paging} (more : Nat) {asked : Nat} {s : Desktop}
    (begun : Begun paging asked s) :
    ∃ after, Reaches (fun limit => readPages limit more s) after ∧
      Rested paging (asked + 1 + more) after := by
  induction more generalizing asked s with
  | zero => exact rested_settled begun
  | succ more ih =>
    obtain ⟨middle, ⟨settling, settles⟩, rested⟩ := rested_settled begun
    cases goesOn : middle.world.desk.state.moreAvailable with
    | true =>
      obtain ⟨loading, ⟨asking, asks⟩, begun⟩ := begun_more rested goesOn
      obtain ⟨after, ⟨reading, reads⟩, rests⟩ := ih begun
      refine ⟨after, ⟨max settling (max asking reading), fun limit late => ?_⟩, ?_⟩
      · simp only [readPages, settles limit (by omega), goesOn, asks limit (by omega),
          Bool.not_true, Bool.false_eq_true, ite_false]
        exact reads limit (by omega)
      · rw [show asked + 1 + (more + 1) = asked + 1 + 1 + more by omega]
        exact rests
    | false =>
      refine ⟨middle, ⟨settling, fun limit late => ?_⟩, rested.later goesOn (more + 1)⟩
      simp only [readPages, settles limit late, goesOn, Bool.not_false, ite_true]

/-- What the command that lists a batch comes to when so many pages were asked for. What is to be
seen of the listing is `v` when it is torn down. -/
structure Prints (paging : Paging) (asked : Nat) (v : View) (o : Outcome) : Prop where
  printed : o.printed = Report.text
    (Report.headLine paging.batch paging.filter v.entries.length v.pages ::
      ((records paging.events).take (asked * paging.limit)).map Report.itemLine ++
        Report.noteLines v)
  done : v.lastError = none → o.ending = some .done
  failed : ∀ error, v.lastError = some error → o.ending =
    some (.failed ("listing batch " ++ paging.batch.render ++ " failed: " ++ error))

theorem view_teardown {w : Listings} (unwaited : w.current = none) :
    w.teardown.desk.state.view =
      { w.desk.state.view with loading := false, moreAvailable := false } := by
  simp [teardown, cancel, onDesk, unwaited, Desk.request_cancel, update, State.view]

theorem prints_rested {paging : Paging} {asked : Nat} {s : Desktop}
    (rested : Rested paging asked s) :
    Prints paging asked s.world.teardown.desk.state.view (s.world.result paging.batch) := by
  have lists := rested.rests.lists
  have torn := view_teardown rested.unwaited
  have text : (s.world.result paging.batch).printed =
    Report.batchPage s.world.teardown.desk.state.view := rfl
  have shown : s.world.teardown.desk.state.view.batch = some paging.batch := by
    rw [torn]
    exact lists.batch
  refine ⟨?_, fun well => ?_, fun error told => ?_⟩
  · rw [text, Report.batchPage_text shown, torn]
    simp only [lists.filter, lists.entries]
  · simp [result, Outcome.after, well]
  · simp [result, Outcome.after, told]

/-- Whatever was done before, a load whose feed opens and any number of requests for more, each
waited for, show the feed page by page; the command that lists a batch prints as many pages of it
as it is told. -/
theorem shows_first_pages (batch : Uuid) (filter : Filter) (url : Url) (items : List BodyItem)
    (closes : Body.closing items ≠ .never) :
    (∀ (script : Script) (options : Options) (now : Nat) (acts : List Act),
      let s := performed script options now acts
      s.world.script.base.resolve Service.batchContent (Desk.query batch filter) = .ok url →
      (s.world.script.callOpenStream s.now url).1.result = .ok items →
      ∀ more, ∃ after, Reaches (fun limit => listed limit batch filter s more) after ∧
        (pagingOf batch filter s.world.options items closes).Lists (more + 1)
          after.world.desk.state.view) ∧
    ∀ (files : Files) (config : Config) (script : Script),
      script.base.resolve Service.batchContent (Desk.query batch filter) = .ok url →
      (script.callOpenStream 0 url).1.result = .ok items →
      let paging := pagingOf batch filter (.ofSettings config.pagingSettings) items closes
      ∀ pages, ∃ after : Desktop,
        let view := after.world.desk.state.view
        let torn := after.world.teardown.desk.state.view
        paging.Lists (max pages 1) view ∧
        torn = { view with loading := false, moreAvailable := false } ∧
        ∃ time, ∀ limit : Deadline, time ≤ limit.time → Prints paging (max pages 1) torn
          (runCommand limit files config script (.batch batch filter pages)) := by
  constructor
  · intro script options now acts s resolves opens more
    have orderly : Orderly s := orderly_performed script options now acts
    obtain ⟨after, lists, rested⟩ := rested_listed orderly resolves opens closes more
    exact ⟨after, lists, rested.rests.lists⟩
  · intro files config script resolves opens paging pages
    obtain ⟨loaded, ⟨loading, loads⟩, begun⟩ :=
      begun_load (orderly_new script (.ofSettings config.pagingSettings) 0) resolves opens closes
    obtain ⟨after, ⟨reading, reads⟩, rested⟩ := rested_readPages (pages - 1) begun
    rw [show 0 + 1 + (pages - 1) = max pages 1 by omega] at rested
    refine ⟨after, rested.rests.lists, view_teardown rested.unwaited, max loading reading,
      fun limit late => ?_⟩
    have done := loads limit (by omega)
    have read := reads limit (by omega)
    have comes : runCommand limit files config script (.batch batch filter pages) =
        after.world.result batch := by
      simp only [runCommand, list, done, read]
    rw [comes]
    exact prints_rested rested

/-- Two records on a page, and three of them in a feed with a line that is no record. -/
theorem shows_three_records_on_two_pages :
    let base : Service.Base :=
      { url := { scheme := "http".toList, host := some (.name "h".toList) } }
    let item := Bytes.ascii "[\"00000000000000000000000000000000\",\"a\",null,2]\n"
    let items := [BodyItem.chunk item, .pause 5, .chunk (item ++ Bytes.ascii "?\n" ++ item)]
    let script : Script := { base, openStream := [{ delay := 3, result := .ok items }] }
    let s := performed script { pageLimit := 2, pace := 25 } 0 []
    (∃ after, Reaches (fun limit => listed limit .nil none s 1) after ∧
      after.world.desk.state.view.entries.length = 3 ∧ after.world.desk.state.view.pages = 2 ∧
      after.world.desk.state.view.moreAvailable = false ∧
      after.world.desk.state.view.malformed = 1) ∧
    ∃ time, ∀ limit : Deadline, time ≤ limit.time →
      let o := runCommand limit (.ofDirectory []) { pageLimit := 2 } script (.batch .nil none 1)
      o.ending = some .done ∧ o.printed = Report.text [
        "batch 00000000-0000-0000-0000-000000000000 [all]: 2 items, 1 page(s)",
        "  completed   a", "  completed   a"] := by
  intro base item items script s
  obtain ⟨url, resolves⟩ : ∃ url,
      base.resolve Service.batchContent (Desk.query .nil none) = .ok url := ⟨_, rfl⟩
  let paging := pagingOf .nil none { pageLimit := 2, pace := 25 } items (by decide)
  have count : (records paging.events).length = 3 := by decide +kernel
  obtain ⟨lists, command⟩ := shows_first_pages .nil none url items (by decide)
  constructor
  · obtain ⟨after, reaches, shown⟩ :=
      lists script { pageLimit := 2, pace := 25 } 0 [] resolves rfl 1
    have shown : paging.Lists 2 after.world.desk.state.view := shown
    obtain ⟨entries, pages, more, _⟩ := shown.of_ended rfl count
    have dropped : (rejected (firstRecords (2 * paging.limit) paging.events)).length = 1 := by
      decide +kernel
    exact ⟨after, reaches, entries, pages.trans (by decide), more.trans (by decide),
      shown.malformed.trans dropped⟩
  · obtain ⟨after, shown, torn, time, prints⟩ :=
      command (.ofDirectory []) { pageLimit := 2 } script resolves rfl 1
    have shown : paging.Lists 1 after.world.desk.state.view := shown
    obtain ⟨entries, pages, _, well⟩ := shown.of_ended rfl count
    have dropped : (rejected (firstRecords (1 * paging.limit) paging.events)).length = 0 := by
      decide +kernel
    have whole := shown.malformed.trans dropped
    have lines : Report.headLine .nil none 2 1 ::
        ((records paging.events).take (1 * paging.limit)).map Report.itemLine = [
          "batch 00000000-0000-0000-0000-000000000000 [all]: 2 items, 1 page(s)",
          "  completed   a", "  completed   a"] := by decide +kernel
    refine ⟨time, fun limit late => ?_⟩
    have comes := prints limit late
    rw [torn] at comes
    refine ⟨comes.done well, comes.printed.trans ?_⟩
    have notes : Report.noteLines
        { after.world.desk.state.view with loading := false, moreAvailable := false } = [] := by
      simp [Report.noteLines, whole, well]
    rw [notes, List.append_nil]
    exact congrArg Report.text ((congrArg₂ (Report.headLine .nil none · · :: _) entries pages).trans
      lines)

end TranscodeConsole.Rehearsal.Listings
