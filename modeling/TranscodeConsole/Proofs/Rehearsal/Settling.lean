import TranscodeConsole.Proofs.Rehearsal.Readers

/-!
Waiting for the reader of the present page. Every turn that it can use lessens what is left of the
page, and whenever nobody can run, the clock moves to where it goes on.
-/
namespace TranscodeConsole.Rehearsal.Listings

open Feed Listing

namespace Tended

variable {serving : Serving} {w : Listings} {r : PageReader}

theorem again (tended : Tended serving w r) {desk : Desk} {page : Page} {rest : Page.Rest}
    (here : serving.At desk page) (room : page.session.onPage < serving.limit)
    (stands : page.StandsAt rest) :
    Tended serving
      { w with
        desk, readers := w.readers.filter (·.id ≠ r.id) ++ [{ r with page, wake := wakeAfter rest }] }
      { r with page, wake := wakeAfter rest } := by
  have same : desk.cursor = w.desk.cursor := here.desk.cursor.trans tended.here.desk.cursor.symm
  refine ⟨?_, by simp, ?_, tended.generation, here, room, .inr ⟨rest, stands, rfl⟩⟩
  · rw [List.map_append, List.nodup_append]
    refine ⟨tended.ids.sublist (List.filter_sublist.map _), by simp, ?_⟩
    intro a old b new equal
    obtain ⟨v, kept, rfl⟩ := List.mem_map.mp old
    have other := (List.mem_filter.mp kept).2
    simp only [List.map_cons, List.map_nil, List.mem_singleton] at new
    simp [equal, new] at other
  · intro v member other
    rcases List.mem_append.mp member with old | new
    · have stale := tended.stale v (List.mem_filter.mp old).1 other
      unfold Stale at stale ⊢
      rw [same]
      exact stale
    · exact absurd (List.mem_singleton.mp new ▸ rfl) other

theorem without (tended : Tended serving w r) {v : PageReader} (other : v.id ≠ r.id) :
    Tended serving { w with readers := w.readers.filter (·.id ≠ v.id) } r where
  ids := tended.ids.sublist (List.filter_sublist.map _)
  member := List.mem_filter.mpr ⟨tended.member, by simpa using other.symm⟩
  stale u member different := tended.stale u (List.mem_filter.mp member).1 different
  generation := tended.generation
  here := tended.here
  room := tended.room
  rests := tended.rests

theorem turn (tended : Tended serving w r) {now : Nat} (awake : Awake now r) :
    (w.turn now r.id).readers = w.readers.filter (·.id ≠ r.id) ∧
      serving.Left (w.turn now r.id).desk ∨
    ∃ stays : PageReader, stays.id = r.id ∧ burden stays < burden r ∧
      (w.turn now r.id).readers = w.readers.filter (·.id ≠ r.id) ++ [stays] ∧
      Tended serving (w.turn now r.id) stays := by
  obtain ⟨q, less, ran⟩ := tended.ran awake
  have found := find_member tended.ids tended.member
  have generation := tended.generation
  simp only [Listings.turn, found]
  generalize Page.run BatchEntry.read (Desk.consumer r.generation (mark r)) now r.page w.desk =
    result at ran ⊢
  obtain ⟨rest, page, desk⟩ := result
  simp only at ran ⊢
  cases ran with
  | waits here room stands lessLeft =>
    have again := tended.again here room stands
    refine .inr ⟨{ r with page, wake := wakeAfter rest }, rfl, ?_, ?_, ?_⟩
    · refine Nat.lt_of_le_of_lt ?_ less
      cases stands <;> exact lessLeft
    · cases stands <;> rfl
    · cases stands <;> exact again
  | filled here full shows =>
    rw [generation]
    exact .inl ⟨rfl, here.left full shows⟩
  | exhausted isOver closing =>
    rw [generation]
    exact .inl ⟨rfl, isOver.left_exhausted closing⟩
  | failed isOver closing =>
    rw [generation]
    exact .inl ⟨rfl, isOver.left_failed closing⟩

end Tended

/-- Waiting for a reader comes to an end, at which nobody reads and the page is over. -/
def Settles (serving : Serving) (id : Nat) (look : Bool) (s : Desktop) : Prop :=
  ∃ after : Desktop,
    Stage.Ends plan (fun _ w => (w.find? id).isNone) none look s after ∧
    Serves s.world after.world ∧ after.world.readers = [] ∧ serving.Left after.world.desk ∧
    after.Tidy

structure Attended (serving : Serving) (s : Desktop) (r : PageReader) : Prop where
  tended : Tended serving s.world r
  tidy : s.Tidy
  queued : r.id ∈ s.queue → Awake s.now r

namespace Attended

variable {serving : Serving} {s : Desktop} {r : PageReader}

theorem awake (attended : Attended serving s r) (queued : r.id ∈ (s.notice plan).queue) :
    Awake s.now r := by
  rcases (Stage.mem_queue_notice.mp queued).2 with earlier | ready
  · exact attended.queued earlier
  · intro time wake
    have isReady : (s.world.wakeOf r.id).isReady s.now = true := ready
    rw [attended.tended.wake, wake] at isReady
    simpa [Wake.isReady] using isReady

theorem unmet (attended : Attended serving s r) :
    (fun (_ : Nat) (w : Listings) => (w.find? r.id).isNone) s.now s.world = false := by
  simp [find_member attended.tended.ids attended.tended.member]

theorem settles_left {id : Nat} (tidy : s.Tidy) (ids : (s.world.readers.map (·.id)).Nodup)
    (stale : ∀ v ∈ s.world.readers, s.world.Stale v) (left : serving.Left s.world.desk) :
    Settles serving id false s := by
  obtain ⟨mid, world, now, midTidy, goesOn⟩ := clears tidy ids stale
  have none_ : mid.world.readers = [] := by rw [world]
  have idsMid : (mid.world.readers.map (·.id)).Nodup := by rw [none_]; exact List.nodup_nil
  have desk : mid.world.desk = s.world.desk := by rw [world]
  refine ⟨mid.notice plan, goesOn (.inl rfl) fun look => ?_, ?_, none_, ?_, midTidy.notice idsMid⟩
  · exact Stage.ends_met (by simp [find?, none_]) (.inr (queue_none none_))
  · show Serves s.world mid.world
    rw [world]
    rfl
  · show serving.Left mid.world.desk
    rw [desk]
    exact left

theorem settles_turn (attended : Attended serving s r) {look : Bool} {k : Nat} {later : List Nat}
    (queue : (s.notice plan).queue = k :: later)
    (ih : ∀ {next : Desktop} {v : PageReader}, Attended serving next v → v.id = r.id →
      next.world.readers.length + burden v < s.world.readers.length + burden r →
      Settles serving r.id false next) :
    Settles serving r.id look s := by
  have tended := attended.tended
  have queued : k ∈ (s.notice plan).queue := by simp [queue]
  obtain ⟨v, member, rfl⟩ := mem_tasks.mp (Stage.mem_queue_notice.mp queued).1
  have tidyNext := tidy_next attended.tidy tended.ids queue
  have fresh : v.id ∉ later := by
    have tidy : (s.notice plan).Tidy := attended.tidy.notice tended.ids
    have nodup := tidy.queue
    rw [queue] at nodup
    exact (List.nodup_cons.mp nodup).1
  have fewer : (s.world.readers.filter (·.id ≠ v.id)).length < s.world.readers.length :=
    List.length_filter_lt_length_iff_exists.mpr ⟨v, member, by simp⟩
  let next := (s.notice plan).turn plan v.id later
  have settles : Settles serving r.id false next → Settles serving r.id look s := by
    rintro ⟨after, ends, serves, left⟩
    exact ⟨after, Stage.ends_turn queue (.inr attended.unmet) ends,
      (serves_turn s.world s.now v.id).trans serves, left⟩
  -- Either the reader goes on with the page, or one that was given up leaves.
  by_cases own : v.id = r.id
  · obtain rfl : v = r := by
      have found := find_member tended.ids member
      rw [own, find_member tended.ids tended.member] at found
      exact (Option.some.inj found).symm
    rcases tended.turn (attended.awake queued) with
      ⟨readers, left⟩ | ⟨again, id, less, readers, tendedNext⟩
    · refine settles (settles_left tidyNext ?_ ?_ left)
      · show ((Listings.turn s.now v.id s.world).readers.map (·.id)).Nodup
        rw [readers]
        exact tended.ids.sublist (List.filter_sublist.map _)
      · intro u inNext
        have kept : u ∈ s.world.readers.filter (·.id ≠ v.id) := readers ▸ inNext
        have other : u.id ≠ v.id := by simpa using (List.mem_filter.mp kept).2
        apply left.stale _
        rw [← tended.here.desk.cursor]
        exact tended.stale u (List.mem_filter.mp kept).1 other
    · refine settles (ih ⟨tendedNext, tidyNext, fun old => absurd (id ▸ old) fresh⟩ id ?_)
      show (Listings.turn s.now v.id s.world).readers.length + _ < _
      rw [readers, List.length_append, List.length_singleton]
      omega
  · have turned := turn_stale s.now tended.ids member (tended.stale v member own)
    have world : next.world = { s.world with readers := s.world.readers.filter (·.id ≠ v.id) } :=
      turned
    have readers : next.world.readers = s.world.readers.filter (·.id ≠ v.id) := by rw [world]
    refine settles (ih ⟨?_, tidyNext, fun old => ?_⟩ rfl ?_)
    · rw [world]
      exact tended.without own
    · exact attended.awake (by rw [queue]; exact List.mem_cons_of_mem _ old)
    · rw [readers]
      omega

theorem order_alone (attended : Attended serving s r) (empty : (s.notice plan).queue = []) :
    (s.notice plan).order = [r.id] := by
  have tended := attended.tended
  have tidy : (s.notice plan).Tidy := attended.tidy.notice tended.ids
  have known : ∀ k, k ∈ (s.notice plan).order ↔ k = r.id := by
    intro k
    rw [Stage.mem_order_notice, mem_tasks]
    constructor
    · rintro ⟨v, member, rfl⟩
      apply Classical.byContradiction
      intro other
      have ready : v.id ∈ (s.notice plan).queue := by
        refine Stage.mem_queue_notice.mpr ⟨mem_tasks.mpr ⟨v, member, rfl⟩, .inr ?_⟩
        show (s.world.wakeOf v.id).isReady s.now = true
        rw [wake_stale tended.ids member (tended.stale v member other)]
        rfl
      simp [empty] at ready
    · rintro rfl
      exact ⟨r, tended.member, rfl⟩
  have nodup := tidy.order
  generalize (s.notice plan).order = order at known nodup
  cases order with
  | nil => simpa using known r.id
  | cons k later =>
    obtain rfl := (known k).mp (by simp)
    have none_ : later = [] := by
      rw [List.eq_nil_iff_forall_not_mem]
      intro j member
      have same := (known j).mp (List.mem_cons_of_mem _ member)
      exact (List.nodup_cons.mp nodup).1 (same ▸ member)
    rw [none_]

theorem asleep (attended : Attended serving s r) (empty : (s.notice plan).queue = []) :
    r.wake.isReady s.now = false := by
  rw [← Bool.not_eq_true]
  intro ready
  have queued : r.id ∈ (s.notice plan).queue := by
    refine Stage.mem_queue_notice.mpr
      ⟨mem_tasks.mpr ⟨r, attended.tended.member, rfl⟩, .inr ?_⟩
    show (s.world.wakeOf r.id).isReady s.now = true
    rw [attended.tended.wake]
    exact ready
  simp [empty] at queued

theorem settles_later (attended : Attended serving s r) {look : Bool}
    (empty : (s.notice plan).queue = []) (wake : r.wake = .later)
    (settles : ∀ {next : Desktop} {look : Bool}, Attended serving next r →
      next.world.readers = s.world.readers → (next.notice plan).queue ≠ [] →
      Settles serving r.id look next) : Settles serving r.id look s := by
  have tended := attended.tended
  have tidy : (s.notice plan).Tidy := attended.tidy.notice tended.ids
  have yielded : (s.notice plan).yielded plan = [r.id] := by
    have wakes : plan.wake s.world r.id = .later := tended.wake.trans wake
    simp [Stage.yielded, attended.order_alone empty, wakes]
  let next : Desktop := { s.notice plan with queue := [r.id] }
  have awake : Awake next.now r := by
    intro time at_
    simp [wake] at at_
  have queued : r.id ∈ (next.notice plan).queue :=
    Stage.mem_queue_notice.mpr ⟨mem_tasks.mpr ⟨r, tended.member, rfl⟩, .inl (by simp [next])⟩
  have attendedNext : Attended serving next r :=
    ⟨tended, ⟨by simp [next], tidy.order⟩, fun _ => awake⟩
  obtain ⟨after, ends, rest⟩ := settles attendedNext rfl (List.ne_nil_of_mem queued)
  exact ⟨after, Stage.ends_yield empty attended.unmet yielded ends, rest⟩

theorem settles_at (attended : Attended serving s r) {look : Bool}
    (empty : (s.notice plan).queue = []) {time : Nat} (wake : r.wake = .at time)
    (settles : ∀ {next : Desktop} {look : Bool}, Attended serving next r →
      next.world.readers = s.world.readers → (next.notice plan).queue ≠ [] →
      Settles serving r.id look next) : Settles serving r.id look s := by
  have tended := attended.tended
  have tidy : (s.notice plan).Tidy := attended.tidy.notice tended.ids
  have wakes : plan.wake s.world r.id = .at time := tended.wake.trans wake
  have alone := attended.order_alone empty
  have late : s.now < time := by
    have asleep := attended.asleep empty
    simpa [wake, Wake.isReady] using asleep
  have yielded : (s.notice plan).yielded plan = [] := by
    simp [Stage.yielded, alone, wakes]
  have moves : (s.notice plan).nextTime plan none = some time := by
    simp [Stage.nextTime, alone, wakes, Wake.time?, Stage.earliest, late]
  let next : Desktop := { s.notice plan with now := time }
  have queued : r.id ∈ (next.notice plan).queue := by
    refine Stage.mem_queue_notice.mpr ⟨mem_tasks.mpr ⟨r, tended.member, rfl⟩, .inr ?_⟩
    show (plan.wake s.world r.id).isReady time = true
    simp [wakes, Wake.isReady]
  have attendedNext : Attended serving next r := by
    refine ⟨tended, ⟨tidy.queue, tidy.order⟩, ?_⟩
    intro old
    have inQueue : r.id ∈ (s.notice plan).queue := old
    simp [empty] at inQueue
  obtain ⟨after, ends, rest⟩ := settles attendedNext rfl (List.ne_nil_of_mem queued)
  exact ⟨after, Stage.ends_clock empty attended.unmet yielded moves ends, rest⟩

theorem settles (attended : Attended serving s r) (look : Bool) : Settles serving r.id look s := by
  induction work : s.world.readers.length + burden r using Nat.strongRecOn
    generalizing s r look with
  | ind n ih =>
    -- Whenever anyone is in the queue there is a turn, and less to be done behind it.
    have busy : ∀ {next : Desktop} {look : Bool}, Attended serving next r →
        next.world.readers = s.world.readers → (next.notice plan).queue ≠ [] →
        Settles serving r.id look next := by
      intro next look attended same some_
      cases queue : (next.notice plan).queue with
      | nil => exact absurd queue some_
      | cons k later =>
        refine attended.settles_turn queue fun goesOn own less => ?_
        rw [same, work] at less
        rw [← own]
        exact ih _ less goesOn _ rfl
    by_cases empty : (s.notice plan).queue = []
    · rcases attended.tended.rests with fresh | ⟨rest, stands, wakes⟩
      · have asleep := attended.asleep empty
        simp [fresh, Wake.isReady] at asleep
      · cases stands with
        | yielding yields => exact attended.settles_later empty wakes busy
        | pausing pauses => exact attended.settles_at empty wakes busy
        | starved pulls waits => exact attended.settles_at empty wakes busy
    · exact busy attended rfl empty

end Attended

end TranscodeConsole.Rehearsal.Listings
