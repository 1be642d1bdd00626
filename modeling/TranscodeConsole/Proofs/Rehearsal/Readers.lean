import TranscodeConsole.Rehearsal.Listings
import TranscodeConsole.Proofs.Listing.Resting
import TranscodeConsole.Proofs.Rehearsal.Stage

/-!
The readers of a listing on their stage. One of them may serve the present page; all others have
been given up, and go as soon as they have their turn.
-/
namespace TranscodeConsole.Rehearsal.Listings

open Feed Listing

def Stale (w : Listings) (r : PageReader) : Prop :=
  w.desk.cursor.marks.isCancelled (mark r) = true

theorem find_member {w : Listings} {r : PageReader} (ids : (w.readers.map (·.id)).Nodup)
    (member : r ∈ w.readers) : w.find? r.id = some r := by
  unfold find?
  generalize w.readers = readers at ids member
  induction readers with
  | nil => simp at member
  | cons v readers ih =>
    simp only [List.map_cons, List.nodup_cons] at ids
    rcases List.mem_cons.mp member with rfl | later
    · simp
    · have other : v.id ≠ r.id := fun same =>
        ids.1 (same ▸ List.mem_map_of_mem later)
      simpa [other] using ih ids.2 later

theorem turn_stale {w : Listings} {r : PageReader} (now : Nat)
    (ids : (w.readers.map (·.id)).Nodup) (member : r ∈ w.readers) (stale : w.Stale r) :
    w.turn now r.id = { w with readers := w.readers.filter (·.id ≠ r.id) } := by
  obtain ⟨after, ran, same, _⟩ := r.page.run_cancelled BatchEntry.read
    (Desk.consumer r.generation (mark r)) now (s := w.desk) stale
  have gone : w.desk.letGo after.session = w.desk := by
    have cancelled : w.desk.cursor.marks.isCancelled after.session.mark = true := same ▸ stale
    exact Desk.letGo_cancelled cancelled
  simp only [turn, find_member ids member, ran, Desk.pageOver, gone]

def Serves (w after : Listings) : Prop :=
  after = { w with desk := after.desk, readers := after.readers }

theorem Serves.trans {w middle after : Listings} (first : Serves w middle)
    (later : Serves middle after) : Serves w after := by
  unfold Serves at *
  rw [first] at later
  exact later

theorem serves_turn (w : Listings) (now id : Nat) : Serves w (w.turn now id) := by
  unfold turn
  split
  · rfl
  · simp only
    split <;> rfl

theorem wake_stale {w : Listings} {r : PageReader} (ids : (w.readers.map (·.id)).Nodup)
    (member : r ∈ w.readers) (stale : w.Stale r) : w.wakeOf r.id = .now := by
  have cancelled : w.desk.cursor.marks.isCancelled (mark r) = true := stale
  simp [wakeOf, find_member ids member, cancelled]

theorem mem_tasks {w : Listings} {id : Nat} :
    id ∈ plan.tasks w ↔ ∃ r ∈ w.readers, r.id = id := by
  simp [plan]

theorem tidy_next {s : Desktop} (tidy : s.Tidy) (ids : (s.world.readers.map (·.id)).Nodup)
    {k : Nat} {later : List Nat} (queue : (s.notice plan).queue = k :: later) :
    ((s.notice plan).turn plan k later).Tidy :=
  (tidy.notice ids).turn queue

theorem queue_none {s : Desktop} (empty : s.world.readers = []) : (s.notice plan).queue = [] := by
  rw [List.eq_nil_iff_forall_not_mem]
  intro k queued
  have member := (Stage.mem_queue_notice.mp queued).1
  rw [mem_tasks, empty] at member
  simp at member

theorem clears {s : Desktop} (tidy : s.Tidy) (ids : (s.world.readers.map (·.id)).Nodup)
    (stale : ∀ r ∈ s.world.readers, s.world.Stale r) :
    ∃ mid : Desktop, mid.world = { s.world with readers := [] } ∧ mid.now = s.now ∧ mid.Tidy ∧
      ∀ {holds : Nat → Listings → Bool} {alarm look after},
        look = false ∨ (∀ w, holds s.now w = false) →
        (∀ look, Stage.Ends plan holds alarm look mid after) →
        Stage.Ends plan holds alarm look s after := by
  induction count : s.world.readers.length using Nat.strongRecOn generalizing s with
  | ind n ih =>
    cases queue : (s.notice plan).queue with
    | nil =>
      have empty : s.world.readers = [] := by
        rw [List.eq_nil_iff_forall_not_mem]
        intro r member
        have ready : r.id ∈ (s.notice plan).queue := by
          refine Stage.mem_queue_notice.mpr ⟨mem_tasks.mpr ⟨r, member, rfl⟩, .inr ?_⟩
          show (s.world.wakeOf r.id).isReady s.now = true
          rw [wake_stale ids member (stale r member)]
          rfl
        simp [queue] at ready
      refine ⟨s, ?_, rfl, tidy, fun _ ends => ends _⟩
      rw [← empty]
    | cons k later =>
      have queued : k ∈ (s.notice plan).queue := by simp [queue]
      obtain ⟨r, member, rfl⟩ := mem_tasks.mp (Stage.mem_queue_notice.mp queued).1
      have turned := turn_stale s.now ids member (stale r member)
      let next := (s.notice plan).turn plan r.id later
      have world : next.world =
          { s.world with readers := s.world.readers.filter (·.id ≠ r.id) } := turned
      have fewer : next.world.readers.length < n := by
        rw [world, ← count]
        exact List.length_filter_lt_length_iff_exists.mpr ⟨r, member, by simp⟩
      have kept : ∀ v ∈ next.world.readers, v ∈ s.world.readers := by
        intro v inNext
        rw [world] at inNext
        exact (List.mem_filter.mp inNext).1
      have idsNext : (next.world.readers.map (·.id)).Nodup := by
        rw [world]
        exact ids.sublist (List.filter_sublist.map _)
      have staleNext : ∀ v ∈ next.world.readers, next.world.Stale v := by
        intro v inNext
        have old := stale v (kept v inNext)
        unfold Stale at old ⊢
        rw [world]
        exact old
      obtain ⟨mid, midWorld, midNow, midTidy, goesOn⟩ :=
        ih _ fewer (tidy_next tidy ids queue) idsNext staleNext rfl
      refine ⟨mid, ?_, midNow, midTidy, fun waits ends => ?_⟩
      · rw [midWorld, world]
      · exact Stage.ends_turn queue (waits.imp_right fun unmet => unmet _)
          (goesOn (.inl rfl) ends)

theorem sleeps {s : Desktop} (tidy : s.Tidy) (ids : (s.world.readers.map (·.id)).Nodup)
    (stale : ∀ r ∈ s.world.readers, s.world.Stale r) (till : Nat) :
    ∃ (after : Desktop) (readers : List PageReader),
      Stage.Ends plan (fun now _ => till ≤ now) (some till) true s after ∧
      after.world = { s.world with readers } ∧ readers.Sublist s.world.readers ∧ after.Tidy := by
  by_cases passed : till ≤ s.now
  · exact ⟨s.notice plan, s.world.readers, Stage.ends_met (by simpa using passed) (.inl rfl), rfl,
      List.Sublist.refl _, tidy.notice ids⟩
  · obtain ⟨mid, world, now, midTidy, goesOn⟩ := clears tidy ids stale
    have none_ : mid.world.readers = [] := by rw [world]
    have idsMid : (mid.world.readers.map (·.id)).Nodup := by rw [none_]; exact List.nodup_nil
    have empty := queue_none none_
    have order : (mid.notice plan).order = [] := by
      rw [List.eq_nil_iff_forall_not_mem]
      intro k known
      have member := Stage.mem_order_notice.mp known
      rw [mem_tasks, none_] at member
      simp at member
    have next : (mid.notice plan).nextTime plan (some till) = some till := by
      have late : mid.now < till := by omega
      simp [Stage.nextTime, order, late, Stage.earliest]
    let woken : Desktop := { mid.notice plan with now := till }
    have tidyWoken : woken.Tidy := ⟨(midTidy.notice idsMid).queue, (midTidy.notice idsMid).order⟩
    refine ⟨woken.notice plan, [], goesOn (.inr ?_) fun look => ?_, world, List.nil_sublist _,
      tidyWoken.notice idsMid⟩
    · intro w
      simp [passed]
    · apply Stage.ends_clock empty (by simp [now, passed]) (by simp [Stage.yielded, order]) next
      exact Stage.ends_met (by simp) (.inl rfl)

/-! ### The reader of the present page -/

def wakeAfter : Page.Rest → Wake
  | .waiting time => time.elim .never .at
  | _ => .later

/-- One reader serves the present page, and all others were given up. -/
structure Tended (serving : Serving) (w : Listings) (r : PageReader) : Prop where
  ids : (w.readers.map (·.id)).Nodup
  member : r ∈ w.readers
  stale : ∀ v ∈ w.readers, v.id ≠ r.id → w.Stale v
  generation : r.generation = serving.generation
  here : serving.At w.desk r.page
  room : r.page.session.onPage < serving.limit
  rests : r.wake = .now ∨ ∃ rest, r.page.StandsAt rest ∧ r.wake = wakeAfter rest

def burden (r : PageReader) : Nat :=
  match r.wake with
  | .at _ => 2 * r.page.size
  | _ => 2 * r.page.size + 1

def Awake (now : Nat) (r : PageReader) : Prop := ∀ time, r.wake = .at time → time ≤ now

namespace Tended

variable {serving : Serving} {w : Listings} {r : PageReader}

theorem valid (tended : Tended serving w r) :
    w.desk.cursor.marks.isCancelled (mark r) = false := by
  show w.desk.cursor.marks.isCancelled r.page.session.mark = false
  rw [tended.here.desk.cursor, tended.here.mark]
  exact serving.valid

theorem wake (tended : Tended serving w r) : w.wakeOf r.id = r.wake := by
  simp [wakeOf, find_member tended.ids tended.member, tended.valid]

theorem ran (tended : Tended serving w r) {now : Nat} (awake : Awake now r) :
    ∃ q : Page, 2 * q.size < burden r ∧
      let ran := Page.run BatchEntry.read (Desk.consumer r.generation (mark r)) now r.page w.desk
      serving.Ran q ran.1 ran.2.1 ran.2.2 := by
  have mark : mark r = serving.mark := tended.here.mark
  rw [tended.generation, mark]
  rcases tended.rests with fresh | ⟨rest, stands, wake⟩
  · refine ⟨r.page, ?_, serving.ran_run now tended.here tended.room⟩
    simp [burden, fresh]
  · have isOver : ∀ time, rest = .waiting (some time) → time ≤ now := by
      rintro time rfl
      exact awake time wake
    obtain ⟨q, smaller, ran⟩ := serving.ran_resumed tended.here tended.room stands isOver
    refine ⟨q, ?_, ran⟩
    have least : 2 * r.page.size ≤ burden r := by
      unfold burden
      split <;> omega
    omega

end Tended

end TranscodeConsole.Rehearsal.Listings
