import TranscodeConsole.Proofs.Listing.Crew
import TranscodeConsole.Proofs.Listing.Marks
import TranscodeConsole.Proofs.Rehearsal.Readers

/-!
Listings in order: no reader is listed twice, and all of them go by marks that the cursor knows.
Whatever is asked of a listing, and whenever it is no longer waited for, it stays so.
-/
namespace TranscodeConsole.Rehearsal.Listings

open Feed Listing

structure WellKept (w : Listings) : Prop where
  ids : (w.readers.map (·.id)).Nodup
  started : ∀ r ∈ w.readers, r.id < w.started
  desk : w.desk.Orderly
  owned : ∀ r ∈ w.readers, w.desk.cursor.Owns (mark r)

structure Orderly (s : Desktop) : Prop extends WellKept s.world where
  tidy : s.Tidy

theorem orderly_new (script : Script) (options : Options) (now : Nat) :
    Orderly { world := { script, options }, now } where
  ids := List.nodup_nil
  started := by simp
  desk := ⟨Cursor.orderly_new, by simp⟩
  owned := by simp
  tidy := ⟨List.nodup_nil, List.nodup_nil⟩

/-! ### Readers at work -/

theorem mem_of_find {w : Listings} {id : Nat} {r : PageReader} (found : w.find? id = some r) :
    r ∈ w.readers ∧ r.id = id :=
  ⟨List.mem_of_find?_eq_some found, by simpa using List.find?_some found⟩

namespace WellKept

variable {w : Listings}

theorem leaves (kept : w.WellKept) {desk : Desk} (keeps : w.desk.Keeps desk)
    {readers : List PageReader} (fewer : readers.Sublist w.readers) :
    ({ w with desk, readers } : Listings).WellKept where
  ids := kept.ids.sublist (fewer.map _)
  started r member := kept.started r (fewer.subset member)
  desk := keeps.orderly
  owned r member := keeps.owns _ (kept.owned r (fewer.subset member))

theorem joins (kept : w.WellKept) {r : PageReader} (new : ∀ v ∈ w.readers, v.id ≠ r.id)
    {started : Nat} (le : w.started ≤ started) (lt : r.id < started)
    (owns : w.desk.cursor.Owns (mark r)) (current : Option Nat) :
    ({ w with readers := w.readers ++ [r], started, current } : Listings).WellKept := by
  refine ⟨?_, ?_, kept.desk, ?_⟩
  · rw [List.map_append, List.nodup_append]
    refine ⟨kept.ids, by simp, ?_⟩
    intro a old b last same
    obtain ⟨v, member, rfl⟩ := List.mem_map.mp old
    simp only [List.map_cons, List.map_nil, List.mem_singleton] at last
    exact new v member (same.trans last)
  · intro v member
    rcases List.mem_append.mp member with old | last
    · exact Nat.lt_of_lt_of_le (kept.started v old) le
    · rw [List.mem_singleton.mp last]
      exact lt
  · intro v member
    rcases List.mem_append.mp member with old | last
    · exact kept.owned v old
    · rw [List.mem_singleton.mp last]
      exact owns

theorem turn (kept : w.WellKept) (now id : Nat) : (w.turn now id).WellKept := by
  unfold Listings.turn
  cases found : w.find? id with
  | none => exact kept
  | some r =>
    obtain ⟨member, rfl⟩ := mem_of_find found
    have ran := Desk.run_consumer r.generation (mark r) now r.page w.desk
    simp only
    generalize Page.run BatchEntry.read (Desk.consumer r.generation (mark r)) now r.page w.desk =
      result at ran
    obtain ⟨rest, page, desk⟩ := result
    obtain ⟨same, state, rfl⟩ := ran
    have heard := kept.desk.withState state
    have others : (w.readers.filter (·.id ≠ r.id)).Sublist w.readers := List.filter_sublist
    have owns : w.desk.cursor.Owns page.session.mark := same ▸ kept.owned r member
    have waits : ∀ wake, ({ w with
        desk := { w.desk with state }
        readers := w.readers.filter (·.id ≠ r.id) ++ [{ r with page, wake }] } :
        Listings).WellKept := by
      intro wake
      refine (kept.leaves heard others).joins (r := { r with page, wake }) ?_ (Nat.le_refl _)
        (kept.started r member) owns w.current
      intro v old
      simpa using (List.mem_filter.mp old).2
    cases rest with
    | waiting time => exact waits _
    | yielding => exact waits _
    | ended how => exact kept.leaves (heard.trans (heard.orderly.pageOver _ owns how)) others
    | failed error => exact kept.leaves (heard.trans (heard.orderly.feedFailed _ owns error)) others

end WellKept

namespace Orderly

variable {s : Desktop}

theorem run (orderly : Orderly s) (await : Stage.Await Listings) :
    Orderly (s.run plan await).2 := by
  have ran : (s.run plan await).2.Tidy ∧ WellKept (s.run plan await).2.world :=
    Stage.run_keeps WellKept (fun _ kept => kept.ids) (fun _ now id kept => kept.turn now id) await
      orderly.tidy orderly.toWellKept
  exact { ran.2 with tidy := ran.1 }

theorem withWorld (orderly : Orderly s) {world : Listings} (kept : world.WellKept) :
    Orderly { s with world } :=
  { kept with tidy := ⟨orderly.tidy.queue, orderly.tidy.order⟩ }

end Orderly

theorem run_stale {s : Desktop} (tidy : s.Tidy) (ids : (s.world.readers.map (·.id)).Nodup)
    (stale : ∀ r ∈ s.world.readers, s.world.Stale r) (await : Stage.Await Listings) :
    ∃ readers, readers.Sublist s.world.readers ∧
      (s.run plan await).2.world = { s.world with readers } ∧ (s.run plan await).2.Tidy := by
  let keeps : Listings → Prop := fun w =>
    ∃ readers, readers.Sublist s.world.readers ∧ w = { s.world with readers }
  have ran : (s.run plan await).2.Tidy ∧ keeps (s.run plan await).2.world :=
    Stage.run_keeps keeps ?_ ?_ await tidy ⟨_, List.Sublist.refl _, rfl⟩
  · obtain ⟨still, readers, fewer, world⟩ := ran
    exact ⟨readers, fewer, world, still⟩
  · rintro _ ⟨readers, fewer, rfl⟩
    exact ids.sublist (fewer.map _)
  · rintro _ now id ⟨readers, fewer, rfl⟩
    cases found : find? { s.world with readers } id with
    | none => exact ⟨readers, fewer, by simp [plan, turn, found]⟩
    | some r =>
      obtain ⟨member, rfl⟩ := mem_of_find found
      refine ⟨readers.filter (·.id ≠ r.id), List.filter_sublist.trans fewer, ?_⟩
      exact turn_stale now (ids.sublist (fewer.map _)) member (stale r (fewer.subset member))

/-! ### Requests -/

structure Keeps (s after : Desktop) : Prop where
  orderly : Orderly after
  owns : ∀ mark, s.world.desk.cursor.Owns mark → after.world.desk.cursor.Owns mark

namespace Orderly

variable {s : Desktop}

theorem onDesk (orderly : Orderly s) {desk : Desk} (keeps : s.world.desk.Keeps desk) :
    Keeps s { s with world := { s.world with desk } } :=
  ⟨orderly.withWorld (orderly.leaves keeps (List.Sublist.refl _)), keeps.owns⟩

theorem startReader (orderly : Orderly s) (generation : Nat) (session : Session)
    (owns : s.world.desk.cursor.Owns session.mark) :
    Keeps s { s with world := s.world.startReader generation session } := by
  let reader : PageReader := { id := s.world.started, generation, page := Page.start session }
  have joined := orderly.joins (r := reader)
    (fun v member => Nat.ne_of_lt (orderly.started v member)) (Nat.le_succ _) (Nat.lt_succ_self _)
    owns (some reader.id)
  exact ⟨orderly.withWorld joined, fun _ owned => owned⟩

end Orderly

/-- What is left when a feed is being opened: no session but the one that is opened is valid. -/
structure Connecting (s : Desktop) (active : ActiveSession) (before : Cursor) : Prop where
  orderly : Orderly s
  current : s.world.desk.cursor.current = some active
  given : ∀ mark, before.Owns mark → s.world.desk.cursor.marks.isCancelled mark = true
  stale : ∀ r ∈ s.world.readers, s.world.Stale r
  parked : ∀ p, s.world.desk.parked = some p →
    s.world.desk.cursor.marks.isCancelled p.session.mark = true

namespace Connecting

variable {s : Desktop} {active : ActiveSession} {before : Cursor}

theorem sleep (connecting : Connecting s active before) (till : Nat) (limit : Deadline) :
    Connecting (s.sleep plan till limit).2 active before := by
  obtain ⟨readers, fewer, world, tidy⟩ :
      ∃ readers, readers.Sublist s.world.readers ∧
        (s.sleep plan till limit).2.world = { s.world with readers } ∧
        (s.sleep plan till limit).2.Tidy :=
    run_stale connecting.orderly.tidy connecting.orderly.ids connecting.stale _
  generalize (s.sleep plan till limit).2 = after at world tidy
  have kept : after.world.WellKept :=
    world ▸ connecting.orderly.leaves connecting.orderly.desk.keeps fewer
  refine ⟨{ kept with tidy }, ?_, ?_, ?_, ?_⟩
  · rw [world]
    exact connecting.current
  · rw [world]
    exact connecting.given
  · intro r member
    rw [world] at member
    have old := connecting.stale r (fewer.subset member)
    unfold Stale at old ⊢
    rw [world]
    exact old
  · rw [world]
    exact connecting.parked

theorem release (connecting : Connecting s active before) :
    Orderly { s with world := { s.world with
      desk := { s.world.desk with cursor := s.world.desk.cursor.release active.id } } } := by
  have cancelled : (s.world.desk.cursor.release active.id).marks = s.world.desk.cursor.marks := by
    unfold Cursor.release
    split <;> rfl
  obtain ⟨⟨ids, started, ⟨cursor, parked⟩, owned⟩, tidy⟩ := connecting.orderly
  refine { ids, started, tidy := ⟨tidy.queue, tidy.order⟩, desk := ⟨⟨?_, ?_⟩, ?_⟩, owned := ?_ }
  · rw [cancelled]
    exact cursor.cancelled
  · intro other current
    unfold Cursor.release at current
    rw [connecting.current] at current
    simp at current
  · intro p isParked
    exact .inl (cancelled ▸ connecting.parked p isParked)
  · intro r member
    exact .inl (cancelled ▸ connecting.stale r member)

end Connecting

namespace Orderly

variable {s : Desktop}

theorem connecting (orderly : Orderly s) (script : Script) :
    Connecting { s with world := { s.world with
      script, desk := { s.world.desk with cursor := s.world.desk.cursor.connect.2 } } }
      s.world.desk.cursor.connect.1 s.world.desk.cursor := by
  have fresh := Cursor.fresh_connect orderly.desk.cursor
  have parked := fun p isParked => fresh.others _ (orderly.desk.parked p isParked)
  have stale := fun r member => fresh.others _ (orderly.owned r member)
  exact {
    orderly :=
      { ids := orderly.ids, started := orderly.started
        desk := ⟨fresh.orderly, fun p isParked => .inl (parked p isParked)⟩
        owned := fun r member => .inl (stale r member)
        tidy := ⟨orderly.tidy.queue, orderly.tidy.order⟩ }
    current := fresh.current, given := fresh.others, stale, parked }

theorem openFeed (orderly : Orderly s) (limit : Deadline) (generation : Nat) (batch : Uuid)
    (filter : Filter) : Keeps s (openFeed limit generation batch filter s).2 := by
  simp only [Listings.openFeed]
  split
  · exact orderly.onDesk (orderly.desk.request _).1
  · rename_i url _
    have connecting := orderly.connecting (s.world.script.callOpenStream s.now url).2
    generalize s.world.script.callOpenStream s.now url = called at connecting ⊢
    obtain ⟨reply, script⟩ := called
    generalize s.world.desk.cursor.connect = connected at connecting ⊢
    obtain ⟨active, cursor⟩ := connected
    simp only at connecting ⊢
    have connecting := connecting.sleep reply.due limit
    generalize Stage.sleep plan _ _ _ = slept at connecting ⊢
    obtain ⟨done, woken⟩ := slept
    have given : ∀ mark, s.world.desk.cursor.Owns mark → woken.world.desk.cursor.Owns mark :=
      fun mark owns => .inl (connecting.given mark owns)
    have awake := connecting.orderly
    split
    · exact ⟨awake, given⟩
    · split
      · rename_i items _
        have reads := awake.startReader generation (Session.start active.id url.render
          active.mark items woken.world.options) (.inr ⟨active, connecting.current, rfl⟩)
        exact ⟨reads.orderly, fun mark owns => reads.owns mark (given mark owns)⟩
      · rename_i error _
        have released := connecting.release
        have fails := released.onDesk
          (released.desk.request (.failed generation error.userMessage)).1
        refine ⟨fails.orderly, fun mark owns => fails.owns mark (.inl ?_)⟩
        have marks : (woken.world.desk.cursor.release active.id).marks =
            woken.world.desk.cursor.marks := by
          unfold Cursor.release
          split <;> rfl
        exact marks ▸ connecting.given mark owns

theorem runErrands (orderly : Orderly s) (limit : Deadline) {errands : List Errand}
    (own : ∀ generation session, .read generation session ∈ errands →
      s.world.desk.cursor.Owns session.mark) : Orderly (runErrands limit errands s).2 := by
  induction errands generalizing s with
  | nil => exact orderly
  | cons errand errands ih =>
    have later := fun generation session member =>
      own generation session (List.mem_cons_of_mem errand member)
    cases errand with
    | openFeed generation batch filter =>
      obtain ⟨opened, owns⟩ := orderly.openFeed limit generation batch filter
      simp only [Listings.runErrands]
      generalize Listings.openFeed limit generation batch filter s = result at opened owns
      obtain ⟨done, after⟩ := result
      cases done with
      | true => exact ih opened fun g session member => owns _ (later g session member)
      | false => exact opened
    | read generation session =>
      have owned := own generation session (List.mem_cons_self ..)
      exact ih (orderly.startReader generation session owned).orderly later

theorem request (orderly : Orderly s) (limit : Deadline) (msg : Msg) :
    Orderly (request limit msg s).2 := by
  obtain ⟨keeps, own⟩ := orderly.desk.request msg
  exact (orderly.onDesk keeps).orderly.runErrands limit own

theorem settled (orderly : Orderly s) (limit : Deadline) : Orderly (settled limit s).2 := by
  unfold Listings.settled
  split
  · exact orderly
  · rename_i id _
    have unwaited : ({ s.world with current := none } : Listings).WellKept :=
      ⟨orderly.ids, orderly.started, orderly.desk, orderly.owned⟩
    exact (orderly.withWorld unwaited).run _

theorem cancel (orderly : Orderly s) : Orderly { s with world := s.world.cancel } :=
  (orderly.onDesk (orderly.desk.request .cancel).1).orderly

theorem teardown (orderly : Orderly s) : Orderly { s with world := s.world.teardown } := by
  have cancelled := orderly.cancel
  simp only [Listings.teardown]
  generalize s.world.cancel = w at cancelled
  split
  · rename_i r found
    obtain ⟨id, _, here⟩ := Option.bind_eq_some_iff.mp found
    obtain ⟨member, _⟩ := mem_of_find here
    have owns := cancelled.owned r member
    have left := cancelled.leaves (cancelled.desk.letGo r.page.session owns)
      (List.filter_sublist (p := fun v => v.id ≠ r.id))
    exact cancelled.withWorld ⟨left.ids, left.started, left.desk, left.owned⟩
  · exact cancelled.withWorld
      ⟨cancelled.ids, cancelled.started, cancelled.desk, cancelled.owned⟩

end Orderly

/-! ### Any course of events -/

inductive Act where
  | ask (limit : Deadline) (request : Request)
  | settle (limit : Deadline)
  | wait (length : Nat)
  | teardown

def perform (s : Desktop) : Act → Desktop
  | .ask limit r => (request limit r.msg s).2
  | .settle limit => (settled limit s).2
  | .wait length => s.pass plan length
  | .teardown => { s with world := s.world.teardown }

def performed (script : Script) (options : Options) (now : Nat) (acts : List Act) : Desktop :=
  acts.foldl perform { world := { script, options }, now }

theorem Orderly.perform {s : Desktop} (orderly : Orderly s) (act : Act) :
    Orderly (perform s act) := by
  cases act with
  | ask limit request => exact orderly.request limit request.msg
  | settle limit => exact orderly.settled limit
  | wait length => exact orderly.run _
  | teardown => exact orderly.teardown

theorem orderly_performed (script : Script) (options : Options) (now : Nat) (acts : List Act) :
    Orderly (performed script options now acts) := by
  have orderly := orderly_new script options now
  unfold performed
  generalize ({ world := { script, options }, now } : Desktop) = s at orderly
  induction acts generalizing s with
  | nil => exact orderly
  | cons act acts ih => exact ih _ (orderly.perform act)

end TranscodeConsole.Rehearsal.Listings
