import TranscodeConsole.Proofs.Feed.Cursor
import TranscodeConsole.Proofs.Feed.Paging
import TranscodeConsole.Proofs.Listing.Desk

/-!
The marks at a desk. A session goes by a mark that the cursor of the desk has issued, and whatever
is done at the desk the cursor knows it: as the open session or as one that was given up.
-/
namespace TranscodeConsole.Listing

open Feed

namespace Desk

/-- The marks at a desk are those of its cursor. -/
structure Orderly (d : Desk) : Prop where
  cursor : d.cursor.Orderly
  parked : ∀ p, d.parked = some p → d.cursor.Owns p.session.mark

structure Keeps (d after : Desk) : Prop where
  orderly : after.Orderly
  owns : ∀ mark, d.cursor.Owns mark → after.cursor.Owns mark

theorem Keeps.trans {d middle after : Desk} (first : d.Keeps middle) (later : middle.Keeps after) :
    d.Keeps after :=
  ⟨later.orderly, fun mark owns => later.owns mark (first.owns mark owns)⟩

namespace Orderly

variable {d : Desk}

theorem keeps (orderly : d.Orderly) : d.Keeps d := ⟨orderly, fun _ owns => owns⟩

theorem withState (orderly : d.Orderly) (state : State) : d.Keeps { d with state } :=
  ⟨⟨orderly.cursor, orderly.parked⟩, fun _ owns => owns⟩

theorem send (orderly : d.Orderly) (m : Msg) : d.Keeps (d.send m) := orderly.withState _

theorem letGo (orderly : d.Orderly) (session : Session) (owns : d.cursor.Owns session.mark) :
    d.Keeps (d.letGo session) :=
  ⟨⟨orderly.cursor.cancelMark owns, fun p parked => (orderly.parked p parked).cancelMark _⟩,
    fun _ owned => owned.cancelMark _⟩

theorem unpark (orderly : d.Orderly) : d.Keeps d.unpark := by
  unfold Desk.unpark
  split
  · rename_i p parked
    have empty : d.Keeps { d with parked := none } := ⟨⟨orderly.cursor, by simp⟩, fun _ owns => owns⟩
    exact empty.trans (empty.orderly.letGo p.session (orderly.parked p parked))
  · exact orderly.keeps

theorem park (orderly : d.Orderly) (generation : Nat) {session : Session}
    (owns : d.cursor.Owns session.mark) : d.Keeps (d.park generation session) := by
  obtain ⟨⟨cursor, _⟩, kept⟩ := orderly.unpark
  refine ⟨⟨cursor, fun p parked => ?_⟩, kept⟩
  cases parked
  exact kept _ owns

theorem cancelStream (orderly : d.Orderly) :
    d.cancelStream.Orderly ∧
      ∀ mark, d.cursor.Owns mark → d.cancelStream.cursor.marks.isCancelled mark = true := by
  have cancelled := orderly.cursor.cancel
  refine ⟨⟨?_, by simp⟩, fun mark owns => ?_⟩
  · unfold Desk.cancelStream Desk.unpark
    split
    · rename_i p parked
      exact cancelled.cancelMark (.inl (orderly.parked p parked).cancel)
    · exact cancelled
  · have given := owns.cancel
    unfold Desk.cancelStream Desk.unpark
    split
    · simp [Desk.letGo, Cursor.cancelMark, given]
    · exact given

theorem keeps_cancelStream (orderly : d.Orderly) : d.Keeps d.cancelStream :=
  have ⟨still, given⟩ := orderly.cancelStream
  ⟨still, fun mark owns => .inl (given mark owns)⟩

theorem resume (orderly : d.Orderly) (generation : Nat) :
    d.Keeps (d.resume generation).2 ∧
      ∀ session, (d.resume generation).1 = some session → d.cursor.Owns session.mark := by
  unfold Desk.resume
  cases parked : d.parked with
  | none => exact ⟨orderly.send (.exhausted generation), by simp⟩
  | some p =>
    simp only
    split
    · refine ⟨⟨⟨orderly.cursor, by simp⟩, fun _ owns => owns⟩, ?_⟩
      intro session taken
      cases taken
      exact orderly.parked p parked
    · have given := orderly.unpark
      exact ⟨given.trans (given.orderly.send (.exhausted generation)), by simp⟩

theorem carryOut (orderly : d.Orderly) (effects : List Effect) :
    d.Keeps (d.carryOut effects).2 ∧
      ∀ generation session, .read generation session ∈ (d.carryOut effects).1 →
        (d.carryOut effects).2.cursor.Owns session.mark := by
  induction effects generalizing d with
  | nil => exact ⟨orderly.keeps, by simp [Desk.carryOut]⟩
  | cons effect effects ih =>
    cases effect with
    | cancelStream =>
      obtain ⟨keeps, owns⟩ := ih orderly.cancelStream.1
      exact ⟨orderly.keeps_cancelStream.trans keeps, owns⟩
    | openStream opened batch filter =>
      obtain ⟨keeps, owns⟩ := ih orderly
      refine ⟨keeps, ?_⟩
      intro generation session member
      rcases List.mem_cons.mp member with other | member
      · cases other
      · exact owns generation session member
    | resumeStream resumed =>
      have resumes := orderly.resume resumed
      simp only [Desk.carryOut]
      generalize d.resume resumed = result at resumes
      obtain ⟨taken, after⟩ := result
      obtain ⟨keeps, own⟩ := resumes
      obtain ⟨later, owns⟩ := ih keeps.orderly
      cases taken with
      | none => exact ⟨keeps.trans later, owns⟩
      | some session =>
        refine ⟨keeps.trans later, ?_⟩
        intro generation other member
        rcases List.mem_cons.mp member with same | member
        · cases same
          exact (keeps.trans later).owns _ (own session rfl)
        · exact owns generation other member

theorem request (orderly : d.Orderly) (m : Msg) :
    d.Keeps (d.request m).2 ∧
      ∀ generation session, .read generation session ∈ (d.request m).1 →
        (d.request m).2.cursor.Owns session.mark := by
  have heard := orderly.withState (update d.state m).1
  obtain ⟨keeps, owns⟩ := heard.orderly.carryOut (update d.state m).2
  exact ⟨heard.trans keeps, owns⟩

theorem pageOver (orderly : d.Orderly) (generation : Nat) {session : Session}
    (owns : d.cursor.Owns session.mark) (how : PageEnd) :
    d.Keeps (d.pageOver generation session how) := by
  cases how with
  | limitReached =>
    have parks := orderly.park generation owns
    exact parks.trans (parks.orderly.send _)
  | exhausted =>
    have ends := orderly.send (.exhausted generation)
    exact ends.trans (ends.orderly.letGo session owns)
  | cancelled => exact orderly.letGo session owns
  | stopped => exact orderly.letGo session owns

theorem feedFailed (orderly : d.Orderly) (generation : Nat) {session : Session}
    (owns : d.cursor.Owns session.mark) (error : ServiceError) :
    d.Keeps (d.feedFailed generation session error) := by
  have fails := orderly.send (.failed generation error.userMessage)
  exact fails.trans (fails.orderly.letGo session owns)

end Orderly

theorem run_consumer (generation : Nat) (mark : Mark) (now : Nat) (p : Page) (d : Desk) :
    let ran := Page.run BatchEntry.read (consumer generation mark) now p d
    ran.2.1.session.mark = p.session.mark ∧ ∃ state, ran.2.2 = { d with state } := by
  refine ⟨p.mark_run BatchEntry.read _ now d, ?_⟩
  refine Page.run_keeps (fun _ (s : Desk) => ∃ state, s = { d with state }) (fun _ _ _ kept => kept)
    ?_ ?_ ⟨d.state, rfl⟩
  · rintro error _ _ ⟨state, rfl⟩
    exact ⟨_, rfl⟩
  · rintro entry _ _ ⟨state, rfl⟩
    simp only [consumer, offer]
    split
    · exact ⟨_, rfl⟩
    · exact ⟨_, rfl⟩

end Desk
end TranscodeConsole.Listing
