import TranscodeConsole.Listing.Desk
import TranscodeConsole.Proofs.Feed.Seeking
import TranscodeConsole.Proofs.Listing.Step

/-!
What the operations of a desk do to its listing and to its parking place, and what each request of
an operator leaves to be done.
-/
namespace TranscodeConsole.Listing

open Feed

/-- A listing shows what these events of a feed say. -/
structure Shows (s : State) (said : List (Event BatchEntry)) : Prop where
  entries : s.entries = records said
  malformed : s.malformed = (rejected said).length

abbrev rest (session : Session) : List (Event BatchEntry) := session.remaining BatchEntry.read

namespace Desk

theorem steady_consumer (generation : Nat) (mark : Mark) : (consumer generation mark).Steady :=
  fun _ _ => rfl

@[simp] theorem state_letGo (d : Desk) (session : Session) : (d.letGo session).state = d.state := rfl

@[simp] theorem parked_letGo (d : Desk) (session : Session) :
    (d.letGo session).parked = d.parked := rfl

theorem letGo_cancelled {d : Desk} {session : Session}
    (cancelled : d.cursor.marks.isCancelled session.mark = true) : d.letGo session = d := by
  simp [letGo, Cursor.cancelMark, Marks.cancel, cancelled]

@[simp] theorem state_unpark (d : Desk) : d.unpark.state = d.state := by
  unfold unpark
  split <;> rfl

@[simp] theorem parked_unpark (d : Desk) : d.unpark.parked = none := by
  unfold unpark
  split
  · rfl
  · assumption

@[simp] theorem state_cancelStream (d : Desk) : d.cancelStream.state = d.state := by
  simp [cancelStream]

@[simp] theorem parked_cancelStream (d : Desk) : d.cancelStream.parked = none := by
  simp [cancelStream]

@[simp] theorem state_send (d : Desk) (m : Msg) : (d.send m).state = (update d.state m).1 := rfl

@[simp] theorem parked_send (d : Desk) (m : Msg) : (d.send m).parked = d.parked := rfl

@[simp] theorem state_park (d : Desk) (generation : Nat) (session : Session) :
    (d.park generation session).state = d.state := by
  simp [park]

@[simp] theorem parked_park (d : Desk) (generation : Nat) (session : Session) :
    (d.park generation session).parked = some ⟨generation, session⟩ := rfl

theorem state_record {d : Desk} (loading : d.state.status = .loading) (entry : BatchEntry) :
    (d.send (.record d.state.generation entry)).state =
      { d.state with entries := d.state.entries ++ [entry], dirty := true } := by
  simp [update, State.accepts, loading]

theorem state_malformed {d : Desk} (loading : d.state.status = .loading) (message : String) :
    (d.send (.malformed d.state.generation message)).state =
      { d.state with
        malformed := d.state.malformed + 1, lastDiagnostic := some message, dirty := true } := by
  simp [update, State.accepts, loading]

theorem request_ignored {d : Desk} {m : Msg} (deaf : d.state.heeds m = false) :
    d.request m = ([], d) := by
  simp [request, apply, update_ignored deaf, carryOut]

theorem request_asked {d : Desk} {m : Msg} {batch : Uuid} {filter : Filter}
    (asked : d.state.asked m = some (batch, filter)) :
    d.request m = ([.openFeed (d.state.generation + 1) batch filter],
      { d with state := d.state.beginLoad batch filter }.cancelStream) := by
  simp [request, apply, update_asked asked, startLoad, carryOut]

theorem request_cancel (d : Desk) :
    d.request .cancel = ([], { d with state := (update d.state .cancel).1 }.cancelStream) := rfl

theorem request_failed {d : Desk} (loading : d.state.status = .loading) (message : String) :
    d.request (.failed d.state.generation message) =
      ([], { d with
        state := (update d.state (.failed d.state.generation message)).1 }.cancelStream) := by
  simp [request, apply, update, State.accepts, loading, carryOut]

theorem request_more {d : Desk} (idle : d.state.status = .idle)
    (more : d.state.moreAvailable = true) :
    d.request .more = ({ d with
      state := { d.state with status := .loading, moreAvailable := false, dirty := true } } :
      Desk).carryOut [.resumeStream d.state.generation] := by
  simp [request, apply, update, idle, more]

theorem request_parked {d : Desk} {p : Parked} (idle : d.state.status = .idle)
    (more : d.state.moreAvailable = true) (parked : d.parked = some p)
    (own : p.generation = d.state.generation)
    (active : p.session.isActive d.cursor.marks = true) :
    d.request .more = ([.read d.state.generation p.session],
      { d with
        state := { d.state with status := .loading, moreAvailable := false, dirty := true }
        parked := none }) := by
  rw [request_more idle more]
  simp [carryOut, resume, parked, own, active]

theorem request_unparked {d : Desk} (idle : d.state.status = .idle)
    (more : d.state.moreAvailable = true)
    (nothing : ∀ p, d.parked = some p → p.generation = d.state.generation →
      p.session.isActive d.cursor.marks = false) :
    (d.request .more).1 = [] ∧ (d.request .more).2.parked = none ∧
      (d.request .more).2.state =
        ({ d.state with status := .loading, moreAvailable := false, dirty := true } :
          State).finishPage false := by
  rw [request_more idle more]
  cases parked : d.parked with
  | none => simp [carryOut, resume, update, State.accepts]
  | some p =>
    have unfit : ¬ (p.generation = d.state.generation ∧
        p.session.isActive d.cursor.marks = true) :=
      fun fits => absurd (nothing p parked fits.1) (by simp [fits.2])
    simp [carryOut, resume, unfit, update, State.accepts]

end Desk

theorem Shows.record {d : Desk} {said : List (Event BatchEntry)} (shows : Shows d.state said)
    (loading : d.state.status = .loading) (entry : BatchEntry) :
    Shows (d.send (.record d.state.generation entry)).state (said ++ [.record entry]) := by
  rw [Desk.state_record loading]
  exact ⟨by simp [shows.entries], by simp [shows.malformed]⟩

theorem Shows.rejected {d : Desk} {said : List (Event BatchEntry)} (shows : Shows d.state said)
    (loading : d.state.status = .loading) (error : ServiceError) :
    Shows (d.send (.malformed d.state.generation error.message)).state
      (said ++ [.rejected error]) := by
  rw [Desk.state_malformed loading]
  exact ⟨by simp [shows.entries], by simp [shows.malformed]⟩

end TranscodeConsole.Listing
