import TranscodeConsole.Proofs.Feed.Paging

/-!
What becomes of a session that is read. It keeps its number and its mark, and once it has ended it
stays so: nothing is read of it any more, neither by record nor by page.
-/
namespace TranscodeConsole.Feed

open Json

variable {ρ : Type}

namespace Session

/-- The same session, later. It may have ended, but it cannot have come back. -/
structure Ages (s after : Session) : Prop where
  id : after.id = s.id
  mark : after.mark = s.mark
  live : after.live = true → s.live = true

variable {s middle after : Session}

theorem Ages.refl (s : Session) : s.Ages s := ⟨rfl, rfl, fun live => live⟩

theorem Ages.trans (first : s.Ages middle) (later : middle.Ages after) : s.Ages after :=
  ⟨later.id.trans first.id, later.mark.trans first.mark, fun live => first.live (later.live live)⟩

theorem Ages.isActive {marks later : Marks}
    (grows : ∀ mark, marks.isCancelled mark = true → later.isCancelled mark = true)
    (ages : s.Ages after) (ended : s.isActive marks = false) : after.isActive later = false := by
  cases live : after.live with
  | false => simp [Session.isActive, live]
  | true =>
    have gone : marks.isCancelled s.mark = true := by
      simpa [Session.isActive, ages.live live] using ended
    simp [Session.isActive, ages.mark, grows _ gone]

theorem ages_finish (s : Session) : s.Ages s.finish := by
  unfold finish
  split
  · exact ⟨rfl, rfl, fun live => Bool.noConfusion live⟩
  · exact .refl s

theorem ages_receive (now : Nat) (s : Session) : s.Ages (receive (ρ := ρ) now s).2 := by
  unfold receive
  split
  · exact s.ages_finish
  · split
    · exact ⟨rfl, rfl, fun live => live⟩
    · rename_i body arrived
      have taken : s.Ages { s with body } := ⟨rfl, rfl, fun live => live⟩
      exact taken.trans (ages_finish _)
    · exact ⟨rfl, rfl, fun live => live⟩
    · exact ⟨rfl, rfl, fun live => live⟩

theorem ages_pull (read : Reader ρ) (cancelled : Bool) (now : Nat) (s : Session) :
    s.Ages (s.pull read cancelled now).2 := by
  unfold pull
  split
  · exact s.ages_finish
  · split
    · split <;> exact ⟨rfl, rfl, fun live => live⟩
    · exact ⟨rfl, rfl, fun live => live⟩
    · exact ⟨rfl, rfl, fun live => live⟩
    · rename_i framing cut
      have taken : s.Ages { s with framing } := ⟨rfl, rfl, fun live => live⟩
      exact taken.trans (ages_receive now _)

variable {σ : Type} {sink : Sink σ} {now : Nat} {heard : σ}

theorem ages_seek (read : Reader ρ) (passing : Bool) :
    s.Ages (s.seek read sink now passing heard).2.1 :=
  seek_keeps (fun after _ => s.Ages after)
    (fun gone after _ ages => ages.trans (after.ages_pull read gone now)) (fun _ _ _ ages => ages)
    passing (.refl s)

theorem seek_over (read : Reader ρ) (ended : (sink.cancelled heard || !s.live) = true) :
    s.seek read sink now false heard = (.done, s.finish, heard) := by
  have pulled : s.pull read (sink.cancelled heard && !s.looksOn false) now = (.done, s.finish) := by
    rw [pull, if_pos (by simpa using ended)]
  rw [seek, pulled]

end Session

theorem Page.ages_run {σ : Type} (read : Reader ρ) (consumer : Consumer σ ρ) (now : Nat) (p : Page)
    (s : σ) : p.session.Ages (run read consumer now p s).2.1.session :=
  run_keeps (fun after _ => p.session.Ages after)
    (fun gone after _ ages => ages.trans (after.ages_pull read gone now)) (fun _ _ _ ages => ages)
    (fun _ _ _ ages => ages) (.refl p.session)

end TranscodeConsole.Feed
