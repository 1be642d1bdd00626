import TranscodeConsole.Feed.Cursor

/-!
The marks of one owner of feeds. Every session it ever opened was given up or is the open one, and
a new one is never given up from the start.
-/
namespace TranscodeConsole.Feed

namespace Cursor

structure Orderly (c : Cursor) : Prop where
  cancelled : ∀ mark, c.marks.isCancelled mark = true → mark < c.marks.issued
  current : ∀ active, c.current = some active → active.mark < c.marks.issued

def Owns (c : Cursor) (mark : Mark) : Prop :=
  c.marks.isCancelled mark = true ∨ ∃ active, c.current = some active ∧ active.mark = mark

variable {c : Cursor}

theorem orderly_new : ({} : Cursor).Orderly := ⟨by simp [Marks.isCancelled], by simp⟩

theorem Orderly.issued (orderly : c.Orderly) {mark : Mark} (owns : c.Owns mark) :
    mark < c.marks.issued := by
  rcases owns with cancelled | ⟨active, current, rfl⟩
  · exact orderly.cancelled mark cancelled
  · exact orderly.current active current

theorem Orderly.cancelMark (orderly : c.Orderly) {mark : Mark} (owns : c.Owns mark) :
    (c.cancelMark mark).Orderly := by
  refine ⟨fun other cancelled => ?_, fun active current => ?_⟩
  · simp only [Cursor.cancelMark, Marks.isCancelled_cancel, Bool.or_eq_true, beq_iff_eq] at cancelled
    simp only [Cursor.cancelMark, Marks.issued_cancel]
    rcases cancelled with old | rfl
    · exact orderly.cancelled other old
    · exact orderly.issued owns
  · simpa [Cursor.cancelMark] using orderly.current active current

theorem Owns.cancelMark {mark : Mark} (owns : c.Owns mark) (other : Mark) :
    (c.cancelMark other).Owns mark := by
  rcases owns with cancelled | open_
  · exact .inl (by simp [Cursor.cancelMark, cancelled])
  · exact .inr open_

theorem Orderly.cancel (orderly : c.Orderly) : c.cancel.Orderly := by
  unfold Cursor.cancel
  split
  · rename_i active current
    have cancelled := orderly.cancelMark (.inr ⟨active, current, rfl⟩)
    exact ⟨cancelled.cancelled, by simp⟩
  · exact orderly

theorem Owns.cancel {mark : Mark} (owns : c.Owns mark) :
    c.cancel.marks.isCancelled mark = true := by
  unfold Cursor.cancel
  rcases owns with cancelled | ⟨active, current, rfl⟩
  · split
    · simp [cancelled]
    · exact cancelled
  · simp [current]

theorem activeSession_valid {active : ActiveSession} (current : c.current = some active)
    (valid : c.marks.isCancelled active.mark = false) : c.activeSession = some active.id := by
  rw [activeSession, current, Option.filter_some_pos (by simp [valid]), Option.map_some]

theorem activeSession_gone
    (gone : ∀ active, c.current = some active → c.marks.isCancelled active.mark = true) :
    c.activeSession = none := by
  cases current : c.current with
  | none => simp [activeSession, current]
  | some active => simp [activeSession, current, gone active current]

structure Fresh (before after : Cursor) (active : ActiveSession) : Prop where
  orderly : after.Orderly
  current : after.current = some active
  valid : after.marks.isCancelled active.mark = false
  others : ∀ mark, before.Owns mark → after.marks.isCancelled mark = true

theorem fresh_connect (orderly : c.Orderly) : Fresh c c.connect.2 c.connect.1 := by
  have cancelled := orderly.cancel
  refine ⟨⟨fun mark old => ?_, fun active current => ?_⟩, rfl, ?_, fun mark owns => owns.cancel⟩
  · exact Nat.lt_succ_of_lt (cancelled.cancelled mark old)
  · cases current
    exact Nat.lt_succ_self _
  · show c.cancel.marks.isCancelled c.cancel.marks.issued = false
    rw [← Bool.not_eq_true]
    intro old
    exact absurd (cancelled.cancelled _ old) (Nat.lt_irrefl _)

end Cursor
end TranscodeConsole.Feed
