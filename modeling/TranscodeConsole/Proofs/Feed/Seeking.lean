import TranscodeConsole.Proofs.Feed.Remaining

/-!
One call that reads a session up to its next record. A sink that does not give up the session leaves
no trace in how it is read; one that does is noticed at the next look at the mark.
-/
namespace TranscodeConsole.Feed.Session

open Json

variable {ρ σ : Type} {read : Reader ρ} {sink : Sink σ} {now : Nat} {s : Session} {heard : σ}

/-! ### What a call keeps -/

theorem seek_keeps (keeps : Session → σ → Prop)
    (pulls : ∀ gone s heard, keeps s heard → keeps (s.pull read gone now).2 heard)
    (rejects : ∀ error s heard, keeps s heard → keeps s (sink.reject error heard))
    (passing : Bool) (kept : keeps s heard) :
    keeps (s.seek read sink now passing heard).2.1 (s.seek read sink now passing heard).2.2 := by
  have pulled : ∀ {gone s heard pull after}, keeps s heard →
      s.pull read gone now = (pull, after) → keeps after heard := by
    intro gone s heard pull after kept same
    have later := pulls gone s heard kept
    rwa [same] at later
  fun_induction seek read sink now passing s heard with
  | case1 passing s heard r after same | case2 passing s heard time after same
  | case3 passing s heard after same | case4 passing s heard error after same =>
    exact pulled kept same
  | case5 passing s heard after same ih => exact ih (pulled kept same)
  | case6 passing s heard error after same ih => exact ih (rejects error _ _ (pulled kept same))

theorem body_finish (s : Session) : s.finish.body = s.body := by
  unfold finish
  split <;> rfl

/-! ### Sinks that do not give up the session -/

def Sink.Steady (sink : Sink σ) : Prop :=
  ∀ error heard, sink.cancelled (sink.reject error heard) = sink.cancelled heard

@[simp] theorem looksOn_false : s.looksOn false = false := rfl

theorem seek_valid (steady : sink.Steady) (valid : sink.cancelled heard = false) (passing : Bool) :
    s.seek read sink now passing heard = s.seek read sink now false heard := by
  induction size : s.size using Nat.strongRecOn generalizing s heard passing with
  | ind k ih =>
    subst size
    have less := size_pull_lt read false now s
    rw [seek, seek, valid, Bool.false_and, Bool.false_and]
    generalize s.pull read false now = result at less
    obtain ⟨pull, after⟩ := result
    cases pull with
    | record | waiting | done | failed => rfl
    | moved =>
      have same := fun passing => ih after.size (less rfl) valid passing rfl
      exact (same _).trans (same _).symm
    | rejected error =>
      have still : sink.cancelled (sink.reject error heard) = false :=
        (steady error heard).trans valid
      have same := fun passing => ih after.size (less rfl) still passing rfl
      exact (same _).trans (same _).symm

theorem seek_gone (gone : sink.cancelled heard = true) :
    s.seek read sink now false heard = (.done, s.finish, heard) := by
  rw [seek, gone]
  rfl

theorem seek_eq (steady : sink.Steady) :
    s.seek read sink now false heard = match s.pull read (sink.cancelled heard) now with
      | (.record r, after) => (.record r, after, heard)
      | (.waiting time, after) => (.waiting time, after, heard)
      | (.done, after) => (.done, after, heard)
      | (.failed error, after) => (.failed error, after, heard)
      | (.moved, after) => after.seek read sink now false heard
      | (.rejected error, after) => after.seek read sink now false (sink.reject error heard) := by
  cases valid : sink.cancelled heard with
  | true => exact seek_gone valid
  | false =>
    rw [seek, valid, Bool.false_and]
    generalize s.pull read false now = result
    obtain ⟨pull, after⟩ := result
    cases pull with
    | record | waiting | done | failed => rfl
    | moved => exact seek_valid steady valid _
    | rejected error => exact seek_valid steady ((steady error heard).trans valid) _

end TranscodeConsole.Feed.Session
