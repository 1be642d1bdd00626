import TranscodeConsole.Poll.Worker
import Mathlib.Logic.Relation

/-!
A poll step by step: it begins a refresh at a tick that is due, goes on with one, or leaves because
it was called off. Whatever each step keeps is kept whenever and however often the poll is run, and
a poll that can go on does.
-/
namespace TranscodeConsole.Poll

open Relation (ReflTransGen)

variable {σ ω : Type}

def Phase.behind : Option ω → Phase ω
  | some work => .refreshing work
  | none => .ticking

namespace Worker

inductive Step (refresh : Refresh σ ω) (now : Nat) : Worker ω × σ → Worker ω × σ → Prop where
  | leaves {t : Worker ω} {s : σ} (cancelled : refresh.cancelled s = true) :
      Step refresh now (t, s) ({ t with phase := .over }, s)
  | begins {t : Worker ω} {s : σ} (live : refresh.cancelled s = false) (phase : t.phase = .ticking)
      (due : t.ticker.isDue now = true) :
      Step refresh now (t, s)
        (⟨t.ticker.take now, .behind (refresh.begin now s).1⟩, (refresh.begin now s).2)
  | resumes {t : Worker ω} {work : ω} {s : σ} (live : refresh.cancelled s = false)
      (phase : t.phase = .refreshing work) :
      Step refresh now (t, s)
        ({ t with phase := .behind (refresh.resume now work s).1 }, (refresh.resume now work s).2)

def Steps (refresh : Refresh σ ω) : Worker ω × σ → Worker ω × σ → Prop :=
  ReflTransGen fun m n => ∃ now, Step refresh now m n

variable {refresh : Refresh σ ω} {now : Nat}

theorem steps_run (refresh : Refresh σ ω) (now : Nat) (t : Worker ω) (s : σ) :
    Steps refresh (t, s) (run refresh now t s) := by
  fun_induction run refresh now t s with
  | case1 t s cancelled => exact .single ⟨now, .leaves cancelled⟩
  | case2 t s live phase => exact .refl
  | case3 t s live work phase left s' resumed =>
    have step : Step refresh now (t, s) _ := .resumes (by simpa using live) phase
    rw [resumed] at step
    exact .single ⟨now, step⟩
  | case4 t s live work phase s' resumed ih =>
    have step : Step refresh now (t, s) _ := .resumes (by simpa using live) phase
    rw [resumed] at step
    exact .head ⟨now, step⟩ ih
  | case5 t s live phase due left s' begun =>
    have step : Step refresh now (t, s) _ := .begins (by simpa using live) phase due
    rw [begun] at step
    exact .single ⟨now, step⟩
  | case6 t s live phase due s' begun ih =>
    have step : Step refresh now (t, s) _ := .begins (by simpa using live) phase due
    rw [begun] at step
    exact .head ⟨now, step⟩ ih
  | case7 t s live phase early => exact .refl

theorem run_over {t : Worker ω} {s : σ} (phase : t.phase = .over) :
    run refresh now t s = (t, s) := by
  obtain ⟨ticker, _⟩ := t
  cases phase
  rw [run]
  simp

theorem run_early {t : Worker ω} {s : σ} (live : refresh.cancelled s = false)
    (phase : t.phase = .ticking) (early : t.ticker.isDue now = false) :
    run refresh now t s = (t, s) := by
  obtain ⟨ticker, _⟩ := t
  cases phase
  rw [run]
  simp [live, early]

theorem run_begins {t : Worker ω} {s : σ} (live : refresh.cancelled s = false)
    (phase : t.phase = .ticking) (due : t.ticker.isDue now = true) :
    run refresh now t s = match refresh.begin now s with
      | (some work, s) => (⟨t.ticker.take now, .refreshing work⟩, s)
      | (none, s) => run refresh now ⟨t.ticker.take now, .ticking⟩ s := by
  obtain ⟨ticker, _⟩ := t
  cases phase
  rcases begun : refresh.begin now s with ⟨_ | work, s'⟩ <;> rw [run] <;> simp [live, due, begun]

theorem run_resumes {t : Worker ω} {s : σ} {work : ω} (live : refresh.cancelled s = false)
    (phase : t.phase = .refreshing work) :
    run refresh now t s = match refresh.resume now work s with
      | (some work, s) => ({ t with phase := .refreshing work }, s)
      | (none, s) => run refresh now { t with phase := .ticking } s := by
  obtain ⟨ticker, _⟩ := t
  cases phase
  rcases resumed : refresh.resume now work s with ⟨_ | left, s'⟩ <;> rw [run] <;>
    simp [live, resumed]

theorem run_goesOn {t : Worker ω} {s : σ} (live : refresh.cancelled s = false)
    (stays : t.phase ≠ .over) (awake : t.phase = .ticking → t.ticker.isDue now = true) :
    ∃ m, Step refresh now (t, s) m ∧ Steps refresh m (run refresh now t s) := by
  rw [run]
  simp only [live, Bool.false_eq_true, ite_false]
  split
  · rename_i ended
    exact absurd ended stays
  · rename_i work phase
    refine ⟨_, .resumes live phase, ?_⟩
    split
    · rename_i left s' resumed
      rw [resumed]
      exact .refl
    · rename_i s' resumed
      rw [resumed]
      exact steps_run refresh now _ s'
  · rename_i phase
    have due := awake phase
    refine ⟨_, .begins live phase due, ?_⟩
    rw [dif_pos due]
    split
    · rename_i left s' begun
      rw [begun]
      exact .refl
    · rename_i s' begun
      rw [begun]
      exact steps_run refresh now _ s'

theorem run_rests {late : ω → Prop}
    (begun : ∀ {s work}, (refresh.begin now s).1 = some work → late work)
    (resumed : ∀ {earlier s work}, (refresh.resume now earlier s).1 = some work → late work)
    (t : Worker ω) (s : σ) :
    let after := run refresh now t s
    after.1.phase = .over ∨ (∃ work, after.1.phase = .refreshing work ∧ late work) ∨
      (after.1.phase = .ticking ∧ after.1.ticker.isDue now = false ∧
        refresh.cancelled after.2 = false) := by
  fun_induction run refresh now t s with
  | case1 => exact .inl rfl
  | case2 t s live phase => exact .inl phase
  | case3 t s live work phase left s' same => exact .inr (.inl ⟨left, rfl, resumed (by rw [same])⟩)
  | case4 t s live work phase s' same ih => exact ih
  | case5 t s live phase due left s' same => exact .inr (.inl ⟨left, rfl, begun (by rw [same])⟩)
  | case6 t s live phase due s' same ih => exact ih
  | case7 t s live phase early =>
    exact .inr (.inr ⟨phase, by simpa using early, by simpa using live⟩)

theorem run_map {f : σ → σ} (cancelled : ∀ s, refresh.cancelled (f s) = refresh.cancelled s)
    (begin : ∀ s, refresh.begin now (f s) = (refresh.begin now s).map id f)
    (resume : ∀ work s, refresh.resume now work (f s) = (refresh.resume now work s).map id f)
    (t : Worker ω) (s : σ) :
    run refresh now t (f s) = (run refresh now t s).map id f := by
  have same : ∀ {s}, ¬ refresh.cancelled s = true → refresh.cancelled (f s) = false := by
    intro s live
    simpa [cancelled] using live
  fun_induction run refresh now t s with
  | case1 t s called =>
    rw [run, cancelled, if_pos called]
    rfl
  | case2 t s live phase => exact run_over phase
  | case3 t s live work phase left s' resumed =>
    rw [run_resumes (same live) phase, resume, resumed]
    rfl
  | case4 t s live work phase s' resumed ih =>
    rw [run_resumes (same live) phase, resume, resumed]
    exact ih
  | case5 t s live phase due left s' begun =>
    rw [run_begins (same live) phase due, begin, begun]
    rfl
  | case6 t s live phase due s' begun ih =>
    rw [run_begins (same live) phase due, begin, begun]
    exact ih
  | case7 t s live phase early =>
    exact run_early (same live) phase (by simpa using early)

end Worker
end TranscodeConsole.Poll
