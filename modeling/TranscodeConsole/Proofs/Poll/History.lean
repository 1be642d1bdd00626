import TranscodeConsole.Poll.Owner
import Mathlib.Data.List.Infix

/-!
What may happen to the polls of one owner, told as a rule for histories: what an entry needs is said
of the entries before it. A poll is started only when none runs, and under a number that is new. It
begins a refresh, or goes on with one, only while it runs, and begins none before the last is
complete.
-/
namespace TranscodeConsole.Poll

inductive Note where
  | starts (c : Control)
  | refuses (id : Nat)
  | stops (c : Control)
  | begins (c : Control)
  | proceeds (c : Control)
  | completes (c : Control)
  deriving DecidableEq, Repr

def Note.worker? : Note → Option Control
  | .begins c | .proceeds c | .completes c => some c
  | .starts _ | .refuses _ | .stops _ => none

def Runs (c : Control) (log : List Note) : Prop := .starts c ∈ log ∧ .stops c ∉ log

def busyAfter (c : Control) (busy : Bool) : Note → Bool
  | .begins d => if d = c then true else busy
  | .completes d => if d = c then false else busy
  | .starts _ | .refuses _ | .stops _ | .proceeds _ => busy

def isBusy (c : Control) (log : List Note) : Bool := log.foldl (busyAfter c) false

def Allowed (before : List Note) : Note → Prop
  | .starts c => (∀ d, ¬ Runs d before) ∧ ∀ d, .starts d ∈ before → d.id < c.id
  | .refuses id => ∃ c, c.id = id ∧ Runs c before
  | .stops c => .starts c ∈ before
  | .begins c => Runs c before ∧ isBusy c before = false
  | .proceeds c => Runs c before ∧ isBusy c before = true
  | .completes c => isBusy c before = true

inductive Lawful : List Note → Prop where
  | nil : Lawful []
  | snoc {log : List Note} {n : Note} (earlier : Lawful log) (allowed : Allowed log n) :
      Lawful (log ++ [n])

/-- The rule, read off a whole history. -/
structure Disciplined (log : List Note) : Prop where
  one : ∀ before, before <+: log → ∀ c d, Runs c before → Runs d before → c = d
  rising : ∀ before c after, log = before ++ .starts c :: after → ∀ d, .starts d ∈ after →
    c.id < d.id
  starts : ∀ before c after, log = before ++ .starts c :: after → ∀ d, ¬ Runs d before
  refuses : ∀ before id after, log = before ++ .refuses id :: after →
    ∃ c, c.id = id ∧ Runs c before
  final : ∀ before c after, log = before ++ .stops c :: after →
    .begins c ∉ after ∧ .proceeds c ∉ after
  apart : ∀ before c between after,
    log = before ++ .begins c :: between ++ .begins c :: after → .completes c ∈ between

variable {log before after : List Note} {n : Note} {c d : Control}

@[simp] theorem isBusy_snoc (c : Control) (log : List Note) (n : Note) :
    isBusy c (log ++ [n]) = busyAfter c (isBusy c log) n := by
  simp [isBusy]

theorem runs_snoc : Runs c (log ++ [n]) ↔
    (.starts c ∈ log ∨ n = .starts c) ∧ .stops c ∉ log ∧ n ≠ .stops c := by
  simp [Runs, eq_comm]

theorem busyAfter_other (other : n.worker? ≠ some c) (busy : Bool) : busyAfter c busy n = busy := by
  cases n with
  | begins d | completes d =>
    have other : d ≠ c := by simpa [Note.worker?] using other
    simp [busyAfter, other]
  | starts | refuses | stops | proceeds => rfl

theorem busy_of_begun {between : List Note} {busy : Bool} (begun : busy = true)
    (none : .completes c ∉ between) : between.foldl (busyAfter c) busy = true := by
  induction between generalizing busy with
  | nil => exact begun
  | cons n between ih =>
    simp only [List.mem_cons, not_or] at none
    refine ih ?_ none.2
    cases n with
    | begins d => simp [busyAfter, begun]
    | completes d =>
      have other : d ≠ c := fun same => none.1 (by rw [same])
      simp [busyAfter, other, begun]
    | starts | refuses | stops | proceeds => exact begun

namespace Lawful

theorem last (lawful : Lawful (log ++ [n])) : Lawful log ∧ Allowed log n := by
  generalize whole : log ++ [n] = history at lawful
  cases lawful with
  | nil => simp at whole
  | snoc earlier allowed =>
    obtain ⟨rfl, same⟩ := List.append_inj' whole rfl
    cases same
    exact ⟨earlier, allowed⟩

theorem earlier (lawful : Lawful (before ++ after)) : Lawful before := by
  induction after using List.reverseRecOn with
  | nil => simpa using lawful
  | append_singleton after n ih =>
    rw [← List.append_assoc] at lawful
    exact ih lawful.last.1

theorem allowed (lawful : Lawful (before ++ n :: after)) : Allowed before n := by
  have whole : Lawful ((before ++ [n]) ++ after) := by simpa using lawful
  exact whole.earlier.last.2

theorem started_of_stops (lawful : Lawful log) (stopped : .stops c ∈ log) : .starts c ∈ log := by
  obtain ⟨before, after, rfl⟩ := List.append_of_mem stopped
  exact List.mem_append_left _ lawful.allowed

theorem started_of_busy (lawful : Lawful log) (busy : isBusy c log = true) : .starts c ∈ log := by
  induction lawful with
  | nil => simp [isBusy] at busy
  | @snoc log n earlier allowed ih =>
    by_cases own : n = .begins c
    · subst own
      exact List.mem_append_left _ allowed.1.1
    · refine List.mem_append_left _ (ih ?_)
      rw [isBusy_snoc] at busy
      cases n with
      | begins d =>
        have other : d ≠ c := fun same => own (by rw [same])
        simpa [busyAfter, other] using busy
      | completes d =>
        have both : ¬ d = c ∧ isBusy c log = true := by simpa [busyAfter] using busy
        exact both.2
      | starts | refuses | stops | proceeds => exact busy

theorem one (lawful : Lawful log) (first : Runs c log) (second : Runs d log) : c = d := by
  induction lawful with
  | nil => exact absurd first.1 (by simp)
  | @snoc log n earlier allowed ih =>
    obtain ⟨started, going, _⟩ := runs_snoc.mp first
    obtain ⟨started', going', _⟩ := runs_snoc.mp second
    rcases started with old | new <;> rcases started' with old' | new'
    · exact ih ⟨old, going⟩ ⟨old', going'⟩
    · subst new'
      exact absurd ⟨old, going⟩ (allowed.1 c)
    · subst new
      exact absurd ⟨old', going'⟩ (allowed.1 d)
    · exact Note.starts.inj (new.symm.trans new')

theorem disciplined (lawful : Lawful log) : Disciplined log := by
  -- A note is allowed by all that was noted before it; so the later of two notes is looked at.
  constructor
  case one =>
    rintro before ⟨after, rfl⟩ c d first second
    exact lawful.earlier.one first second
  case rising =>
    rintro before c after rfl d later
    obtain ⟨between, rest, rfl⟩ := List.append_of_mem later
    have whole : Lawful ((before ++ .starts c :: between) ++ .starts d :: rest) := by
      simpa using lawful
    exact whole.allowed.2 c (by simp)
  case starts =>
    rintro before c after rfl
    exact lawful.allowed.1
  case refuses =>
    rintro before id after rfl
    exact lawful.allowed
  case final =>
    rintro before c after rfl
    constructor
    · intro later
      obtain ⟨between, rest, rfl⟩ := List.append_of_mem later
      have whole : Lawful ((before ++ .stops c :: between) ++ .begins c :: rest) := by
        simpa using lawful
      exact whole.allowed.1.2 (by simp)
    · intro later
      obtain ⟨between, rest, rfl⟩ := List.append_of_mem later
      have whole : Lawful ((before ++ .stops c :: between) ++ .proceeds c :: rest) := by
        simpa using lawful
      exact whole.allowed.1.2 (by simp)
  case apart =>
    rintro before c between after rfl
    by_contra none
    have idle := lawful.allowed.2
    have busy : isBusy c (before ++ .begins c :: between) = true := by
      rw [isBusy, List.foldl_append, List.foldl_cons]
      exact busy_of_begun (by simp [busyAfter]) none
    rw [busy] at idle
    cases idle

end Lawful
end TranscodeConsole.Poll
