import Mathlib.Algebra.Order.Floor.Div
import TranscodeConsole.Figures

/-!
Sums and shares of counters. Each counter fits 64 bits, but what is computed of several of them may
not: then the operation that overflows is the answer, and else the answer is that of unbounded
arithmetic.
-/
namespace TranscodeConsole

namespace Counter

variable {α : Type}

theorem checked_bind (operation : Overflow) (n : Nat) (next : Nat → Except Overflow α) :
    checked operation n >>= next = if n < counterBound then next n else .error operation := by
  unfold checked
  split <;> rfl

theorem add_bind (m n : Nat) (next : Nat → Except Overflow α) :
    add m n >>= next = if m + n < counterBound then next (m + n) else .error .add :=
  checked_bind .add (m + n) next

theorem multiply_bind (m n : Nat) (next : Nat → Except Overflow α) :
    multiply m n >>= next = if m * n < counterBound then next (m * n) else .error .multiply :=
  checked_bind .multiply (m * n) next

end Counter

namespace BatchSummary

/-! ### The share of a batch that is finished -/

def finished (s : BatchSummary) : Nat := s.completed + s.failed

/-- All items but those that were aborted or never queued. -/
def counted (s : BatchSummary) : Nat := s.finished + s.pending + s.active

/-- The percentage of counted items that are finished, rounded up; none of no items. -/
def share (s : BatchSummary) : Nat :=
  if s.counted = 0 then 0 else 100 * s.finished ⌈/⌉ s.counted

structure Finishes (s t : BatchSummary) : Prop where
  finished : t.completed = s.completed + 1 ∧ t.failed = s.failed ∨
    t.completed = s.completed ∧ t.failed = s.failed + 1
  unfinished : s.pending = t.pending + 1 ∧ s.active = t.active ∨
    s.pending = t.pending ∧ s.active = t.active + 1

variable {s t : BatchSummary}

theorem share_le_iff (some_ : 0 < s.counted) (percent : Nat) :
    s.share ≤ percent ↔ 100 * s.finished ≤ s.counted * percent := by
  rw [share, if_neg (Nat.ne_of_gt some_), ceilDiv_le_iff_le_mul some_]

theorem finished_le_counted (s : BatchSummary) : s.finished ≤ s.counted := by
  unfold counted
  omega

theorem share_le (s : BatchSummary) : s.share ≤ 100 := by
  rcases Nat.eq_zero_or_pos s.counted with empty | some_
  · simp [share, empty]
  · rw [share_le_iff some_, Nat.mul_comm]
    exact Nat.mul_le_mul_right 100 s.finished_le_counted

theorem Finishes.finished_eq (moves : s.Finishes t) : t.finished = s.finished + 1 := by
  have := moves.finished
  unfold BatchSummary.finished
  omega

theorem Finishes.counted_eq (moves : s.Finishes t) : t.counted = s.counted := by
  have := moves.finished_eq
  have := moves.unfinished
  unfold counted
  omega

theorem Finishes.share_le (moves : s.Finishes t) : s.share ≤ t.share := by
  rcases Nat.eq_zero_or_pos s.counted with empty | some_
  · simp [share, empty]
  · have same := moves.counted_eq
    have more := moves.finished_eq
    -- the larger share is enough for the smaller one, since both are of the same number
    have enough := (share_le_iff (same ▸ some_) t.share).mp (Nat.le_refl _)
    rw [share_le_iff some_, ← same]
    omega

theorem share_eq_min (some_ : s.counted ≠ 0) :
    s.share = min ((s.finished * 100 + s.counted - 1) / s.counted) 100 := by
  have rounded : s.share = (s.finished * 100 + s.counted - 1) / s.counted := by
    rw [share, if_neg some_, Nat.ceilDiv_eq_add_pred_div, Nat.mul_comm]
  rw [← rounded, Nat.min_eq_left s.share_le]

theorem percent_uncounted (full : counterBound ≤ s.counted) : s.percent = .error .add := by
  have third : ¬ s.completed + s.failed + s.pending + s.active < counterBound := by
    unfold counted finished at full
    omega
  simp only [percent, Counter.add_bind, if_neg third, ite_self]

theorem percent_counted (fits : s.counted < counterBound) :
    s.percent = if 100 * s.finished < counterBound then .ok s.share else .error .multiply := by
  have first : s.completed + s.failed < counterBound :=
    Nat.lt_of_le_of_lt s.finished_le_counted fits
  have second : s.completed + s.failed + s.pending < counterBound := by
    unfold counted finished at fits
    omega
  have third : s.completed + s.failed + s.pending + s.active < counterBound := fits
  simp only [percent, Counter.add_bind, Counter.multiply_bind, if_pos first, if_pos second,
    if_pos third]
  change (if s.counted = 0 then pure 0 else if s.finished * 100 < counterBound then
    pure (min ((s.finished * 100 + s.counted - 1) / s.counted) 100) else _) = _
  by_cases empty : s.counted = 0
  · have none_ : s.finished = 0 := Nat.le_zero.mp (empty ▸ s.finished_le_counted)
    have start : 0 < counterBound := by decide
    simp [share, empty, none_, start, pure, Except.pure]
  · rw [if_neg empty, share_eq_min empty, Nat.mul_comm]
    rfl

theorem percent_eq (s : BatchSummary) :
    s.percent =
      if counterBound ≤ s.counted then .error .add
      else if counterBound ≤ 100 * s.finished then .error .multiply
      else .ok s.share := by
  by_cases full : counterBound ≤ s.counted
  · rw [if_pos full, percent_uncounted full]
  · rw [if_neg full, percent_counted (Nat.lt_of_not_le full), ← ite_not]
    simp only [Nat.not_lt]

end BatchSummary

namespace QueueStats

def sum (q : QueueStats) : Nat := (q.queues.map (·.2)).sum

theorem foldlM_add (queues : List (String × Nat)) {sum : Nat} (fits : sum < counterBound) :
    queues.foldlM (fun sum q => Counter.add sum q.2) sum =
      Counter.checked .add (sum + (queues.map (·.2)).sum) := by
  induction queues generalizing sum with
  | nil => simp [Counter.checked, fits, pure, Except.pure]
  | cons q queues ih =>
    simp only [List.foldlM_cons, Counter.add_bind, List.map_cons, List.sum_cons, ← Nat.add_assoc]
    split
    · rename_i more
      exact ih more
    · rename_i full
      rw [Counter.checked, if_neg (by omega)]

theorem total_eq (q : QueueStats) :
    q.total = if counterBound ≤ q.sum then .error .add else .ok q.sum := by
  have start : 0 < counterBound := by decide
  have folded : q.total = Counter.checked .add q.sum := by
    rw [sum, ← Nat.zero_add (List.sum _)]
    exact foldlM_add q.queues start
  rw [folded, Counter.checked]
  split
  · rw [if_neg (by omega)]
  · rw [if_pos (by omega)]

end QueueStats

/-- Percentages and sums of counters are those of unbounded arithmetic whenever the counters hold
what is computed on the way; otherwise they fail with the operation that overflows. A percentage
does not fall when one more item is finished. -/
theorem counter_arithmetic_exact (s t : BatchSummary) (q : QueueStats) :
    (s.percent =
      if counterBound ≤ s.counted then .error .add
      else if counterBound ≤ 100 * s.finished then .error .multiply
      else .ok s.share) ∧ s.share ≤ 100 ∧
    (s.counted = 0 → s.percent = .ok 0) ∧
    (s.Finishes t → ∀ before after,
      s.percent = .ok before → t.percent = .ok after → before ≤ after) ∧
    q.total = if counterBound ≤ q.sum then .error .add else .ok q.sum := by
  refine ⟨s.percent_eq, s.share_le, ?_, ?_, q.total_eq⟩
  · intro empty
    have none_ : s.finished = 0 := Nat.le_zero.mp (empty ▸ s.finished_le_counted)
    simp [s.percent_eq, empty, none_, BatchSummary.share, counterBound, UInt64.size]
  · intro moves before after known later
    have share_of {u : BatchSummary} {n : Nat} (percent : u.percent = .ok n) : u.share = n := by
      rw [u.percent_eq] at percent
      grind
    rw [← share_of known, ← share_of later]
    exact moves.share_le

/-- The second of three items is finished. -/
theorem second_of_three_counted :
    let before : BatchSummary := { completed := 1, pending := 1, active := 1 }
    let after : BatchSummary := { completed := 1, failed := 1, pending := 1 }
    let empty : BatchSummary := {}
    before.Finishes after ∧ before.percent = .ok 34 ∧ after.percent = .ok 67 ∧ 34 ≤ 67 ∧
      empty.counted = 0 ∧ empty.percent = .ok 0 := by
  intro before after empty
  have finishes : before.Finishes after := ⟨.inr ⟨rfl, rfl⟩, .inr ⟨rfl, rfl⟩⟩
  have known : before.percent = .ok 34 := by decide
  have later : after.percent = .ok 67 := by decide
  exact ⟨finishes, known, later,
    (counter_arithmetic_exact before after {}).2.2.2.1 finishes 34 67 known later, rfl,
    (counter_arithmetic_exact empty after {}).2.2.1 rfl⟩

open Json in
/-- The service may send counters whose hundredfold or sum no counter holds: a batch that is
finished has no percentage then, and queues have no total. -/
theorem large_counters_unanswered :
    let batch := Bytes.ascii "\x7b\"completedCount\": 200000000000000000\x7d"
    let lengths := Bytes.ascii "\x7b\"queues\": \x7b\"a\": 18446744073709551615, \"b\": 1\x7d\x7d"
    (∃ s : BatchSummary, readDocument BatchSummary.read batch = .ok s ∧ s.share = 100 ∧
      s.percent = .error .multiply) ∧
    ∃ q : QueueStats, readDocument QueueStats.read lengths = .ok q ∧ q.sum = counterBound ∧
      q.total = .error .add := by
  refine ⟨⟨{ completed := 200000000000000000 }, ?_, ?_, ?_⟩,
    ⟨⟨[("a", 18446744073709551615), ("b", 1)]⟩, ?_, ?_, ?_⟩⟩
  all_goals decide +kernel

end TranscodeConsole
