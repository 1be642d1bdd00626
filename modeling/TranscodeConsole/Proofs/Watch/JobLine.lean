import Mathlib.Data.List.Basic
import TranscodeConsole.Report

/-!
The line for a job can be read back: it tells its status, its finished steps, all its steps and its
error apart from those of any other job.
-/
namespace TranscodeConsole

/-! ### Numbers -/

theorem notMem_toDigits {n : Nat} {c : Char} (mark : c.isDigit = false) :
    c ∉ Nat.toDigits 10 n := by
  intro member
  simp [Nat.isDigit_of_mem_toDigits (by decide) (by decide) member] at mark

theorem toDigits_injective : Function.Injective (Nat.toDigits 10) := by
  intro m n same
  rw [← Nat.ofDigitChars_ten_toDigits (n := m), same, Nat.ofDigitChars_ten_toDigits]

def signedDigits : Int → List Char
  | .ofNat n => Nat.toDigits 10 n
  | .negSucc n => '-' :: Nat.toDigits 10 (n + 1)

theorem toList_repr (i : Int) : i.repr.toList = signedDigits i := by
  cases i <;> simp [Int.repr, signedDigits]

theorem signedDigits_injective : Function.Injective signedDigits := by
  have minus : ∀ n, '-' ∉ Nat.toDigits 10 n := fun n => notMem_toDigits (by decide)
  rintro (m | m) (n | n) same <;> simp only [signedDigits] at same
  · rw [toDigits_injective same]
  · exact absurd (same ▸ List.mem_cons_self) (minus m)
  · exact absurd (same ▸ List.mem_cons_self) (minus n)
  · rw [Nat.succ_inj.mp (toDigits_injective (List.cons_inj_right _ |>.mp same))]

/-! ### Statuses -/

namespace JobStatus

theorem paren_notMem_text (s : JobStatus) : '(' ∉ s.text.toList := by
  cases s with
  | unknown code =>
    have number : '(' ∉ signedDigits code := by
      cases code <;> simp [signedDigits, notMem_toDigits]
    simpa [text, toList_repr] using number
  | _ => decide

/-- No two statuses start alike. -/
def initial : JobStatus → Char
  | .pending => 'P'
  | .started => 'S'
  | .completed => 'C'
  | .failed => 'F'
  | .aborted => 'A'
  | .notQueued => 'N'
  | .lost => 'L'
  | .unknown _ => 'U'

theorem head_text (s : JobStatus) : s.text.toList.head? = some s.initial := by
  cases s with
  | unknown code => simp [text, initial]
  | _ => decide

theorem text_injective : Function.Injective text := by
  intro a b same
  have initials : a.initial = b.initial := by
    have heads := congrArg (·.toList.head?) same
    simpa [head_text] using heads
  cases a with
  | unknown code =>
    cases b with
    | unknown other =>
      have codes : code.repr = other.repr := by simpa [text] using same
      have digits := congrArg String.toList codes
      rw [toList_repr, toList_repr] at digits
      rw [signedDigits_injective digits]
    | _ => cases initials
  | _ => cases b <;> first | rfl | cases initials

end JobStatus

/-! ### Lines -/

namespace Report

theorem cut_inj {α : Type} {mark : α} {a b x y : List α} (first : mark ∉ a) (first' : mark ∉ b)
    (same : a ++ mark :: x = b ++ mark :: y) : a = b ∧ x = y := by
  induction a generalizing b with
  | nil =>
    cases b with
    | nil => exact ⟨rfl, (List.cons.inj same).2⟩
    | cons c b =>
      cases (List.cons.inj same).1
      simp at first'
  | cons c a ih =>
    cases b with
    | nil =>
      cases (List.cons.inj same).1
      simp at first
    | cons d b =>
      obtain ⟨here, later⟩ := List.cons.inj same
      have there := ih (mt (.tail _) first) (mt (.tail _) first') later
      exact ⟨by rw [here, there.1], there.2⟩

def errorTail : Option String → List Char
  | some message => ':' :: ' ' :: message.toList
  | none => []

theorem errorTail_injective : Function.Injective errorTail := by
  rintro (_ | a) (_ | b) same
  · rfl
  · cases same
  · cases same
  · simpa [errorTail, String.toList_inj] using same

theorem toList_jobLine (s : JobSnapshot) :
    (jobLine s).toList = (s.status.text.toList ++ [' ']) ++ '(' ::
      (Nat.toDigits 10 s.completedSteps ++ '/' :: (Nat.toDigits 10 s.totalSteps ++ ' ' ::
        (['s', 't', 'e', 'p', 's', ')'] ++ errorTail s.failureMessage))) := by
  unfold jobLine
  cases s.failureMessage <;> simp [errorTail]

theorem of_jobLine_eq {a b : JobSnapshot} (same : jobLine a = jobLine b) :
    a.status = b.status ∧ a.completedSteps = b.completedSteps ∧ a.totalSteps = b.totalSteps ∧
      a.failureMessage = b.failureMessage := by
  have paren : ∀ s : JobSnapshot, '(' ∉ s.status.text.toList ++ [' '] := by
    simp [JobStatus.paren_notMem_text]
  have slash : ∀ n, '/' ∉ Nat.toDigits 10 n := fun n => notMem_toDigits (by decide)
  have blank : ∀ n, ' ' ∉ Nat.toDigits 10 n := fun n => notMem_toDigits (by decide)
  have chars := congrArg String.toList same
  rw [toList_jobLine, toList_jobLine] at chars
  -- the line is cut at its bracket, at its slash, and at the blank behind the counts
  obtain ⟨statuses, chars⟩ := cut_inj (paren a) (paren b) chars
  obtain ⟨completed, chars⟩ := cut_inj (slash _) (slash _) chars
  obtain ⟨totals, chars⟩ := cut_inj (blank _) (blank _) chars
  have texts := String.toList_inj.mp (List.append_cancel_right statuses)
  exact ⟨JobStatus.text_injective texts, toDigits_injective completed, toDigits_injective totals,
    errorTail_injective (List.append_cancel_left chars)⟩

end Report

/-- How a job stands: its status, its finished steps, all its steps and its error. -/
def JobSnapshot.standing (s : JobSnapshot) : JobStatus × Nat × Nat × Option String :=
  (s.status, s.completedSteps, s.totalSteps, s.failureMessage)

theorem Report.jobLine_eq_iff {a b : JobSnapshot} :
    jobLine a = jobLine b ↔ a.standing = b.standing := by
  simp only [JobSnapshot.standing, Prod.mk.injEq]
  constructor
  · exact of_jobLine_eq
  · rintro ⟨status, completed, total, error⟩
    rw [jobLine, jobLine, status, completed, total, error]

end TranscodeConsole
