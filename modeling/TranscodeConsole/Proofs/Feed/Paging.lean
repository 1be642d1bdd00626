import TranscodeConsole.Feed.Page
import TranscodeConsole.Proofs.Feed.Seeking

/-!
A page as it is read, step by step: what one step can come to, told by what the feed still has to
say. A consumer who gives up nothing when he hears of a line makes of a page what its steps make of
it.
-/
namespace TranscodeConsole.Feed

open Json

variable {ρ : Type}

/-- What is said up to the record of the given number, or everything if there are not as many. -/
def firstRecords : Nat → List (Event ρ) → List (Event ρ)
  | 0, _ => []
  | _ + 1, [] => []
  | n + 1, .record r :: events => .record r :: firstRecords n events
  | n + 1, .rejected error :: events => .rejected error :: firstRecords (n + 1) events

theorem records_firstRecords (n : Nat) (events : List (Event ρ)) :
    records (firstRecords n events) = (records events).take n := by
  induction events generalizing n with
  | nil => cases n <;> simp [firstRecords]
  | cons event events ih =>
    cases n with
    | zero => simp [firstRecords]
    | succ n => cases event <;> simp [firstRecords, ih]

theorem firstRecords_all {n : Nat} {events : List (Event ρ)} (few : (records events).length < n) :
    firstRecords n events = events := by
  induction events generalizing n with
  | nil => cases n <;> rfl
  | cons event events ih =>
    obtain ⟨n, rfl⟩ : ∃ m, n = m + 1 := ⟨n - 1, by omega⟩
    cases event with
    | record r =>
      simp only [records_record, List.length_cons] at few
      rw [firstRecords, ih (by omega)]
    | rejected error => rw [firstRecords, ih few]

theorem firstRecords_record (before : List (Event ρ)) (r : ρ) (after : List (Event ρ)) :
    firstRecords ((records before).length + 1) (before ++ .record r :: after) =
      before ++ [.record r] := by
  induction before with
  | nil => cases after <;> rfl
  | cons event before ih =>
    cases event with
    | record r => simpa [firstRecords] using ih
    | rejected error => simpa [firstRecords] using ih

inductive PageStep (ρ : Type) where
  | offer (record : ρ)
  | rejected (error : ServiceError)
  | moved
  | waiting (time : Option Nat)
  | ended (how : PageEnd)
  | failed (error : ServiceError)
  deriving DecidableEq, Repr

namespace Page

def step (read : Reader ρ) (cancelled : Bool) (now : Nat) (p : Page) : PageStep ρ × Page :=
  match p.phase with
  | .pulling =>
    let (pulled, session) := p.session.pull read cancelled now
    (match pulled with
      | .record record => .offer record
      | .rejected error => .rejected error
      | .moved => .moved
      | .waiting time => .waiting time
      | .done => .ended (if cancelled then .cancelled else .exhausted)
      | .failed error => .failed error,
      { p with session })
  | .pausing till =>
    if cancelled then (.ended .cancelled, p)
    else if till ≤ now then (.moved, { p with phase := .pulling })
    else (.waiting (some till), p)
  | .yielding =>
    if cancelled then (.ended .cancelled, p) else (.moved, { p with phase := .pulling })

def size (p : Page) : Nat := 2 * p.session.size + if p.phase = .pulling then 0 else 1

theorem size_step_lt (read : Reader ρ) (cancelled : Bool) (now : Nat) (p : Page)
    (h : (p.step read cancelled now).1 = .moved ∨
      ∃ error, (p.step read cancelled now).1 = .rejected error) :
    (p.step read cancelled now).2.size < p.size := by
  obtain ⟨session, phase⟩ := p
  cases phase with
  | pulling =>
    have lt := Session.size_pull_lt read cancelled now session
    simp only [step] at h ⊢
    generalize session.pull read cancelled now = pulled at h lt ⊢
    obtain ⟨result, after⟩ := pulled
    cases result <;> simp_all [size, Pull.goesOn]
  | pausing till =>
    simp only [step] at h ⊢
    split at h
    · simp at h
    · split at h
      · simp_all [size]
      · simp at h
  | yielding =>
    simp only [step] at h ⊢
    split at h
    · simp at h
    · simp_all [size]

theorem step_cancelled (read : Reader ρ) (now : Nat) (p : Page) :
    (p.step read true now).1 = .ended .cancelled ∧
      (p.step read true now).2.session.mark = p.session.mark := by
  obtain ⟨session, phase⟩ := p
  cases phase with
  | pulling => exact ⟨rfl, session.mark_finish⟩
  | pausing till => exact ⟨rfl, rfl⟩
  | yielding => exact ⟨rfl, rfl⟩

inductive Stepped (read : Reader ρ) (now : Nat) (p : Page) : PageStep ρ → Page → Prop where
  | offer {r : ρ} {after : Session} (pulls : p.phase = .pulling)
      (tells : p.session.Tells read [.record r] after) (smaller : after.size < p.session.size) :
      Stepped read now p (.offer r) { p with session := after }
  | rejected {error : ServiceError} {after : Session} (pulls : p.phase = .pulling)
      (tells : p.session.Tells read [.rejected error] after)
      (smaller : after.size < p.session.size) :
      Stepped read now p (.rejected error) { p with session := after }
  | moved {after : Page} (tells : p.session.Tells read [] after.session)
      (smaller : after.size < p.size) : Stepped read now p .moved after
  | pausing {till : Nat} (pauses : p.phase = .pausing till) (early : now < till) :
      Stepped read now p (.waiting (some till)) p
  | waiting {time : Nat} {after : Session} (pulls : p.phase = .pulling)
      (tells : p.session.Tells read [] after) (waits : after.WaitsTill time) (late : now < time)
      (smaller : after.size ≤ p.session.size) :
      Stepped read now p (.waiting (some time)) { p with session := after }
  | silent {after : Session} (tells : p.session.Tells read [] after)
      (never : p.session.closing = .never) :
      Stepped read now p (.waiting none) { p with session := after }
  | exhausted {after : Session} (nothing : p.session.remaining read = [])
      (ended : p.session.closing = .ended) (mark : after.mark = p.session.mark) :
      Stepped read now p (.ended .exhausted) { p with session := after }
  | failed {error : ServiceError} {after : Session} (nothing : p.session.remaining read = [])
      (closing : p.session.closing = .failed error) (mark : after.mark = p.session.mark) :
      Stepped read now p (.failed error) { p with session := after }

theorem stepped_step (read : Reader ρ) (now : Nat) {p : Page} (live : p.session.live = true) :
    Stepped read now p (p.step read false now).1 (p.step read false now).2 := by
  obtain ⟨session, phase⟩ := p
  have stays : session.Tells read [] session := ⟨rfl, rfl, live, rfl, rfl, rfl, rfl⟩
  cases phase with
  | pulling =>
    have pulled := Session.pulled_pull read now live
    simp only [step]
    generalize session.pull read false now = result at pulled ⊢
    obtain ⟨pull, after⟩ := result
    simp only at pulled
    cases pulled with
    | record tells smaller => exact .offer rfl tells smaller
    | rejected tells smaller => exact .rejected rfl tells smaller
    | moved tells smaller => exact .moved tells (by simp only [size, ite_true]; omega)
    | pausing tells waits late smaller => exact .waiting rfl tells waits late smaller
    | silent tells never => exact .silent tells never
    | done nothing ended mark => exact .exhausted nothing ended mark
    | failed nothing closing mark => exact .failed nothing closing mark
  | pausing till =>
    simp only [step, Bool.false_eq_true, ite_false]
    split
    · exact .moved stays (by simp [size])
    · rename_i early
      exact .pausing rfl (Nat.not_le.mp early)
  | yielding =>
    simp only [step, Bool.false_eq_true, ite_false]
    exact .moved stays (by simp [size])

inductive Answered (now : Nat) (p : Page) : Option PageEnd → Page → Prop where
  | full (full : p.session.pageLimit ≤ p.session.onPage) : Answered now p (some .limitReached) p
  | yields (room : p.session.onPage < p.session.pageLimit) :
      Answered now p none { p with phase := .yielding }
  | pauses (room : p.session.onPage < p.session.pageLimit) :
      Answered now p none { p with phase := .pausing (now + p.session.pace) }

theorem answered_taken (now : Nat) (p : Page) :
    Answered now p (p.answer true now).1 (p.answer true now).2 := by
  simp only [answer, Bool.not_true, Bool.false_eq_true, ite_false]
  by_cases full : p.session.pageLimit ≤ p.session.onPage
  · rw [if_pos full]
    exact .full full
  · rw [if_neg full]
    by_cases paced : p.session.pace = 0
    · rw [if_pos paced]
      exact .yields (by omega)
    · rw [if_neg paced]
      exact .pauses (by omega)

/-! ### What a page keeps -/

variable {σ : Type} {read : Reader ρ} {consumer : Consumer σ ρ} {now : Nat} {p : Page} {s : σ}

theorem mark_step (read : Reader ρ) (cancelled : Bool) (now : Nat) (p : Page) :
    (p.step read cancelled now).2.session.mark = p.session.mark := by
  unfold step
  split
  · exact p.session.mark_pull read cancelled now
  · split
    · rfl
    · split <;> rfl
  · split <;> rfl

theorem session_answer (goOn : Bool) (now : Nat) (p : Page) :
    (p.answer goOn now).2.session = p.session := by
  unfold answer
  split
  · rfl
  · split
    · rfl
    · split <;> rfl

theorem proceed_record (consumer : Consumer σ ρ) (now : Nat) (p : Page) (r : ρ) (s : σ) :
    let verdict := consumer.take r s
    let answered := p.answer verdict.1 now
    proceed consumer now p (.record r) s =
      (answered.1.elim answered.2.rest .ended, answered.2, verdict.2) := by
  simp only [proceed]
  generalize p.answer (consumer.take r s).1 now = answered
  obtain ⟨_ | how, after⟩ := answered <;> rfl

theorem run_keeps (keeps : Session → σ → Prop)
    (pulls : ∀ gone s heard, keeps s heard → keeps (s.pull read gone now).2 heard)
    (rejects : ∀ error s heard, keeps s heard → keeps s (consumer.reject error heard))
    (takes : ∀ r s heard, keeps s heard → keeps s (consumer.take r heard).2)
    (kept : keeps p.session s) :
    let ran := run read consumer now p s
    keeps ran.2.1.session ran.2.2 := by
  have pulled : let ran := pullOn read consumer now p.session s
      keeps ran.2.1.session ran.2.2 := by
    have sought := Session.seek_keeps keeps pulls rejects false kept
    simp only [pullOn]
    generalize p.session.seek read consumer.toSink now false s = result at sought
    obtain ⟨outcome, session, heard⟩ := result
    cases outcome with
    | record r =>
      simp only [proceed_record, session_answer]
      exact takes r session heard sought
    | waiting | done | failed => exact sought
  simp only [run]
  split
  · exact pulled
  · split
    · exact kept
    · split
      · exact pulled
      · exact kept
  · split
    · exact kept
    · exact pulled

theorem mark_run (read : Reader ρ) (consumer : Consumer σ ρ) (now : Nat) (p : Page) (s : σ) :
    (run read consumer now p s).2.1.session.mark = p.session.mark :=
  run_keeps (fun after _ => after.mark = p.session.mark)
    (fun gone after _ same => (after.mark_pull read gone now).trans same) (fun _ _ _ same => same)
    (fun _ _ _ same => same) rfl

/-! ### Page and steps -/

theorem run_cancelled (read : Reader ρ) (consumer : Consumer σ ρ) (now : Nat) (p : Page)
    (cancelled : consumer.cancelled s = true) :
    ∃ after, run read consumer now p s = (.ended .cancelled, after, s) ∧
      after.session.mark = p.session.mark ∧ after.session.body = p.session.body := by
  obtain ⟨session, phase⟩ := p
  cases phase with
  | pulling =>
    have sought : session.seek read consumer.toSink now false s = (.done, session.finish, s) :=
      Session.seek_gone cancelled
    exact ⟨{ session := session.finish }, by simp [run, pullOn, sought, proceed, cancelled],
      session.mark_finish, session.body_finish⟩
  | pausing till => exact ⟨⟨session, .pausing till⟩, by simp [run, cancelled], rfl, rfl⟩
  | yielding => exact ⟨⟨session, .yielding⟩, by simp [run, cancelled], rfl, rfl⟩

theorem run_eq (steady : consumer.Steady) (read : Reader ρ) (now : Nat) (p : Page) (s : σ) :
    run read consumer now p s = match p.step read (consumer.cancelled s) now with
      | (.offer r, after) => proceed consumer now after (.record r) s
      | (.waiting time, after) => (.waiting time, after, s)
      | (.ended how, after) => (.ended how, after, s)
      | (.failed error, after) => (.failed error, after, s)
      | (.moved, after) => run read consumer now after s
      | (.rejected error, after) => run read consumer now after (consumer.reject error s) := by
  obtain ⟨session, phase⟩ := p
  cases phase with
  | pulling =>
    simp only [run, pullOn, step]
    rw [Session.seek_eq steady]
    generalize session.pull read (consumer.cancelled s) now = result
    obtain ⟨pull, after⟩ := result
    cases pull <;> rfl
  | pausing till =>
    simp only [run, step]
    split
    · rfl
    · split <;> rfl
  | yielding =>
    simp only [run, step]
    split <;> rfl

/-! ### Going on after a wait -/

inductive StandsAt (p : Page) : Rest → Prop where
  | yielding (yields : p.phase = .yielding) : StandsAt p .yielding
  | pausing {till : Nat} (pauses : p.phase = .pausing till) : StandsAt p (.waiting (some till))
  | starved {time : Nat} (pulls : p.phase = .pulling) (waits : p.session.WaitsTill time) :
      StandsAt p (.waiting (some time))

theorem StandsAt.resumes {p : Page} {rest : Rest} (stands : p.StandsAt rest) {now : Nat}
    (isOver : ∀ time, rest = .waiting (some time) → time ≤ now) (read : Reader ρ)
    (live : p.session.live = true) :
    ∃ q : Page, p.session.Tells read [] q.session ∧ q.size < p.size ∧
      ∀ {σ : Type} (consumer : Consumer σ ρ) (s : σ), consumer.Steady →
        consumer.cancelled s = false → run read consumer now p s = run read consumer now q s := by
  obtain ⟨session, phase⟩ := p
  have stays : session.Tells read [] session := ⟨rfl, rfl, live, rfl, rfl, rfl, rfl⟩
  cases stands with
  | yielding yields =>
    cases yields
    refine ⟨⟨session, .pulling⟩, stays, by simp [size], fun consumer s _ valid => ?_⟩
    simp [run, valid]
  | pausing pauses =>
    cases pauses
    refine ⟨⟨session, .pulling⟩, stays, by simp [size], fun consumer s _ valid => ?_⟩
    simp [run, valid, isOver _ rfl]
  | starved pulls waits =>
    cases pulls
    obtain ⟨resumed, tells, smaller, same⟩ := waits.pull_late read live (isOver _ rfl)
    refine ⟨⟨resumed, .pulling⟩, tells, ?_, fun consumer s steady valid => ?_⟩
    · have : resumed.size < session.size := smaller
      simp only [size, ite_true]
      omega
    · simp only [run, pullOn]
      rw [Session.seek_eq steady, Session.seek_eq steady, valid, same]

end Page
end TranscodeConsole.Feed
