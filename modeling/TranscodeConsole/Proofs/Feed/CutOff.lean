import TranscodeConsole.Proofs.Feed.GivenUp

/-!
A session that is given up while it is read: while the reader waits for the body, while it pauses,
on a record, or on a line that is passed over. The body is left alone from then on, and no record is
delivered afterwards, whatever lines are at hand, with one exception: a caller who gives up the
session on hearing that a line is too long still gets what the next line at hand says.
-/
namespace TranscodeConsole.Feed

open Json

variable {ρ : Type}

def Heard.isOver : Heard ρ → Bool
  | .cancelled | .done | .ended .cancelled => true
  | _ => false

def Habit.takes (habit : Habit ρ) (seen : List (Heard ρ)) (r : ρ) : List (Heard ρ) :=
  .record r :: if habit.cancels seen r then [.cancelled] else []

inductive Lagging (habit : Habit ρ) (seen : List (Heard ρ)) : List (Heard ρ) → Prop where
  | nothing : Lagging habit seen []
  | record (r : ρ) : Lagging habit seen [.record r]
  | taken {r : ρ} (goes : habit.goesOn seen r = true) : Lagging habit seen (habit.takes seen r)
  | stopped {r : ρ} (stops : habit.goesOn seen r = false) :
      Lagging habit seen (habit.takes seen r ++ [.ended .stopped])
  | full {r : ρ} (goes : habit.goesOn seen r = true) :
      Lagging habit seen (habit.takes seen r ++ [.ended .limitReached])

/-- What may be heard from the moment at which a session is given up, `before` being all that was
heard until then. A page can end otherwise than cancelled only at once, by what the caller says of
the very record on which he gives up the session. One more record can be heard only behind a line
that is too long, on which he has given it up. -/
inductive Aftermath (habit : Habit ρ) (before : List (Heard ρ)) : List (Heard ρ) → Prop where
  | cancelled {after : List (Heard ρ)} (closes : ∀ h ∈ after, h.isOver = true) :
      Aftermath habit before after
  | stopped {seen after : List (Heard ρ)} {r : ρ} (last : before = seen ++ [.record r])
      (gives : habit.cancels seen r = true) (stops : habit.goesOn seen r = false)
      (closes : ∀ h ∈ after, h.isOver = true) : Aftermath habit before (.ended .stopped :: after)
  | full {seen after : List (Heard ρ)} {r : ρ} (last : before = seen ++ [.record r])
      (gives : habit.cancels seen r = true) (goes : habit.goesOn seen r = true)
      (closes : ∀ h ∈ after, h.isOver = true) :
      Aftermath habit before (.ended .limitReached :: after)
  | late {seen reports more after : List (Heard ρ)} {limit : Nat}
      (last : before = seen ++ [.rejected (Session.oversized limit)])
      (gives : habit.quits seen (Session.oversized limit) = true)
      (each : ∀ h ∈ reports, h.isReport = true)
      (lags : Lagging habit (before ++ .cancelled :: reports) more)
      (closes : ∀ h ∈ after, h.isOver = true) :
      Aftermath habit before (reports ++ more ++ after)

namespace Hearing

structure Answers (habit : Habit ρ) (seen : List (Heard ρ)) (r : ρ) (after : Hearing ρ) : Prop where
  stopped : habit.goesOn seen r = false →
    after.reading = false ∧ after.ear.log = seen ++ habit.takes seen r ++ [.ended .stopped]
  full : habit.goesOn seen r = true →
    after.page.session.pageLimit ≤ after.page.session.onPage →
    after.reading = false ∧ after.ear.log = seen ++ habit.takes seen r ++ [.ended .limitReached]
  stays : habit.goesOn seen r = true →
    after.page.session.onPage < after.page.session.pageLimit →
    after.reading = true ∧ after.ear.log = seen ++ habit.takes seen r

theorem answers_proceed (habit : Habit ρ) (now : Nat) (p : Page) (e : Ear ρ) (r : ρ) :
    let after := rested (Page.proceed habit.consumer now p (.record r) e)
    Answers habit e.log r after ∧ after.page.session = p.session ∧
      after.ear.cancelled = (habit.cancels e.log r || e.cancelled) := by
  have taken : (habit.consumer.take r e).2 =
      ⟨habit.cancels e.log r || e.cancelled, e.log ++ habit.takes e.log r⟩ := by
    cases gives : habit.cancels e.log r <;>
      simp [Habit.consumer, Habit.takes, gives, Ear.hear, Ear.cancel]
  have verdict : (habit.consumer.take r e).1 = habit.goesOn e.log r := rfl
  simp only [Page.proceed_record, taken, verdict]
  cases goes : habit.goesOn e.log r with
  | false =>
    have stops : p.answer false now = (some .stopped, p) := rfl
    rw [stops]
    exact ⟨⟨fun _ => ⟨rfl, rfl⟩, by simp [goes], by simp [goes]⟩, rfl, rfl⟩
  | true =>
    have answered := p.answered_taken now
    generalize p.answer true now = result at answered
    obtain ⟨how, after⟩ := result
    cases answered with
    | full full =>
      refine ⟨⟨by simp [goes], fun _ _ => ⟨rfl, rfl⟩, fun _ room => ?_⟩, rfl, rfl⟩
      exact absurd full (Nat.not_le.mpr room)
    | yields room | pauses room =>
      refine ⟨⟨by simp [goes], fun _ full => ?_, fun _ _ => ⟨rfl, rfl⟩⟩, rfl, rfl⟩
      exact absurd full (Nat.not_le.mpr room)

inductive Ending (habit : Habit ρ) (seen : List (Heard ρ)) (r : ρ) : List (Heard ρ) → Prop where
  | goesOn (goes : habit.goesOn seen r = true) : Ending habit seen r []
  | stopped (stops : habit.goesOn seen r = false) : Ending habit seen r [.ended .stopped]
  | full (goes : habit.goesOn seen r = true) : Ending habit seen r [.ended .limitReached]

theorem Answers.ending {habit : Habit ρ} {seen : List (Heard ρ)} {r : ρ} {after : Hearing ρ}
    (answers : Answers habit seen r after) :
    ∃ ending, Ending habit seen r ending ∧
      after.ear.log = seen ++ habit.takes seen r ++ ending := by
  cases goes : habit.goesOn seen r with
  | false => exact ⟨_, .stopped goes, (answers.stopped goes).2⟩
  | true =>
    by_cases full : after.page.session.pageLimit ≤ after.page.session.onPage
    · exact ⟨_, .full goes, (answers.full goes full).2⟩
    · exact ⟨[], .goesOn goes, by simp [(answers.stays goes (Nat.not_le.mp full)).2]⟩

theorem Ending.lags {habit : Habit ρ} {seen ending : List (Heard ρ)} {r : ρ}
    (ends : Ending habit seen r ending) : Lagging habit seen (habit.takes seen r ++ ending) := by
  cases ends with
  | goesOn goes => simpa using Lagging.taken goes
  | stopped stops => exact .stopped stops
  | full goes => exact .full goes

/-! ### One act -/

inductive Advances (habit : Habit ρ) (c after : Hearing ρ) : Prop where
  | valid (more : List (Heard ρ)) (valid : after.ear.cancelled = false)
      (log : after.ear.log = c.ear.log ++ more) (none : Heard.cancelled ∉ more) :
      Advances habit c after
  | givesUp (more rest : List (Heard ρ)) (gone : after.ear.cancelled = true)
      (log : after.ear.log = c.ear.log ++ more ++ .cancelled :: rest)
      (none : Heard.cancelled ∉ more) (aftermath : Aftermath habit (c.ear.log ++ more) rest) :
      Advances habit c after

variable {habit : Habit ρ}

theorem Answers.advances {c after : Hearing ρ} {lines : List (Heard ρ)} {r : ρ}
    (answers : Answers habit (c.ear.log ++ lines) r after)
    (gone : after.ear.cancelled = habit.cancels (c.ear.log ++ lines) r)
    (none : Heard.cancelled ∉ lines) : Advances habit c after := by
  obtain ⟨ending, ends, log⟩ := answers.ending
  cases gives : habit.cancels (c.ear.log ++ lines) r with
  | false =>
    refine .valid (lines ++ .record r :: ending) (gone.trans gives) ?_ ?_
    · simp [log, Habit.takes, gives]
    · cases ends <;> simp [none]
  | true =>
    have last : c.ear.log ++ (lines ++ [.record r]) = c.ear.log ++ lines ++ [.record r] := by simp
    refine .givesUp (lines ++ [.record r]) ending (gone.trans gives) ?_ (by simp [none]) ?_
    · simp [log, Habit.takes, gives]
    · cases ends with
      | goesOn => exact .cancelled (by simp)
      | stopped stops => exact .stopped last gives stops (by simp)
      | full goes => exact .full last gives goes (by simp)

theorem advances_quit {c after : Hearing ρ} {lines : List (Heard ρ)} (error : ServiceError)
    (rest : List (Heard ρ)) (gone : after.ear.cancelled = true)
    (log : after.ear.log = c.ear.log ++ lines ++ .rejected error :: .cancelled :: rest)
    (none : Heard.cancelled ∉ lines) (closes : ∀ h ∈ rest, h.isOver = true) :
    Advances habit c after :=
  .givesUp (lines ++ [.rejected error]) rest gone (by simp [log]) (by simp [none])
    (.cancelled closes)

theorem advances_late {c after : Hearing ρ} {lines reports more : List (Heard ρ)} {limit : Nat}
    (rest : List (Heard ρ)) (gone : after.ear.cancelled = true)
    (log : after.ear.log = c.ear.log ++ lines ++
      .rejected (Session.oversized limit) :: .cancelled :: (reports ++ more ++ rest))
    (none : Heard.cancelled ∉ lines)
    (gives : habit.quits (c.ear.log ++ lines) (Session.oversized limit) = true)
    (each : ∀ h ∈ reports, h.isReport = true)
    (lags : Lagging habit
      (c.ear.log ++ lines ++ .rejected (Session.oversized limit) :: .cancelled :: reports) more)
    (closes : ∀ h ∈ rest, h.isOver = true) : Advances habit c after := by
  refine .givesUp (lines ++ [.rejected (Session.oversized limit)]) (reports ++ more ++ rest) gone
    (by simp [log]) (by simp [none]) (.late ?_ gives each ?_ closes)
  · simp
  · simpa using lags

theorem advances_told {c : Hearing ρ} {outcome : Session.Outcome ρ} {after : Session}
    {heard : Ear ρ} (valid : c.ear.cancelled = false) (sought : Sought habit c.ear outcome heard) :
    Advances habit c (told (outcome, after, heard)) := by
  cases sought with
  | @valid _ lines none =>
    cases outcome with
    | record r => exact .valid (lines ++ [.record r]) valid (by simp [told]) (by simp [none])
    | waiting => exact .valid lines valid (by simp [told]) none
    | done => exact .valid (lines ++ [.done]) valid (by simp [told]) (by simp [none])
    | failed error =>
      exact .valid (lines ++ [.failed error]) valid (by simp [told]) (by simp [none])
  | @quit lines error none gives =>
    exact advances_quit error [.done] rfl
      (by simp [told]) none (by simp [Heard.isOver])
  | @late lines reports limit found none gives each =>
    cases found with
    | none =>
      exact advances_late [.done] rfl (by simp [told]) none gives each
        .nothing (by simp [Heard.isOver])
    | some r =>
      exact advances_late [] rfl (by simp [told]) none gives each
        (.record r) (by simp)

theorem advances_rested {c : Hearing ρ} {outcome : Session.Outcome ρ} {after : Session}
    {heard : Ear ρ} (now : Nat) (valid : c.ear.cancelled = false)
    (sought : Sought habit c.ear outcome heard) :
    Advances habit c
      (rested (Page.proceed habit.consumer now { session := after } outcome heard)) := by
  have quits : ∀ {heard : Ear ρ}, heard.cancelled = true →
      rested (Page.proceed habit.consumer now { session := after } .done heard) =
        { page := { session := after }, ear := heard.hear (.ended .cancelled) } := by
    intro heard gone
    have gone : habit.consumer.cancelled heard = true := gone
    simp [Page.proceed, rested, gone]
  cases sought with
  | @valid _ lines none =>
    cases outcome with
    | record r =>
      obtain ⟨answers, _, gone⟩ := answers_proceed habit now { session := after }
        { c.ear with log := c.ear.log ++ lines } r
      exact answers.advances (by simpa [valid] using gone) none
    | waiting => exact .valid lines valid rfl none
    | done =>
      have open_ : habit.consumer.cancelled ⟨c.ear.cancelled, c.ear.log ++ lines⟩ = false := valid
      exact .valid (lines ++ [.ended .exhausted]) valid (by simp [Page.proceed, rested, open_])
        (by simp [none])
    | failed error =>
      exact .valid (lines ++ [.failed error]) valid (by simp [Page.proceed, rested])
        (by simp [none])
  | @quit lines error none gives =>
    rw [quits rfl]
    exact advances_quit error [.ended .cancelled] rfl
      (by simp) none (by simp [Heard.isOver])
  | @late lines reports limit found none gives each =>
    cases found with
    | none =>
      rw [Option.elim_none, quits rfl]
      exact advances_late [.ended .cancelled] rfl (by simp) none gives
        each .nothing (by simp [Heard.isOver])
    | some r =>
      obtain ⟨answers, _, gone⟩ := answers_proceed habit now { session := after }
        ⟨true, c.ear.log ++ lines ++ .rejected (Session.oversized limit) :: .cancelled :: reports⟩ r
      obtain ⟨ending, ends, log⟩ := answers.ending
      exact advances_late [] (by simpa using gone) (by simpa using log) none gives
        each ends.lags (by simp)

/-! ### Once the session is given up -/

structure Spent (c after : Hearing ρ) : Prop where
  cancelled : after.ear.cancelled = true
  body : after.page.session.body = c.page.session.body
  closes : ∃ more, after.ear.log = c.ear.log ++ more ∧ ∀ h ∈ more, h.isOver = true

theorem next_cancelled (read : Reader ρ) (habit : Habit ρ) (now : Nat) {c : Hearing ρ}
    (gone : c.ear.cancelled = true) :
    c.next read habit now =
      { page := { session := c.page.session.finish }, ear := c.ear.hear .done } := by
  have nothing : c.page.session.seek read habit.sink now false c.ear =
      (.done, c.page.session.finish, c.ear) := Session.seek_gone gone
  rw [next, nothing]
  rfl

theorem turn_cancelled (read : Reader ρ) (habit : Habit ρ) (now : Nat) {c : Hearing ρ}
    (reading : c.reading = true) (gone : c.ear.cancelled = true) :
    ∃ page, c.turn read habit now = { page, ear := c.ear.hear (.ended .cancelled) } ∧
      page.session.body = c.page.session.body := by
  obtain ⟨page, ran, _, body⟩ := c.page.run_cancelled read habit.consumer now gone
  refine ⟨page, ?_, body⟩
  rw [turn, if_pos reading, ran]
  rfl

theorem spent_act (read : Reader ρ) (habit : Habit ρ) {c : Hearing ρ}
    (gone : c.ear.cancelled = true) (a : Act) : Spent c (c.act read habit a) := by
  cases a with
  | next now =>
    simp only [act, next_cancelled read habit now gone]
    exact ⟨gone, c.page.session.body_finish, [.done], rfl, by simp [Heard.isOver]⟩
  | beginPage => exact ⟨gone, rfl, [], by simp [act], by simp⟩
  | turn now =>
    by_cases reading : c.reading = true
    · obtain ⟨page, same, body⟩ := turn_cancelled read habit now reading gone
      simp only [act, same]
      exact ⟨gone, body, [.ended .cancelled], rfl, by simp [Heard.isOver]⟩
    · simp only [act, turn, if_neg reading]
      exact ⟨gone, rfl, [], by simp, by simp⟩
  | hangUp => exact ⟨gone, rfl, [], by simp [act], by simp⟩
  | cancel => exact ⟨rfl, rfl, [.cancelled], rfl, by simp [Heard.isOver]⟩
  | close =>
    exact ⟨rfl, c.page.session.body_finish, [.cancelled], rfl, by simp [Heard.isOver]⟩

theorem turn_valid (read : Reader ρ) (habit : Habit ρ) (now : Nat) {c : Hearing ρ}
    (reading : c.reading = true) (valid : c.ear.cancelled = false) :
    c.page.phase.isDue now = true ∧
        c.turn read habit now =
          Moment.turn read habit now { session := c.page.session, heard := c.ear } ∨
      c.page.phase.isDue now = false ∧ (c.turn read habit now).ear = c.ear := by
  cases due : c.page.phase.isDue now with
  | true => exact .inl ⟨rfl, turn_moment read habit reading valid due _ (Session.mem_trail ..)⟩
  | false =>
    refine .inr ⟨rfl, ?_⟩
    obtain ⟨⟨session, phase⟩, isReading, e⟩ := c
    obtain rfl : isReading = true := reading
    cases phase with
    | pulling | yielding => simp [PagePhase.isDue] at due
    | pausing till =>
      have early : ¬ till ≤ now := by simpa [PagePhase.isDue] using due
      have open_ : habit.consumer.cancelled e = false := valid
      simp [turn, Page.run, open_, early, rested]

theorem advances_act (read : Reader ρ) (habit : Habit ρ) {c : Hearing ρ}
    (valid : c.ear.cancelled = false) (a : Act) : Advances habit c (c.act read habit a) := by
  have same : ∀ {v : Hearing ρ}, v.ear = c.ear → Advances habit c v := fun ear =>
    .valid [] (by rw [ear, valid]) (by simp [ear]) (by simp)
  have gone : ∀ {v : Hearing ρ}, v.ear = c.ear.cancel → Advances habit c v := fun ear =>
    .givesUp [] [] (by rw [ear]; rfl) (by simp [ear]) (by simp) (.cancelled (by simp))
  have sought := fun now => sought_seek read habit now false c.page.session valid
  cases a with
  | next now => exact advances_told valid (sought now)
  | beginPage | hangUp => exact same rfl
  | cancel | close => exact gone rfl
  | turn now =>
    by_cases reading : c.reading = true
    · rcases turn_valid read habit now reading valid with ⟨_, pulls⟩ | ⟨_, waits⟩
      · simp only [act, pulls]
        exact advances_rested now valid (sought now)
      · exact same waits
    · exact same (by simp only [act, turn, if_neg reading])

structure Recorded (habit : Habit ρ) (c : Hearing ρ) : Prop where
  valid : c.ear.cancelled = false → Heard.cancelled ∉ c.ear.log
  aftermath : c.ear.cancelled = true → ∃ before after,
    c.ear.log = before ++ .cancelled :: after ∧ Heard.cancelled ∉ before ∧
      Aftermath habit before after

theorem aftermath_append {before after more : List (Heard ρ)}
    (aftermath : Aftermath habit before after) (closes : ∀ h ∈ more, h.isOver = true) :
    Aftermath habit before (after ++ more) := by
  have both : ∀ {after : List (Heard ρ)}, (∀ h ∈ after, h.isOver = true) →
      ∀ h ∈ after ++ more, h.isOver = true := by
    intro after first
    simpa [or_imp, forall_and] using ⟨first, closes⟩
  cases aftermath with
  | cancelled first => exact .cancelled (both first)
  | stopped last gives stops first => exact .stopped last gives stops (both first)
  | full last gives goes first => exact .full last gives goes (both first)
  | late last gives each lags first =>
    rw [List.append_assoc]
    exact .late last gives each lags (both first)

theorem Recorded.act {c : Hearing ρ} (recorded : Recorded habit c) (read : Reader ρ) (a : Act) :
    Recorded habit (c.act read habit a) := by
  cases gone : c.ear.cancelled with
  | true =>
    have spent := spent_act read habit gone a
    obtain ⟨more, log, closes⟩ := spent.closes
    refine ⟨fun valid => by simp [spent.cancelled] at valid, fun _ => ?_⟩
    obtain ⟨before, after, split, none, aftermath⟩ := recorded.aftermath gone
    refine ⟨before, after ++ more, ?_, none, aftermath_append aftermath closes⟩
    rw [log, split, List.append_assoc, List.cons_append]
  | false =>
    have none := recorded.valid gone
    cases advances_act read habit gone a with
    | valid more stays log quiet =>
      exact ⟨fun _ => by simp [log, none, quiet], fun gone' => by simp [stays] at gone'⟩
    | givesUp more rest gone' log quiet aftermath =>
      refine ⟨fun stays => by simp [gone'] at stays, fun _ => ?_⟩
      exact ⟨c.ear.log ++ more, rest, log, by simp [none, quiet], aftermath⟩

theorem Recorded.run {c : Hearing ρ} (recorded : Recorded habit c) (read : Reader ρ)
    (acts : List Act) : Recorded habit (c.run read habit acts) := by
  induction acts generalizing c with
  | nil => exact recorded
  | cons a acts ih => exact ih (recorded.act read a)

/-- The line behind the record on which the session is given up is at hand, and not read. -/
example :
    let s := Session.start 1 "feed" 0 [.chunk [49, 10, 50, 10]] { pageLimit := 5, pace := 0 }
    let habit : Habit Nat :=
      { goesOn := fun _ _ => true, cancels := fun _ _ => true, quits := fun _ _ => false }
    ((start s).run readU32 habit [.beginPage, .turn 0, .turn 0, .next 1]).ear.log =
      [.record 1, .cancelled, .ended .cancelled, .done] := by
  cbv

/-- The line behind the one that is too long is read all the same. -/
example :
    let s := Session.start 1 "feed" 0 [.chunk [49, 50, 51, 10, 52, 10, 53, 10]]
      { pageLimit := 5, pace := 0, lineLimit := 2 }
    let habit : Habit Nat :=
      { goesOn := fun _ _ => true, cancels := fun _ _ => false, quits := fun _ _ => true }
    ((start s).run readU32 habit [.beginPage, .turn 0, .turn 0, .next 1]).ear.log =
      [.rejected (Session.oversized 2), .cancelled, .record 4, .ended .cancelled, .done] := by
  cbv

end Hearing
end TranscodeConsole.Feed
