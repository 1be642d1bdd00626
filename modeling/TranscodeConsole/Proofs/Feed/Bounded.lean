import TranscodeConsole.Proofs.Feed.CutOff
import TranscodeConsole.Proofs.Feed.Owed

/-!
The buffer of a session. Whatever the chunks of a body, and however its records are asked for, what is
kept of an unfinished line fits the line limit: the buffer never holds more than that and the chunk
that came last. A line that outgrows the limit is told of once, when it does so, however many chunks
it goes on for.
-/
namespace TranscodeConsole.Feed

open Json

variable {ρ : Type}

namespace Ear

def events (e : Ear ρ) : List (Event ρ) :=
  e.log.filterMap fun
    | .record r => some (.record r)
    | .rejected error => some (.rejected error)
    | .cancelled | .done | .ended _ | .failed _ => none

@[simp] theorem events_hear_record (e : Ear ρ) (r : ρ) :
    (e.hear (.record r)).events = e.events ++ [.record r] := by
  simp [events, hear]

@[simp] theorem events_hear_rejected (e : Ear ρ) (error : ServiceError) :
    (e.hear (.rejected error)).events = e.events ++ [.rejected error] := by
  simp [events, hear]

@[simp] theorem events_hear_done (e : Ear ρ) : (e.hear .done).events = e.events := by
  simp [events, hear]

@[simp] theorem events_hear_ended (e : Ear ρ) (how : PageEnd) :
    (e.hear (.ended how)).events = e.events := by
  simp [events, hear]

@[simp] theorem events_hear_failed (e : Ear ρ) (error : ServiceError) :
    (e.hear (.failed error)).events = e.events := by
  simp [events, hear]

@[simp] theorem events_cancel (e : Ear ρ) : e.cancel.events = e.events := by
  simp [events, cancel]

end Ear

/-! ### The course of a call -/

namespace Session

/-- The session as it asks its body for more, if that is what comes next. -/
def asking (cancelled : Bool) (s : Session) : Option Session :=
  if cancelled || !s.live then none
  else match s.framing.take with
    | (some _, _) => none
    | (none, framing) => if framing.ended then none else some { s with framing }

theorem of_asking {cancelled : Bool} {s asks : Session} (asking : s.asking cancelled = some asks) :
    (cancelled || !s.live) = false ∧ s.framing.take = (none, asks.framing) ∧
      asks.framing.ended = false ∧ asks = { s with framing := asks.framing } := by
  unfold Session.asking at asking
  split at asking
  · cases asking
  · rename_i valid
    split at asking
    · cases asking
    · rename_i framing taken
      split at asking
      · cases asking
      · rename_i unended
        cases asking
        exact ⟨by simpa using valid, taken, by simpa using unended, rfl⟩

theorem pull_asking {cancelled : Bool} {s asks : Session} (asking : s.asking cancelled = some asks)
    (read : Reader ρ) (now : Nat) : s.pull read cancelled now = asks.receive now := by
  obtain ⟨valid, taken, _, same⟩ := of_asking asking
  rw [pull, if_neg (by simp [valid]), taken, same]

end Session

theorem Habit.events_reject (habit : Habit ρ) (error : ServiceError) (e : Ear ρ) :
    (habit.sink.reject error e).events = e.events ++ [.rejected error] := by
  simp only [Habit.sink]
  split <;> simp

theorem Habit.events_take (habit : Habit ρ) (r : ρ) (e : Ear ρ) :
    (habit.consumer.take r e).2.events = e.events ++ [.record r] := by
  simp only [Habit.consumer]
  split <;> simp

theorem Habit.cancelled_take (habit : Habit ρ) (r : ρ) {e : Ear ρ} (gone : e.cancelled = true) :
    (habit.consumer.take r e).2.cancelled = true := by
  simp only [Habit.consumer]
  split
  · rfl
  · exact gone

namespace Session

def Keeps (read : Reader ρ) (limit : Nat) (items : List BodyItem) (s : Session) (e : Ear ρ) :
    Prop :=
  ∃ passed, s.Kept read limit items passed e.events e.cancelled

variable {read : Reader ρ} {limit : Nat} {items : List BodyItem} {habit : Habit ρ} {e : Ear ρ}
  {passing : Bool} {now : Nat} {s after : Session}

theorem Keeps.pull (keeps : s.Keeps read limit items e) {pull : Pull ρ}
    (pulled : s.pull read (habit.sink.cancelled e && !s.looksOn passing) now = (pull, after)) :
    ∃ passed, after.Kept read limit items passed (e.events ++ pull.told) e.cancelled := by
  obtain ⟨passed, kept⟩ := keeps
  have later := kept.pull (s.looksOn passing) now
  rwa [show e.cancelled = habit.sink.cancelled e from rfl, pulled] at later

theorem Keeps.moved (keeps : s.Keeps read limit items e)
    (pulled : s.pull read (habit.sink.cancelled e && !s.looksOn passing) now = (.moved, after)) :
    after.Keeps read limit items e := by
  obtain ⟨passed, later⟩ := keeps.pull pulled
  exact ⟨passed, by simpa [Pull.told] using later⟩

theorem Keeps.rejected (keeps : s.Keeps read limit items e) {error : ServiceError}
    (pulled : s.pull read (habit.sink.cancelled e && !s.looksOn passing) now =
      (.rejected error, after)) :
    after.Keeps read limit items (habit.sink.reject error e) := by
  obtain ⟨passed, later⟩ := keeps.pull pulled
  refine ⟨passed, ?_⟩
  rw [habit.events_reject]
  exact later.later _ (habit.cancelled_reject error)

theorem keeps_trail {m : Moment (Ear ρ)} (keeps : m.session.Keeps read limit items m.heard)
    (habit : Habit ρ) (now : Nat) : ∀ later ∈ trail read habit.sink now m,
      later.session.Keeps read limit items later.heard := by
  fun_induction trail read habit.sink now m with
  | case1 m after pulled ih =>
    intro later member
    rcases List.mem_cons.mp member with rfl | further
    · exact keeps
    · exact ih (keeps.moved pulled) later further
  | case2 m error after pulled ih =>
    intro later member
    rcases List.mem_cons.mp member with rfl | further
    · exact keeps
    · exact ih (keeps.rejected pulled) later further
  | case3 | case4 | case5 | case6 =>
    intro later member
    rwa [List.mem_singleton.mp member]

def Outcome.told : Outcome ρ → List (Event ρ)
  | .record r => [.record r]
  | .waiting _ | .done | .failed _ => []

theorem keeps_seek (keeps : s.Keeps read limit items e) (habit : Habit ρ) (now : Nat)
    (passing : Bool) :
    let ran := s.seek read habit.sink now passing e
    ∃ passed, ran.2.1.Kept read limit items passed (ran.2.2.events ++ ran.1.told)
      ran.2.2.cancelled := by
  fun_induction seek read habit.sink now passing s e with
  | case1 passing s e r after pulled | case2 passing s e time after pulled
  | case3 passing s e after pulled | case4 passing s e error after pulled =>
    exact keeps.pull pulled
  | case5 passing s e after pulled ih => exact ih (keeps.moved pulled)
  | case6 passing s e error after pulled ih => exact ih (keeps.rejected pulled)

end Session

/-! ### Any course of calls -/

namespace Hearing

def Keeps (read : Reader ρ) (limit : Nat) (items : List BodyItem) (c : Hearing ρ) : Prop :=
  c.page.session.Keeps read limit items c.ear

variable {read : Reader ρ} {limit : Nat} {items passed : List BodyItem} {c : Hearing ρ}

theorem keeps_told {outcome : Session.Outcome ρ} {session : Session} {e : Ear ρ}
    (kept : session.Kept read limit items passed (e.events ++ outcome.told) e.cancelled) :
    (told (outcome, session, e)).Keeps read limit items := by
  refine ⟨passed, ?_⟩
  cases outcome <;> simpa [told, Session.Outcome.told] using kept

theorem keeps_rested {rest : Page.Rest} {page : Page} {e : Ear ρ}
    (kept : page.session.Kept read limit items passed e.events e.cancelled) :
    (rested (rest, page, e)).Keeps read limit items := by
  refine ⟨passed, ?_⟩
  cases rest <;> simpa [rested] using kept

theorem keeps_proceed {outcome : Session.Outcome ρ} {page : Page} {e : Ear ρ} (habit : Habit ρ)
    (now : Nat)
    (kept : page.session.Kept read limit items passed (e.events ++ outcome.told) e.cancelled) :
    (rested (Page.proceed habit.consumer now page outcome e)).Keeps read limit items := by
  cases outcome with
  | record r =>
    have later := kept.later _ (habit.cancelled_take r)
    rw [Session.Outcome.told, ← habit.events_take] at later
    rw [Page.proceed_record]
    exact keeps_rested (by rwa [Page.session_answer])
  | waiting | done | failed => exact keeps_rested (by simpa [Session.Outcome.told] using kept)

theorem keeps_turn (keeps : c.Keeps read limit items) (habit : Habit ρ) (now : Nat) :
    (c.turn read habit now).Keeps read limit items := by
  have pulled : (rested (Page.pullOn read habit.consumer now c.page.session c.ear)).Keeps
      read limit items := by
    obtain ⟨passed, kept⟩ := Session.keeps_seek keeps habit now false
    exact keeps_proceed habit now kept
  have waits : ∀ rest, (rested (rest, c.page, c.ear)).Keeps read limit items := by
    obtain ⟨passed, kept⟩ := keeps
    exact fun rest => keeps_rested kept
  unfold turn Page.run
  split
  · split
    · exact pulled
    · split
      · exact waits _
      · split
        · exact pulled
        · exact waits _
    · split
      · exact waits _
      · exact pulled
  · exact keeps

theorem keeps_act (keeps : c.Keeps read limit items) (habit : Habit ρ) (a : Act) :
    (c.act read habit a).Keeps read limit items := by
  cases a with
  | next now =>
    obtain ⟨passed, kept⟩ := Session.keeps_seek keeps habit now false
    exact keeps_told kept
  | turn now => exact keeps_turn keeps habit now
  | beginPage =>
    obtain ⟨passed, kept⟩ := keeps
    exact ⟨passed, { kept with }⟩
  | hangUp => exact keeps
  | cancel =>
    obtain ⟨passed, kept⟩ := keeps
    refine ⟨passed, ?_⟩
    simpa [act] using kept.later true fun _ => rfl
  | close =>
    obtain ⟨passed, kept⟩ := keeps
    refine ⟨passed, ?_⟩
    simpa [act] using (kept.later true fun _ => rfl).finish (by simp)

theorem keeps_run (keeps : c.Keeps read limit items) (habit : Habit ρ) (acts : List Act) :
    (c.run read habit acts).Keeps read limit items := by
  induction acts generalizing c with
  | nil => exact keeps
  | cons a acts ih => exact ih (keeps_act keeps habit a)

end Hearing

/-- A session that is about to wait for its body. Of what it received nothing is left but the start
of a line that fits the limit. -/
structure Awaits (read : Reader ρ) (limit : Nat) (received : Bytes) (said : List (Event ρ))
    (s : Session) : Prop where
  whole : Framing.lineFeed ∉ s.framing.buffer
  short : s.framing.buffer.length ≤ limit
  skips : s.framing.discarding = true → s.framing.buffer = []
  unended : s.framing.ended = false
  told : said = feedEvents read limit .never received
  reported : oversizedTold limit said = overlong limit received

def Moment.pull (read : Reader ρ) (now : Nat) (m : Moment (Ear ρ)) : Pull ρ × Session :=
  m.session.pull read (m.heard.cancelled && !m.session.looksOn m.passing) now

/-- A session at one moment of a call, `passed` being the items of its body that were taken in. -/
structure Bounded (read : Reader ρ) (limit : Nat) (items passed : List BodyItem)
    (m : Moment (Ear ρ)) : Prop where
  split : items = passed ++ m.session.body.items
  room : m.session.framing.buffer.length ≤ limit + Body.lastChunk passed
  once : oversizedTold limit m.heard.events ≤ overlong limit (Body.content passed)
  awaits : ∀ asks, m.session.asking m.heard.cancelled = some asks →
    Awaits read limit (Body.content passed) m.heard.events asks ∧
      ∀ now, m.pull read now = asks.receive now
  settled : m.session.asking m.heard.cancelled = none →
    ∀ now, (m.pull read now).2.body = m.session.body
  finished : m.session.live = false → m.heard.cancelled = false →
    oversizedTold limit m.heard.events = overlong limit (Body.content items)

theorem Session.Kept.awaits {read : Reader ρ} {limit : Nat} {items passed : List BodyItem}
    {said : List (Event ρ)} {gone : Bool} {s asks : Session}
    (kept : s.Kept read limit items passed said gone) (asking : s.asking gone = some asks) :
    Awaits read limit (Body.content passed) said asks := by
  obtain ⟨valid, taken, unended, same⟩ := Session.of_asking asking
  have live : s.live = true := by
    cases live : s.live with
    | true => rfl
    | false => simp [live] at valid
  have cut := kept.cut live s.onPage
  have starved := Framing.starved_of_take (f := s.framing)
  rw [taken] at cut starved
  rw [pieceEvents, List.append_nil] at cut
  have starved := starved rfl
  have told := (cut.owes live).told starved .never (by simp [unended])
  have limited : asks.framing.limit = limit := cut.limited
  simp only [limited] at told
  refine ⟨starved.whole, limited ▸ starved.short, starved.skips, unended, told.symm, ?_⟩
  rw [← told, oversizedTold_feedEvents]

theorem Session.body_pull {read : Reader ρ} {gone : Bool} {now : Nat} {s : Session}
    (nothing : s.asking gone = none) (overlooks : Bool) (piece : overlooks = true →
      s.framing.take.1.isSome = true) :
    (s.pull read (gone && !overlooks) now).2.body = s.body := by
  unfold pull
  split
  · exact s.body_finish
  · rename_i open_
    unfold asking at nothing
    cases taken : s.framing.take with
    | mk cut framing =>
    cases cut with
    | some cut =>
      cases cut with
      | line line =>
        simp only
        split <;> rfl
      | oversized | nothing => rfl
    | none =>
      -- with nothing to cut off the mark is looked at, so the body is asked only if that is allowed
      have valid : (gone || !s.live) = false := by
        cases overlooks with
        | true => simpa [taken] using piece rfl
        | false => simpa using open_
      rw [if_neg (by simp [valid]), taken] at nothing
      have ended : framing.ended = true := by simpa using nothing
      simp only [receive, ended, ite_true]
      exact body_finish _

theorem Session.Kept.bounded {read : Reader ρ} {limit : Nat} {items passed : List BodyItem}
    {m : Moment (Ear ρ)}
    (kept : m.session.Kept read limit items passed m.heard.events m.heard.cancelled) :
    Bounded read limit items passed m where
  split := kept.split
  room := kept.room
  once := by
    obtain ⟨rest, all⟩ := kept.told
    have told := oversizedTold_feedEvents read limit .ended (Body.content passed)
    rw [← all, oversizedTold_append] at told
    omega
  awaits asks asking := by
    have valid : m.heard.cancelled = false :=
      (Bool.or_eq_false_iff.mp (Session.of_asking asking).1).1
    refine ⟨kept.awaits asking, fun now => ?_⟩
    rw [Moment.pull, valid, Bool.false_and]
    exact Session.pull_asking (valid ▸ asking) read now
  settled nothing now := Session.body_pull nothing _ fun looks => by
    simpa [Session.looksOn] using (Bool.and_eq_true_iff.mp looks).2
  finished ended valid := by
    rw [kept.finished ended valid, oversizedTold_feedEvents]

/-- Whatever is asked of a session, by record or by page, whenever the bytes come and however they
are cut: at each moment of a call its buffer holds at most the limit and the chunk that came last,
and no more than the limit when it is about to wait for more. By then each line that is too long has
been told of once. -/
theorem buffer_bounded (read : Reader ρ) (habit : Habit ρ) (id : Nat) (source : String)
    (mark : Mark) (items : List BodyItem) (options : Options) (acts : List Hearing.Act) :
    let limit := max options.lineLimit 1
    let c := (Hearing.start (Session.start id source mark items options)).run read habit acts
    ∀ now, ∀ m ∈ c.moments read habit now,
      (∃ passed, Bounded read limit items passed m) ∧
      c.next read habit now = m.next read habit now ∧
      (c.reading = true → c.ear.cancelled = false → c.page.phase.isDue now = true →
        c.turn read habit now = m.turn read habit now) := by
  intro limit c now m member
  have keeps : c.Keeps read limit items :=
    Hearing.keeps_run ⟨[], Session.kept_start read id source mark items options⟩ habit acts
  have atStart : c.page.session.Keeps read limit items c.ear := keeps
  obtain ⟨passed, kept⟩ := Session.keeps_trail atStart habit now m member
  exact ⟨⟨passed, kept.bounded⟩, Hearing.next_moment read habit now c m member,
    fun reading valid due => Hearing.turn_moment read habit reading valid due m member⟩

/-- A line of eight bytes in two chunks, where no more than four are allowed: it is told of when the
first chunk is there, and no byte of it is kept while the second one is waited for. -/
theorem half_a_long_line_is_told_of :
    let items : List BodyItem :=
      [.chunk (Bytes.ascii "12345"), .pause 7, .chunk (Bytes.ascii "678\n9\n")]
    let habit : Habit Nat :=
      { goesOn := fun _ _ => true, cancels := fun _ _ => false, quits := fun _ _ => false }
    let c := (Hearing.start (Session.start 1 "feed" 0 items
      { pageLimit := 30, pace := 25, lineLimit := 4 })).run readU32 habit [.next 0]
    let m : Moment (Ear Nat) := { session := c.page.session, heard := c.ear }
    m ∈ c.moments readU32 habit 3 ∧ m.session.framing = { limit := 4, discarding := true } ∧
      oversizedTold 4 m.heard.events = 1 ∧ ∃ passed, Bounded readU32 4 items passed m := by
  intro items habit c m
  have member : m ∈ c.moments readU32 habit 3 := Session.mem_trail ..
  refine ⟨member, by decide +kernel, by decide +kernel, ?_⟩
  exact (buffer_bounded readU32 habit 1 "feed" 0 items _ [.next 0] 3 m member).1

end TranscodeConsole.Feed
