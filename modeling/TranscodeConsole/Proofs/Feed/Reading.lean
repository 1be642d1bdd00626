import TranscodeConsole.Proofs.Feed.Seeking

/-!
Reading a feed out: the next record is asked for again and again until the feed is over. Whatever
the chunks in which the bytes come, and whatever the times of the calls, the records and the
rejected lines are those of the reference reader.
-/
namespace TranscodeConsole.Feed

open Json

variable {ρ : Type}

namespace Session

def minutes : Sink (List ServiceError) where
  cancelled _ := false
  reject error errors := errors ++ [error]

theorem steady_minutes : minutes.Steady := fun _ _ => rfl

/-- Reads up to the next record, or as far as the body has come. The rejected lines are returned
with the outcome. -/
def next (read : Reader ρ) (now : Nat) (s : Session) : Outcome ρ × List ServiceError × Session :=
  let (outcome, after, errors) := s.seek read minutes now false []
  (outcome, errors, after)

theorem minutes_append (read : Reader ρ) (now : Nat) (s : Session) (before : List ServiceError) :
    s.seek read minutes now false before =
      ((s.next read now).1, (s.next read now).2.2, before ++ (s.next read now).2.1) := by
  have steady := steady_minutes
  simp only [next]
  induction size : s.size using Nat.strongRecOn generalizing s before with
  | ind k ih =>
    subst size
    have less := size_pull_lt read false now s
    have valid : ∀ errors, minutes.cancelled errors = false := fun _ => rfl
    have told : ∀ error errors, minutes.reject error errors = errors ++ [error] := fun _ _ => rfl
    rw [seek_eq steady, seek_eq steady, valid, valid]
    generalize s.pull read false now = result at less
    obtain ⟨pull, after⟩ := result
    cases pull with
    | record | waiting | done | failed => simp
    | moved => exact ih after.size (less rfl) after before rfl
    | rejected error =>
      have later := fun before => ih after.size (less rfl) after before rfl
      simp only [told]
      rw [later (before ++ [error]), later ([] ++ [error])]
      simp

theorem next_eq (read : Reader ρ) (now : Nat) (s : Session) :
    s.next read now = match s.pull read false now with
      | (.record r, after) => (.record r, [], after)
      | (.waiting time, after) => (.waiting time, [], after)
      | (.done, after) => (.done, [], after)
      | (.failed error, after) => (.failed error, [], after)
      | (.moved, after) => after.next read now
      | (.rejected error, after) =>
        let later := after.next read now
        (later.1, error :: later.2.1, later.2.2) := by
  rw [next, seek_eq steady_minutes]
  simp only [minutes_append]
  simp only [minutes]
  generalize s.pull read false now = result
  obtain ⟨pull, after⟩ := result
  cases pull <;> rfl

def rejections (errors : List ServiceError) : List (Event ρ) := errors.map .rejected

inductive Reached (read : Reader ρ) (now : Nat) (s : Session) :
    Outcome ρ → List ServiceError → Session → Prop where
  | record {r : ρ} {errors : List ServiceError} {after : Session}
      (tells : s.Tells read (rejections errors ++ [.record r]) after)
      (smaller : after.size < s.size) : Reached read now s (.record r) errors after
  | pausing {time : Nat} {errors : List ServiceError} {after : Session}
      (tells : s.Tells read (rejections errors) after) (waits : after.WaitsTill time)
      (late : now < time) (smaller : after.size ≤ s.size) :
      Reached read now s (.waiting (some time)) errors after
  | silent {errors : List ServiceError} {after : Session}
      (tells : s.Tells read (rejections errors) after) (never : s.closing = .never) :
      Reached read now s (.waiting none) errors after
  | done {errors : List ServiceError} {after : Session}
      (last : s.remaining read = rejections errors) (ended : s.closing = .ended) :
      Reached read now s .done errors after
  | failed {error : ServiceError} {errors : List ServiceError} {after : Session}
      (last : s.remaining read = rejections errors) (closing : s.closing = .failed error) :
      Reached read now s (.failed error) errors after

theorem Reached.of_tells {read : Reader ρ} {now : Nat} {s middle after : Session}
    {outcome : Outcome ρ} {errors : List ServiceError} (before : List ServiceError)
    (reached : Reached read now middle outcome errors after)
    (tells : s.Tells read (rejections before) middle) (smaller : middle.size < s.size) :
    Reached read now s outcome (before ++ errors) after := by
  have joined : (rejections (before ++ errors) : List (Event ρ)) =
      rejections before ++ rejections errors := by simp [rejections]
  cases reached with
  | record later less =>
    refine .record ?_ (Nat.lt_trans less smaller)
    rw [joined, List.append_assoc]
    exact tells.trans later
  | pausing later waits late less =>
    refine .pausing ?_ waits late (Nat.le_of_lt (Nat.lt_of_le_of_lt less smaller))
    rw [joined]
    exact tells.trans later
  | silent later never =>
    refine .silent ?_ (tells.closing ▸ never)
    rw [joined]
    exact tells.trans later
  | done last ended => exact .done (by rw [tells.remaining, last, joined]) (tells.closing ▸ ended)
  | failed last closing =>
    exact .failed (by rw [tells.remaining, last, joined]) (tells.closing ▸ closing)

theorem reached_next (read : Reader ρ) (now : Nat) {s : Session} (live : s.live = true) :
    Reached read now s (s.next read now).1 (s.next read now).2.1
      (s.next read now).2.2 := by
  induction size : s.size using Nat.strongRecOn generalizing s with
  | ind k ih =>
    have pulled := pulled_pull read now live
    rw [next_eq]
    generalize s.pull read false now = result at pulled ⊢
    obtain ⟨pull, after⟩ := result
    simp only at pulled
    cases pulled with
    | record tells smaller => exact .record tells smaller
    | rejected tells smaller =>
      have later := ih after.size (size ▸ smaller) tells.live rfl
      exact later.of_tells [_] tells smaller
    | moved tells smaller =>
      have later := ih after.size (size ▸ smaller) tells.live rfl
      exact later.of_tells [] tells smaller
    | pausing tells waits late smaller => exact .pausing tells waits late smaller
    | silent tells never => exact .silent tells never
    | done nothing ended => exact .done nothing ended
    | failed nothing closing => exact .failed nothing closing

/-- What calls of `next` at the given times come to, one after another, and how the feed closed,
if it did. -/
def drain (read : Reader ρ) : List Nat → Session → List (Event ρ) × Option Closing
  | [], _ => ([], none)
  | now :: later, s =>
    let (outcome, errors, s) := s.next read now
    let (events, closing) := match outcome with
      | .record r =>
        let (events, closing) := drain read later s
        (.record r :: events, closing)
      | .waiting _ => drain read later s
      | .done => ([], some .ended)
      | .failed error => ([], some (.failed error))
    (rejections errors ++ events, closing)

/-- A clock that passes every time and does not come back before it. -/
def Onward (clock : Nat → Nat) : Prop := ∀ time, ∃ n, ∀ m, n ≤ m → time ≤ clock m

theorem Onward.tail {clock : Nat → Nat} (onward : Onward clock) : Onward fun m => clock (m + 1) := by
  intro time
  obtain ⟨n, passed⟩ := onward time
  exact ⟨n, fun m le => passed (m + 1) (by omega)⟩

def calls (clock : Nat → Nat) (n : Nat) : List Nat := (List.range n).map clock

theorem calls_succ (clock : Nat → Nat) (n : Nat) :
    calls clock (n + 1) = clock 0 :: calls (fun m => clock (m + 1)) n := by
  simp [calls, List.range_succ_eq_map, Function.comp_def]

def ReadsOut (read : Reader ρ) (clock : Nat → Nat) (s : Session) : Prop :=
  ∃ n, ∀ m, n ≤ m → s.drain read (calls clock m) = (s.remaining read, some s.closing)

theorem readsOut_of_tail {read : Reader ρ} {clock : Nat → Nat} {s after : Session}
    {said : List (Event ρ)} (tells : s.Tells read said after)
    (step : ∀ later, s.drain read (clock 0 :: later) =
      (said ++ (after.drain read later).1, (after.drain read later).2))
    (later : ReadsOut read (fun m => clock (m + 1)) after) : ReadsOut read clock s := by
  obtain ⟨n, read_⟩ := later
  refine ⟨n + 1, ?_⟩
  intro m le
  obtain ⟨m, rfl⟩ : ∃ m', m = m' + 1 := ⟨m - 1, by omega⟩
  rw [calls_succ, step, read_ m (by omega), tells.remaining, tells.closing]

theorem WaitsTill.next_early {s : Session} {time now : Nat} (waits : s.WaitsTill time)
    (read : Reader ρ) (live : s.live = true) (early : now < time) :
    s.next read now = (.waiting (some time), [], s) := by
  rw [next_eq, waits.pull_early read live early]

theorem WaitsTill.next_late {s : Session} {time now : Nat} (waits : s.WaitsTill time)
    (read : Reader ρ) (live : s.live = true) (late : time ≤ now) :
    ∃ resumed, s.Tells read [] resumed ∧ resumed.size < s.size ∧
      s.next read now = resumed.next read now := by
  obtain ⟨resumed, tells, smaller, same⟩ := waits.pull_late read live late
  exact ⟨resumed, tells, smaller, by rw [next_eq, next_eq, same]⟩

theorem readsOut_waiting {read : Reader ρ} {s : Session} {time : Nat} (live : s.live = true)
    (waits : s.WaitsTill time)
    (resumes : ∀ clock resumed, Onward clock → s.Tells read [] resumed → resumed.size < s.size →
      ReadsOut read clock resumed) :
    ∀ clock, Onward clock → ReadsOut read clock s := by
  have resumed : ∀ clock, Onward clock → time ≤ clock 0 → ReadsOut read clock s := by
    intro clock onward late
    obtain ⟨resumed, tells, smaller, same⟩ := waits.next_late read live late
    obtain ⟨k, readOut⟩ := resumes clock resumed onward tells smaller
    refine ⟨k + 1, ?_⟩
    intro m le
    obtain ⟨m, rfl⟩ : ∃ m', m = m' + 1 := ⟨m - 1, by omega⟩
    have whole := readOut (m + 1) (by omega)
    rw [calls_succ, drain] at whole ⊢
    rw [same, whole, tells.remaining, tells.closing]
    rfl
  intro clock onward
  -- The calls before the end of the pause change nothing; there are at most `n` of them.
  obtain ⟨n, passed⟩ := onward time
  induction n generalizing clock with
  | zero => exact resumed clock onward (passed 0 (Nat.le_refl 0))
  | succ n ih =>
    by_cases late : time ≤ clock 0
    · exact resumed clock onward late
    · have stays : s.Tells read [] s := ⟨rfl, rfl, live, rfl, rfl, rfl, rfl⟩
      refine readsOut_of_tail stays ?_ (ih _ onward.tail fun m le => passed (m + 1) (by omega))
      intro later
      rw [drain, waits.next_early read live (Nat.not_le.mp late)]
      rfl

theorem readsOut_live (read : Reader ρ) {s : Session} (live : s.live = true)
    (closes : s.closing ≠ .never) :
    ∀ clock, Onward clock → ReadsOut read clock s := by
  induction size : s.size using Nat.strongRecOn generalizing s with
  | ind k ih =>
    subst size
    -- Every call that comes to something leaves less to be read, whatever the clock does.
    have resumes : ∀ {said after} clock, Onward clock → s.Tells read said after →
        after.size < s.size → ReadsOut read clock after := by
      intro said after clock onward tells smaller
      exact ih after.size smaller tells.live (tells.closing ▸ closes) rfl clock onward
    intro clock onward
    have reached := reached_next read (clock 0) live
    generalize result : s.next read (clock 0) = outcome at reached
    obtain ⟨outcome, errors, after⟩ := outcome
    simp only at reached
    cases reached with
    | record tells smaller =>
      refine readsOut_of_tail tells ?_ (resumes _ onward.tail tells smaller)
      intro later
      simp [drain, result]
    | @pausing time _ _ tells waits late smaller =>
      refine readsOut_of_tail tells ?_ ?_
      · intro later
        simp [drain, result]
      · refine readsOut_waiting tells.live waits ?_ _ onward.tail
        intro clock resumed onward later less
        exact ih resumed.size (by omega) later.live (later.closing ▸ tells.closing ▸ closes) rfl
          clock onward
    | silent tells never => exact absurd never closes
    | done last ended =>
      refine ⟨1, ?_⟩
      intro m le
      obtain ⟨m, rfl⟩ : ∃ m', m = m' + 1 := ⟨m - 1, by omega⟩
      simp [calls_succ, drain, result, last, ended]
    | failed last closing =>
      refine ⟨1, ?_⟩
      intro m le
      obtain ⟨m, rfl⟩ : ∃ m', m = m' + 1 := ⟨m - 1, by omega⟩
      simp [calls_succ, drain, result, last, closing]

theorem remaining_start (read : Reader ρ) (id : Nat) (source : String) (mark : Mark)
    (items : List BodyItem) (options : Options) :
    (start id source mark items options).remaining read =
      feedEvents read (max options.lineLimit 1) (Body.closing items) (Body.content items) := rfl

theorem closing_start (id : Nat) (source : String) (mark : Mark) (items : List BodyItem)
    (options : Options) :
    (start id source mark items options).closing = Body.closing items := rfl

/-- A feed that closes is read out with the events of its uncut bytes, in order, and with its own
closing. -/
theorem drain_eq_feedEvents (read : Reader ρ) (id : Nat) (source : String) (mark : Mark)
    (items : List BodyItem) (options : Options) (closes : Body.closing items ≠ .never)
    (clock : Nat → Nat) (onward : Onward clock) :
    ∃ n, ∀ m, n ≤ m →
      (start id source mark items options).drain read (calls clock m) =
        (feedEvents read (max options.lineLimit 1) (Body.closing items) (Body.content items),
          some (Body.closing items)) := by
  have readsOut := readsOut_live read (s := start id source mark items options) rfl closes clock
    onward
  rw [ReadsOut, remaining_start, closing_start] at readsOut
  exact readsOut

/-- A feed that breaks off, cut inside a line end and inside a line that is too long. -/
theorem drain_broken_feed :
    let items : List BodyItem :=
      [.chunk (Bytes.ascii "12\r"), .pause 7, .chunk (Bytes.ascii "\n\t\n12"),
        .chunk (Bytes.ascii "345\n6\n78"), .failure (.connection "reset")]
    let clock := fun n => 5 * n
    Body.closing items ≠ .never ∧ Onward clock ∧
      ∃ n, ∀ m, n ≤ m →
        (start 1 "feed" 0 items { pageLimit := 30, pace := 25, lineLimit := 4 }).drain readU32
          (calls clock m) =
          ([.record 12, .rejected (oversized 4), .record 6],
            some (.failed (.connection "reset"))) := by
  intro items clock
  have closes : Body.closing items ≠ .never := by decide
  have onward : Onward clock := fun time => ⟨time, fun m late => by show time ≤ 5 * m; omega⟩
  have said : feedEvents readU32 4 (Body.closing items) (Body.content items) =
      [.record 12, .rejected (oversized 4), .record 6] := by decide +kernel
  refine ⟨closes, onward, ?_⟩
  rw [← said]
  exact drain_eq_feedEvents readU32 1 "feed" 0 items _ closes clock onward

end Session
end TranscodeConsole.Feed
