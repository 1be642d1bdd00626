import TranscodeConsole.Proofs.Feed.Framing

/-!
What an open session still has to say, and how each step of reading uses it up. A step tells a
part of it and leaves the rest; a session is over only when nothing is left.
-/
namespace TranscodeConsole.Feed

open Json

variable {ρ : Type}

namespace Body

inductive Polled (now : Nat) (items : List BodyItem) : Arrival → Body → Prop where
  | chunk {bytes : Bytes} {rest : List BodyItem} (brings : content items = bytes ++ content rest)
      (closes : closing rest = closing items) : Polled now items (.chunk bytes) ⟨rest, none⟩
  | failure {error : ServiceError} {rest : List BodyItem} (brings : content items = [])
      (closes : closing items = .failed error) : Polled now items (.failure error) ⟨rest, none⟩
  | closed (brings : content items = []) (closes : closing items = .ended) :
      Polled now items .closed ⟨[], none⟩
  | silence {rest : List BodyItem} (brings : content items = [])
      (closes : closing items = .never) : Polled now items (.later none) ⟨.silence :: rest, none⟩
  | pause {time length : Nat} {rest : List BodyItem} (late : now < time)
      (brings : content items = content rest) (closes : closing rest = closing items) :
      Polled now items (.later (some time)) ⟨.pause length :: rest, some time⟩

theorem polled_pollItems (now : Nat) (items : List BodyItem) :
    ∀ pauseEnd, Polled now items (pollItems now pauseEnd items).1
      (pollItems now pauseEnd items).2 := by
  induction items with
  | nil => intro pauseEnd; exact .closed rfl rfl
  | cons item rest ih =>
    intro pauseEnd
    cases item with
    | chunk bytes => exact .chunk rfl rfl
    | failure error => exact .failure rfl rfl
    | silence => exact .silence rfl rfl
    | pause length =>
      simp only [pollItems]
      split
      · have later := ih none
        generalize (pollItems now none rest).1 = arrival,
          (pollItems now none rest).2 = body at later
        cases later with
        | chunk brings closes => exact .chunk brings closes
        | failure brings closes => exact .failure brings closes
        | closed brings closes => exact .closed brings closes
        | silence brings closes => exact .silence brings closes
        | pause late brings closes => exact .pause late brings closes
      · rename_i early
        exact .pause (Nat.not_le.mp early) rfl rfl

end Body

def records (events : List (Event ρ)) : List ρ :=
  events.filterMap fun
    | .record r => some r
    | .rejected _ => none

@[simp] theorem records_nil : records ([] : List (Event ρ)) = [] := rfl

@[simp] theorem records_record (r : ρ) (events : List (Event ρ)) :
    records (.record r :: events) = r :: records events := rfl

@[simp] theorem records_rejected (error : ServiceError) (events : List (Event ρ)) :
    records (.rejected error :: events) = records events := rfl

@[simp] theorem records_append (before after : List (Event ρ)) :
    records (before ++ after) = records before ++ records after := by
  simp [records]

def rejected (events : List (Event ρ)) : List ServiceError :=
  events.filterMap fun
    | .record _ => none
    | .rejected error => some error

@[simp] theorem rejected_nil : rejected ([] : List (Event ρ)) = [] := rfl

@[simp] theorem rejected_record (r : ρ) (events : List (Event ρ)) :
    rejected (.record r :: events) = rejected events := rfl

@[simp] theorem rejected_rejected (error : ServiceError) (events : List (Event ρ)) :
    rejected (.rejected error :: events) = error :: rejected events := rfl

@[simp] theorem rejected_append (before after : List (Event ρ)) :
    rejected (before ++ after) = rejected before ++ rejected after := by
  simp [rejected]

namespace Session

def incoming (s : Session) : Bytes := if s.framing.ended then [] else Body.content s.body.items

def closing (s : Session) : Closing :=
  if s.framing.ended then .ended else Body.closing s.body.items

def remaining (read : Reader ρ) (s : Session) : List (Event ρ) :=
  s.framing.events read s.closing s.incoming

/-- The session has said `events`, and goes on as `after`. -/
structure Tells (read : Reader ρ) (s : Session) (events : List (Event ρ)) (after : Session) :
    Prop where
  remaining : s.remaining read = events ++ after.remaining read
  closing : after.closing = s.closing
  live : after.live = true
  onPage : after.onPage = s.onPage + (records events).length
  mark : after.mark = s.mark
  pageLimit : after.pageLimit = s.pageLimit
  pace : after.pace = s.pace

structure WaitsTill (s : Session) (time : Nat) : Prop where
  starved : s.framing.Starved
  unended : s.framing.ended = false
  pause : ∃ length rest, s.body = ⟨.pause length :: rest, some time⟩

inductive Pulled (read : Reader ρ) (now : Nat) (s : Session) : Pull ρ → Session → Prop where
  | record {r : ρ} {after : Session} (tells : s.Tells read [.record r] after)
      (smaller : after.size < s.size) : Pulled read now s (.record r) after
  | rejected {error : ServiceError} {after : Session} (tells : s.Tells read [.rejected error] after)
      (smaller : after.size < s.size) : Pulled read now s (.rejected error) after
  | moved {after : Session} (tells : s.Tells read [] after) (smaller : after.size < s.size) :
      Pulled read now s .moved after
  | pausing {time : Nat} {after : Session} (tells : s.Tells read [] after)
      (waits : after.WaitsTill time) (late : now < time) (smaller : after.size ≤ s.size) :
      Pulled read now s (.waiting (some time)) after
  | silent {after : Session} (tells : s.Tells read [] after) (never : s.closing = .never) :
      Pulled read now s (.waiting none) after
  | done {after : Session} (nothing : s.remaining read = []) (ended : s.closing = .ended)
      (mark : after.mark = s.mark) : Pulled read now s .done after
  | failed {error : ServiceError} {after : Session} (nothing : s.remaining read = [])
      (closing : s.closing = .failed error) (mark : after.mark = s.mark) :
      Pulled read now s (.failed error) after

theorem Tells.trans {read : Reader ρ} {s middle after : Session} {first second : List (Event ρ)}
    (tells : s.Tells read first middle) (later : middle.Tells read second after) :
    s.Tells read (first ++ second) after where
  remaining := by rw [tells.remaining, later.remaining, List.append_assoc]
  closing := later.closing.trans tells.closing
  live := later.live
  onPage := by
    rw [later.onPage, tells.onPage, records_append, List.length_append, Nat.add_assoc]
  mark := later.mark.trans tells.mark
  pageLimit := later.pageLimit.trans tells.pageLimit
  pace := later.pace.trans tells.pace

theorem Pulled.of_tells {read : Reader ρ} {now : Nat} {s middle after : Session} {pulled : Pull ρ}
    (step : Pulled read now middle pulled after) (tells : s.Tells read [] middle)
    (le : middle.size ≤ s.size) : Pulled read now s pulled after := by
  cases step with
  | record later smaller => exact .record (tells.trans later) (Nat.lt_of_lt_of_le smaller le)
  | rejected later smaller => exact .rejected (tells.trans later) (Nat.lt_of_lt_of_le smaller le)
  | moved later smaller => exact .moved (tells.trans later) (Nat.lt_of_lt_of_le smaller le)
  | pausing later waits late smaller =>
    exact .pausing (tells.trans later) waits late (Nat.le_trans smaller le)
  | silent later never => exact .silent (tells.trans later) (tells.closing ▸ never)
  | done nothing ended mark =>
    exact .done (by rw [tells.remaining, nothing]; rfl) (tells.closing ▸ ended)
      (mark.trans tells.mark)
  | failed nothing closing mark =>
    exact .failed (by rw [tells.remaining, nothing]; rfl) (tells.closing ▸ closing)
      (mark.trans tells.mark)

theorem mark_finish (s : Session) : s.finish.mark = s.mark := by
  unfold finish
  split <;> rfl

theorem mark_receive (now : Nat) (s : Session) : (receive (ρ := ρ) now s).2.mark = s.mark := by
  unfold receive
  split
  · exact s.mark_finish
  · split
    · rfl
    · exact mark_finish _
    · rfl
    · rfl

theorem mark_pull (read : Reader ρ) (cancelled : Bool) (now : Nat) (s : Session) :
    (s.pull read cancelled now).2.mark = s.mark := by
  unfold pull
  split
  · exact s.mark_finish
  · split
    · split <;> rfl
    · rfl
    · rfl
    · exact mark_receive now _

theorem pulled_receive (read : Reader ρ) (now : Nat) {s : Session} (live : s.live = true)
    (starved : s.framing.Starved) :
    Pulled read now s (receive (ρ := ρ) now s).1 (receive (ρ := ρ) now s).2 := by
  by_cases ended : s.framing.ended = true
  · have nothing : s.remaining read = [] := by
      simp only [remaining, incoming, ended, ite_true]
      exact starved.events_nil read fun _ => ended
    simp only [receive, ended, ite_true]
    exact .done nothing (by simp [closing, ended]) (mark_finish s)
  · have unended : s.framing.ended = false := by simpa using ended
    have polled := Body.polled_pollItems now s.body.items s.body.pauseEnd
    have bound := Body.size_pollItems now s.body.items s.body.pauseEnd
    simp only [receive, unended, Bool.false_eq_true, ite_false, Body.poll]
    generalize Body.pollItems now s.body.pauseEnd s.body.items = arrived at polled bound ⊢
    obtain ⟨arrival, body⟩ := arrived
    simp only at polled bound
    -- In each case the bytes at hand and those to come are the same as before, put together.
    cases polled with
    | @chunk bytes rest brings closes =>
      refine .moved ⟨?_, ?_, live, rfl, rfl, rfl, rfl⟩ ?_
      · simp [remaining, closing, incoming, Framing.receive, unended, brings, closes,
          Framing.events, List.append_assoc]
      · simp [closing, Framing.receive, unended, closes]
      · simp only [Arrival.weight] at bound
        simp only [size, Framing.receive, List.length_append, unended]
        omega
    | failure brings closes =>
      refine .failed ?_ (by simp [closing, unended, closes]) (mark_finish _)
      simp only [remaining, closing, incoming, unended, Bool.false_eq_true, ite_false, brings,
        closes]
      exact starved.events_nil read (by simp)
    | closed brings closes =>
      refine .moved ⟨?_, ?_, live, rfl, rfl, rfl, rfl⟩ ?_
      · simp [remaining, closing, incoming, unended, brings, closes, Framing.events]
      · simp [closing, unended, closes]
      · simp only [Arrival.weight] at bound
        simp only [size, unended, Bool.false_eq_true, ite_false, ite_true]
        omega
    | silence brings closes =>
      refine .silent ⟨?_, ?_, live, rfl, rfl, rfl, rfl⟩ (by simp [closing, unended, closes])
      · simp [remaining, closing, incoming, unended, brings, closes, Body.content, Body.closing]
      · simp [closing, unended, closes, Body.closing]
    | @pause time length rest late brings closes =>
      refine .pausing ⟨?_, ?_, live, rfl, rfl, rfl, rfl⟩
        ⟨starved, unended, length, rest, rfl⟩ late ?_
      · simp [remaining, closing, incoming, unended, brings, closes, Body.content, Body.closing]
      · simp [closing, unended, closes, Body.closing]
      · simp only [Arrival.weight] at bound
        simp only [size]
        omega

theorem recordEvent_eq (read : Reader ρ) (line : Bytes) :
    recordEvent read line = match readLine read line with
      | .ok r => .record r
      | .error error => .rejected error := by
  simp only [recordEvent, readLine, Framing.withoutReturn]
  split <;> simp_all

theorem tells_take (read : Reader ρ) {s : Session} (live : s.live = true) :
    s.Tells read (pieceEvents read s.framing.limit s.framing.take.1)
      { s with
        framing := s.framing.take.2
        onPage := s.onPage + (records (pieceEvents read s.framing.limit s.framing.take.1)).length }
    := by
  have same := ended_take s.framing
  refine ⟨?_, by simp [closing, same], live, rfl, rfl, rfl, rfl⟩
  simp only [remaining, incoming, closing, same]
  refine Framing.events_cut read _ _ ?_ (Framing.cut_take s.framing)
  intro ended
  simp [ended]

theorem pulled_pull (read : Reader ρ) (now : Nat) {s : Session} (live : s.live = true) :
    Pulled read now s (s.pull read false now).1 (s.pull read false now).2 := by
  have tells := tells_take read live
  have same := ended_take s.framing
  have shorter := length_take_le s.framing
  have cut : ∀ piece, s.framing.take.1 = some piece →
      s.framing.take.2.buffer.length < s.framing.buffer.length := fun _ => Framing.length_take
  have starved := Framing.starved_of_take (f := s.framing)
  rw [pull, if_neg (by simp [live])]
  generalize s.framing.take = taken at tells same shorter cut starved ⊢
  obtain ⟨piece, framing⟩ := taken
  simp only at tells same shorter cut starved
  cases piece with
  | none =>
    apply (pulled_receive (s := { s with framing }) read now live (starved rfl)).of_tells tells
    simp only [size, same]
    omega
  | some piece =>
    have smaller : ∀ onPage, size { s with framing, onPage } < s.size := by
      intro onPage
      have := cut piece rfl
      simp only [size, same]
      omega
    cases piece with
    | line line =>
      simp only [pieceEvents, recordEvent_eq] at tells
      simp only
      split
      · rename_i record found
        simp only [found] at tells
        exact .record tells (smaller _)
      · rename_i error found
        simp only [found] at tells
        exact .rejected tells (smaller _)
    | oversized => exact .rejected tells (smaller _)
    | nothing => exact .moved tells (smaller _)

theorem WaitsTill.pull_early {s : Session} {time now : Nat} (waits : s.WaitsTill time)
    (read : Reader ρ) (live : s.live = true) (early : now < time) :
    s.pull read false now = (.waiting (some time), s) := by
  obtain ⟨length, rest, body⟩ := waits.pause
  have polled : s.body.poll now = (.later (some time), s.body) := by
    simp [body, Body.poll, Body.pollItems, Nat.not_le.mpr early]
  rw [pull, if_neg (by simp [live]), waits.starved.take]
  simp only [receive, waits.unended, Bool.false_eq_true, ite_false, polled]

theorem WaitsTill.pull_late {s : Session} {time now : Nat} (waits : s.WaitsTill time)
    (read : Reader ρ) (live : s.live = true) (late : time ≤ now) :
    ∃ resumed, s.Tells read [] resumed ∧ resumed.size < s.size ∧
      s.pull read false now = resumed.pull read false now := by
  obtain ⟨length, rest, body⟩ := waits.pause
  refine ⟨{ s with body := ⟨rest, none⟩ }, ⟨?_, ?_, live, rfl, rfl, rfl, rfl⟩, ?_, ?_⟩
  · simp [remaining, incoming, closing, body, Body.content, Body.closing]
  · simp [closing, body, Body.closing]
  · simp only [size, body, Body.size]
    omega
  · rw [pull, pull, if_neg (by simp [live]), if_neg (by simp [live])]
    simp [receive, waits.starved.take, waits.unended, Body.poll, body, Body.pollItems, late]

end Session
end TranscodeConsole.Feed
