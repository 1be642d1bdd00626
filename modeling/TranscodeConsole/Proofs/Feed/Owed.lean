import TranscodeConsole.Proofs.Feed.Remaining

/-!
What a session has told of the body that it took in, what it still owes of it, and how much room the
bytes that it owes take. Both are kept by every pull, whatever the chunks and whenever they come.
-/
namespace TranscodeConsole.Feed

open Json

variable {ρ : Type}

/-! ### What a body has brought -/

namespace Body

def lastChunk (items : List BodyItem) : Nat :=
  items.foldl (fun size item => match item with
    | .chunk bytes => bytes.length
    | _ => size) 0

def Flows (items : List BodyItem) : Prop :=
  ∀ item ∈ items, (∃ bytes, item = .chunk bytes) ∨ ∃ length, item = .pause length

@[simp] theorem flows_nil : Flows [] := by simp [Flows]

theorem Flows.append {first later : List BodyItem} (flows : Flows first) (goesOn : Flows later) :
    Flows (first ++ later) := by
  intro item member
  exact (List.mem_append.mp member).elim (flows item) (goesOn item)

theorem content_append {passed : List BodyItem} (flows : Flows passed) (rest : List BodyItem) :
    content (passed ++ rest) = content passed ++ content rest := by
  induction passed with
  | nil => rfl
  | cons item passed ih =>
    have later := ih fun item member => flows item (List.mem_cons_of_mem _ member)
    rcases flows item List.mem_cons_self with ⟨bytes, rfl⟩ | ⟨length, rfl⟩
    · simp [content, later]
    · simp [content, later]

theorem closing_append {passed : List BodyItem} (flows : Flows passed) (rest : List BodyItem) :
    closing (passed ++ rest) = closing rest := by
  induction passed with
  | nil => rfl
  | cons item passed ih =>
    have later := ih fun item member => flows item (List.mem_cons_of_mem _ member)
    rcases flows item List.mem_cons_self with ⟨bytes, rfl⟩ | ⟨length, rfl⟩
    · simp [closing, later]
    · simp [closing, later]

def Rested (items : List BodyItem) : Prop := ∀ item ∈ items, ∃ length, item = .pause length

theorem Rested.flows {pauses : List BodyItem} (rested : Rested pauses) : Flows pauses :=
  fun item member => .inr (rested item member)

theorem Rested.content_eq {pauses : List BodyItem} (rested : Rested pauses) :
    content pauses = [] := by
  induction pauses with
  | nil => rfl
  | cons item pauses ih =>
    obtain ⟨length, rfl⟩ := rested item List.mem_cons_self
    exact ih fun item member => rested item (List.mem_cons_of_mem _ member)

theorem Rested.lastChunk_append {pauses : List BodyItem} (rested : Rested pauses)
    (passed : List BodyItem) : lastChunk (passed ++ pauses) = lastChunk passed := by
  induction pauses generalizing passed with
  | nil => rw [List.append_nil]
  | cons item pauses ih =>
    obtain ⟨length, rfl⟩ := rested item List.mem_cons_self
    rw [List.append_cons, ih fun item member => rested item (List.mem_cons_of_mem _ member)]
    simp [lastChunk]

theorem lastChunk_chunk (passed : List BodyItem) (bytes : Bytes) :
    lastChunk (passed ++ [.chunk bytes]) = bytes.length := by
  simp [lastChunk]

end Body

def Arrival.items : Arrival → List BodyItem
  | .chunk bytes => [.chunk bytes]
  | .failure error => [.failure error]
  | .closed | .later _ => []

theorem Body.passed_pollItems (now : Nat) (items : List BodyItem) :
    ∀ pauseEnd, ∃ pauses, Rested pauses ∧
      items = pauses ++ ((pollItems now pauseEnd items).1.items ++
        (pollItems now pauseEnd items).2.items) ∧
      ((pollItems now pauseEnd items).1 = .closed → (pollItems now pauseEnd items).2.items = []) := by
  induction items with
  | nil => intro pauseEnd; exact ⟨[], by simp [Rested], rfl, fun _ => rfl⟩
  | cons item rest ih =>
    intro pauseEnd
    cases item with
    | chunk | failure | silence =>
      exact ⟨[], by simp [Rested], rfl, fun closed => Arrival.noConfusion closed⟩
    | pause length =>
      simp only [pollItems]
      split
      · obtain ⟨pauses, rested, split, closed⟩ := ih none
        refine ⟨.pause length :: pauses, ?_, congrArg _ split, closed⟩
        intro item member
        rcases List.mem_cons.mp member with rfl | later
        · exact ⟨length, rfl⟩
        · exact rested item later
      · exact ⟨[], by simp [Rested], rfl, fun closed => Arrival.noConfusion closed⟩

/-! ### Lines that are too long -/

/-- How many lines of the bytes are longer than the limit; what follows the last line feed counts as
a line. -/
def overlong (limit : Nat) (bytes : Bytes) : Nat :=
  (bytes.splitOn Framing.lineFeed).countP (limit < ·.length)

def oversizedTold (limit : Nat) (events : List (Event ρ)) : Nat :=
  (rejected events).count (Session.oversized limit)

@[simp] theorem oversizedTold_append (limit : Nat) (first later : List (Event ρ)) :
    oversizedTold limit (first ++ later) = oversizedTold limit first + oversizedTold limit later := by
  simp [oversizedTold]

theorem problem_ne_oversized (problem : Problem) (limit : Nat) :
    ServiceError.malformedRecord problem.message ≠ Session.oversized limit := by
  -- the first two letters tell the wordings apart
  have starts : ∀ {front : String} (rest : String), 2 ≤ front.toList.length →
      (front ++ rest).toList.take 2 = front.toList.take 2 := by
    intro front rest long
    rw [String.toList_append, List.take_append_of_le_length long]
  have differs : ∀ {front : String} (rest : String), 2 ≤ front.toList.length →
      front.toList.take 2 ≠ ['l', 'i'] → (front ++ rest).toList.take 2 ≠ ['l', 'i'] := by
    intro front rest long other
    rwa [starts rest long]
  have wording : problem.message.toList.take 2 ≠ ['l', 'i'] := by
    cases problem with
    | ended inside => cases inside <;> decide +kernel
    | malformed m => cases m <;> decide +kernel
    | badUuid e => exact differs _ (by decide +kernel) (by decide +kernel)
    | missingField name | duplicateField name =>
      show (_ ++ _ ++ _ : String).toList.take 2 ≠ _
      rw [String.append_assoc]
      exact differs _ (by decide +kernel) (by decide +kernel)
    | wrongType | outOfRange =>
      show (_ ++ _ ++ _ ++ _ : String).toList.take 2 ≠ _
      rw [String.append_assoc, String.append_assoc]
      exact differs _ (by decide +kernel) (by decide +kernel)
    | shortArray index record size =>
      show (_ ++ _ ++ _ ++ _ ++ _ ++ _ ++ _ : String).toList.take 2 ≠ _
      simp only [String.append_assoc]
      exact differs _ (by decide +kernel) (by decide +kernel)
  intro same
  have text := ServiceError.malformedRecord.inj same
  rw [text, String.append_assoc, starts _ (by decide +kernel)] at wording
  exact wording (by decide +kernel)

theorem oversizedTold_record (read : Reader ρ) (limit : Nat) (line : Bytes) :
    oversizedTold limit [recordEvent read line] = 0 := by
  unfold recordEvent
  split
  · rfl
  · simp [oversizedTold, problem_ne_oversized]

theorem oversizedTold_line (read : Reader ρ) (limit : Nat) (line : Bytes) :
    oversizedTold limit (lineEvents read limit line) = if limit < line.length then 1 else 0 := by
  unfold lineEvents
  split
  · simp [oversizedTold]
  · split
    · rfl
    · exact oversizedTold_record read limit line

theorem oversizedTold_tail (read : Reader ρ) (limit : Nat) (closing : Closing) (tail : Bytes) :
    oversizedTold limit (tailEvents read limit closing tail) =
      if limit < tail.length then 1 else 0 := by
  unfold tailEvents
  split
  · exact oversizedTold_line read limit tail
  · split <;> simp [oversizedTold]

theorem oversizedTold_feedEvents (read : Reader ρ) (limit : Nat) (closing : Closing)
    (bytes : Bytes) : oversizedTold limit (feedEvents read limit closing bytes) =
      overlong limit bytes := by
  have lines : ∀ parts : List Bytes, oversizedTold limit (parts.flatMap (lineEvents read limit)) =
      parts.countP (limit < ·.length) := by
    intro parts
    induction parts with
    | nil => rfl
    | cons line parts ih =>
      rw [List.flatMap_cons, oversizedTold_append, oversizedTold_line, ih, List.countP_cons]
      simp [Nat.add_comm]
  obtain ⟨parts, last, split⟩ := (List.eq_nil_or_concat _).resolve_left
    (List.splitOn_ne_nil Framing.lineFeed bytes)
  simp [feedEvents, overlong, split, lines, oversizedTold_tail, List.countP_singleton]

/-! ### What is told and what is still owed -/

namespace Framing

/-- Of what was received, `said` has been told, and all else stands in the buffer: the reference
reader says the same of any way in which the feed may go on. -/
def Owes (read : Reader ρ) (received : Bytes) (said : List (Event ρ)) (f : Framing) : Prop :=
  ∀ closing more, (f.ended = true → closing = .ended ∧ more = []) →
    feedEvents read f.limit closing (received ++ more) = said ++ f.events read closing more

variable {read : Reader ρ} {received : Bytes} {said : List (Event ρ)} {f : Framing}

theorem limit_take (f : Framing) : f.take.2.limit = f.limit := by
  have cut := cut_take f
  generalize f.take.1 = piece, f.take.2 = after at cut
  cases cut <;> rfl

theorem Owes.take (owes : f.Owes read received said) :
    f.take.2.Owes read received (said ++ pieceEvents read f.limit f.take.1) := by
  intro closing more isOver
  rw [Session.ended_take] at isOver
  rw [limit_take, owes closing more isOver, List.append_assoc,
    events_cut read closing more isOver (cut_take f)]

theorem Owes.receive (owes : f.Owes read received said) (unended : f.ended = false)
    (chunk : Bytes) : (f.receive chunk).Owes read (received ++ chunk) said := by
  intro closing more _
  have same : (f.receive chunk).events read closing more = f.events read closing (chunk ++ more) := by
    simp [events, Framing.receive]
  rw [same, List.append_assoc]
  exact owes closing (chunk ++ more) (by simp [unended])

theorem Owes.close (owes : f.Owes read received said) (unended : f.ended = false) :
    Owes read received said { f with ended := true } := by
  intro closing more _
  exact owes closing more (by simp [unended])

theorem Owes.told_before (owes : f.Owes read received said) :
    said <+: feedEvents read f.limit .ended received := by
  have whole := owes .ended [] fun _ => ⟨rfl, rfl⟩
  rw [List.append_nil] at whole
  exact ⟨_, whole.symm⟩

theorem Owes.told (owes : f.Owes read received said) (starved : f.Starved) (closing : Closing)
    (closes : f.ended = true ↔ closing = .ended) :
    feedEvents read f.limit closing received = said := by
  have whole := owes closing [] fun ended => ⟨closes.mp ended, rfl⟩
  rwa [starved.events_nil read closes.mpr, List.append_nil, List.append_nil] at whole

end Framing

def Pull.told : Pull ρ → List (Event ρ)
  | .record r => [.record r]
  | .rejected error => [.rejected error]
  | .moved | .waiting _ | .done | .failed _ => []

namespace Session

/-- What holds of a session at any time: `passed` are the items of the body that were taken in, and
`said` is what was told of them. -/
structure Kept (read : Reader ρ) (limit : Nat) (items passed : List BodyItem)
    (said : List (Event ρ)) (gone : Bool) (s : Session) : Prop where
  limited : s.framing.limit = limit
  split : items = passed ++ s.body.items
  room : s.framing.buffer.length ≤ limit + Body.lastChunk passed
  told : said <+: feedEvents read limit .ended (Body.content passed)
  flows : s.live = true → Body.Flows passed
  drained : s.live = true → s.framing.ended = true → s.body.items = []
  owes : s.live = true → s.framing.Owes read (Body.content passed) said
  finished : s.live = false → gone = false →
    said = feedEvents read limit (Body.closing items) (Body.content items)

variable {read : Reader ρ} {limit : Nat} {items passed : List BodyItem} {said : List (Event ρ)}
  {gone : Bool} {s : Session}

theorem Kept.of_owes (live : s.live = true) (limited : s.framing.limit = limit)
    (split : items = passed ++ s.body.items)
    (room : s.framing.buffer.length ≤ limit + Body.lastChunk passed) (flows : Body.Flows passed)
    (drained : s.framing.ended = true → s.body.items = [])
    (owes : s.framing.Owes read (Body.content passed) said) :
    s.Kept read limit items passed said gone where
  limited := limited
  split := split
  room := room
  told := limited ▸ owes.told_before
  flows _ := flows
  drained _ := drained
  owes _ := owes
  finished ended := by simp [live] at ended

theorem kept_start (read : Reader ρ) (id : Nat) (source : String) (mark : Mark)
    (items : List BodyItem) (options : Options) :
    Kept read (max options.lineLimit 1) items [] [] false (start id source mark items options) :=
  .of_owes rfl rfl rfl (Nat.zero_le _) Body.flows_nil (by simp [start]) fun _ _ _ => rfl

theorem Kept.finish (kept : s.Kept read limit items passed said gone)
    (whole : gone = false →
      said = feedEvents read limit (Body.closing items) (Body.content items)) :
    s.finish.Kept read limit items passed said gone := by
  unfold Session.finish
  split
  · exact ⟨kept.limited, kept.split, Nat.zero_le _, kept.told, by simp, by simp, by simp,
      fun _ => whole⟩
  · exact kept

theorem Kept.rests (kept : s.Kept read limit items passed said gone) (live : s.live = true)
    {pauses : List BodyItem} (rested : Body.Rested pauses) (body : Body)
    (split : s.body.items = pauses ++ body.items) :
    Kept read limit items (passed ++ pauses) said gone { s with body } := by
  have flows := kept.flows live
  refine .of_owes live kept.limited ?_ ?_ (flows.append rested.flows) ?_ ?_
  · rw [kept.split, split, List.append_assoc]
  · rw [rested.lastChunk_append]
    exact kept.room
  · intro ended
    have empty := kept.drained live ended
    rw [split] at empty
    exact (List.append_eq_nil_iff.mp empty).2
  · rw [Body.content_append flows, rested.content_eq, List.append_nil]
    exact kept.owes live

theorem Kept.ends (kept : s.Kept read limit items passed said gone) (live : s.live = true)
    (starved : s.framing.Starved) (ended : s.framing.ended = true) :
    s.finish.Kept read limit items passed said gone := by
  have split := kept.split
  rw [kept.drained live ended, List.append_nil] at split
  have closes : Body.closing items = .ended := by
    have all := Body.closing_append (kept.flows live) []
    rwa [List.append_nil, ← split] at all
  have whole := (kept.owes live).told starved .ended (by simp [ended])
  refine kept.finish fun _ => ?_
  rw [closes, split, ← kept.limited, whole]

theorem Kept.gains (kept : s.Kept read limit items passed said gone) (live : s.live = true)
    (short : s.framing.buffer.length ≤ limit) (unended : s.framing.ended = false) {bytes : Bytes}
    {body : Body} (split : s.body.items = .chunk bytes :: body.items) :
    Kept read limit items (passed ++ [.chunk bytes]) said gone
      { s with body, framing := s.framing.receive bytes } := by
  have flows := kept.flows live
  refine .of_owes live kept.limited ?_ ?_ ?_ (by simp [Framing.receive, unended]) ?_
  · rw [kept.split, split, List.append_assoc]
    rfl
  · simp only [Framing.receive, List.length_append, Body.lastChunk_chunk]
    omega
  · exact flows.append (by simp [Body.Flows])
  · rw [Body.content_append flows]
    simpa [Body.content] using (kept.owes live).receive unended bytes

theorem Kept.breaks (kept : s.Kept read limit items passed said gone) (live : s.live = true)
    (starved : s.framing.Starved) (unended : s.framing.ended = false) {error : ServiceError}
    {body : Body} (split : s.body.items = .failure error :: body.items) :
    Kept read limit items (passed ++ [.failure error]) said gone { s with body }.finish := by
  have flows := kept.flows live
  have split : items = passed ++ .failure error :: body.items := split ▸ kept.split
  have closes : Body.closing items = .failed error := by
    rw [split, Body.closing_append flows]
    rfl
  have content : ∀ rest, Body.content (passed ++ .failure error :: rest) =
      Body.content passed := by
    intro rest
    rw [Body.content_append flows]
    exact List.append_nil _
  simp only [Session.finish, live, ite_true]
  refine ⟨kept.limited, ?_, Nat.zero_le _, ?_, by simp, by simp, by simp, fun _ _ => ?_⟩
  · rw [split, List.append_assoc]
    rfl
  · rw [content]
    exact kept.told
  · have whole := (kept.owes live).told starved (.failed error) (by simp [unended])
    rw [closes, ← whole, split, content, kept.limited]

theorem Kept.receive (kept : s.Kept read limit items passed said gone) (live : s.live = true)
    (starved : s.framing.Starved) (now : Nat) :
    ∃ passed', (receive (ρ := ρ) now s).2.Kept read limit items passed'
      (said ++ (receive (ρ := ρ) now s).1.told) gone := by
  unfold Session.receive
  split
  · rename_i ended
    refine ⟨passed, ?_⟩
    rw [Pull.told, List.append_nil]
    exact kept.ends live starved ended
  · rename_i unended
    have unended : s.framing.ended = false := by simpa using unended
    have short : s.framing.buffer.length ≤ limit := kept.limited ▸ starved.short
    obtain ⟨pauses, rested, split, closed⟩ :=
      Body.passed_pollItems now s.body.items s.body.pauseEnd
    unfold Body.poll
    generalize Body.pollItems now s.body.pauseEnd s.body.items = arrived at split closed ⊢
    obtain ⟨arrival, body⟩ := arrived
    -- the pauses are passed first; what has arrived is then at the front of the body
    have kept := kept.rests live rested ⟨arrival.items ++ body.items, none⟩ split
    cases arrival with
    | chunk bytes =>
      refine ⟨passed ++ pauses ++ [.chunk bytes], ?_⟩
      rw [Pull.told, List.append_nil]
      exact kept.gains live short unended rfl
    | failure error =>
      refine ⟨passed ++ pauses ++ [.failure error], ?_⟩
      rw [Pull.told, List.append_nil]
      exact kept.breaks live starved unended rfl
    | closed =>
      refine ⟨passed ++ pauses, ?_⟩
      rw [Pull.told, List.append_nil]
      exact .of_owes live kept.limited kept.split kept.room (kept.flows live)
        (fun _ => closed rfl) ((kept.owes live).close unended)
    | later time =>
      refine ⟨passed ++ pauses, ?_⟩
      rw [Pull.told, List.append_nil]
      exact .of_owes live kept.limited kept.split kept.room (kept.flows live) (kept.drained live)
        (kept.owes live)

theorem Kept.cut (kept : s.Kept read limit items passed said gone) (live : s.live = true)
    (onPage : Nat) :
    Kept read limit items passed (said ++ pieceEvents read s.framing.limit s.framing.take.1) gone
      { s with framing := s.framing.take.2, onPage } := by
  refine .of_owes live (s.framing.limit_take.trans kept.limited) kept.split ?_ (kept.flows live)
    ?_ (kept.owes live).take
  · exact Nat.le_trans (length_take_le s.framing) kept.room
  · intro ended
    rw [ended_take] at ended
    exact kept.drained live ended

theorem Kept.later (kept : s.Kept read limit items passed said gone) (gone' : Bool)
    (stays : gone = true → gone' = true) : s.Kept read limit items passed said gone' :=
  { kept with
    finished := fun ended valid => kept.finished ended <| by
      cases gone with
      | true => exact absurd (stays rfl) (by simp [valid])
      | false => rfl }

/-- A pull may overlook that the session was given up. -/
theorem Kept.pull (kept : s.Kept read limit items passed said gone) (overlooks : Bool)
    (now : Nat) :
    let pulled := s.pull read (gone && !overlooks) now
    ∃ passed', pulled.2.Kept read limit items passed' (said ++ pulled.1.told) gone := by
  intro pulled
  unfold pulled Session.pull
  split
  · rename_i finished
    refine ⟨passed, ?_⟩
    rw [Pull.told, List.append_nil]
    refine kept.finish fun valid => kept.finished ?_ valid
    simpa [valid] using finished
  · rename_i open_
    have live : s.live = true := by
      cases live : s.live with
      | true => rfl
      | false => simp [live] at open_
    have kept := kept.cut live
    have starved := Framing.starved_of_take (f := s.framing)
    generalize s.framing.take = taken at kept starved ⊢
    obtain ⟨piece, framing⟩ := taken
    cases piece with
    | none =>
      have kept := kept s.onPage
      rw [pieceEvents, List.append_nil] at kept
      exact kept.receive live (starved rfl) now
    | some piece =>
      refine ⟨passed, ?_⟩
      cases piece with
      | line line =>
        rw [pieceEvents, recordEvent_eq] at kept
        simp only
        split
        · rename_i record found
          rw [found] at kept
          exact kept _
        · rename_i error found
          rw [found] at kept
          exact kept _
      | oversized => exact kept s.onPage
      | nothing => exact kept s.onPage

end Session

end TranscodeConsole.Feed
