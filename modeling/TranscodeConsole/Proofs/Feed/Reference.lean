import TranscodeConsole.Feed.Session

/-!
What a feed says, told from its uncut bytes: they are split at the line feeds, and every line is
looked at by itself. Nothing here knows of chunks, buffers or the order in which bytes arrive.
-/
namespace TranscodeConsole.Feed

open Json

inductive Event (ρ : Type) where
  | record (r : ρ)
  | rejected (error : ServiceError)
  deriving DecidableEq, Repr

inductive Closing where
  | ended
  | failed (error : ServiceError)
  | never
  deriving DecidableEq, Repr

namespace Body

def content : List BodyItem → Bytes
  | .chunk bytes :: rest => bytes ++ content rest
  | .pause _ :: rest => content rest
  | [] | .failure _ :: _ | .silence :: _ => []

def closing : List BodyItem → Closing
  | .chunk _ :: rest | .pause _ :: rest => closing rest
  | [] => .ended
  | .failure error :: _ => .failed error
  | .silence :: _ => .never

end Body

variable {ρ : Type}

def recordEvent (read : Reader ρ) (line : Bytes) : Event ρ :=
  match readDocument read (if line.getLast? = some 13 then line.dropLast else line) with
  | .ok record => .record record
  | .error problem => .rejected (.malformedRecord problem.message)

def lineEvents (read : Reader ρ) (limit : Nat) (line : Bytes) : List (Event ρ) :=
  if limit < line.length then [.rejected (Session.oversized limit)]
  else if line.all Text.isBlankByte then []
  else [recordEvent read line]

/-- Of what stands behind the last line feed. It is a line only if the body ended. -/
def tailEvents (read : Reader ρ) (limit : Nat) (closing : Closing) (tail : Bytes) :
    List (Event ρ) :=
  if closing = .ended then lineEvents read limit tail
  else if limit < tail.length then [.rejected (Session.oversized limit)]
  else []

/-- The reference reader. -/
def feedEvents (read : Reader ρ) (limit : Nat) (closing : Closing) (bytes : Bytes) :
    List (Event ρ) :=
  let parts := bytes.splitOn Framing.lineFeed
  parts.dropLast.flatMap (lineEvents read limit) ++
    tailEvents read limit closing (parts.getLastD [])

theorem lineEvents_long {limit : Nat} {line : Bytes} (read : Reader ρ)
    (long : limit < line.length) :
    lineEvents read limit line = [.rejected (Session.oversized limit)] := by
  simp [lineEvents, long]

theorem tailEvents_long {limit : Nat} {tail : Bytes} (read : Reader ρ) (closing : Closing)
    (long : limit < tail.length) :
    tailEvents read limit closing tail = [.rejected (Session.oversized limit)] := by
  simp [tailEvents, lineEvents_long read long, long]

theorem tailEvents_short {limit : Nat} {closing : Closing} {tail : Bytes} (read : Reader ρ)
    (open_ : closing ≠ .ended) (short : tail.length ≤ limit) :
    tailEvents read limit closing tail = [] := by
  simp [tailEvents, open_, Nat.not_lt.mpr short]

theorem feedEvents_line {line : Bytes} (read : Reader ρ) (limit : Nat) (closing : Closing)
    (whole : Framing.lineFeed ∉ line) (rest : Bytes) :
    feedEvents read limit closing (line ++ Framing.lineFeed :: rest) =
      lineEvents read limit line ++ feedEvents read limit closing rest := by
  have split : (line ++ Framing.lineFeed :: rest).splitOn Framing.lineFeed =
      line :: rest.splitOn Framing.lineFeed := by
    rw [List.splitOn_eq_splitOnP, List.splitOn_eq_splitOnP]
    refine List.splitOnP_append_cons_of_forall_mem ?_ _ (by simp) rest
    intro b member
    have : b ≠ Framing.lineFeed := fun same => whole (same ▸ member)
    simpa using this
  obtain ⟨first, others, parts⟩ := List.exists_cons_of_ne_nil
    (List.splitOn_ne_nil Framing.lineFeed rest)
  simp only [feedEvents, split, parts, List.dropLast_cons_cons, List.flatMap_cons, List.append_assoc,
    List.getLastD_cons]

theorem feedEvents_tail {tail : Bytes} (read : Reader ρ) (limit : Nat) (closing : Closing)
    (whole : Framing.lineFeed ∉ tail) :
    feedEvents read limit closing tail = tailEvents read limit closing tail := by
  have split : tail.splitOn Framing.lineFeed = [tail] := by
    rw [List.splitOn_eq_splitOnP]
    apply List.splitOnP_eq_singleton
    intro b member
    have : b ≠ Framing.lineFeed := fun same => whole (same ▸ member)
    simpa using this
  simp [feedEvents, split]

@[simp] theorem feedEvents_nil (read : Reader ρ) (limit : Nat) (closing : Closing) :
    feedEvents read limit closing [] = [] := by
  rw [feedEvents_tail read limit closing (by simp)]
  simp [tailEvents, lineEvents]

def skippedEvents (read : Reader ρ) (limit : Nat) (closing : Closing) (bytes : Bytes) :
    List (Event ρ) :=
  feedEvents read limit closing (bytes.dropWhile (· ≠ Framing.lineFeed)).tail

theorem skippedEvents_append {part : Bytes} (read : Reader ρ) (limit : Nat) (closing : Closing)
    (whole : Framing.lineFeed ∉ part) (more : Bytes) :
    skippedEvents read limit closing (part ++ more) = skippedEvents read limit closing more := by
  have passed : ∀ b ∈ part, (decide (b ≠ Framing.lineFeed)) = true := by
    intro b member
    have : b ≠ Framing.lineFeed := fun same => whole (same ▸ member)
    simpa using this
  rw [skippedEvents, List.dropWhile_append_of_pos passed, skippedEvents]

@[simp] theorem skippedEvents_lineFeed (read : Reader ρ) (limit : Nat) (closing : Closing)
    (rest : Bytes) :
    skippedEvents read limit closing (Framing.lineFeed :: rest) =
      feedEvents read limit closing rest := by
  simp [skippedEvents]

@[simp] theorem skippedEvents_nil (read : Reader ρ) (limit : Nat) (closing : Closing) :
    skippedEvents read limit closing [] = [] := by
  simp [skippedEvents]

theorem feedEvents_long {part : Bytes} {limit : Nat} (read : Reader ρ) (closing : Closing)
    (whole : Framing.lineFeed ∉ part) (long : limit < part.length) (more : Bytes) :
    feedEvents read limit closing (part ++ more) =
      .rejected (Session.oversized limit) :: skippedEvents read limit closing more := by
  by_cases member : Framing.lineFeed ∈ more
  · obtain ⟨line, rest, cut, before⟩ := List.eq_append_cons_of_mem member
    have wholeLine : Framing.lineFeed ∉ part ++ line := by simp [whole, before]
    have longLine : limit < (part ++ line).length := by simp only [List.length_append]; omega
    subst more
    rw [← List.append_assoc, feedEvents_line read limit closing wholeLine,
      lineEvents_long read longLine, skippedEvents_append read limit closing before,
      skippedEvents_lineFeed]
    rfl
  · have wholeTail : Framing.lineFeed ∉ part ++ more := by simp [whole, member]
    have longTail : limit < (part ++ more).length := by simp only [List.length_append]; omega
    have skipped := skippedEvents_append read limit closing member []
    rw [feedEvents_tail read limit closing wholeTail, tailEvents_long read closing longTail]
    simp only [List.append_nil, skippedEvents_nil] at skipped
    rw [skipped]

end TranscodeConsole.Feed
