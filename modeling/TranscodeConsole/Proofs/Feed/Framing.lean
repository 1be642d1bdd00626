import TranscodeConsole.Proofs.Feed.Reference

/-!
The framer against the reference reader. `Cut` lists what cutting a piece off the buffer can do;
`events` is what the reference reader still has to say of a feed that was read in part, and every
cut takes its own events off the front of them.
-/
namespace TranscodeConsole.Feed

open Json

variable {ρ : Type}

namespace Framing

inductive Cut (f : Framing) : Option Piece → Framing → Prop where
  | skippedLine {line rest : Bytes} (whole : lineFeed ∉ line)
      (buffer : f.buffer = line ++ lineFeed :: rest) (skips : f.discarding = true) :
      Cut f (some .nothing) { f with buffer := rest, discarding := false }
  | longLine {line rest : Bytes} (whole : lineFeed ∉ line)
      (buffer : f.buffer = line ++ lineFeed :: rest) (reads : f.discarding = false)
      (long : f.limit < line.length) : Cut f (some .oversized) { f with buffer := rest }
  | line {line rest : Bytes} (whole : lineFeed ∉ line)
      (buffer : f.buffer = line ++ lineFeed :: rest) (reads : f.discarding = false)
      (short : line.length ≤ f.limit) : Cut f (some (pieceOf line)) { f with buffer := rest }
  | skippedPart (whole : lineFeed ∉ f.buffer) (skips : f.discarding = true) :
      Cut f none { f with buffer := [] }
  | longPart (whole : lineFeed ∉ f.buffer) (reads : f.discarding = false)
      (long : f.limit < f.buffer.length) :
      Cut f (some .oversized) { f with buffer := [], discarding := true }
  | tail (whole : lineFeed ∉ f.buffer) (reads : f.discarding = false)
      (short : f.buffer.length ≤ f.limit) (ended : f.ended = true) (some_ : f.buffer ≠ []) :
      Cut f (some (pieceOf f.buffer)) { f with buffer := [] }
  | starved (whole : lineFeed ∉ f.buffer) (reads : f.discarding = false)
      (short : f.buffer.length ≤ f.limit) (nothing : f.ended = true → f.buffer = []) :
      Cut f none f

theorem buffer_cases (buffer : Bytes) :
    (lineFeed ∉ buffer ∧ buffer.takeWhile (· ≠ lineFeed) = buffer ∧
      buffer.dropWhile (· ≠ lineFeed) = []) ∨
    ∃ line rest, lineFeed ∉ line ∧ buffer = line ++ lineFeed :: rest ∧
      buffer.takeWhile (· ≠ lineFeed) = line ∧
      buffer.dropWhile (· ≠ lineFeed) = lineFeed :: rest := by
  by_cases member : lineFeed ∈ buffer
  · right
    obtain ⟨line, rest, cut, whole⟩ := List.eq_append_cons_of_mem member
    have passed : ∀ b ∈ line, (decide (b ≠ lineFeed)) = true := by
      intro b inLine
      have : b ≠ lineFeed := fun same => whole (same ▸ inLine)
      simpa using this
    refine ⟨line, rest, whole, cut, ?_, ?_⟩
    · rw [cut, List.takeWhile_append_of_pos passed]
      simp
    · rw [cut, List.dropWhile_append_of_pos passed]
      simp
  · left
    have passed : ∀ b ∈ buffer, (decide (b ≠ lineFeed)) = true := by
      intro b inBuffer
      have : b ≠ lineFeed := fun same => member (same ▸ inBuffer)
      simpa using this
    refine ⟨member, ?_, ?_⟩
    · have taken : (buffer ++ []).takeWhile (· ≠ lineFeed) =
          buffer ++ ([] : Bytes).takeWhile (· ≠ lineFeed) := List.takeWhile_append_of_pos passed
      simpa using taken
    · have dropped : (buffer ++ []).dropWhile (· ≠ lineFeed) =
          ([] : Bytes).dropWhile (· ≠ lineFeed) := List.dropWhile_append_of_pos passed
      simpa using dropped

theorem cut_take (f : Framing) : Cut f f.take.1 f.take.2 := by
  obtain ⟨limit, buffer, discarding, ended⟩ := f
  rcases buffer_cases buffer with ⟨whole, taken, dropped⟩ | ⟨line, rest, whole, cut, taken, dropped⟩
  · simp only [take, taken, dropped]
    cases discarding with
    | true => exact .skippedPart whole rfl
    | false =>
      by_cases long : limit < buffer.length
      · simpa [long] using Cut.longPart (f := ⟨limit, buffer, false, ended⟩) whole rfl long
      · have short : buffer.length ≤ limit := Nat.not_lt.mp long
        by_cases last : ended = true ∧ buffer ≠ []
        · simpa [long, last] using
            Cut.tail (f := ⟨limit, buffer, false, ended⟩) whole rfl short last.1 last.2
        · have nothing : ended = true → buffer = [] := fun isOver =>
            Classical.byContradiction fun some_ => last ⟨isOver, some_⟩
          have idle : (ended && !buffer.isEmpty) = false := by
            cases ended with
            | false => rfl
            | true => simp [nothing rfl]
          simpa [long, idle] using
            Cut.starved (f := ⟨limit, buffer, false, ended⟩) whole rfl short nothing
  · simp only [take, taken, dropped]
    cases discarding with
    | true => exact .skippedLine whole cut rfl
    | false =>
      by_cases long : limit < line.length
      · simpa [long] using Cut.longLine (f := ⟨limit, buffer, false, ended⟩) whole cut rfl long
      · simpa [long] using
          Cut.line (f := ⟨limit, buffer, false, ended⟩) whole cut rfl (Nat.not_lt.mp long)

def events (read : Reader ρ) (closing : Closing) (f : Framing) (more : Bytes) : List (Event ρ) :=
  if f.discarding then skippedEvents read f.limit closing (f.buffer ++ more)
  else feedEvents read f.limit closing (f.buffer ++ more)

end Framing

def pieceEvents (read : Reader ρ) (limit : Nat) : Option Piece → List (Event ρ)
  | some (.line line) => [recordEvent read line]
  | some .oversized => [.rejected (Session.oversized limit)]
  | some .nothing | none => []

theorem pieceEvents_pieceOf {limit : Nat} {line : Bytes} (read : Reader ρ)
    (short : line.length ≤ limit) :
    pieceEvents read limit (some (Framing.pieceOf line)) = lineEvents read limit line := by
  by_cases blank : line.all Text.isBlankByte = true
  · simp [Framing.pieceOf, lineEvents, pieceEvents, blank, Nat.not_lt.mpr short]
  · simp [Framing.pieceOf, lineEvents, pieceEvents, blank, Nat.not_lt.mpr short]

namespace Framing

theorem events_cut {f after : Framing} {piece : Option Piece} (read : Reader ρ)
    (closing : Closing) (more : Bytes) (isOver : f.ended = true → closing = .ended ∧ more = [])
    (cut : Cut f piece after) :
    f.events read closing more =
      pieceEvents read f.limit piece ++ after.events read closing more := by
  cases cut with
  | skippedLine whole buffer skips =>
    simp only [events, skips, ite_true, buffer, List.append_assoc, List.cons_append, pieceEvents,
      List.nil_append, Bool.false_eq_true, ite_false]
    rw [skippedEvents_append read f.limit closing whole, skippedEvents_lineFeed]
  | longLine whole buffer reads long =>
    simp only [events, reads, Bool.false_eq_true, ite_false, buffer, List.append_assoc,
      List.cons_append, pieceEvents, List.nil_append]
    rw [feedEvents_line read f.limit closing whole, lineEvents_long read long]
    rfl
  | line whole buffer reads short =>
    simp only [events, reads, Bool.false_eq_true, ite_false, buffer, List.append_assoc,
      List.cons_append]
    rw [feedEvents_line read f.limit closing whole, pieceEvents_pieceOf read short]
  | skippedPart whole skips =>
    simp only [events, skips, ite_true, pieceEvents, List.nil_append]
    exact skippedEvents_append read f.limit closing whole more
  | longPart whole reads long =>
    simp only [events, reads, Bool.false_eq_true, ite_false, ite_true, pieceEvents,
      List.nil_append]
    exact feedEvents_long read closing whole long more
  | tail whole reads short ended some_ =>
    obtain ⟨closed, nothing⟩ := isOver ended
    subst closed nothing
    simp only [events, reads, Bool.false_eq_true, ite_false, List.append_nil, feedEvents_nil]
    rw [feedEvents_tail read f.limit .ended whole, pieceEvents_pieceOf read short]
    simp [tailEvents]
  | starved => rfl

/-- Nothing can be cut off until more bytes come. -/
structure Starved (f : Framing) : Prop where
  whole : lineFeed ∉ f.buffer
  short : f.buffer.length ≤ f.limit
  skips : f.discarding = true → f.buffer = []
  drained : f.ended = true → f.buffer = []

theorem starved_of_take {f : Framing} (nothing : f.take.1 = none) : f.take.2.Starved := by
  have cut := cut_take f
  rw [nothing] at cut
  generalize f.take.2 = after at cut
  cases cut with
  | skippedPart whole skips => exact ⟨by simp, by simp, fun _ => rfl, fun _ => rfl⟩
  | starved whole reads short nothing =>
    exact ⟨whole, short, fun skips => by simp [reads] at skips, nothing⟩

theorem Starved.take {f : Framing} (starved : f.Starved) : f.take = (none, f) := by
  obtain ⟨whole, short, skips, drained⟩ := starved
  have cut := cut_take f
  apply Prod.ext_iff.mpr
  generalize f.take.1 = piece, f.take.2 = after at cut
  cases cut with
  | skippedLine _ buffer _ => simp [buffer] at whole
  | longLine _ buffer _ _ => simp [buffer] at whole
  | line _ buffer _ _ => simp [buffer] at whole
  | skippedPart _ discarding =>
    have empty := skips discarding
    exact ⟨rfl, by rw [← empty]⟩
  | longPart _ _ long => exact absurd long (Nat.not_lt.mpr short)
  | tail _ _ _ ended some_ => exact absurd (drained ended) some_
  | starved => exact ⟨rfl, rfl⟩

theorem Starved.events_nil {f : Framing} {closing : Closing} (starved : f.Starved)
    (read : Reader ρ) (quiet : closing = .ended → f.ended = true) :
    f.events read closing [] = [] := by
  unfold events
  split
  · rename_i skips
    simp [starved.skips skips]
  · by_cases ended : closing = .ended
    · simp [starved.drained (quiet ended)]
    · rw [List.append_nil, feedEvents_tail read f.limit closing starved.whole,
        tailEvents_short read ended starved.short]

end Framing
end TranscodeConsole.Feed
