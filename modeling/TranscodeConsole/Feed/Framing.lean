import TranscodeConsole.Text.Bytes
import TranscodeConsole.Text.Blank

/-!
Lines cut out of a feed whose bytes come in pieces. Of an over-long line nothing is kept: it is
noticed once, and the rest of it is skipped up to its line feed.
-/
namespace TranscodeConsole.Feed

structure Framing where
  limit : Nat
  buffer : Bytes := []
  /-- The rest of an over-long line is being skipped. -/
  discarding : Bool := false
  ended : Bool := false
  deriving DecidableEq, Repr

inductive Piece where
  | line (bytes : Bytes)
  | oversized
  /-- A blank line, or the rest of an over-long one. -/
  | nothing
  deriving DecidableEq, Repr

namespace Framing

def lineFeed : UInt8 := 10

def pieceOf (line : Bytes) : Piece := if line.all Text.isBlankByte then .nothing else .line line

/-- Cuts off the next piece; there is none if the line in the buffer can still grow. -/
def take (f : Framing) : Option Piece × Framing :=
  let line := f.buffer.takeWhile (· ≠ lineFeed)
  match f.buffer.dropWhile (· ≠ lineFeed) with
  | _ :: rest =>
    if f.discarding then (some .nothing, { f with buffer := rest, discarding := false })
    else if f.limit < line.length then (some .oversized, { f with buffer := rest })
    else (some (pieceOf line), { f with buffer := rest })
  | [] =>
    if f.discarding then (none, { f with buffer := [] })
    else if f.limit < line.length then
      (some .oversized, { f with buffer := [], discarding := true })
    else if f.ended && !line.isEmpty then (some (pieceOf line), { f with buffer := [] })
    else (none, f)

def receive (f : Framing) (chunk : Bytes) : Framing := { f with buffer := f.buffer ++ chunk }

def withoutReturn (line : Bytes) : Bytes :=
  if line.getLast? = some 13 then line.dropLast else line

theorem length_take {f : Framing} {piece : Piece} (h : f.take.1 = some piece) :
    f.take.2.buffer.length < f.buffer.length := by
  obtain ⟨limit, buffer, discarding, ended⟩ := f
  have sum : (buffer.takeWhile (· ≠ lineFeed)).length + (buffer.dropWhile (· ≠ lineFeed)).length
      = buffer.length := by
    rw [← List.length_append, List.takeWhile_append_dropWhile]
  simp only [take] at h ⊢
  generalize buffer.takeWhile (· ≠ lineFeed) = line at *
  generalize buffer.dropWhile (· ≠ lineFeed) = rest at *
  cases rest with
  | cons b rest =>
    simp only [List.length_cons] at sum
    cases discarding <;> simp only [Bool.false_eq_true, ite_true, ite_false]
    · split <;> simp only <;> omega
    · omega
  | nil =>
    simp only [List.length_nil, Nat.add_zero] at sum
    cases discarding <;> simp only [Bool.false_eq_true, ite_true, ite_false] at h ⊢
    · split
      · simp only [List.length_nil]; omega
      · rename_i small
        simp only [small, ite_false] at h
        split
        · rename_i last
          cases line
          · simp at last
          · simp only [List.length_nil, List.length_cons] at sum ⊢; omega
        · rename_i open_
          simp [open_] at h
    · simp at h

end Framing
end TranscodeConsole.Feed
