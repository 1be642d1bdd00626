/-!
Text as bytes. Reading is strict (`text?`) where a message has to be exact, and lenient
(`lenientText`) where the body of an answer is only shown: there each longest beginning of a
character that cannot be completed becomes one replacement character.
-/
namespace TranscodeConsole

abbrev Bytes := List UInt8

namespace Bytes

def ofText (s : String) : Bytes := s.toUTF8.data.toList

def text? (bytes : Bytes) : Option String := String.fromUTF8? ⟨bytes.toArray⟩

def ascii (s : String) : Bytes := s.toList.map fun c => c.toNat.toUInt8

/-- How many further bytes a character that starts with `lead` takes, and the range of the
first of them. -/
private def continuation (lead : UInt8) : Option (Nat × UInt8 × UInt8) :=
  if 0xC2 ≤ lead && lead ≤ 0xDF then some (1, 0x80, 0xBF)
  else if lead == 0xE0 then some (2, 0xA0, 0xBF)
  else if lead == 0xED then some (2, 0x80, 0x9F)
  else if 0xE1 ≤ lead && lead ≤ 0xEF then some (2, 0x80, 0xBF)
  else if lead == 0xF0 then some (3, 0x90, 0xBF)
  else if lead == 0xF4 then some (3, 0x80, 0x8F)
  else if 0xF1 ≤ lead && lead ≤ 0xF3 then some (3, 0x80, 0xBF)
  else none

private structure Partial where
  missing : Nat
  low : UInt8
  high : UInt8
  code : Nat

private def replacement : Char := '\ufffd'

private def start (b : UInt8) : List Char × Option Partial :=
  if b < 0x80 then ([Char.ofNat b.toNat], none)
  else match continuation b with
    | none => ([replacement], none)
    | some (n, low, high) =>
      let bits := if n == 1 then b.toNat % 32 else if n == 2 then b.toNat % 16 else b.toNat % 8
      ([], some ⟨n, low, high, bits⟩)

private def lenientStep (seen : List Char × Option Partial) (b : UInt8) :
    List Char × Option Partial :=
  match seen with
  | (out, none) => let (more, next) := start b; (more ++ out, next)
  | (out, some p) =>
    if p.low ≤ b && b ≤ p.high then
      let code := p.code * 64 + b.toNat % 64
      if p.missing == 1 then (Char.ofNat code :: out, none)
      else (out, some ⟨p.missing - 1, 0x80, 0xBF, code⟩)
    else
      let (more, next) := start b
      (more ++ replacement :: out, next)

def lenientText (bytes : Bytes) : String :=
  match bytes.foldl lenientStep ([], none) with
  | (out, none) => String.ofList out.reverse
  | (out, some _) => String.ofList (replacement :: out).reverse

end Bytes
end TranscodeConsole
