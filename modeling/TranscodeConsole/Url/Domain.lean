import TranscodeConsole.Url.Folding
import TranscodeConsole.Url.Host
import TranscodeConsole.Url.Punycode

/-!
A way to write domain names in ASCII: letter by letter by the table, and each label that is not
ASCII then in the letters that stand for it. Names that take more than that are beyond it: letters
that become several, letters that are composed of others, and joiners.
-/
namespace TranscodeConsole.Url.Domain

def isForbidden (c : Char) : Bool :=
  c.toNat ≤ 32 || c.toNat = 127 || "#/:<>?@[\\]^|%".toList.contains c

/-- A label that starts with `xn--` has to write one that is not ASCII and needs no folding. -/
def isSoundAlias (written : List Char) : Bool :=
  match Punycode.decode written with
  | none => false
  | some label =>
    label.any (128 ≤ ·.toNat) && label.all fun c =>
      Folding.foldChar c = [c] && !Folding.isRefused c.toNat

def asciiLabel? (label : List Char) : Option (List Char) :=
  if label.take 4 = "xn--".toList then
    if isSoundAlias (label.drop 4) then some label else none
  else if label.any (128 ≤ ·.toNat) then
    if label.any fun c => Folding.isRefused c.toNat then none
    else some ("xn--".toList ++ Punycode.encode label)
  else some label

def toAscii : ToAscii := fun bytes => do
  let text ← Bytes.text? bytes
  let folded := text.toList.flatMap Folding.foldChar
  if folded.any isForbidden then none
  let labels ← (folded.splitOn '.').mapM asciiLabel?
  return (labels.intersperse ['.']).flatten

end TranscodeConsole.Url.Domain
