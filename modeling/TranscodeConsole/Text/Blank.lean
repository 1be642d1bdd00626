/-!
White space, in the two senses the console needs: the Unicode property, by which messages and
names are trimmed, and the five ASCII bytes that make a feed line blank.
-/
namespace TranscodeConsole.Text

def isBlank (c : Char) : Bool :=
  let n := c.toNat
  (0x9 ≤ n && n ≤ 0xD) || n == 0x20 || n == 0x85 || n == 0xA0 || n == 0x1680 ||
    (0x2000 ≤ n && n ≤ 0x200A) || n == 0x2028 || n == 0x2029 || n == 0x202F || n == 0x205F ||
    n == 0x3000

/-- A byte of a blank line: tab, line feed, form feed, carriage return or space. -/
def isBlankByte (b : UInt8) : Bool :=
  b == 9 || b == 10 || b == 12 || b == 13 || b == 32

def trimList (cs : List Char) : List Char :=
  ((cs.dropWhile isBlank).reverse.dropWhile isBlank).reverse

def trim (s : String) : String := String.ofList (trimList s.toList)

def nonBlank (s : String) : Option String :=
  if (trimList s.toList).isEmpty then none else some (trim s)

def lowerAscii (s : String) : String := s.map Char.toLower

end TranscodeConsole.Text
