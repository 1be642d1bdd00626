import TranscodeConsole.Url.Basic

/-!
Names and values in a query: `name=value` with `&` between two pairs. Letters, digits and four
marks stand for themselves, a plus sign for a space, and escapes for everything else.
-/
namespace TranscodeConsole.Url.Query

def isPlain (b : UInt8) : Bool :=
  (48 ≤ b && b ≤ 57) || (65 ≤ b && b ≤ 90) || (97 ≤ b && b ≤ 122) ||
    b = 42 || b = 45 || b = 46 || b = 95

def encodeByte (b : UInt8) : List Char :=
  if isPlain b then [Char.ofNat b.toNat]
  else if b = 32 then ['+']
  else escapeByte b

def encodeText (s : String) : List Char := (Bytes.ofText s).flatMap encodeByte

def encodePair (pair : String × String) : List Char :=
  encodeText pair.1 ++ '=' :: encodeText pair.2

def encode (pairs : List (String × String)) : List Char :=
  ((pairs.map encodePair).intersperse ['&']).flatten

def decodeText (cs : List Char) : String :=
  let bytes := unescape (cs.map fun c => if c = '+' then ' ' else c)
  (Bytes.text? bytes).getD (Bytes.lenientText bytes)

def decodePair (cs : List Char) : String × String :=
  (decodeText (cs.takeWhile (· ≠ '=')), decodeText ((cs.dropWhile (· ≠ '=')).drop 1))

def decode (cs : List Char) : List (String × String) :=
  ((cs.splitOn '&').filter (!·.isEmpty)).map decodePair

def append (query : Option (List Char)) (pairs : List (String × String)) : Option (List Char) :=
  match pairs, query with
  | [], query => query
  | pairs, some (c :: cs) => some ((c :: cs) ++ '&' :: encode pairs)
  | pairs, _ => some (encode pairs)

end TranscodeConsole.Url.Query
