import TranscodeConsole.Decimal.Digits
import TranscodeConsole.Url.Escape
import TranscodeConsole.Text.Quoted

/-!
Hosts. For special schemes a host is a domain name or an address in numbers; for all others it is
text that is kept as it is. How a domain name is written in ASCII is given from outside: it takes
tables of all characters.
-/
namespace TranscodeConsole.Url

inductive ParseError where
  | emptyHost
  | domain
  | port
  | ipv4
  | ipv6
  | hostCharacter
  | noBase
  | opaqueBase
  deriving DecidableEq, Repr

def ParseError.message : ParseError → String
  | .emptyHost => "empty host"
  | .domain => "invalid international domain name"
  | .port => "invalid port number"
  | .ipv4 => "invalid IPv4 address"
  | .ipv6 => "invalid IPv6 address"
  | .hostCharacter => "invalid domain character"
  | .noBase => "relative URL without a base"
  | .opaqueBase => "relative URL with a cannot-be-a-base base"

/-- How the bytes of a domain name are written in ASCII, unless they are refused. -/
abbrev ToAscii := Bytes → Option (List Char)

inductive Host where
  | name (text : List Char)
  | ipv4 (address : Nat)
  | ipv6 (pieces : List Nat)
  deriving DecidableEq, Repr

namespace Host

/-! ### Numbers -/

/-- A number in a host: hexadecimal behind `0x`, octal behind `0`, else decimal. -/
def number? (cs : List Char) : Option Nat :=
  let (base, ds) := match cs with
    | '0' :: 'x' :: ds | '0' :: 'X' :: ds => (16, ds)
    | '0' :: d :: ds => (8, d :: ds)
    | ds => (10, ds)
  if cs.isEmpty then none
  else ds.foldlM (fun n c => do
    let d ← hexValue? c
    if d < base then some (n * base + d) else none) 0

def endsInNumber (cs : List Char) : Bool :=
  let labels := (cs.splitOn '.').reverse
  let last := match labels with
    | [] :: label :: _ => label
    | label :: _ => label
    | [] => []
  (!last.isEmpty && last.all Char.isDigit) || (number? last).isSome

def ipv4? (cs : List Char) : Option Nat := do
  let labels := cs.splitOn '.'
  let labels := if labels.getLast? = some [] then labels.dropLast else labels
  if 4 < labels.length then none
  let numbers ← labels.mapM number?
  let last ← numbers.getLast?
  let front := numbers.dropLast
  if front.any (255 < ·) then none
  if Nat.pow 256 (4 - front.length) ≤ last then none
  return front.zipIdx.foldl (fun sum (n, i) => sum + n * Nat.pow 256 (3 - i)) last

def piece? (cs : List Char) : Option Nat :=
  if cs.isEmpty || 4 < cs.length then none
  else cs.foldlM (fun n c => (hexValue? c).map (n * 16 + ·)) 0

def byte? (cs : List Char) : Option Nat :=
  if cs.isEmpty || !cs.all Char.isDigit || (cs.head? = some '0' && 1 < cs.length) then none
  else
    let n := cs.foldl (fun n c => n * 10 + (c.toNat - 48)) 0
    if n < 256 then some n else none

/-- The pieces of one side of a gap; the last two may be written as four bytes. -/
def pieces? (cs : List Char) : Option (List Nat) :=
  if cs.isEmpty then some []
  else do
    let parts := cs.splitOn ':'
    let front ← parts.dropLast.mapM piece?
    let last ← parts.getLast?
    if last.contains '.' then
      match ← (last.splitOn '.').mapM byte? with
      | [a, b, c, d] => return front ++ [a * 256 + b, c * 256 + d]
      | _ => none
    else return front ++ [← piece? last]

def gap? : List Char → Option (List Char × List Char)
  | ':' :: ':' :: rest => some ([], rest)
  | c :: rest => (gap? rest).map fun (front, back) => (c :: front, back)
  | [] => none

def ipv6? (cs : List Char) : Option (List Nat) :=
  match gap? cs with
  | none => do
    let pieces ← pieces? cs
    if pieces.length = 8 then some pieces else none
  | some (front, back) => do
    if front.contains '.' then none
    let front ← pieces? front
    let back ← pieces? back
    if 7 < front.length + back.length then none
    return front ++ List.replicate (8 - front.length - back.length) 0 ++ back

def zerosAhead (pieces : List Nat) : Nat := (pieces.takeWhile (· = 0)).length

/-- Where the longest run of at least two zeros starts, and its length. -/
def longestGap (pieces : List Nat) : Option (Nat × Nat) :=
  let runs := (List.range pieces.length).map fun i => (i, zerosAhead (pieces.drop i))
  runs.foldl (fun best run =>
    if run.2 < 2 then best
    else match best with
      | some (_, n) => if n < run.2 then some run else best
      | none => some run) none

def joinPieces (pieces : List Nat) : List Char :=
  (pieces.map Text.hexDigits).intersperse [':'] |>.flatten

def writeIpv6 (pieces : List Nat) : List Char :=
  match longestGap pieces with
  | none => joinPieces pieces
  | some (start, n) =>
    joinPieces (pieces.take start) ++ [':', ':'] ++ joinPieces (pieces.drop (start + n))

def writeIpv4 (address : Nat) : List Char :=
  ([3, 2, 1, 0].map fun i => (toString (address / Nat.pow 256 i % 256)).toList).intersperse ['.']
    |>.flatten

def write : Host → List Char
  | .name text => text
  | .ipv4 address => writeIpv4 address
  | .ipv6 pieces => '[' :: writeIpv6 pieces ++ [']']

/-! ### Reading -/

def bracketed (cs : List Char) : Except ParseError Host :=
  match cs.getLast?, ipv6? cs.dropLast.tail with
  | some ']', some pieces => .ok (.ipv6 pieces)
  | _, _ => .error .ipv6

def parse (toAscii : ToAscii) (cs : List Char) : Except ParseError Host :=
  if cs.head? = some '[' then bracketed cs
  else match toAscii (unescape cs) with
    | none => .error .domain
    | some [] => .error .emptyHost
    | some domain =>
      if endsInNumber domain then
        match ipv4? domain with
        | some address => .ok (.ipv4 address)
        | none => .error .ipv4
      else .ok (.name domain)

def parsePlain (cs : List Char) : Except ParseError Host :=
  if cs.head? = some '[' then bracketed cs
  else if cs.any ("\x00\t\n\r #/:<>?@[\\]^|".toList.contains ·) then .error .hostCharacter
  else .ok (.name (escape .plain cs))

end Host
end TranscodeConsole.Url
