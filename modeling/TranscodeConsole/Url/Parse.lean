import TranscodeConsole.Url.Basic

/-!
Reading addresses, also relative to a base. White space around the text and line breaks in it do
not count.
-/
namespace TranscodeConsole.Url

/-! ### Paths -/

def isDriveLetter (segment : List Char) : Bool :=
  match segment with
  | [c, d] => c.isAlpha && (d = ':' || d = '|')
  | _ => false

def isPlainDriveLetter (segment : List Char) : Bool :=
  match segment with
  | [c, ':'] => c.isAlpha
  | _ => false

def pointsOf (segment : List Char) : Option Nat :=
  match String.ofList (segment.map Char.toLower) with
  | "." | "%2e" => some 1
  | ".." | ".%2e" | "%2e." | "%2e%2e" => some 2
  | _ => none

/-- The path without its last segment; the drive letter of a file stays. -/
def shorten (kind : Kind) (segments : List (List Char)) : List (List Char) :=
  match kind, segments with
  | .file, [letter] => if isPlainDriveLetter letter then [letter] else []
  | _, segments => segments.dropLast

def addSegment (kind : Kind) (segments : List (List Char)) (segment : List Char) (more : Bool) :
    List (List Char) :=
  match pointsOf segment with
  | some 2 =>
    let segments := shorten kind segments
    if more then segments else segments ++ [[]]
  | some _ => if more then segments else segments ++ [[]]
  | none =>
    if kind = .file && segments.isEmpty && isDriveLetter segment then
      segments ++ [segment.take 1 ++ [':']]
    else if kind = .file && segments.isEmpty && segment.isEmpty && more then segments
    else segments ++ [segment]

def endsPath (c : Char) : Bool := c = '?' || c = '#'

def isSlash (kind : Kind) (c : Char) : Bool := c = '/' || (c = '\\' && kind.isSpecial)

/-- Reads segments behind a slash; `segment` holds the current one, last character first. -/
def readSegments (kind : Kind) (segments : List (List Char)) (segment : List Char) :
    List Char → List (List Char)
  | [] => addSegment kind segments segment.reverse false
  | c :: rest =>
    if isSlash kind c then readSegments kind (addSegment kind segments segment.reverse true) [] rest
    else readSegments kind segments ((escapeChar .path c).reverse ++ segment) rest

def readPath (kind : Kind) (segments : List (List Char)) (cs : List Char) : List (List Char) :=
  readSegments kind segments [] cs

def readAbsolute (kind : Kind) (cs : List Char) : List (List Char) :=
  match cs with
  | [] => if kind.isSpecial then [[]] else []
  | c :: rest => if isSlash kind c then readPath kind [] rest else readPath kind [] (c :: rest)

def splitTail (cs : List Char) : List Char × List Char :=
  (cs.takeWhile (!endsPath ·), cs.dropWhile (!endsPath ·))

def withTail (u : Url) (tail : List Char) : Url :=
  let place := if u.kind.isSpecial then Place.specialQuery else Place.query
  match tail with
  | '?' :: rest =>
    let query := escape place (rest.takeWhile (· ≠ '#'))
    match rest.dropWhile (· ≠ '#') with
    | _ :: fragment => { u with query := some query, fragment := some (escape .fragment fragment) }
    | [] => { u with query := some query, fragment := none }
  | '#' :: fragment => { u with query := none, fragment := some (escape .fragment fragment) }
  | _ => { u with query := none, fragment := none }

/-! ### Hosts -/

def authority (kind : Kind) (cs : List Char) : List Char × List Char :=
  let stops (c : Char) : Bool := isSlash kind c || endsPath c
  (cs.takeWhile (!stops ·), cs.dropWhile (!stops ·))

def credentials (cs : List Char) : Option (List Char × List Char) :=
  if cs.contains '@' then
    let host := (cs.reverse.takeWhile (· ≠ '@')).reverse
    some (cs.take (cs.length - host.length - 1), host)
  else none

def splitPort (inBrackets : Bool) : List Char → List Char × List Char
  | [] => ([], [])
  | c :: rest =>
    if c = ':' && !inBrackets then ([], c :: rest)
    else
      let inBrackets := if c = '[' then true else if c = ']' then false else inBrackets
      let (host, port) := splitPort inBrackets rest
      (c :: host, port)

def readPort (scheme cs : List Char) : Except ParseError (Option Nat) :=
  if !cs.all Char.isDigit then .error .port
  else if cs.isEmpty then .ok none
  else
    let n := cs.foldl (fun n c => n * 10 + (c.toNat - 48)) 0
    if 65536 ≤ n then .error .port
    else if defaultPort scheme = some n then .ok none
    else .ok (some n)

def readHost (toAscii : ToAscii) (scheme cs : List Char) : Except ParseError Url := do
  let kind := Kind.ofScheme scheme
  let (front, rest) := authority kind cs
  let (user, password, hostText) := match credentials front with
    | some (who, host) =>
      (who.takeWhile (· ≠ ':'), (who.dropWhile (· ≠ ':')).drop 1, host)
    | none => ([], [], front)
  let (name, port) := splitPort false hostText
  if name.isEmpty && (kind.isSpecial || !port.isEmpty || front.contains '@') then
    throw .emptyHost
  let host ← if kind.isSpecial then Host.parse toAscii name else Host.parsePlain name
  -- a backslash ends the port of every scheme
  let digits := (port.drop 1).takeWhile (· ≠ '\\')
  let port ← readPort scheme digits
  let (path, tail) := splitTail ((hostText.drop (name.length + 1 + digits.length)) ++ rest)
  return withTail {
    scheme
    user := escape .credentials user
    password := escape .credentials password
    host := some host
    port
    path := .segments (readAbsolute kind path) } tail

def fileHost (toAscii : ToAscii) (cs : List Char) : Except ParseError (Option Host) :=
  if cs.isEmpty then .ok none
  else do
    let host ← Host.parse toAscii cs
    return if host = .name "localhost".toList then none else some host

def startsWithDrive (cs : List Char) : Bool :=
  isDriveLetter (cs.take 2) && match cs.drop 2 with
    | [] => true
    | c :: _ => c = '/' || c = '\\' || endsPath c

def readFileHost (toAscii : ToAscii) (cs : List Char) : Except ParseError Url := do
  let (front, rest) := authority .file cs
  let (front, rest) := if isDriveLetter front then ([], front ++ rest) else (front, rest)
  let host ← fileHost toAscii front
  let (path, tail) := splitTail rest
  let segments := readAbsolute .file path
  let host := if (segments.head?.map isPlainDriveLetter).getD false then none else host
  return withTail { scheme := "file".toList, host, path := .segments segments } tail

/-! ### Relative addresses -/

def segmentsOf : Path → List (List Char)
  | .plain _ => []
  | .segments parts => parts

def readFile (toAscii : ToAscii) (base : Option Url) (cs : List Char) : Except ParseError Url :=
  let (path, tail) := splitTail cs
  let plain (segments : List (List Char)) (host : Option Host) : Url :=
    withTail { scheme := "file".toList, host, path := .segments segments } tail
  match path, base with
  | c :: d :: _, base =>
    if isSlash .file c && isSlash .file d then readFileHost toAscii (cs.drop 2)
    else if isSlash .file c then
      match base with
      | some b =>
        let drive := (segmentsOf b.path).head?.filter isPlainDriveLetter
        if startsWithDrive (path.drop 1) then .ok (plain (readPath .file [] (path.drop 1)) none)
        else match drive with
          | some letter => .ok (plain (readPath .file [letter] (path.drop 1)) none)
          | none => .ok (plain (readPath .file [] (path.drop 1)) b.host)
      | none => .ok (plain (readPath .file [] (path.drop 1)) none)
    else match base with
      | some b =>
        if startsWithDrive path then .ok (plain (readPath .file [] path) none)
        else .ok (plain (readPath .file (shorten .file (segmentsOf b.path)) path) b.host)
      | none => .ok (plain (readPath .file [] path) none)
  | [c], some b =>
    if isSlash .file c then .ok (plain [[]] b.host)
    else .ok (plain (readPath .file (shorten .file (segmentsOf b.path)) path) b.host)
  | [c], none => .ok (plain (readPath .file [] (if isSlash .file c then [] else [c])) none)
  | [], some b =>
    match tail with
    | '?' :: _ => .ok (withTail b tail)
    | '#' :: _ => .ok { withTail b tail with query := b.query }
    | _ => .ok { b with fragment := none }
  | [], none => .ok (plain [[]] none)

def slashesAhead (cs : List Char) : Nat := (cs.takeWhile fun c => c = '/' || c = '\\').length

def readRelative (toAscii : ToAscii) (base : Url) (cs : List Char) : Except ParseError Url :=
  let (path, tail) := splitTail cs
  match path with
  | [] =>
    match tail with
    | '?' :: _ => .ok (withTail base tail)
    | '#' :: _ => .ok { withTail base tail with query := base.query }
    | _ => .ok { base with fragment := none }
  | c :: rest =>
    if c = '/' || c = '\\' then
      let slashes := slashesAhead cs
      if 2 ≤ slashes then
        readHost toAscii base.scheme
          (cs.drop (if cs.take 2 = "//".toList then 2 else slashes))
      else .ok (withTail { base with path := .segments (readPath base.kind [] rest) } tail)
    else
      let front := (segmentsOf base.path).dropLast
      .ok (withTail { base with path := .segments (readPath base.kind front path) } tail)

/-! ### Schemes -/

def isSchemeChar (c : Char) : Bool := c.isAlphanum || c = '+' || c = '-' || c = '.'

def splitScheme (cs : List Char) : Option (List Char × List Char) :=
  let scheme := cs.takeWhile isSchemeChar
  match scheme.head?, cs.dropWhile isSchemeChar with
  | some c, ':' :: rest => if c.isAlpha then some (scheme.map Char.toLower, rest) else none
  | _, _ => none

def readOther (toAscii : ToAscii) (scheme cs : List Char) : Except ParseError Url :=
  if cs.take 2 = "//".toList then readHost toAscii scheme (cs.drop 2)
  else
    let (path, tail) := splitTail cs
    match path with
    | '/' :: rest => .ok (withTail { scheme, path := .segments (readPath .other [] rest) } tail)
    | _ => .ok (withTail { scheme, path := .plain (escape .plain path) } tail)

def readAbsoluteUrl (toAscii : ToAscii) (base : Option Url) (scheme cs : List Char) :
    Except ParseError Url :=
  match Kind.ofScheme scheme with
  | .file => readFile toAscii (base.filter (·.scheme = scheme)) cs
  | .special =>
    let slashes := slashesAhead cs
    match base.filter (·.scheme = scheme) with
    | some b =>
      if slashes < 2 then readRelative toAscii b cs
      else readHost toAscii scheme (cs.drop slashes)
    | none => readHost toAscii scheme (cs.drop slashes)
  | .other => readOther toAscii scheme cs

def significant (cs : List Char) : List Char :=
  let isEdge (c : Char) : Bool := c.toNat ≤ 32
  (((cs.dropWhile isEdge).reverse.dropWhile isEdge).reverse).filter fun c =>
    c ≠ '\t' ∧ c ≠ '\n' ∧ c ≠ '\r'

def parseFrom (toAscii : ToAscii) (base : Option Url) (text : List Char) : Except ParseError Url :=
  let cs := significant text
  match splitScheme cs with
  | some (scheme, rest) => readAbsoluteUrl toAscii base scheme rest
  | none =>
    match base with
    | none => .error .noBase
    | some b =>
      match cs, b.path with
      | '#' :: _, _ => .ok { withTail b cs with query := b.query }
      | _, .plain _ => .error .opaqueBase
      | _, .segments _ =>
        if b.kind = .file then readFile toAscii base cs else readRelative toAscii b cs

def parse (toAscii : ToAscii) (text : String) : Except ParseError Url :=
  parseFrom toAscii none text.toList

def join (toAscii : ToAscii) (u : Url) (text : String) : Except ParseError Url :=
  parseFrom toAscii (some u) text.toList

end TranscodeConsole.Url
