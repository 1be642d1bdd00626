import TranscodeConsole.Json.Token

/-!
The shape of a document up to the first place where it breaks. A break is part of the tree, so a
reader of the tree meets it exactly where a reader of the bytes would; whatever lies before it can
be read, or be found to have the wrong type, first.
-/
namespace TranscodeConsole.Json

inductive Gap where
  | missing
  | unexpected
  | brokenWord (cutOff : Bool)
  | noColon (cutOff : Bool)
  deriving DecidableEq, Repr

inductive Stop where
  | closed
  | cutOff
  | noComma
  | commaClosed
  | commaCutOff
  | noKey
  deriving DecidableEq, Repr

inductive Tree where
  | null
  | bool (b : Bool)
  | number (n : Numeral)
  | string (s : Literal)
  | array (items : List Tree) (stop : Stop)
  | object (members : List (Literal × Tree)) (stop : Stop)
  | gap (g : Gap)
  deriving Repr, Inhabited

namespace Tree

/-- An array or object that is still open, its parts last first. -/
inductive Frame where
  | array (items : List Tree)
  | object (members : List (Literal × Tree))
  | member (members : List (Literal × Tree)) (key : Literal)

inductive Place where
  | value
  | first
  | next
  | another
  | colon
  deriving DecidableEq

inductive Progress where
  | reading (frames : List Frame) (place : Place)
  /-- The document's value is complete; `trailing` tells that more follows it. -/
  | complete (t : Tree) (trailing : Bool)
  /-- The document is broken, and nothing behind the break matters. -/
  | broken (t : Tree)

def Frame.finish (stop : Stop) : Frame → Tree
  | .array items => .array items.reverse stop
  | .object members => .object members.reverse stop
  | .member members key => .object ((key, .gap .missing) :: members).reverse stop

def Frame.put (t : Tree) : Frame → Frame
  | .array items => .array (t :: items)
  | .object members => .object members
  | .member members key => .object ((key, t) :: members)

/-- Closes every open frame around a broken value. -/
def wrap (t : Tree) : List Frame → Tree
  | [] => t
  | f :: fs => wrap ((f.put t).finish .closed) fs

def Progress.behind (t : Tree) : List Frame → Progress
  | [] => .complete t false
  | f :: fs => .reading (f.put t :: fs) .next

def Progress.value (frames : List Frame) : Token → Progress
  | .openArray => .reading (.array [] :: frames) .first
  | .openObject => .reading (.object [] :: frames) .first
  | .word .null => .behind .null frames
  | .word .true => .behind (.bool true) frames
  | .word .false => .behind (.bool false) frames
  | .brokenWord cutOff => .broken (wrap (.gap (.brokenWord cutOff)) frames)
  | .numeral n =>
    if n.ending = .whole then .behind (.number n) frames else .broken (wrap (.number n) frames)
  | .literal s =>
    if s.ending = .closed then .behind (.string s) frames else .broken (wrap (.string s) frames)
  | .closeArray | .closeObject | .comma | .colon | .stray =>
    .broken (wrap (.gap .unexpected) frames)

def Progress.stopped (stop : Stop) : List Frame → Progress
  | [] => .broken (.gap .missing)
  | f :: fs =>
    if stop = .closed then .behind (f.finish .closed) fs else .broken (wrap (f.finish stop) fs)

def Progress.key (members : List (Literal × Tree)) (frames : List Frame) : Token → Progress
  | .literal s =>
    if s.ending = .closed then .reading (.member members s :: frames) .colon
    else .broken (wrap (.object ((s, .gap .missing) :: members).reverse .closed) frames)
  | _ => .stopped .noKey (.object members :: frames)

def Progress.step : Progress → Token → Progress
  | .complete t _, _ => .complete t true
  | .broken t, _ => .broken t
  | .reading frames .value, token => .value frames token
  | .reading frames .colon, token =>
    if token = .colon then .reading frames .value
    else .broken (wrap (.gap (.noColon false)) frames)
  | .reading (.array items :: frames) .first, token =>
    if token = .closeArray then .stopped .closed (.array items :: frames)
    else .value (.array items :: frames) token
  | .reading (.array items :: frames) .next, token =>
    if token = .closeArray then .stopped .closed (.array items :: frames)
    else if token = .comma then .reading (.array items :: frames) .another
    else .stopped .noComma (.array items :: frames)
  | .reading (.array items :: frames) .another, token =>
    if token = .closeArray then .stopped .commaClosed (.array items :: frames)
    else .value (.array items :: frames) token
  | .reading (.object members :: frames) .first, token =>
    if token = .closeObject then .stopped .closed (.object members :: frames)
    else .key members frames token
  | .reading (.object members :: frames) .next, token =>
    if token = .closeObject then .stopped .closed (.object members :: frames)
    else if token = .comma then .reading (.object members :: frames) .another
    else .stopped .noComma (.object members :: frames)
  | .reading (.object members :: frames) .another, token =>
    if token = .closeObject then .stopped .commaClosed (.object members :: frames)
    else .key members frames token
  | .reading frames _, _ => .broken (wrap (.gap .unexpected) frames)

def Progress.finish : Progress → Tree × Bool
  | .complete t trailing => (t, trailing)
  | .broken t => (t, false)
  | .reading frames .value => (wrap (.gap .missing) frames, false)
  | .reading frames .colon => (wrap (.gap (.noColon true)) frames, false)
  | .reading (f :: frames) .another => (wrap (f.finish .commaCutOff) frames, false)
  | .reading (f :: frames) _ => (wrap (f.finish .cutOff) frames, false)
  | .reading [] _ => (.gap .missing, false)

def ofTokens (tokens : List Token) : Tree × Bool :=
  (tokens.foldl Progress.step (.reading [] .value)).finish

def parse (s : Bytes) : Tree × Bool := ofTokens (Token.cut s)

end Tree
end TranscodeConsole.Json
