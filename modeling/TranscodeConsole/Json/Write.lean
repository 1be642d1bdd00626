import TranscodeConsole.Json.Tree

/-!
Writing trees: without spaces, in the order of the tree.
-/
namespace TranscodeConsole.Json

namespace Tree

def text (s : String) : Tree := .string (.ofText s)

def int (n : Int) : Tree := .number (.ofInt n)

def option {α : Type} (write : α → Tree) : Option α → Tree
  | none => .null
  | some x => write x

def list {α : Type} (write : α → Tree) (xs : List α) : Tree := .array (xs.map write) .closed

def record (members : List (String × Tree)) : Tree :=
  .object (members.map fun (name, t) => (.ofText name, t)) .closed

def writeNumeral (n : Numeral) : Bytes :=
  (if n.negative then [45] else []) ++ n.whole ++
    (match n.fraction with
      | none => []
      | some ds => 46 :: ds) ++
    (match n.exponent with
      | none => []
      | some (minus, ds) => 101 :: (if minus then [45] else []) ++ ds)

def writeLiteral (s : Literal) : Bytes := 34 :: s.body ++ [34]

mutual
def write : Tree → Bytes
  | .null => Bytes.ascii "null"
  | .bool true => Bytes.ascii "true"
  | .bool false => Bytes.ascii "false"
  | .number n => writeNumeral n
  | .string s => writeLiteral s
  | .array items _ => 91 :: writeItems items ++ [93]
  | .object members _ => 123 :: writeMembers members ++ [125]
  | .gap _ => []

def writeItems : List Tree → Bytes
  | [] => []
  | [t] => t.write
  | t :: ts => t.write ++ 44 :: writeItems ts

def writeMembers : List (Literal × Tree) → Bytes
  | [] => []
  | [(key, t)] => writeLiteral key ++ 58 :: t.write
  | (key, t) :: rest => writeLiteral key ++ 58 :: t.write ++ 44 :: writeMembers rest
end

end Tree
end TranscodeConsole.Json
