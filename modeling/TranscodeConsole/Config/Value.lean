import TranscodeConsole.Config.Scan

/-!
Values of settings that the console does not know. They are passed over, and have to be well formed
all the same: texts, numbers, lists, maps, and records with or without names.
-/
namespace TranscodeConsole.Config

/-! ### Numbers of any kind -/

def isFloatChar (c : Char) : Bool := c.isDigit || ['_', 'e', 'E', '.', '+', '-'].contains c

def isSign (c : Char) : Bool := c = '+' || c = '-'

def withoutSign (cs : List Char) : List Char :=
  match cs with
  | c :: rest => if isSign c then rest else cs
  | [] => []

def gapsAreInside : Bool → List Char → Bool
  | inside, '_' :: rest => inside && gapsAreInside inside rest
  | inside, c :: rest =>
    gapsAreInside (if c = '.' then false else if isSign c then inside else true) rest
  | _, [] => true

def isExponent (cs : List Char) : Bool :=
  match cs with
  | [] => true
  | c :: rest =>
    let digits := withoutSign rest
    (c = 'e' || c = 'E') && !digits.isEmpty && digits.all Char.isDigit

def isDecimal (cs : List Char) : Bool :=
  let cs := withoutSign cs
  let whole := cs.takeWhile Char.isDigit
  match cs.drop whole.length with
  | '.' :: rest =>
    let places := rest.takeWhile Char.isDigit
    !(whole ++ places).isEmpty && isExponent (rest.drop places.length)
  | rest => !whole.isEmpty && isExponent rest

def specialFloats : List String :=
  ["inf", "+inf", "-inf", "NaN", "+NaN", "-NaN"].flatMap fun word =>
    [word, word ++ "f32", word ++ "f64"]

def passFloat (cs : List Char) : Option (List Char) :=
  match specialFloats.findSome? (afterWord · cs) with
  | some rest => some rest
  | none =>
    let number := cs.takeWhile isFloatChar
    let rest := cs.drop number.length
    if gapsAreInside false number && isDecimal (number.filter (· ≠ '_')) then
      some ((after "f32" rest <|> after "f64" rest).getD rest)
    else none

/-- A number with a point is a decimal one; so is one that is no integer. -/
def passNumber (cs : List Char) : Option (List Char) :=
  let behind := withoutSign cs
  let integral := (behind.takeWhile isDigitOrGap).length
  if integral < (behind.takeWhile isFloatChar).length then passFloat cs
  else match integer cs with
    | some (_, rest) => some rest
    | none => passFloat cs

/-! ### Texts and bytes -/

def passChar (cs : List Char) : Option (List Char) :=
  match cs with
  | '\'' :: '\\' :: rest => do
    let (c, rest) ← unquote .char '\'' .mark [] rest
    if c.length = 1 then some rest else none
  | '\'' :: _ :: '\'' :: rest => some rest
  | _ => none

def passBytes (cs : List Char) : Option (List Char) :=
  match cs with
  | 'b' :: '\'' :: '\\' :: rest => do
    let (c, rest) ← unquote .bytes '\'' .mark [] rest
    if c.length = 1 then some rest else none
  | 'b' :: '\'' :: c :: '\'' :: rest => if c.toNat < 128 then some rest else none
  | 'b' :: '"' :: rest => (unquote .bytes '"' .plain [] rest).map (·.2)
  | 'b' :: 'r' :: rest => (rawText rest).map (·.2)
  | _ => none

/-! ### Values within values -/

structure Dialect where
  namedRecords : Bool := false
  /-- A value can stand for an option that holds it. -/
  bareOptions : Bool := false
  deriving DecidableEq, Repr

inductive Inside where
  | values
  | entries
  | fields
  deriving DecidableEq, Repr

def passWord (cs : List Char) : Option (List Char) :=
  afterWord "true" cs <|> afterWord "false" cs <|> afterWord "None" cs <|> after "()" cs
    <|> (["inf", "inff32", "inff64", "NaN", "NaNf32", "NaNf64"].findSome? (afterWord · cs))

/-- What a bracket `(` begins: fields, if a name and a colon come next. -/
def insideOf (cs : List Char) : Option Inside := do
  let cs ← skip cs
  match looseName cs with
  | some rest => match ← skip rest with
    | ':' :: _ => return .fields
    | _ => return .values
  | none => return .values

mutual
def passValue (dialect : Dialect) : Nat → Nat → List Char → Option (List Char)
  | 0, _, _ => none
  | fuel + 1, depth, cs =>
    if startsWith "Some" cs then do
      let rest ← afterWord "Some" cs
      match ← skip rest with
      | '(' :: rest =>
        if depth = 0 then none
        let rest ← passValue dialect fuel (depth - 1) (← skip rest)
        after ")" (← comma rest).2
      | rest =>
        if !dialect.bareOptions || depth = 0 then none
        else passValue dialect fuel (depth - 1) rest
    else match passWord cs with
      | some rest => some rest
      | none => match looseName cs with
        | some rest => do
          let rest ← skip rest
          if rest.head? = some '(' then passRecord dialect fuel depth rest else some rest
        | none => match cs with
          | '(' :: _ => passRecord dialect fuel depth cs
          | '[' :: rest => passInside dialect fuel depth .values ']' true rest
          | '\x7b' :: rest => passInside dialect fuel depth .entries '\x7d' true rest
          | '"' :: _ | 'r' :: _ => (text cs).map (·.2)
          | 'b' :: _ => passBytes cs
          | '\'' :: _ => passChar cs
          | c :: _ => if c.isDigit || isSign c || c = '.' then passNumber cs else none
          | [] => none

def passRecord (dialect : Dialect) : Nat → Nat → List Char → Option (List Char)
  | 0, _, _ => none
  | fuel + 1, depth, cs => do
    let rest ← after "(" cs
    passInside dialect fuel depth (← insideOf rest) ')' true rest

/-- Passes over what stands up to a closing bracket; `ready` tells whether another item may come. -/
def passInside (dialect : Dialect) :
    Nat → Nat → Inside → Char → Bool → List Char → Option (List Char)
  | 0, _, _, _, _, _ => none
  | fuel + 1, depth, inside, close, ready, cs => do
    let cs ← skip cs
    match cs with
    | [] => none
    | c :: rest =>
      if depth = 0 then none
      else if c = close then some rest
      else if !ready || depth < 2 then none
      else
        let cs ← match inside with
          | .values => some cs
          | .entries => do
            let cs ← passValue dialect fuel (depth - 2) cs
            skip (← after ":" (← skip cs))
          | .fields => do
            let (_, cs) ← name cs
            skip (← after ":" (← skip cs))
        let cs ← passValue dialect fuel (depth - 2) cs
        let (ready, cs) ← comma cs
        passInside dialect fuel depth inside close ready cs
end

end TranscodeConsole.Config
