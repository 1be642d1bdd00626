import TranscodeConsole.Config
import TranscodeConsole.Config.Value

/-!
Reading a configuration: a record of named fields behind an optional line of extensions. Fields
that are not given keep their defaults, unknown ones are passed over, and none may be given twice.
-/
namespace TranscodeConsole.Config

structure Setting where
  name : String
  read : Config → Scan Config

def countSetting (name : String) (set : Config → Nat → Config) : Setting :=
  ⟨name, fun c cs => (count cs).map fun (n, rest) => (set c n, rest)⟩

def readLog (c : Config) : Scan Config := fun cs => do
  let (word, rest) ← name (← skip cs)
  return ({ c with log := ← Log.Destination.ofName? (String.ofList word) }, rest)

def settings : List Setting := [
  ⟨"base_url", fun c cs => (text cs).map fun (s, rest) => ({ c with baseUrl := s }, rest)⟩,
  countSetting "connect_timeout_ms" fun c n => { c with connectTimeout := n },
  countSetting "request_timeout_ms" fun c n => { c with requestTimeout := n },
  countSetting "page_limit" fun c n => { c with pageLimit := n },
  countSetting "pace_ms" fun c n => { c with pace := n },
  countSetting "job_interval_ms" fun c n => { c with jobInterval := n },
  countSetting "counters_interval_ms" fun c n => { c with countersInterval := n },
  countSetting "queue_stats_interval_ms" fun c n => { c with queueStatsInterval := n },
  countSetting "job_summary_interval_ms" fun c n => { c with jobSummaryInterval := n },
  ⟨"log", readLog⟩]

/-- The levels of values that a document may hold, itself included. -/
def depthLimit : Nat := 128

def valueFuel (cs : List Char) : Nat := 4 * cs.length + 4

def fields (dialect : Dialect) : Nat → List String → Bool → Config → Scan Config
  | 0, _, _, _, _ => none
  | fuel + 1, met, ready, c, cs => do
    let cs ← skip cs
    match cs with
    | ')' :: rest => return (c, rest)
    | cs =>
      if !ready then none
      let (word, cs) ← name cs
      let key := String.ofList word
      if met.contains key then none
      let value ← skip (← after ":" (← skip cs))
      match settings.find? (·.name = key) with
      | some setting =>
        let (c, cs) ← setting.read c value
        let (ready, cs) ← comma cs
        fields dialect fuel (key :: met) ready c cs
      | none =>
        let (ready, cs) ← comma (← passValue dialect (valueFuel value) (depthLimit - 2) value)
        fields dialect fuel met ready c cs

/-! ### Extensions -/

def extend (dialect : Dialect) : String → Option Dialect
  | "explicit_struct_names" => some { dialect with namedRecords := true }
  | "implicit_some" => some { dialect with bareOptions := true }
  | "unwrap_newtypes" | "unwrap_variant_newtypes" => some dialect
  | _ => none

def afterAll : List String → List Char → Option (List Char)
  | [], cs => some cs
  | word :: words, cs => do afterAll words (← skip (← after word cs))

def extensionNames : Nat → Dialect → Scan Dialect
  | 0, _, _ => none
  | fuel + 1, dialect, cs => do
    let (word, cs) ← name cs
    let dialect ← extend dialect (String.ofList word)
    let (more, cs) ← comma cs
    if more && cs.head?.any Text.continuesName then extensionNames fuel dialect cs
    else return (dialect, ← afterAll [")", "]"] cs)

def extensions : Nat → Dialect → Scan Dialect
  | 0, _, _ => none
  | fuel + 1, dialect, cs =>
    match cs with
    | '#' :: _ => do
      let inside ← afterAll ["#", "!", "[", "enable", "("] cs
      let (dialect, cs) ← extensionNames inside.length dialect inside
      extensions fuel dialect (← skip cs)
    | cs => some (dialect, cs)

/-! ### Documents -/

def recordName : String := "ConsoleConfig"

def afterRecordName (dialect : Dialect) (cs : List Char) : Option (List Char) :=
  if cs.head?.any Text.continuesName then do
    let (word, rest) ← name cs
    if String.ofList word = recordName then some rest else none
  else if dialect.namedRecords then none
  else some cs

def parse (document : String) : Option Config := do
  let cs := document.toList
  let (dialect, cs) ← extensions (cs.length + 1) {} (← skip cs)
  let cs ← after "(" (← skip (← afterRecordName dialect cs))
  let (config, rest) ← fields dialect (cs.length + 1) [] true {} cs
  if (← skip rest).isEmpty then return config else none

end TranscodeConsole.Config
