import TranscodeConsole.Batch

/-!
What the console is asked to do.
-/
namespace TranscodeConsole

inductive Command where
  | batch (batch : Uuid) (filter : Filter) (pages : Nat)
  | counters (batch : Uuid)
  | watch (job : Uuid) (template : Option Uuid)
  | quick (file : String) (template : Uuid)
  | dashboard
  | templates
  deriving DecidableEq, Repr

structure Invocation where
  config : Option String := none
  verbose : Bool := false
  command : Command
  deriving DecidableEq, Repr

end TranscodeConsole
