import TranscodeConsole.Report
import TranscodeConsole.Tracker

/-!
What a command that follows something prints as it goes, and when it ends. A line that says what
the one before it said is not printed again.
-/
namespace TranscodeConsole.Display

inductive Ending where
  | done
  | failed (message : String)
  | overflowed (operation : Overflow)
  deriving DecidableEq, Repr

/-- The answer to something seen. Without an ending the command goes on. -/
structure Reaction where
  printed : String := ""
  ending : Option Ending := none
  deriving DecidableEq, Repr

def unlessShown (last line : String) : String := if line = last then "" else Report.line line

def counters : TrackEvent BatchSummary → Reaction
  | .failed message => { ending := some (.failed message) }
  | .refreshed summary =>
    match Report.countersLine summary with
    | .error operation => { ending := some (.overflowed operation) }
    | .ok line =>
      { printed := Report.line line, ending := if summary.isSettled then some .done else none }

structure Watch where
  steps : List TemplateStep := []
  last : String := ""
  deriving DecidableEq, Repr

def Watch.see (w : Watch) : TrackEvent JobSnapshot → Reaction × Watch
  | .failed message => ({ ending := some (.failed message) }, w)
  | .refreshed snapshot =>
    let line := Report.jobLine snapshot
    let printed :=
      if line = w.last then ""
      else Report.line line ++ Report.jobSteps w.steps snapshot.completedSteps
    ({ printed, ending := if snapshot.status.isFinal then some .done else none },
      { w with last := line })

structure Dashboard where
  lastQueues : String := ""
  lastTotals : String := ""
  deriving DecidableEq, Repr

namespace Dashboard

def seeQueues (d : Dashboard) : TrackEvent QueueStats → Reaction × Dashboard
  | .failed message => ({ ending := some (.failed ("queue stats: " ++ message)) }, d)
  | .refreshed stats =>
    match Report.queueLine stats with
    | .error operation => ({ ending := some (.overflowed operation) }, d)
    | .ok line => ({ printed := unlessShown d.lastQueues line }, { d with lastQueues := line })

def seeTotals (d : Dashboard) : TrackEvent JobTotals → Reaction × Dashboard
  | .failed message => ({ ending := some (.failed ("job totals: " ++ message)) }, d)
  | .refreshed totals =>
    let line := Report.totalsLine totals
    ({ printed := unlessShown d.lastTotals line }, { d with lastTotals := line })

end Dashboard

def unanalysed : Option JobStatus → Reaction
  | some .completed =>
    { printed := Report.line "job finished without an analysis result", ending := some .done }
  | some status => { ending := some (.failed ("job ended as " ++ status.text)) }
  | none => { ending := some (.failed "job tracking stopped") }

def quickOutcome (v : QuickTranscode.View) (following : Bool) : Reaction :=
  if v.halted ∨ v.phase = .idle then { ending := some (.failed (v.lastError.getD "")) }
  else match v.phase with
    | .analysisReady =>
      { printed := (v.analysis.map Report.analysisBlock).getD "", ending := some .done }
    | .polling => if following then {} else unanalysed v.jobStatus
    | .idle | .uploading => {}

def quick (last : String) (v : QuickTranscode.View) (following : Bool) : Reaction × String :=
  let line := Report.quickLine v
  let outcome := quickOutcome v following
  ({ outcome with printed := unlessShown last line ++ outcome.printed }, line)

def quickInterval : Nat := 200

end TranscodeConsole.Display
