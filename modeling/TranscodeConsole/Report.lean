import TranscodeConsole.Decimal.Places
import TranscodeConsole.Listing
import TranscodeConsole.Tracking
import TranscodeConsole.QuickTranscode
import TranscodeConsole.Template

/-!
The lines that the console prints. A line with sums of counters has no text when a counter cannot
hold what is computed for it.
-/
namespace TranscodeConsole.Report

private def blanks (n : Nat) : String := String.ofList (List.replicate n ' ')

def padRight (width : Nat) (s : String) : String := s ++ blanks (width - s.length)

def padLeft (width : Nat) (s : String) : String := blanks (width - s.length) ++ s

def line (s : String) : String := s ++ "\n"

def entryLine (e : BatchEntry) : String :=
  line ("  " ++ padRight 11 e.state.label ++ " " ++ e.path)

def batchPage (v : Listing.View) : String :=
  let filter := match v.filter with
    | some state => state.label
    | none => "all"
  let head := match v.batch with
    | some id => line s!"batch {id} [{filter}]: {v.entries.length} items, {v.pages} page(s)"
    | none => ""
  head ++ String.join (v.entries.map entryLine)
    ++ (if 0 < v.malformed then line s!"  ({v.malformed} unreadable record(s) skipped)" else "")
    ++ (match v.lastError with
      | some error => line ("error: " ++ error)
      | none => "")
    ++ (if v.moreAvailable then line "more items available" else "")

def countersLine (s : BatchSummary) : Except Overflow String := do
  let percent ← s.percent
  return s.name ++ " " ++ padLeft 3 (toString percent) ++ "%"
    ++ s!"  pending {s.pending}  active {s.active}  completed {s.completed}"
    ++ s!"  failed {s.failed}  aborted {s.aborted}"

def queueLine (s : QueueStats) : Except Overflow String := do
  let total ← s.total
  return "queues " ++ padLeft 4 (toString total)
    ++ String.join (s.queues.map fun (name, size) => "  " ++ name ++ " " ++ toString size)

def totalsLine (s : JobTotals) : String :=
  s!"jobs  not queued {s.notQueued}  pending {s.pending}  active {s.started}"
    ++ s!"  completed {s.completed}  failed {s.failed}  purged {s.aborted}"

def jobLine (s : JobSnapshot) : String :=
  s.status.text ++ " (" ++ toString s.completedSteps ++ "/" ++ toString s.totalSteps ++ " steps)"
    ++ (match s.failureMessage with
      | some message => ": " ++ message
      | none => "")

def progressMark : StepProgress → String
  | .done => "x"
  | .inProgress => ">"
  | .notStarted => " "

def jobSteps (steps : List TemplateStep) (completed : Nat) : String :=
  String.join <| (TemplateStep.progress steps completed).map fun (label, progress) =>
    line ("  [" ++ progressMark progress ++ "] " ++ label)

def quickLine (v : QuickTranscode.View) : String :=
  let phase := match v.phase with
    | .idle => "idle"
    | .uploading =>
      let percent := (v.progress.getD Single.zero).timesHundred
      s!"uploading {v.byteLength} bytes (" ++ Decimal.fixed 0 percent.exact ++ "%)"
    | .polling => "waiting for analysis"
    | .analysisReady => "analysis ready"
  phase
    ++ (match v.jobStatus with
      | some status => ", job " ++ status.text
      | none => "")
    ++ (match v.lastError with
      | some error => ", error: " ++ error
      | none => "")

def analysisBlock (info : FileFormat) : String :=
  let a := info.analysis
  line ("format   " ++ a.longName ++ " (" ++ a.name ++ ")")
    ++ line s!"streams  {a.streams}"
    ++ line ("duration " ++ Decimal.fixed 2 a.duration.exact ++ "s")
    ++ line s!"size     {a.size} bytes"
    ++ line ("bitrate  " ++ Decimal.fixed 0 a.bitRate.exact ++ " bit/s")

def templateList (choices : List JobTemplate.Choice) : String :=
  String.join (choices.map fun c => line (c.id.render ++ "  " ++ c.label))

end TranscodeConsole.Report
