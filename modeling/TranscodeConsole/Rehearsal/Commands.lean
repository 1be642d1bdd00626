import TranscodeConsole.CommandLine
import TranscodeConsole.Config.Load
import TranscodeConsole.Display
import TranscodeConsole.Rehearsal.Dashboard
import TranscodeConsole.Rehearsal.Listings
import TranscodeConsole.Rehearsal.Quick

/-!
Whole commands against a scripted service: the command line is read, the configuration is loaded,
and the command runs in the foreground until it ends or its time is over.
-/
namespace TranscodeConsole.Rehearsal

open Display

structure Outcome where
  ending : Option Ending
  printed : String := ""
  calls : List String := []
  deriving DecidableEq, Repr

def Outcome.after (script : Script) (ending : Option Ending) (printed : String) : Outcome :=
  { ending, printed, calls := script.calls.reverse }

def Outcome.refused (message : String) : Outcome := { ending := some (.failed message) }

def Outcome.within (context : String) (o : Outcome) : Outcome :=
  match o.ending with
  | some (.failed message) => { o with ending := some (.failed (context ++ ": " ++ message)) }
  | _ => o

/-! ### The foreground -/

structure Foreground (σ φ : Type) where
  ready : φ → Nat → σ → Bool
  alarm : φ → Option Nat := fun _ => none
  react : Nat → φ → σ → Reaction × φ × σ

variable {σ κ φ : Type} [DecidableEq κ]

/-- Reacts until the command ends. What was printed comes back with the latest first. -/
def Stage.attendFrom (plan : Plan σ κ) (fore : Foreground σ φ) (limit : Deadline) (seen : φ)
    (printed : List String) (s : Stage σ κ) : Option (Option Ending × List String × Stage σ κ) :=
  match s.run plan
    { holds := fore.ready seen, alarm := fore.alarm seen, limit := some limit } with
  | (false, s) => some (none, printed, s)
  | (true, s) =>
    let (reaction, seen, world) := fore.react s.now seen s.world
    let s := { s with world }
    let printed := reaction.printed :: printed
    match reaction.ending with
    | some ending => some (some ending, printed, s)
    | none => s |>.attendFrom plan fore limit seen printed
partial_fixpoint

def attend (plan : Plan σ κ) (fore : Foreground σ φ) (script : σ → Script) (limit : Deadline)
    (seen : φ) (s : Stage σ κ) : Outcome :=
  let (ending, printed, s) := (s.attendFrom plan fore limit seen []).getD (none, [], s)
  .after (script s.world) ending (String.join printed.reverse)

/-! ### What commands do -/

namespace Tracked

variable {τ : Type}

def hasNews (t : Tracked κ τ) : Bool := !t.tracker.events.isEmpty

def takeEvent (t : Tracked κ τ) : Option (TrackEvent τ) × Tracked κ τ :=
  match t.tracker.events with
  | event :: events => (some event, { t with tracker := { t.tracker with events } })
  | [] => (none, t)

end Tracked

def showing {τ : Type} (see : φ → TrackEvent τ → Reaction × φ) :
    Foreground (Following κ τ) φ where
  ready _ _ w := w.tracked.hasNews
  react _ seen w :=
    let (event, tracked) := w.tracked.takeEvent
    let (reaction, seen) := event.elim ({}, seen) (see seen)
    (reaction, seen, { w with tracked })

def follow {τ : Type} [LiveResource τ] (source : Source κ τ) (see : φ → TrackEvent τ → Reaction × φ)
    (limit : Deadline) (now interval : Nat) (key : κ) (seen : φ) (script : Script) : Outcome :=
  match ({} : Tracked κ τ).track now interval key with
  | (.error e, _) => .after script (some (.failed e.message)) ""
  | (.ok (), tracked) =>
    attend (Following.plan source) (showing see) Following.script limit seen
      { world := { tracked, script }, now }

namespace Listings

def readPages (limit : Deadline) : Nat → Desktop → Bool × Desktop
  | 0, s => settled limit s
  | more + 1, s =>
    match settled limit s with
    | (false, s) => (false, s)
    | (true, s) =>
      if !s.world.desk.state.moreAvailable then (true, s)
      else match request limit .more s with
        | (false, s) => (false, s)
        | (true, s) => readPages limit more s

def result (batch : Uuid) (w : Listings) : Outcome :=
  let view := w.teardown.desk.state.view
  let ending := match view.lastError with
    | some error => .failed ("listing batch " ++ batch.render ++ " failed: " ++ error)
    | none => .done
  .after w.script (some ending) (Report.batchPage view)

def list (limit : Deadline) (options : Feed.Options) (batch : Uuid) (filter : Filter) (pages : Nat)
    (script : Script) : Outcome :=
  match request limit (.load batch filter) { world := { script, options } } with
  | (false, s) => .after s.world.script none ""
  | (true, s) =>
    match readPages limit (pages - 1) s with
    | (false, s) => .after s.world.script none ""
    | (true, s) => s.world.result batch

end Listings

def withTemplates (limit : Deadline) (script : Script)
    (next : Nat → List JobTemplate → Script → Outcome) : Outcome :=
  let (pending, script) := script.callJobTemplates 0
  if limit.time < pending.due then .after script none ""
  else match pending.result with
    | .error e => .after script (some (.failed e.message)) ""
    | .ok templates => next pending.due templates script

def listTemplates (limit : Deadline) (script : Script) : Outcome :=
  withTemplates limit script fun _ templates script =>
    .after script (some .done) (Report.templateList (JobTemplate.choices templates))

def followCounters (limit : Deadline) (interval : Nat) (batch : Uuid) (script : Script) :
    Outcome :=
  (follow .counters (fun _ event => (counters event, ())) limit 0 interval batch () script).within
    ("reading counters of " ++ batch.render ++ " failed")

def followJob (limit : Deadline) (interval : Nat) (job : Uuid) (start : Nat)
    (steps : List TemplateStep) (script : Script) : Outcome :=
  (follow .jobs Watch.see limit start interval job { steps } script).within
    ("following job " ++ job.render ++ " failed")

/-- Follows a job. The steps of a template that is not found have no labels. -/
def watchJob (limit : Deadline) (interval : Nat) (job : Uuid) (template : Option Uuid)
    (script : Script) : Outcome :=
  match template with
  | none => followJob limit interval job 0 [] script
  | some id =>
    withTemplates limit script fun now templates script =>
      let steps := ((templates.find? (·.id = id)).map (·.steps)).getD []
      followJob limit interval job now steps script

namespace Dashboard

def showing : Foreground Dashboard Display.Dashboard where
  ready _ _ w := w.queues.hasNews || w.totals.hasNews
  react _ seen w :=
    match w.queues.takeEvent with
    | (some event, queues) =>
      let (reaction, seen) := seen.seeQueues event
      (reaction, seen, { w with queues })
    | (none, _) =>
      let (event, totals) := w.totals.takeEvent
      let (reaction, seen) := event.elim ({}, seen) seen.seeTotals
      (reaction, seen, { w with totals })

def follow (limit : Deadline) (poll : PollSettings) (script : Script) : Outcome :=
  match ({ script } : Dashboard).track 0 poll.queueStatsInterval poll.jobSummaryInterval with
  | .error e => .after script (some (.failed e.message)) ""
  | .ok world =>
    (attend plan showing Dashboard.script limit {} { world }).within "dashboard refresh failed"

end Dashboard

namespace Quick

structure Look where
  last : String := ""
  time : Nat

def looking : Foreground Quick Look where
  ready look now _ := look.time ≤ now
  alarm look := some look.time
  react now look w :=
    let (reaction, last) := Display.quick look.last w.state.view w.tracked.tracker.state.polling
    (reaction, { last, time := now + quickInterval }, w)

def transcode (limit : Deadline) (interval : Nat) (file : String) (template : Uuid)
    (byteLength : Nat) (script : Script) : Outcome :=
  let world : Quick := { script, jobInterval := interval }
  match submit limit template byteLength { world } with
  | (false, s) => .after s.world.script none ""
  | (true, s) =>
    (attend plan looking Quick.script limit { time := s.now } s).within
      ("quick transcode of " ++ file ++ " failed")

def transcodeFile (limit : Deadline) (interval : Nat) (files : Files) (file : String)
    (template : Uuid) (script : Script) : Outcome :=
  if template.isNil then .refused "pick a job template; the nil id means none"
  else match files file with
    | .error e => .refused ("reading " ++ file ++ ": " ++ e.message)
    | .ok bytes => transcode limit interval file template bytes.length script

end Quick

/-! ### Running a command -/

def runCommand (limit : Deadline) (files : Files) (config : Config) (script : Script) :
    Command → Outcome
  | .batch batch filter pages =>
    Listings.list limit (.ofSettings config.pagingSettings) batch filter pages script
  | .counters batch => followCounters limit config.pollSettings.countersInterval batch script
  | .watch job template => watchJob limit config.pollSettings.jobInterval job template script
  | .quick file template =>
    Quick.transcodeFile limit config.pollSettings.jobInterval files file template script
  | .dashboard => Dashboard.follow limit config.pollSettings script
  | .templates => listTemplates limit script

def runInvocation (limit : Deadline) (files : Files) (script : Service.Base → Script)
    (i : Invocation) : Outcome :=
  match Config.load files i.config with
  | .error e => .refused e.explanation
  | .ok config =>
    match Service.Base.parse Url.Domain.toAscii config.clientSettings.baseUrl with
    | .error e => .refused e.message
    | .ok base => runCommand limit files config (script base) i.command

def runConsole (time : Nat) (files : Files) (script : Service.Base → Script)
    (words : List String) : Except CommandLine.Refusal Outcome :=
  (CommandLine.read words).map (runInvocation { time, tasksRun := false } files script)

end TranscodeConsole.Rehearsal
