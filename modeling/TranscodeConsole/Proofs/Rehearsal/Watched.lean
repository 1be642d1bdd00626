import TranscodeConsole.Proofs.Rehearsal.Observed

/-!
Watching a job hides no progress: what is printed tells every change in how the job stands, and the
command ends with the first final snapshot or the first failure.
-/
namespace TranscodeConsole.Rehearsal

open Tracking Display Display.Watch

namespace Outcome

variable {context : String} {o : Outcome}

theorem printed_within : (o.within context).printed = o.printed := by
  unfold within
  split <;> rfl

theorem done_within : (o.within context).ending = some .done ↔ o.ending = some .done := by
  unfold within
  split
  · rename_i message failed
    simp [failed]
  · rfl

theorem failed_within {message : String} :
    (o.within context).ending = some (.failed message) ↔
      ∃ cause, o.ending = some (.failed cause) ∧ message = context ++ ": " ++ cause := by
  unfold within
  split
  · rename_i cause failed
    simp [failed, eq_comm]
  · rename_i other
    constructor
    · intro failed
      exact absurd failed (other message)
    · rintro ⟨cause, failed, _⟩
      exact absurd failed (other cause)

structure Watches (job : Uuid) (steps : List TemplateStep)
    (events : List (TrackEvent JobSnapshot)) (o : Outcome) : Prop where
  printed : o.printed = String.join ((news (snapshots events)).map (·.block steps))
  done : o.ending = some .done ↔
    ∃ last, Reaches events (.refreshed last) ∧ last.status.isFinal = true
  failed : ∀ message, o.ending = some (.failed message) ↔
    ∃ cause, Reaches events (.failed cause) ∧
      message = "following job " ++ job.render ++ " failed" ++ ": " ++ cause

end Outcome

theorem join_visible (texts : List String) :
    String.join (texts.filter (· ≠ "")) = String.join texts := by
  induction texts with
  | nil => rfl
  | cons text texts ih =>
    by_cases empty : text = ""
    · rw [List.filter_cons_of_neg (by simpa using empty), ih, String.join_cons, empty,
        String.empty_append]
    · rw [List.filter_cons_of_pos (by simpa using empty), String.join_cons, String.join_cons, ih]

theorem Outcome.Tells.watches {o : Outcome} {steps : List TemplateStep}
    {events : List (TrackEvent JobSnapshot)} (tells : o.Tells Watch.see { steps } events)
    (job : Uuid) :
    (o.within ("following job " ++ job.render ++ " failed")).Watches job steps events where
  printed := by rw [printed_within, tells.printed, ← blocks_eq, blocks, join_visible]
  done := by rw [done_within, tells.ending, done_iff]
  failed message := by simp only [failed_within, tells.ending, failed_iff]

/-- How watching a job begins, by what the service has to say of the templates. -/
structure Begins (limit : Deadline) (interval : Nat) (job : Uuid) (script : Script)
    (reply : Pending (List JobTemplate)) (left : Script) : Prop where
  unasked : watchJob limit interval job none script = followJob limit interval job 0 [] script
  found : ∀ {id before template after}, reply.due ≤ limit.time →
    reply.result = .ok (before ++ template :: after) → template.id = id →
    (∀ other ∈ before, other.id ≠ id) →
      watchJob limit interval job (some id) script =
        followJob limit interval job reply.due template.steps left
  missing : ∀ {id templates}, reply.due ≤ limit.time → reply.result = .ok templates →
    (∀ template ∈ templates, template.id ≠ id) →
      watchJob limit interval job (some id) script =
        followJob limit interval job reply.due [] left
  failed : ∀ {id error}, reply.due ≤ limit.time → reply.result = .error error →
    watchJob limit interval job (some id) script = .after left (some (.failed error.message)) ""
  late : ∀ {id}, limit.time < reply.due →
    watchJob limit interval job (some id) script = .after left none ""
  left : left.jobStatus = script.jobStatus

theorem watchJob_asks {limit : Deadline} {interval : Nat} {job id : Uuid} {script : Script}
    {templates : List JobTemplate} (soon : (script.callJobTemplates 0).1.due ≤ limit.time)
    (answered : (script.callJobTemplates 0).1.result = .ok templates) :
    watchJob limit interval job (some id) script =
      followJob limit interval job (script.callJobTemplates 0).1.due
        (((templates.find? (·.id = id)).map (·.steps)).getD []) (script.callJobTemplates 0).2 := by
  simp only [watchJob, withTemplates, if_neg (Nat.not_lt.mpr soon), answered]

theorem watchJob_begins (limit : Deadline) (interval : Nat) (job : Uuid) (script : Script) :
    Begins limit interval job script (script.callJobTemplates 0).1
      (script.callJobTemplates 0).2 where
  unasked := rfl
  found := by
    rintro id before template after soon answered rfl others
    have first : (before ++ template :: after).find? (·.id = template.id) = some template := by
      rw [List.find?_append, List.find?_eq_none.mpr (by simpa using others)]
      simp
    rw [watchJob_asks soon answered, first]
    rfl
  missing := by
    intro id templates soon answered others
    have none : templates.find? (·.id = id) = none :=
      List.find?_eq_none.mpr (by simpa using others)
    rw [watchJob_asks soon answered, none]
    rfl
  failed := by
    intro id error soon answered
    simp only [watchJob, withTemplates, if_neg (Nat.not_lt.mpr soon), answered]
  late := by
    intro id late
    simp only [watchJob, withTemplates, if_pos late]
  left := rfl

/-- Whoever reads the line of a job knows how it stands. So a watch prints every change, and the
last it has printed is the latest it was told, whenever its time is over; it is told of every snapshot
up to the first that is final or a failure, and this is what it ends with. The steps that it prints
are those of the template, one on a line. -/
theorem watch_hides_no_progress :
    (∀ a b : JobSnapshot, Report.jobLine a = Report.jobLine b →
      a.status = b.status ∧ a.completedSteps = b.completedSteps ∧ a.totalSteps = b.totalSteps ∧
        a.failureMessage = b.failureMessage) ∧
    (∀ steps (s : JobSnapshot), s.block steps =
      Report.text (Report.jobLine s :: steps.mapIdx (Report.stepLine s.completedSteps))) ∧
    (∀ steps events, Watch.Shows steps events) ∧
    (∀ limit interval job (script : Script), Begins limit interval job script
      (script.callJobTemplates 0).1 (script.callJobTemplates 0).2) ∧
    ∀ (interval : Nat) (job : Uuid) (start : Nat) (steps : List TemplateStep) (script : Script),
      let replies := Script.replyAt "job_status" script.jobStatus
      (∀ limit, ∃ n, (followJob limit interval job start steps script).Watches job steps
        (told replies n)) ∧
      ∀ k, (∀ i < k, isLast (replies i).result = false) →
        ∃ time, ∀ limit : Deadline, time ≤ limit.time → ∃ n, k < n ∧
          (followJob limit interval job start steps script).Watches job steps (told replies n) := by
  refine ⟨fun _ _ => Report.of_jobLine_eq, fun steps s => s.block_text steps, Watch.shows,
    watchJob_begins, ?_⟩
  intro interval job start steps script replies
  have supplies : Source.jobs.Supplies job script replies :=
    Source.supplies_script (fun _ _ => ⟨rfl, rfl⟩) script
  constructor
  · intro limit
    obtain ⟨n, tells⟩ := follow_tells supplies Watch.see limit start interval { steps }
    exact ⟨n, tells.watches job⟩
  · intro k more
    obtain ⟨time, hears⟩ := follow_hears supplies Watch.see start interval { steps } more
    refine ⟨time, ?_⟩
    intro limit late
    obtain ⟨n, further, tells⟩ := hears limit late
    exact ⟨n, further, tells.watches job⟩

/-- A job that stands alike at two looks and is finished at the third. -/
theorem standstill_printed_once :
    let started : JobSnapshot := ⟨.started, 1, [], none⟩
    let completed : JobSnapshot := { started with status := .completed }
    let base : Service.Base :=
      { url := { scheme := "http".toList, host := some (.name "h".toList) } }
    let template : JobTemplate := ⟨.nil, "t", [⟨.nil, "", "cut"⟩, ⟨.nil, "", "join"⟩]⟩
    let looks : List (Reply JobSnapshot) :=
      [{ result := .ok started }, { delay := 40, result := .ok started },
        { result := .ok completed }]
    let templates : List (Reply (List JobTemplate)) := [{ delay := 7, result := .ok [template] }]
    let script : Script := { base, jobTemplates := templates, jobStatus := looks }
    ∃ time, ∀ limit : Deadline, time ≤ limit.time →
      (watchJob limit 1000 .nil (some .nil) script).printed =
        Report.text ["Started (1/0 steps)", "  [x] cut", "  [>] join",
          "Completed successfully (1/0 steps)", "  [x] cut", "  [>] join"] ∧
      (watchJob limit 1000 .nil (some .nil) script).ending = some .done := by
  intro started completed base template looks templates script
  let left := (script.callJobTemplates 0).2
  let replies := Script.replyAt "job_status" left.jobStatus
  have more : ∀ i < 2, isLast (replies i).result = false := by decide
  obtain ⟨_, blocks, _, begins, follows⟩ := watch_hides_no_progress
  obtain ⟨time, hears⟩ := (follows 1000 .nil 7 template.steps left).2 2 more
  refine ⟨max 7 time, ?_⟩
  intro limit late
  have soon : 7 ≤ limit.time := by omega
  have answered : (script.callJobTemplates 0).1.result = .ok ([] ++ template :: []) := rfl
  have asked : watchJob limit 1000 .nil (some .nil) script =
      followJob limit 1000 .nil 7 template.steps left :=
    (begins limit 1000 .nil script).found soon answered rfl (by simp)
  obtain ⟨n, further, watches⟩ := hears limit (by omega)
  obtain ⟨later, same⟩ := told_add replies 3 (n - 3)
  rw [Nat.add_sub_cancel' further] at same
  rw [same] at watches
  rw [asked]
  refine ⟨?_, ?_⟩
  · have printed : (followJob limit 1000 .nil 7 template.steps left).printed =
        started.block template.steps ++ completed.block template.steps := watches.printed
    rw [printed, blocks, blocks]
    decide +kernel
  · refine watches.done.mpr ⟨completed, ⟨[started, started], later, rfl, ?_⟩, rfl⟩
    decide

end TranscodeConsole.Rehearsal
