import Mathlib.Data.List.Destutter
import TranscodeConsole.Display
import TranscodeConsole.Proofs.Report
import TranscodeConsole.Proofs.Watch.JobLine

/-!
What following a job prints: for every snapshot that stands otherwise than the one before it, its
line and its steps, up to the first that is final or to a failure.
-/
namespace TranscodeConsole

namespace Display

/-- What is printed for events that are seen one after the other, and the ending that comes of it,
behind which nothing more is seen. -/
def reactAll {φ ε : Type} (see : φ → ε → Reaction × φ) (seen : φ) :
    List ε → List String × Option Ending
  | [] => ([], none)
  | event :: events =>
    match (see seen event).1.ending with
    | some ending => ([(see seen event).1.printed], some ending)
    | none =>
      let (printed, ending) := reactAll see (see seen event).2 events
      ((see seen event).1.printed :: printed, ending)

theorem reactAll_append {φ ε : Type} {see : φ → ε → Reaction × φ} {seen : φ} {events : List ε}
    (ended : (reactAll see seen events).2 ≠ none) (more : List ε) :
    reactAll see seen (events ++ more) = reactAll see seen events := by
  induction events generalizing seen with
  | nil => exact absurd rfl ended
  | cons event events ih =>
    simp only [List.cons_append, reactAll] at ended ⊢
    split
    · rfl
    · rename_i goesOn
      simp only [goesOn] at ended
      rw [ih ended]

end Display

open Display

namespace JobSnapshot

def block (steps : List TemplateStep) (s : JobSnapshot) : String :=
  Report.line (Report.jobLine s) ++ Report.jobSteps steps s.completedSteps

theorem block_text (steps : List TemplateStep) (s : JobSnapshot) :
    s.block steps =
      Report.text (Report.jobLine s :: steps.mapIdx (Report.stepLine s.completedSteps)) := by
  rw [block, Report.jobSteps_text, Report.text_cons]
  rfl

theorem jobLine_ne_empty (s : JobSnapshot) : Report.jobLine s ≠ "" := by
  intro empty
  have chars := congrArg String.toList empty
  simp [Report.toList_jobLine] at chars

theorem block_ne_empty (steps : List TemplateStep) (s : JobSnapshot) : s.block steps ≠ "" := by
  intro empty
  have chars := congrArg String.toList empty
  simp [block, Report.line] at chars

theorem block_eq {a b : JobSnapshot} (same : a.standing = b.standing) (steps : List TemplateStep) :
    a.block steps = b.block steps := by
  have completed : a.completedSteps = b.completedSteps := congrArg (·.2.1) same
  rw [block, block, Report.jobLine_eq_iff.mpr same, completed]

def Differ (a b : JobSnapshot) : Prop := a.standing ≠ b.standing

instance : DecidableRel Differ := fun a b => inferInstanceAs (Decidable (a.standing ≠ b.standing))

theorem not_differ {a b : JobSnapshot} : ¬ Differ a b ↔ a.standing = b.standing := not_not

end JobSnapshot

namespace Display.Watch

open JobSnapshot (Differ)

/-- The snapshots up to the first that is final, or to a failure. -/
def snapshots : List (TrackEvent JobSnapshot) → List JobSnapshot
  | [] => []
  | .failed _ :: _ => []
  | .refreshed s :: events => s :: if s.status.isFinal then [] else snapshots events

/-- Leaves out each snapshot that stands like the one before it. -/
def news (snapshots : List JobSnapshot) : List JobSnapshot :=
  snapshots.destutter Differ

/-- An event before which no fetch failed and no snapshot was final. -/
def Reaches (events : List (TrackEvent JobSnapshot)) (event : TrackEvent JobSnapshot) : Prop :=
  ∃ (earlier : List JobSnapshot) (later : List (TrackEvent JobSnapshot)),
    events = earlier.map .refreshed ++ event :: later ∧ ∀ s ∈ earlier, s.status.isFinal = false

def blocks (steps : List TemplateStep) (events : List (TrackEvent JobSnapshot)) : List String :=
  (reactAll see { steps } events).1.filter (· ≠ "")

variable {steps : List TemplateStep} {events : List (TrackEvent JobSnapshot)}

/-! ### What is printed -/

theorem destutter'_eq_cons (prev : JobSnapshot) (snapshots : List JobSnapshot) :
    snapshots.destutter' Differ prev =
      prev :: (snapshots.destutter' Differ prev).tail := by
  induction snapshots with
  | nil => rfl
  | cons s snapshots ih =>
    by_cases differ : Differ prev s
    · rw [List.destutter'_cons_pos _ differ, List.tail_cons]
    · rw [List.destutter'_cons_neg _ differ, ← ih]

theorem react_refreshed (w : Watch) (s : JobSnapshot) (events : List (TrackEvent JobSnapshot)) :
    (reactAll see w (.refreshed s :: events)).1 =
      (if Report.jobLine s = w.last then "" else s.block w.steps) ::
        if s.status.isFinal then [] else
          (reactAll see { w with last := Report.jobLine s } events).1 := by
  cases final : s.status.isFinal <;> simp [reactAll, see, final, JobSnapshot.block]

theorem printed_behind {w : Watch} {prev : JobSnapshot} (shown : w.last = Report.jobLine prev)
    (events : List (TrackEvent JobSnapshot)) :
    (reactAll see w events).1.filter (· ≠ "") =
      ((snapshots events).destutter' Differ prev).tail.map
        (·.block w.steps) := by
  induction events generalizing w prev with
  | nil => rfl
  | cons event events ih =>
    cases event with
    | failed message => rfl
    | refreshed s =>
      have rest : ∀ {before : JobSnapshot}, Report.jobLine s = Report.jobLine before →
          (if s.status.isFinal then [] else
            (reactAll see { w with last := Report.jobLine s } events).1).filter (· ≠ "") =
          ((if s.status.isFinal then [] else snapshots events).destutter'
            Differ before).tail.map (·.block w.steps) := by
        intro before same
        split
        · rfl
        · exact ih same
      rw [react_refreshed, snapshots, shown]
      by_cases same : Report.jobLine s = Report.jobLine prev
      · have alike : ¬ Differ prev s :=
          JobSnapshot.not_differ.mpr (Report.jobLine_eq_iff.mp same).symm
        rw [if_pos same, List.filter_cons_of_neg (by simp), List.destutter'_cons_neg _ alike]
        exact rest same
      · have differ : Differ prev s := fun alike => same (Report.jobLine_eq_iff.mpr alike.symm)
        rw [if_neg same, List.filter_cons_of_pos (by simp [s.block_ne_empty]),
          List.destutter'_cons_pos _ differ, destutter'_eq_cons, List.tail_cons, List.map_cons]
        congr 1
        exact rest rfl

theorem blocks_eq (steps : List TemplateStep) (events : List (TrackEvent JobSnapshot)) :
    blocks steps events = (news (snapshots events)).map (·.block steps) := by
  cases events with
  | nil => rfl
  | cons event events =>
    cases event with
    | failed message => rfl
    | refreshed s =>
      have first : Report.jobLine s ≠ "" := s.jobLine_ne_empty
      rw [blocks, react_refreshed, snapshots, news, List.destutter_cons', destutter'_eq_cons,
        if_neg first, List.filter_cons_of_pos (by simp [s.block_ne_empty]), List.map_cons]
      congr 1
      split
      · rfl
      · exact printed_behind rfl events

theorem getLast?_news (snapshots : List JobSnapshot) (steps : List TemplateStep) :
    (news snapshots).getLast?.map (·.block steps) =
      snapshots.getLast?.map (·.block steps) := by
  cases snapshots with
  | nil => rfl
  | cons first rest =>
    rw [news, List.destutter_cons']
    induction rest generalizing first with
    | nil => rfl
    | cons s rest ih =>
      by_cases differ : Differ first s
      · rw [List.destutter'_cons_pos _ differ, destutter'_eq_cons, List.getLast?_cons_cons,
          List.getLast?_cons_cons, ← destutter'_eq_cons, ih]
      · -- what was printed for the first is what would be printed now
        have same := JobSnapshot.block_eq (JobSnapshot.not_differ.mp differ) steps
        rw [List.destutter'_cons_neg _ differ, ih, List.getLast?_cons_cons]
        cases rest with
        | nil => simp [same]
        | cons t rest => rfl

/-! ### How it ends -/

def verdict : TrackEvent JobSnapshot → Option Ending
  | .failed message => some (.failed message)
  | .refreshed s => if s.status.isFinal then some .done else none

theorem ending_see (w : Watch) (event : TrackEvent JobSnapshot) :
    (see w event).1.ending = verdict event := by
  cases event <;> rfl

theorem verdict_none {event : TrackEvent JobSnapshot} :
    verdict event = none ↔ ∃ s, event = .refreshed s ∧ s.status.isFinal = false := by
  cases event <;> simp [verdict]

theorem not_reaches_nil (event : TrackEvent JobSnapshot) : ¬ Reaches [] event := by
  rintro ⟨earlier, later, split, _⟩
  simp at split

theorem reaches_cons {first event : TrackEvent JobSnapshot} :
    Reaches (first :: events) event ↔
      first = event ∨ verdict first = none ∧ Reaches events event := by
  constructor
  · rintro ⟨_ | ⟨s, earlier⟩, later, split, more⟩
    · exact .inl (List.cons.inj split).1
    · obtain ⟨here, behind⟩ := List.cons.inj split
      exact .inr ⟨verdict_none.mpr ⟨s, here, more s (by simp)⟩,
        ⟨earlier, later, behind, fun t member => more t (by simp [member])⟩⟩
  · rintro (rfl | ⟨open_, earlier, later, rfl, goesOn⟩)
    · exact ⟨[], events, rfl, by simp⟩
    · obtain ⟨s, rfl, more⟩ := verdict_none.mp open_
      exact ⟨s :: earlier, later, rfl, by simpa [more] using goesOn⟩

theorem ending_iff {w : Watch} {ending : Ending} :
    (reactAll see w events).2 = some ending ↔
      ∃ event, Reaches events event ∧ verdict event = some ending := by
  induction events generalizing w with
  | nil => simp [reactAll, not_reaches_nil]
  | cons first events ih =>
    simp only [reactAll, ending_see, reaches_cons]
    cases decided : verdict first with
    | some other => simp [decided]
    | none => simp [ih, or_and_right, exists_or, decided]

theorem done_iff {w : Watch} :
    (reactAll see w events).2 = some .done ↔
      ∃ last, Reaches events (.refreshed last) ∧ last.status.isFinal = true := by
  rw [ending_iff]
  constructor
  · rintro ⟨_ | _, reaches, decided⟩
    · exact ⟨_, reaches, by simpa [verdict] using decided⟩
    · cases decided
  · rintro ⟨last, reaches, final⟩
    exact ⟨_, reaches, by simp [verdict, final]⟩

theorem failed_iff {w : Watch} {message : String} :
    (reactAll see w events).2 = some (.failed message) ↔ Reaches events (.failed message) := by
  rw [ending_iff]
  constructor
  · rintro ⟨s | other, reaches, decided⟩
    · simp [verdict] at decided
    · cases decided
      exact reaches
  · intro reaches
    exact ⟨_, reaches, rfl⟩

theorem snapshots_finished {earlier : List JobSnapshot} {last : JobSnapshot}
    (more : ∀ s ∈ earlier, s.status.isFinal = false) (final : last.status.isFinal = true)
    (later : List (TrackEvent JobSnapshot)) :
    snapshots (earlier.map .refreshed ++ .refreshed last :: later) = earlier ++ [last] := by
  induction earlier with
  | nil => simp [snapshots, final]
  | cons s earlier ih =>
    have goesOn := ih fun t member => more t (by simp [member])
    simpa [snapshots, more s (by simp)] using goesOn

/-- What a watch shows of the events that it was told, and how it ends by them. -/
structure Shows (steps : List TemplateStep) (events : List (TrackEvent JobSnapshot)) : Prop where
  printed : blocks steps events = (news (snapshots events)).map (·.block steps)
  latest : (blocks steps events).getLast? = (snapshots events).getLast?.map (·.block steps)
  finished : ∀ earlier last later, (∀ s ∈ earlier, s.status.isFinal = false) →
    last.status.isFinal = true → events = earlier.map .refreshed ++ .refreshed last :: later →
      snapshots events = earlier ++ [last]
  done : (reactAll see { steps } events).2 = some .done ↔
    ∃ last, Reaches events (.refreshed last) ∧ last.status.isFinal = true
  failed : ∀ message, (reactAll see { steps } events).2 = some (.failed message) ↔
    Reaches events (.failed message)

theorem shows (steps : List TemplateStep) (events : List (TrackEvent JobSnapshot)) :
    Shows steps events where
  printed := blocks_eq steps events
  latest := by rw [blocks_eq, List.getLast?_map, getLast?_news]
  finished earlier last later more final split := by rw [split, snapshots_finished more final]
  done := done_iff
  failed _ := failed_iff

end Display.Watch
end TranscodeConsole
