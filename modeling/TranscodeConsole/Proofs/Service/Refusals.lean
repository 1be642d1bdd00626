import TranscodeConsole.Proofs.Listing.Step
import TranscodeConsole.Proofs.Quick.Step
import TranscodeConsole.Proofs.Tracking.Step
import TranscodeConsole.Service.Request

/-!
What an operator gets to read when the service refuses a request. There is always something to
read, unless the service itself sends an error document whose detail is blank; and a controller
shows no error that it was not told of, so what it shows is as readable as what it was told.
-/
namespace TranscodeConsole

namespace Text

def Visible (s : String) : Prop := ∃ c ∈ s.toList, isBlank c = false

instance (s : String) : Decidable (Visible s) :=
  decidable_of_iff (s.toList.any (!isBlank ·) = true) (by simp [Visible])

theorem Visible.append_left {s t : String} (visible : Visible t) : Visible (s ++ t) := by
  obtain ⟨c, inside, seen⟩ := visible
  exact ⟨c, by simp [inside], seen⟩

theorem Visible.append_right {s t : String} (visible : Visible s) : Visible (s ++ t) := by
  obtain ⟨c, inside, seen⟩ := visible
  exact ⟨c, by simp [inside], seen⟩

theorem seen_of_trimList {cs : List Char} {c : Char} {rest : List Char}
    (left : (trimList cs).reverse = c :: rest) : isBlank c = false := by
  simp only [trimList, List.reverse_reverse] at left
  have head := List.head?_dropWhile_not isBlank (cs.dropWhile isBlank).reverse
  simpa [left] using head

theorem visible_of_nonBlank {s t : String} (kept : nonBlank s = some t) : Visible t := by
  simp only [nonBlank, Option.ite_none_left_eq_some, Option.some.injEq] at kept
  obtain ⟨some_, rfl⟩ := kept
  cases left : (trimList s.toList).reverse with
  | nil => simp [List.reverse_eq_nil_iff.mp left] at some_
  | cons c rest =>
    refine ⟨c, ?_, seen_of_trimList left⟩
    rw [trim, String.toList_ofList, ← List.mem_reverse, left]
    exact List.mem_cons_self

end Text

namespace Service

open Json Text

theorem visible_statusLine (status : Nat) : Visible (statusLine status) := by
  have named : ∀ entry ∈ reasons, Visible entry.2 := by decide +kernel
  refine Visible.append_left ?_
  cases known : reasons.lookup status with
  | none => decide +kernel
  | some reason =>
    obtain ⟨earlier, later, split, -⟩ := List.lookup_eq_some_iff.mp known
    exact named (status, reason) (by simp [split])

/-- The text of an answer, as far as it can be told. -/
def Answer.text (answer : Answer) : String :=
  if answer.complete then Bytes.lenientText answer.body else ""

/-- The answer is an error document, and its detail is blank. -/
def Answer.BlankDetail (answer : Answer) : Prop :=
  ∃ detail, readDocument readDetail (Bytes.ofText answer.text) = .ok detail ∧ ¬Visible detail

theorem visible_errorDetail_iff (status : Nat) (answer : Answer) :
    Visible (errorDetail status answer.text) ↔ ¬answer.BlankDetail := by
  unfold errorDetail Answer.BlankDetail
  split
  · rename_i detail read
    simp [read]
  · rename_i problem read
    simp only [read, reduceCtorEq, false_and, exists_false, not_false_eq_true, iff_true]
    cases body : nonBlank answer.text with
    | none => exact visible_statusLine status
    | some text => exact visible_of_nonBlank body

theorem visible_message (error : ServiceError)
    (own : ∀ status detail, error ≠ .server status detail) : Visible error.userMessage := by
  cases error with
  | server status detail => exact absurd rfl (own status detail)
  | connection | malformedRecord | decode | invalidUrl =>
    exact Visible.append_right (by decide +kernel)

theorem refuse_eq {answer : Answer} (refused : isSuccess answer.status = false) :
    refuse answer = .error (.server answer.status (errorDetail answer.status answer.text)) := by
  simp [refuse, refused, Answer.text]

end Service

/-! ### Errors that controllers keep -/

theorem told_of_foldl {σ μ : Type} {step : σ → μ → σ} {kept : σ → Option String}
    {tells : μ → Option String}
    (told : ∀ s m text, kept (step s m) = some text → kept s = some text ∨ tells m = some text)
    {ms : List μ} {s : σ} {text : String} (shown : kept (ms.foldl step s) = some text) :
    kept s = some text ∨ ∃ m ∈ ms, tells m = some text := by
  induction ms generalizing s with
  | nil => exact .inl shown
  | cons m ms ih =>
    rcases ih shown with before | ⟨later, among, tells⟩
    · exact (told s m text before).imp id fun tells => ⟨m, List.mem_cons_self, tells⟩
    · exact .inr ⟨later, List.mem_cons_of_mem m among, tells⟩

open Text

namespace Listing

def Msg.tells : Msg → Option String
  | .failed _ message => some message
  | _ => none

theorem told_update (s : State) (m : Msg) (text : String)
    (shown : (update s m).1.lastError = some text) :
    s.lastError = some text ∨ m.tells = some text := by
  have step := step_update s m
  generalize update s m = outcome at step shown
  obtain ⟨after, effects⟩ := outcome
  cases step with
  | fails => exact .inr shown
  | fills | exhausts => cases shown
  | loads | resumes | cancels | shows | counts | ignores => exact .inl shown

theorem state_run (s : State) (ms : List Msg) :
    (run s ms).1 = ms.foldl (fun s m => (update s m).1) s := by
  induction ms generalizing s with
  | nil => rfl
  | cons m ms ih => exact ih (update s m).1

theorem visible_lastError {ms : List Msg}
    (told : ∀ generation text, .failed generation text ∈ ms → Visible text) {text : String}
    (shown : (run {} ms).1.view.lastError = some text) : Visible text := by
  have kept : (run {} ms).1.lastError = some text := shown
  rw [state_run] at kept
  rcases told_of_foldl told_update kept with fresh | ⟨m, among, tells⟩
  · cases fresh
  · cases m with
    | failed generation message =>
      cases tells
      exact told generation _ among
    | _ => cases tells

end Listing

namespace Tracking

variable {κ τ : Type} [LiveResource τ]

def Msg.tells : Msg κ τ → Option String
  | .failed _ message => some message
  | .refreshed _ value => LiveResource.failure value
  | _ => none

theorem told_update (s : State κ τ) (m : Msg κ τ) (text : String)
    (shown : (update s m).1.lastError = some text) :
    s.lastError = some text ∨ m.tells = some text := by
  have step := step_update s m
  generalize update s m = outcome at step shown
  obtain ⟨after, effects⟩ := outcome
  cases step with
  | fails | publishes | finishes => exact .inr shown
  | starts | restarts => cases shown
  | stops | ignores => exact .inl shown

theorem state_run (s : State κ τ) (ms : List (Msg κ τ)) :
    (run s ms).1 = ms.foldl (fun s m => (update s m).1) s := by
  induction ms generalizing s with
  | nil => rfl
  | cons m ms ih => exact ih (update s m).1

def Legible (κ τ : Type) [LiveResource τ] : Prop :=
  ∀ ms : List (Msg κ τ), (∀ generation text, .failed generation text ∈ ms → Visible text) →
    ∀ text, (run {} ms).1.view.lastError = some text → Visible text

theorem legible_of_failure
    (own : ∀ (value : τ) (text : String), LiveResource.failure value = some text → Visible text) :
    Legible κ τ := by
  intro ms told text shown
  have kept : (run {} ms).1.lastError = some text := shown
  rw [state_run] at kept
  rcases told_of_foldl told_update kept with fresh | ⟨m, among, tells⟩
  · cases fresh
  · cases m with
    | failed generation message =>
      cases tells
      exact told generation _ among
    | refreshed generation value => exact own value text tells
    | track | stop => cases tells

theorem legible_job : Legible κ JobSnapshot := by
  refine legible_of_failure fun snapshot text reported => ?_
  have message : snapshot.failureMessage = some text := by
    simp only [LiveResource.failure] at reported
    split at reported
    case h_4 => cases reported
    all_goals exact reported
  simp only [JobSnapshot.failureMessage, Option.orElse_eq_orElse, Option.orElse_eq_or,
    Option.or_eq_some_iff] at message
  rcases message with whole | ⟨-, step⟩
  · obtain ⟨error, -, visible⟩ := Option.bind_eq_some_iff.mp whole
    exact visible_of_nonBlank visible
  · obtain ⟨step, -, found⟩ := List.exists_of_findSome?_eq_some step
    obtain ⟨error, -, visible⟩ := Option.bind_eq_some_iff.mp found
    exact visible_of_nonBlank visible

end Tracking

namespace QuickTranscode

def Msg.tells : Msg → Option String
  | .failed message => some message
  | .buffer _ 0 => some emptyFile
  | _ => none

theorem told_update (s : State) (m : Msg) (text : String)
    (shown : (update s m).1.lastError = some text) :
    s.lastError = some text ∨ m.tells = some text := by
  have step := step_update s m
  generalize update s m = outcome at step shown
  obtain ⟨after, effects⟩ := outcome
  cases step with
  | fails | rejects => exact .inr shown
  | loads | resets => cases shown
  | submits | progresses | creates | uploads | looks | unnames | names | forgets | ignores =>
    exact .inl shown

theorem state_run (s : State) (ms : List Msg) :
    (run s ms).1 = ms.foldl (fun s m => (update s m).1) s := by
  induction ms generalizing s with
  | nil => rfl
  | cons m ms ih => exact ih (update s m).1

theorem visible_lastError {ms : List Msg} (told : ∀ text, .failed text ∈ ms → Visible text)
    {text : String} (shown : (run {} ms).1.view.lastError = some text) : Visible text := by
  have kept : (run {} ms).1.lastError = some text := shown
  rw [state_run] at kept
  rcases told_of_foldl told_update kept with fresh | ⟨m, among, tells⟩
  · cases fresh
  · unfold Msg.tells at tells
    split at tells
    · cases tells
      exact told text among
    · cases tells
      decide +kernel
    · cases tells

end QuickTranscode

namespace Service

/-- A refusal is explained by a text that can be read, unless it is an error document with a blank
detail. Controllers that are told of readable failures alone show no other error. -/
theorem refusals_explained (κ : Type) :
    (∀ answer : Answer, isSuccess answer.status = false →
      ∃ error, refuse answer = .error error ∧
        (Visible error.userMessage ↔ ¬answer.BlankDetail)) ∧
    (∀ error : ServiceError, (∀ status detail, error ≠ .server status detail) →
      Visible error.userMessage) ∧
    (∀ ms : List Listing.Msg, (∀ generation text, .failed generation text ∈ ms → Visible text) →
      ∀ text, (Listing.run {} ms).1.view.lastError = some text → Visible text) ∧
    (∀ ms : List QuickTranscode.Msg, (∀ text, .failed text ∈ ms → Visible text) →
      ∀ text, (QuickTranscode.run {} ms).1.view.lastError = some text → Visible text) ∧
    Tracking.Legible κ JobSnapshot ∧ Tracking.Legible κ BatchSummary ∧
    Tracking.Legible κ QueueStats ∧ Tracking.Legible κ JobTotals := by
  refine ⟨?_, visible_message, ?_, ?_, Tracking.legible_job, ?_, ?_, ?_⟩
  · intro answer refused
    exact ⟨_, refuse_eq refused, visible_errorDetail_iff answer.status answer⟩
  · intro ms told text
    exact Listing.visible_lastError told
  · intro ms told text
    exact QuickTranscode.visible_lastError told
  all_goals exact Tracking.legible_of_failure fun value text reported => by cases reported

/-- A gateway that answers with blanks is explained by its status line. A listing that could not
reach the service, a quick transcode of an empty file and a tracker whose job failed say so. -/
theorem blank_gateway_explained :
    let answer : Answer := { status := 502, body := Bytes.ascii " \r\n" }
    let unreached : ServiceError := .connection "no route"
    let loaded : List Listing.Msg := [.load Uuid.nil none, .failed 1 unreached.userMessage]
    let picked : List QuickTranscode.Msg := [.buffer Uuid.nil 0]
    let followed : List (Tracking.Msg Uuid JobSnapshot) := [.track Uuid.nil, .refreshed 1
      { status := .failed, completedSteps := 0, steps := [], error := some "no audio" }]
    isSuccess answer.status = false ∧ ¬answer.BlankDetail ∧
      (∃ error, refuse answer = .error error ∧ Visible error.userMessage) ∧
      (∀ status detail, unreached ≠ .server status detail) ∧ Visible unreached.userMessage ∧
      (∃ text, (Listing.run {} loaded).1.view.lastError = some text ∧ Visible text) ∧
      (∃ text, (QuickTranscode.run {} picked).1.view.lastError = some text ∧ Visible text) ∧
      ∃ text, (Tracking.run {} followed).1.view.lastError = some text ∧ Visible text := by
  intro answer unreached loaded picked followed
  obtain ⟨refusal, own, listing, quick, job, -⟩ := refusals_explained Uuid
  have plain : ¬answer.BlankDetail := by
    rw [← visible_errorDetail_iff 502]
    decide +kernel
  have other : ∀ status detail, unreached ≠ .server status detail := by simp [unreached]
  have reported : (Tracking.run {} followed).1.view.lastError = some "no audio" := by
    decide +kernel
  obtain ⟨error, refused, readable⟩ := refusal answer rfl
  refine ⟨rfl, plain, ⟨error, refused, readable.mpr plain⟩, other, own unreached other,
    ⟨_, rfl, listing loaded ?_ _ rfl⟩, ⟨_, rfl, quick picked ?_ _ rfl⟩,
    _, reported, job followed ?_ _ reported⟩
  · intro generation text told
    simp only [loaded, List.mem_cons, reduceCtorEq, Listing.Msg.failed.injEq, List.not_mem_nil,
      or_false, false_or] at told
    exact told.2 ▸ own unreached other
  · simp [picked]
  · simp [followed]

/-- A service may refuse with an error document that has an empty detail, and nothing else is then
told to an operator, nor shown by a listing that asked for the feed. -/
theorem empty_detail_shown :
    let answer : Answer := { status := 500, body := Bytes.ascii "\x7b\"detail\":\"\"\x7d" }
    isSuccess answer.status = false ∧
    ∃ error, refuse answer = .error error ∧ ¬Visible error.userMessage ∧
      ∃ shown, (Listing.run {} [.load Uuid.nil none,
        .failed 1 error.userMessage]).1.view.lastError = some shown ∧ ¬Visible shown := by
  intro answer
  have detail : errorDetail 500 answer.text = "" := by decide +kernel
  refine ⟨rfl, .server 500 (errorDetail 500 answer.text), refuse_eq rfl, ?_, "", ?_, ?_⟩
  · rw [detail]
    decide
  · rw [detail]
    rfl
  · decide

end Service
end TranscodeConsole
