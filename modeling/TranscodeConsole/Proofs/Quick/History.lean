import Mathlib.Data.List.Induction
import TranscodeConsole.Proofs.Quick.Step

/-!
Histories of a quick transcode: all messages that a machine has been told from its start on. What a
message may come of is an effect that was there before it.
-/
namespace TranscodeConsole.QuickTranscode

theorem run_append (s : State) (ms further : List Msg) :
    run s (ms ++ further) =
      ((run (run s ms).1 further).1, (run s ms).2 ++ (run (run s ms).1 further).2) := by
  induction ms generalizing s with
  | nil => rfl
  | cons m ms ih => simp only [List.cons_append, run, ih, List.append_assoc]

def stateAfter (ms : List Msg) : State := (run {} ms).1

def effectsOf (ms : List Msg) : List Effect := (run {} ms).2

@[simp] theorem stateAfter_snoc (ms : List Msg) (m : Msg) :
    stateAfter (ms ++ [m]) = (update (stateAfter ms) m).1 := by
  rw [stateAfter, run_append]
  rfl

@[simp] theorem effectsOf_snoc (ms : List Msg) (m : Msg) :
    effectsOf (ms ++ [m]) = effectsOf ms ++ (update (stateAfter ms) m).2 := by
  rw [effectsOf, run_append]
  simp [run, effectsOf, stateAfter]

theorem snoc_eq_append_cons {ms earlier later : List Msg} {m x : Msg} :
    ms ++ [m] = earlier ++ x :: later ↔
      later = [] ∧ ms = earlier ∧ m = x ∨
        ∃ rest, later = rest ++ [m] ∧ ms = earlier ++ x :: rest := by
  constructor
  · intro whole
    rcases List.eq_nil_or_concat later with rfl | ⟨rest, last, rfl⟩
    · obtain ⟨same, here⟩ := List.append_inj' whole rfl
      cases here
      exact .inl ⟨rfl, same, rfl⟩
    · have whole : ms ++ [m] = (earlier ++ x :: rest) ++ [last] := by simpa using whole
      obtain ⟨same, here⟩ := List.append_inj' whole rfl
      cases here
      exact .inr ⟨rest, List.concat_eq_append .., same⟩
  · rintro (⟨rfl, rfl, rfl⟩ | ⟨rest, rfl, rfl⟩)
    · rfl
    · simp

/-! ### Kinds of messages -/

def Msg.failure? : Msg → Option String
  | .failed message => some message
  | _ => none

def Msg.isLook : Msg → Bool
  | .observed .. => true
  | _ => false

def Msg.isLoaded : Msg → Bool
  | .analysisLoaded .. => true
  | _ => false

def Msg.isReply : Msg → Bool
  | .jobCreated _ | .observed .. | .uploadCompleted | .analysisLoaded .. | .analysisUnavailable _ =>
    true
  | .buffer .. | .progress _ | .failed _ | .reset => false

/-- Whether a message can be what an effect comes to: the answer to a call, or a look at a job that
is followed. -/
def Msg.answers : Msg → Effect → Bool
  | .jobCreated _, .createJob _ => true
  | .observed .., .startTracking _ => true
  | .uploadCompleted, .upload _ => true
  | .analysisLoaded result _, .fetchAnalysis asked => result = asked
  | .analysisUnavailable result, .fetchAnalysis asked => result = asked
  | _, _ => false

theorem Msg.analysisLoaded_answers {result : Uuid} {info : FileFormat} {effect : Effect} :
    (analysisLoaded result info).answers effect = true ↔ effect = .fetchAnalysis result := by
  cases effect <;> simp [answers, eq_comm]

theorem Msg.analysisUnavailable_answers {result : Uuid} {effect : Effect} :
    (analysisUnavailable result).answers effect = true ↔ effect = .fetchAnalysis result := by
  cases effect <;> simp [answers, eq_comm]

/-- Messages of a kind come only after an effect that they answer; all others come at any time. -/
inductive Solicited (kind : Msg → Bool) : List Msg → Prop where
  | nil : Solicited kind []
  | snoc {ms : List Msg} {m : Msg} (earlier : Solicited kind ms)
      (asked : kind m = true → ∃ effect ∈ effectsOf ms, m.answers effect = true) :
      Solicited kind (ms ++ [m])

theorem Solicited.last {kind : Msg → Bool} {ms : List Msg} {m : Msg}
    (solicited : Solicited kind (ms ++ [m])) :
    Solicited kind ms ∧ (kind m = true → ∃ effect ∈ effectsOf ms, m.answers effect = true) := by
  generalize whole : ms ++ [m] = history at solicited
  cases solicited with
  | nil => simp at whole
  | snoc earlier asked =>
    obtain ⟨rfl, same⟩ := List.append_inj' whole rfl
    cases same
    exact ⟨earlier, asked⟩

/-! ### A run to look at -/

def sampleId : Uuid := ⟨List.replicate 32 (Fin.last 15), List.length_replicate⟩

def sampleInfo : FileFormat :=
  ⟨sampleId, ⟨2, 0, "mov,mp4", "QuickTime / MOV", ⟨0⟩, ⟨0⟩, 3, ⟨0⟩, 100⟩⟩

def namedEarly : List Msg :=
  [.buffer sampleId 3, .jobCreated sampleId, .observed .started (some sampleId)]

theorem solicited_namedEarly (kind : Msg → Bool) (unasked : ∀ template byteLength,
    kind (.buffer template byteLength) = false) : Solicited kind namedEarly := by
  have buffer : Solicited kind [.buffer sampleId 3] :=
    Solicited.nil.snoc (by simp [unasked])
  have created : Solicited kind [.buffer sampleId 3, .jobCreated sampleId] :=
    buffer.snoc fun _ => ⟨.createJob sampleId, by decide, rfl⟩
  exact created.snoc fun _ => ⟨.startTracking sampleId, by decide, rfl⟩

end TranscodeConsole.QuickTranscode
