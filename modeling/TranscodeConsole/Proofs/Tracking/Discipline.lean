import TranscodeConsole.Proofs.Tracking.Step

/-!
The order in which a tracker's effects come, over any run of messages. A poll is started when none
is running and under a generation of its own; values are published while it runs, and its last word
is a final value or the report of a failure.
-/
namespace TranscodeConsole.Tracking

variable {κ τ : Type}

namespace Effect

def isStart : Effect κ τ → Bool
  | .startPolling .. => true
  | _ => false

def isPublish : Effect κ τ → Bool
  | .publish _ => true
  | _ => false

/-- Nothing is said of a poll after its last word. -/
def isLastWord [LiveResource τ] : Effect κ τ → Bool
  | .publish value => LiveResource.isFinal value
  | .reportFailure _ => true
  | _ => false

def switch (on : Bool) : Effect κ τ → Bool
  | .startPolling .. => true
  | .stopPolling => false
  | _ => on

end Effect

def running (effects : List (Effect κ τ)) : Bool := effects.foldl Effect.switch false

def started (effects : List (Effect κ τ)) : List Nat :=
  effects.filterMap fun
    | .startPolling generation _ => some generation
    | _ => none

theorem started_append (first later : List (Effect κ τ)) :
    started (first ++ later) = started first ++ started later := by
  simp [started]

variable [LiveResource τ]

structure Disciplined (effects : List (Effect κ τ)) : Prop where
  starts : ∀ before generation key after,
    effects = before ++ .startPolling generation key :: after → running before = false
  ascends : (started effects).Pairwise (· < ·)
  publishes : ∀ before value after,
    effects = before ++ .publish value :: after → running before = true
  closes : ∀ before value after, effects = before ++ .publish value :: after →
    LiveResource.isFinal value = true → ∃ later, after = .stopPolling :: later
  reports : ∀ before message after, effects = before ++ .reportFailure message :: after →
    ∃ earlier, before = earlier ++ [.stopPolling] ∧ running earlier = true
  silent : ∀ before word between later after,
    effects = before ++ word :: (between ++ later :: after) → word.isLastWord = true →
      (∀ e ∈ between, e.isStart = false) → later.isPublish = false ∧ later.isLastWord = false

/-! ### The phases of a poll -/

/-- How the poll that was started last stands, as far as effects tell. -/
inductive Phase where
  | resting
  | following
  | closing
  | halted
  deriving DecidableEq

namespace Phase

def isOn : Phase → Bool
  | .following | .closing => true
  | .resting | .halted => false

/-- The phase after an effect; none if the effect is out of place. -/
def next : Phase → Effect κ τ → Option Phase
  | .resting, .startPolling .. | .halted, .startPolling .. => some .following
  | .resting, .stopPolling | .halted, .stopPolling | .closing, .stopPolling => some .resting
  | .following, .stopPolling => some .halted
  | .following, .publish value => some (if LiveResource.isFinal value then .closing else .following)
  | .halted, .reportFailure _ => some .resting
  | _, _ => none

def after (p : Phase) (effects : List (Effect κ τ)) : Option Phase := effects.foldlM next p

theorem after_append {p q : Phase} {first later : List (Effect κ τ)}
    (whole : p.after (first ++ later) = some q) :
    ∃ middle, p.after first = some middle ∧ middle.after later = some q := by
  unfold after at whole
  rw [List.foldlM_append] at whole
  exact Option.bind_eq_some_iff.mp whole

theorem after_cons {p q : Phase} {e : Effect κ τ} {later : List (Effect κ τ)}
    (whole : p.after (e :: later) = some q) :
    ∃ middle, p.next e = some middle ∧ middle.after later = some q := by
  unfold after at whole
  rw [List.foldlM_cons] at whole
  exact Option.bind_eq_some_iff.mp whole

theorem isOn_next {p q : Phase} {e : Effect κ τ} (moved : p.next e = some q) :
    q.isOn = e.switch p.isOn := by
  unfold next at moved
  grind [isOn, Effect.switch]

theorem isOn_after {effects : List (Effect κ τ)} :
    ∀ {p q : Phase}, p.after effects = some q → q.isOn = effects.foldl Effect.switch p.isOn := by
  induction effects with
  | nil =>
    intro p q moved
    cases moved
    rfl
  | cons e effects ih =>
    intro p q moved
    obtain ⟨middle, first, later⟩ := after_cons moved
    rw [List.foldl_cons, ← isOn_next first]
    exact ih later

theorem running_eq {effects : List (Effect κ τ)} {p : Phase}
    (moved : resting.after effects = some p) : running effects = p.isOn :=
  (isOn_after moved).symm

theorem halted_after {effects : List (Effect κ τ)} (moved : resting.after effects = some halted) :
    ∃ earlier, effects = earlier ++ [.stopPolling] ∧ running earlier = true := by
  rcases List.eq_nil_or_concat effects with rfl | ⟨earlier, e, rfl⟩
  · cases moved
  · rw [List.concat_eq_append] at moved ⊢
    obtain ⟨middle, first, last⟩ := after_append moved
    obtain ⟨_, moved, same⟩ := after_cons last
    cases same
    unfold next at moved
    split at moved <;> simp only [Option.some.injEq, reduceCtorEq] at moved
    · exact ⟨earlier, rfl, running_eq first⟩
    · split at moved <;> cases moved

theorem closing_after {effects : List (Effect κ τ)} {p : Phase}
    (moved : closing.after effects = some p) (settled : p ≠ .closing) :
    ∃ later, effects = .stopPolling :: later := by
  cases effects with
  | nil =>
    cases moved
    exact absurd rfl settled
  | cons e later =>
    obtain ⟨middle, now, _⟩ := after_cons moved
    cases e with
    | stopPolling => exact ⟨later, rfl⟩
    | _ => cases now

def isSilent : Phase → Bool
  | .closing | .resting => true
  | .following | .halted => false

theorem isSilent_next {p q : Phase} {e : Effect κ τ} (moved : p.next e = some q)
    (word : e.isLastWord = true ∨ p.isSilent = true ∧ e.isStart = false) : q.isSilent = true := by
  unfold next at moved
  grind [isSilent, Effect.isLastWord, Effect.isStart]

theorem isSilent_after {effects : List (Effect κ τ)}
    (unstarted : ∀ e ∈ effects, e.isStart = false) :
    ∀ {p q : Phase}, p.isSilent = true → p.after effects = some q → q.isSilent = true := by
  induction effects with
  | nil =>
    intro p q silent moved
    cases moved
    exact silent
  | cons e effects ih =>
    intro p q silent moved
    obtain ⟨middle, first, later⟩ := after_cons moved
    have next := isSilent_next first (.inr ⟨silent, unstarted e (by simp)⟩)
    exact ih (fun e member => unstarted e (List.mem_cons_of_mem _ member)) next later

theorem quiet_next {p q : Phase} {e : Effect κ τ} (moved : p.next e = some q)
    (silent : p.isSilent = true) : e.isPublish = false ∧ e.isLastWord = false := by
  unfold next at moved
  grind [isSilent, Effect.isPublish, Effect.isLastWord]

end Phase

/-! ### The effects of a run -/

structure Fits (s : State κ τ) (p : Phase) : Prop where
  settled : p ≠ .closing
  polling : s.polling = p.isOn

theorem fits_update {s : State κ τ} {p : Phase} (fits : Fits s p) (m : Msg κ τ) :
    ∃ q, p.after (update s m).2 = some q ∧ Fits (update s m).1 q := by
  obtain ⟨settled, polling⟩ := fits
  have idle : s.polling = false → p = .resting ∨ p = .halted := by
    intro off
    cases p <;> simp_all [Phase.isOn]
  have busy : s.polling = true → p = .following := by
    intro on
    cases p <;> simp_all [Phase.isOn]
  have step := step_update s m
  generalize (update s m).1 = s', (update s m).2 = effects at step
  cases step with
  | starts off =>
    rcases idle off with rfl | rfl
    · exact ⟨.following, rfl, by simp, rfl⟩
    · exact ⟨.following, rfl, by simp, rfl⟩
  | restarts on =>
    obtain rfl := busy on
    exact ⟨.following, rfl, by simp, rfl⟩
  | publishes on more =>
    obtain rfl := busy on
    exact ⟨.following, by simp [Phase.after, Phase.next, more], by simp, rfl⟩
  | finishes on final =>
    obtain rfl := busy on
    exact ⟨.resting, by simp [Phase.after, Phase.next, final], by simp, rfl⟩
  | fails on =>
    obtain rfl := busy on
    exact ⟨.resting, rfl, by simp, rfl⟩
  | stops =>
    cases p with
    | following => exact ⟨.halted, rfl, by simp, rfl⟩
    | resting => exact ⟨.resting, rfl, by simp, rfl⟩
    | halted => exact ⟨.resting, rfl, by simp, rfl⟩
    | closing => exact absurd rfl settled
  | ignores => exact ⟨p, rfl, settled, polling⟩

theorem fits_run (ms : List (Msg κ τ)) :
    ∀ {s : State κ τ} {p : Phase}, Fits s p →
      ∃ q, p.after (run s ms).2 = some q ∧ Fits (run s ms).1 q := by
  induction ms with
  | nil =>
    intro s p fits
    exact ⟨p, rfl, fits⟩
  | cons m ms ih =>
    intro s p fits
    obtain ⟨middle, first, fits⟩ := fits_update fits m
    obtain ⟨q, later, fits⟩ := ih fits
    refine ⟨q, ?_, fits⟩
    show p.after ((update s m).2 ++ (run (update s m).1 ms).2) = some q
    unfold Phase.after at first later ⊢
    rw [List.foldlM_append, first]
    exact later

theorem started_update (s : State κ τ) (m : Msg κ τ) :
    (started (update s m).2 = [] ∧ s.generation ≤ (update s m).1.generation) ∨
      (started (update s m).2 = [s.generation + 1] ∧
        (update s m).1.generation = s.generation + 1) := by
  have step := step_update s m
  generalize (update s m).1 = s', (update s m).2 = effects at step
  cases step with
  | starts => exact .inr ⟨rfl, rfl⟩
  | restarts => exact .inr ⟨rfl, rfl⟩
  | stops => exact .inl ⟨rfl, Nat.le_succ _⟩
  | _ => exact .inl ⟨rfl, Nat.le_refl _⟩

theorem started_run (ms : List (Msg κ τ)) :
    ∀ s : State κ τ, (∀ g ∈ started (run s ms).2, s.generation < g) ∧
      (started (run s ms).2).Pairwise (· < ·) := by
  induction ms with
  | nil =>
    intro s
    simp [run, started]
  | cons m ms ih =>
    intro s
    obtain ⟨later, sorted⟩ := ih (update s m).1
    have whole : started (run s (m :: ms)).2 =
        started (update s m).2 ++ started (run (update s m).1 ms).2 := started_append _ _
    rw [whole]
    rcases started_update s m with ⟨none_, le⟩ | ⟨one, next⟩
    · rw [none_, List.nil_append]
      exact ⟨fun g member => Nat.lt_of_le_of_lt le (later g member), sorted⟩
    · rw [one, List.singleton_append]
      rw [next] at later
      refine ⟨?_, List.pairwise_cons.mpr ⟨later, sorted⟩⟩
      intro g member
      rcases List.mem_cons.mp member with rfl | member
      · exact Nat.lt_succ_self _
      · have := later g member
        omega

theorem disciplined_of_after {effects : List (Effect κ τ)} {p : Phase}
    (moved : Phase.resting.after effects = some p) (settled : p ≠ .closing)
    (ascends : (started effects).Pairwise (· < ·)) : Disciplined effects := by
  -- Every clause is about one effect, and the phases on both sides of it say all of it.
  have split : ∀ before (e : Effect κ τ) after, effects = before ++ e :: after →
      ∃ q r, Phase.resting.after before = some q ∧ q.next e = some r ∧ r.after after = some p := by
    rintro before e after rfl
    obtain ⟨q, first, rest⟩ := Phase.after_append moved
    obtain ⟨r, now, later⟩ := Phase.after_cons rest
    exact ⟨q, r, first, now, later⟩
  constructor
  case ascends => exact ascends
  case starts =>
    intro before generation key after whole
    obtain ⟨q, r, first, now, _⟩ := split before _ after whole
    rw [Phase.running_eq first]
    cases q with
    | resting => rfl
    | halted => rfl
    | _ => cases now
  case publishes =>
    intro before value after whole
    obtain ⟨q, r, first, now, _⟩ := split before _ after whole
    rw [Phase.running_eq first]
    cases q with
    | following => rfl
    | _ => cases now
  case closes =>
    intro before value after whole final
    obtain ⟨q, r, _, now, later⟩ := split before _ after whole
    have closing : r = .closing := by
      cases q with
      | following => simpa [Phase.next, final] using now.symm
      | _ => cases now
    subst closing
    exact Phase.closing_after later settled
  case reports =>
    intro before message after whole
    obtain ⟨q, r, first, now, _⟩ := split before _ after whole
    cases q with
    | halted => exact Phase.halted_after first
    | _ => cases now
  case silent =>
    intro before word between later after whole last unstarted
    obtain ⟨q, r, _, now, rest⟩ := split before word _ whole
    obtain ⟨q', behind, rest⟩ := Phase.after_append rest
    obtain ⟨_, then_, _⟩ := Phase.after_cons rest
    have silent := Phase.isSilent_next now (.inl last)
    exact Phase.quiet_next then_ (Phase.isSilent_after unstarted silent behind)

/-- Whatever the messages, and however late or often answers come: the effects come in order, and
the view says whether the poll that was started last is running. -/
theorem effects_disciplined (ms : List (Msg κ τ)) :
    Disciplined (run {} ms).2 ∧ (run {} ms).1.view.polling = running (run {} ms).2 := by
  have first : Fits ({} : State κ τ) .resting := ⟨by simp, rfl⟩
  obtain ⟨p, moved, settled, polling⟩ := fits_run ms first
  constructor
  · exact disciplined_of_after moved settled (started_run ms {}).2
  · show (run {} ms).1.polling = _
    rw [polling, Phase.running_eq moved]

end TranscodeConsole.Tracking
