import TranscodeConsole.Proofs.Tracking.Step

/-!
A tracker and every fetch that was ever made for it. A poll fetches as often as it likes, for the
key that it was started with; answers come back whenever they do, in any order and more than once,
under the generation of their poll. What the tracker shows is always of the key it was turned to
last.
-/
namespace TranscodeConsole.Tracking

/-- A poll, and each fetch that it makes: it has nothing else to say of where an answer belongs. -/
structure Fetch (κ : Type) where
  generation : Nat
  key : κ
  deriving DecidableEq, Repr

inductive Deed (κ τ : Type) where
  | started (poll : Fetch κ)
  | published (origin : Option (Fetch κ)) (value : τ)
  deriving DecidableEq, Repr

namespace Deed

variable {κ τ : Type}

def session (log : List (Deed κ τ)) : Option (Fetch κ) :=
  log.foldl (fun known deed => match deed with
    | .started poll => some poll
    | .published .. => known) none

/-- What was published since a poll was started last, and on which answer. -/
def shown (log : List (Deed κ τ)) : List (Option (Fetch κ) × τ) :=
  log.foldl (fun seen deed => match deed with
    | .started _ => []
    | .published origin value => seen ++ [(origin, value)]) []

@[simp] theorem session_started (log : List (Deed κ τ)) (poll : Fetch κ) :
    session (log ++ [.started poll]) = some poll := by
  simp [session]

@[simp] theorem session_published (log : List (Deed κ τ)) (origin : Option (Fetch κ)) (value : τ) :
    session (log ++ [.published origin value]) = session log := by
  simp [session]

@[simp] theorem shown_started (log : List (Deed κ τ)) (poll : Fetch κ) :
    shown (log ++ [.started poll]) = [] := by
  simp [shown]

@[simp] theorem shown_published (log : List (Deed κ τ)) (origin : Option (Fetch κ)) (value : τ) :
    shown (log ++ [.published origin value]) = shown log ++ [(origin, value)] := by
  simp [shown]

end Deed

structure Pursuit (κ τ : Type) where
  state : State κ τ := {}
  polls : List (Fetch κ) := []
  fetches : List (Fetch κ) := []
  answers : List (Fetch κ × Except String τ) := []
  log : List (Deed κ τ) := []

inductive Move (κ τ : Type) where
  | track (key : κ)
  | stop
  | fetch (poll : Nat)
  | answer (fetch : Nat) (result : Except String τ)

def Fetch.msg {κ τ : Type} (f : Fetch κ) : Except String τ → Msg κ τ
  | .ok value => .refreshed f.generation value
  | .error message => .failed f.generation message

namespace Pursuit

variable {κ τ : Type}

def carryOut (origin : Option (Fetch κ)) (p : Pursuit κ τ) : Effect κ τ → Pursuit κ τ
  | .startPolling generation key =>
    { p with
      polls := p.polls ++ [⟨generation, key⟩], log := p.log ++ [.started ⟨generation, key⟩] }
  | .publish value => { p with log := p.log ++ [.published origin value] }
  | .stopPolling | .reportFailure _ => p

theorem carryOut_keeps (origin : Option (Fetch κ)) (effects : List (Effect κ τ)) :
    ∀ p : Pursuit κ τ, (effects.foldl (carryOut origin) p).state = p.state ∧
      ∀ poll : Fetch κ, poll ∈ p.polls ∨ .startPolling poll.generation poll.key ∈ effects →
        poll ∈ (effects.foldl (carryOut origin) p).polls := by
  induction effects with
  | nil => simp
  | cons effect effects ih =>
    intro p
    obtain ⟨state, polls⟩ := ih (carryOut origin p effect)
    rw [List.foldl_cons]
    constructor
    · rw [state]
      cases effect <;> rfl
    · intro poll known
      apply polls
      rcases known with old | started
      · left
        cases effect with
        | startPolling => exact List.mem_append_left _ old
        | _ => exact old
      · rcases List.mem_cons.mp started with here | later
        · subst here
          left
          exact List.mem_append_right _ (List.mem_singleton.mpr rfl)
        · exact .inr later

variable [LiveResource τ]

def hear (origin : Option (Fetch κ)) (m : Msg κ τ) (p : Pursuit κ τ) : Pursuit κ τ :=
  let (state, effects) := update p.state m
  effects.foldl (carryOut origin) { p with state }

def step (p : Pursuit κ τ) : Move κ τ → Pursuit κ τ
  | .track key => p.hear none (.track key)
  | .stop => p.hear none .stop
  | .fetch i => match p.polls[i]? with
    | some poll => { p with fetches := p.fetches ++ [poll] }
    | none => p
  | .answer i result => match p.fetches[i]? with
    | some f => { p with answers := p.answers ++ [(f, result)] }.hear (some f) (f.msg result)
    | none => p

def run (p : Pursuit κ τ) (moves : List (Move κ τ)) : Pursuit κ τ := moves.foldl step p

theorem hear_keeps (origin : Option (Fetch κ)) (m : Msg κ τ) (p : Pursuit κ τ) :
    (p.hear origin m).state = (update p.state m).1 ∧
      ∀ poll : Fetch κ, poll ∈ p.polls ∨
        .startPolling poll.generation poll.key ∈ (update p.state m).2 →
          poll ∈ (p.hear origin m).polls :=
  carryOut_keeps origin (update p.state m).2 { p with state := (update p.state m).1 }

/-- A fetch of the present session, answered with this value. -/
structure Own (p : Pursuit κ τ) (f : Fetch κ) (value : τ) : Prop where
  session : Deed.session p.log = some f
  key : p.state.view.key = some f.key
  fetched : f ∈ p.fetches
  answered : (f, .ok value) ∈ p.answers

structure Traced (p : Pursuit κ τ) : Prop where
  polls_le : ∀ poll ∈ p.polls, poll.generation ≤ p.state.generation
  present : ∀ poll ∈ p.polls, poll.generation = p.state.generation →
    Deed.session p.log = some poll ∧ p.state.key = some poll.key
  fetches : ∀ f ∈ p.fetches, f ∈ p.polls
  keyed : p.state.polling = true → p.state.key.isSome = true
  latest : p.state.latest = (Deed.shown p.log).getLast?.map (·.2)
  refreshes : p.state.refreshes = (Deed.shown p.log).length
  own : ∀ origin value, (origin, value) ∈ Deed.shown p.log →
    ∃ f, origin = some f ∧ p.Own f value
  open_ : p.state.polling = true → ∀ value, p.state.latest = some value →
    LiveResource.isFinal value = false

theorem traced_new : ({} : Pursuit κ τ).Traced := by
  constructor <;> simp [Deed.shown]

variable {p : Pursuit κ τ}

theorem Traced.fetched (traced : p.Traced) {poll : Fetch κ} (known : poll ∈ p.polls) :
    ({ p with fetches := p.fetches ++ [poll] } : Pursuit κ τ).Traced := by
  refine { traced with fetches := ?_, own := ?_ }
  · intro f member
    rcases List.mem_append.mp member with old | new
    · exact traced.fetches f old
    · rw [List.mem_singleton.mp new]
      exact known
  · intro origin value member
    obtain ⟨f, same, session, key, fetched, answered⟩ := traced.own origin value member
    exact ⟨f, same, session, key, List.mem_append_left _ fetched, answered⟩

theorem Traced.answered (traced : p.Traced) (answer : Fetch κ × Except String τ) :
    ({ p with answers := p.answers ++ [answer] } : Pursuit κ τ).Traced := by
  refine { traced with own := ?_ }
  intro origin value member
  obtain ⟨f, same, session, key, fetched, answered⟩ := traced.own origin value member
  exact ⟨f, same, session, key, fetched, List.mem_append_left _ answered⟩

theorem Traced.turned (traced : p.Traced) (key : κ) :
    ({ p with
      state := p.state.turnedTo key
      polls := p.polls ++ [⟨p.state.generation + 1, key⟩]
      log := p.log ++ [.started ⟨p.state.generation + 1, key⟩] } : Pursuit κ τ).Traced := by
  have older : ∀ poll ∈ p.polls, poll.generation < p.state.generation + 1 := fun poll member =>
    Nat.lt_succ_of_le (traced.polls_le poll member)
  constructor
  case polls_le =>
    intro poll member
    rcases List.mem_append.mp member with old | new
    · exact Nat.le_of_lt (older poll old)
    · rw [List.mem_singleton.mp new]
      exact Nat.le_refl _
  case present =>
    intro poll member same
    rcases List.mem_append.mp member with old | new
    · exact absurd same (Nat.ne_of_lt (older poll old))
    · rw [List.mem_singleton.mp new]
      exact ⟨Deed.session_started _ _, rfl⟩
  case fetches =>
    intro f member
    exact List.mem_append_left _ (traced.fetches f member)
  all_goals simp [State.turnedTo]

theorem Traced.stopped (traced : p.Traced) {state : State κ τ}
    (later : p.state.generation ≤ state.generation) (idle : state.polling = false)
    (key : state.key = p.state.key) (latest : state.latest = p.state.latest)
    (refreshes : state.refreshes = p.state.refreshes) :
    ({ p with state } : Pursuit κ τ).Traced := by
  constructor
  case polls_le =>
    intro poll member
    exact Nat.le_trans (traced.polls_le poll member) later
  case present =>
    intro poll member same
    have le := traced.polls_le poll member
    have same : poll.generation = state.generation := same
    obtain ⟨session, keyed⟩ := traced.present poll member (by omega)
    exact ⟨session, key.trans keyed⟩
  case fetches => exact traced.fetches
  case keyed => simp [idle]
  case latest => exact latest.trans traced.latest
  case refreshes => exact refreshes.trans traced.refreshes
  case own =>
    intro origin value member
    obtain ⟨f, same, session, keyed, fetched, answered⟩ := traced.own origin value member
    exact ⟨f, same, session, key.trans keyed, fetched, answered⟩
  case open_ => simp [idle]

theorem Traced.shown (traced : p.Traced) {f : Fetch κ} {value : τ} (fetched : f ∈ p.fetches)
    (answered : (f, .ok value) ∈ p.answers) (present : f.generation = p.state.generation)
    {polling : Bool} (goesOn : polling = true → LiveResource.isFinal value = false) :
    ({ p with
      state := p.state.shows value polling
      log := p.log ++ [.published (some f) value] } : Pursuit κ τ).Traced := by
  obtain ⟨session, key⟩ := traced.present f (traced.fetches f fetched) present
  constructor
  case polls_le => exact traced.polls_le
  case present =>
    intro poll member same
    rw [Deed.session_published]
    exact traced.present poll member same
  case fetches => exact traced.fetches
  case keyed => simp [State.shows, key]
  case latest => simp [State.shows]
  case refreshes => simp [State.shows, traced.refreshes]
  case own =>
    intro origin shown member
    rw [Deed.shown_published] at member
    rcases List.mem_append.mp member with old | new
    · obtain ⟨g, same, sessionG, keyed, fetchedG, answeredG⟩ := traced.own origin shown old
      exact ⟨g, same, by rw [Deed.session_published]; exact sessionG, keyed, fetchedG, answeredG⟩
    · cases List.mem_singleton.mp new
      exact ⟨f, rfl, by rw [Deed.session_published]; exact session, key, fetched, answered⟩
  case open_ =>
    intro on shown latest
    cases latest
    exact goesOn on

theorem traced_answer (traced : p.Traced) {f : Fetch κ} (fetched : f ∈ p.fetches)
    (result : Except String τ) :
    (({ p with answers := p.answers ++ [(f, result)] } : Pursuit κ τ).hear (some f)
      (f.msg result)).Traced := by
  have known := traced.answered (f, result)
  have answered : (f, result) ∈ p.answers ++ [(f, result)] := by simp
  have step := step_update p.state (f.msg result)
  unfold hear
  simp only
  generalize p.answers ++ [(f, result)] = answers at known answered
  generalize heard : f.msg result = m at step
  generalize update p.state m = outcome at step
  obtain ⟨state, effects⟩ := outcome
  simp only at step
  cases step with
  | ignores => exact known
  | publishes polling more =>
    cases result with
    | error message => cases heard
    | ok value =>
      injection heard with present same
      subst same
      exact known.shown fetched answered present fun _ => more
  | finishes polling final =>
    cases result with
    | error message => cases heard
    | ok value =>
      injection heard with present same
      subst same
      exact known.shown fetched answered present (by simp)
  | fails polling => exact known.stopped (Nat.le_refl _) rfl rfl rfl rfl
  | starts => cases result <;> cases heard
  | restarts => cases result <;> cases heard
  | stops => cases result <;> cases heard

theorem traced_track (traced : p.Traced) (key : κ) : (p.hear none (.track key)).Traced := by
  have step := step_update p.state (.track key)
  unfold hear
  generalize update p.state (.track key) = outcome at step
  obtain ⟨state, effects⟩ := outcome
  cases step with
  | starts => exact traced.turned key
  | restarts => exact traced.turned key
  | ignores => exact traced

theorem traced_stop (traced : p.Traced) : (p.hear none .stop).Traced :=
  traced.stopped (Nat.le_succ _) rfl rfl rfl rfl

theorem traced_step (traced : p.Traced) (move : Move κ τ) : (p.step move).Traced := by
  cases move with
  | track key => exact traced_track traced key
  | stop => exact traced_stop traced
  | fetch i =>
    simp only [step]
    split
    · rename_i poll known
      exact traced.fetched (List.mem_of_getElem? known)
    · exact traced
  | answer i result =>
    simp only [step]
    split
    · rename_i f known
      exact traced_answer traced (List.mem_of_getElem? known) result
    · exact traced

theorem traced_run (traced : p.Traced) (moves : List (Move κ τ)) : (p.run moves).Traced := by
  induction moves generalizing p with
  | nil => exact traced
  | cons move moves ih => exact ih (traced_step traced move)

/-- What is shown is the value published last in the present session, on the answer to a fetch that
this session made for the key it is about. -/
theorem shows_present_key (moves : List (Move κ τ)) :
    let p : Pursuit κ τ := run {} moves
    (∀ value, p.state.view.latest = some value →
      ∃ f, (Deed.shown p.log).getLast? = some (some f, value) ∧ p.Own f value) ∧
    p.state.view.refreshes = (Deed.shown p.log).length ∧
    (p.state.view.polling = true → p.state.view.key.isSome = true ∧
      ∀ value, p.state.view.latest = some value → LiveResource.isFinal value = false) := by
  intro p
  have traced : p.Traced := traced_run traced_new moves
  refine ⟨?_, traced.refreshes, fun polling => ⟨traced.keyed polling, traced.open_ polling⟩⟩
  intro value latest
  have mapped : (Deed.shown p.log).getLast?.map (·.2) = some value :=
    traced.latest.symm.trans latest
  obtain ⟨⟨origin, shown⟩, last, rfl⟩ := Option.map_eq_some_iff.mp mapped
  obtain ⟨f, rfl, own⟩ := traced.own origin shown (List.mem_of_getLast? last)
  exact ⟨f, last, own⟩

end Pursuit
end TranscodeConsole.Tracking
