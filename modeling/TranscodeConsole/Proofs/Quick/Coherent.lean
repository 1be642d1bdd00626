import TranscodeConsole.Proofs.Quick.Course

/-!
How the three tasks of a quick transcode stand to each other, between any two of their steps.
-/
namespace TranscodeConsole.QuickTranscode

open Rehearsal.Quick (eventMsg analysisMsg createdMsg uploadedMsg)

/-- What the poll is still going to tell the observer. -/
def PollStand.untold : PollStand → List (TrackEvent JobSnapshot)
  | .telling effects => effects.filterMap eventOf
  | .ticking | .fetching | .gone => []

def ObserverStand.unheard : ObserverStand → List (TrackEvent JobSnapshot)
  | .hearing event => [event]
  | .waiting | .fetching _ => []

def Observer.duties (o : Observer) : List Effect :=
  match o.stand with
  | .fetching result => .fetchAnalysis result :: o.queue
  | .waiting | .hearing _ => o.queue

def Front.duties : Front → List Effect
  | .working queue => queue
  | .calling effect queue => effect :: queue
  | .looking | .judging _ | .ended _ => []

inductive Observes (s : State) : List Effect → Prop where
  | nothing : Observes s []
  | asks {result : Uuid} (named : s.observed = some result) : Observes s [.fetchAnalysis result]
  | stops (halted : s.halted = true) : Observes s [.stopTracking]

inductive Agenda (s : State) : Bool → List Effect → Prop where
  | creating {template : Uuid} (phase : s.phase = .uploading) : Agenda s false [.createJob template]
  | starting {job : Uuid} : Agenda s false [.startTracking job, .upload job]
  | uploading {job : Uuid} : Agenda s true [.upload job]
  | stopping {tracked : Bool} (halted : s.halted = true) : Agenda s tracked [.stopTracking]
  | done {tracked : Bool} (known : tracked = true ∨ s.halted = true ∨ s.phase = .idle) :
      Agenda s tracked []

namespace Observes

variable {s after : State} {duties : List Effect}

theorem onward (observes : Observes s duties) (onward : s.Onward after)
    (same : after.observed = s.observed) : Observes after duties := by
  cases observes with
  | nothing => exact .nothing
  | asks named => exact .asks (same.trans named)
  | stops halted => exact .stops (onward.halted halted)

theorem of_event (s : State) (event : TrackEvent JobSnapshot) :
    Observes (update s (eventMsg event)).1 (update s (eventMsg event)).2 := by
  cases event with
  | failed message => exact .stops rfl
  | refreshed snapshot =>
    rcases asks_update s snapshot.status snapshot.analysisResult with none_ | ⟨result, asks, named⟩
    · rw [eventMsg, none_]
      exact .nothing
    · rw [eventMsg, asks]
      exact .asks named

theorem of_analysis (s : State) (result : Uuid)
    (answer : Except ServiceError (Option FileFormat)) :
    Observes (update s (analysisMsg result answer)).1 (update s (analysisMsg result answer)).2 := by
  match answer with
  | .ok (some info) =>
    rw [analysisMsg, effects_analysisLoaded]
    exact .nothing
  | .ok none =>
    rw [analysisMsg, effects_analysisUnavailable]
    exact .nothing
  | .error e => exact .stops rfl

end Observes

namespace Relay

def unheard (r : Relay) : List (TrackEvent JobSnapshot) :=
  r.observer.elim [] (·.stand.unheard) ++ r.tracker.events ++ r.poll.elim [] (·.stand.untold)

def statuses (r : Relay) : List JobStatus :=
  r.state.jobStatus.toList ++ r.unheard.filterMap eventStatus?

/-- The status of the snapshot that the tracker accepted last. -/
def accepted (r : Relay) : Option JobStatus := r.tracker.state.latest.map (·.status)

/-- Why a job is not followed any more. -/
def Closed (r : Relay) : Prop :=
  r.state.halted = true ∨
    (∃ snapshot, r.tracker.state.latest = some snapshot ∧ snapshot.status.isFinal = true) ∨
    ∃ message, .failed message ∈ r.unheard

structure Coherent (r : Relay) : Prop where
  agenda : Agenda r.state r.observer.isSome r.front.duties
  observes : ∀ o, r.observer = some o → Observes r.state o.duties
  early : r.observer = none → r.state.jobStatus = none ∧ r.poll = none
  told : r.observer.isSome = true → r.tracker.observed = true
  course : Course r.tracker.state r.statuses
  closed : r.observer.isSome = true → r.tracker.state.polling = false → r.Closed
  found : r.found ≠ [] → r.state.halted = true ∨ r.state.phase = .analysisReady
  looked : ∀ view status, r.front = .judging view → view.jobStatus = some status →
    status.isFinal = true → r.accepted = some status

variable {r : Relay}

theorem Coherent.tracked (c : r.Coherent) {p : JobPoll} (polls : r.poll = some p) :
    r.observer.isSome = true := by
  cases observer : r.observer with
  | some o => rfl
  | none =>
    have idle := (c.early observer).2
    rw [polls] at idle
    cases idle

theorem Coherent.handsOn (c : r.Coherent) {after : Relay} (state : after.state = r.state)
    (tracker : after.tracker.state = r.tracker.state)
    (told : after.tracker.observed = r.tracker.observed)
    (unheard : after.unheard = r.unheard) (found : after.found = r.found)
    (front : after.front = r.front) (poll : after.poll.isSome = r.poll.isSome)
    (duties : after.observer.map Observer.duties = r.observer.map Observer.duties) :
    after.Coherent := by
  have tracked : after.observer.isSome = r.observer.isSome := by
    simpa using congrArg Option.isSome duties
  constructor
  case agenda =>
    rw [state, tracked, front]
    exact c.agenda
  case observes =>
    intro o here
    rw [here] at duties
    obtain ⟨p, there, same⟩ := Option.map_eq_some_iff.mp duties.symm
    rw [state, ← same]
    exact c.observes p there
  case early =>
    intro none_
    have early := c.early (by simpa [none_] using tracked.symm)
    rw [state]
    refine ⟨early.1, ?_⟩
    simpa [early.2] using poll
  case told =>
    rw [tracked, told]
    exact c.told
  case course =>
    rw [statuses, state, tracker, unheard]
    exact c.course
  case closed =>
    rw [tracked, tracker, Closed, state, tracker, unheard]
    exact c.closed
  case found =>
    rw [found, state]
    exact c.found
  case looked =>
    rw [front, accepted, tracker]
    exact c.looked

theorem Coherent.goesOn (c : r.Coherent) {after : Relay} (front : after.front = r.front)
    (tracked : r.observer.isSome = true) (tracked' : after.observer.isSome = true)
    (onward : r.state.Onward after.state)
    (observes : ∀ o, after.observer = some o → Observes after.state o.duties)
    (told : after.tracker.observed = r.tracker.observed)
    (course : Course after.tracker.state after.statuses)
    (closed : after.tracker.state.polling = false → after.Closed)
    (found : after.found ≠ [] → after.state.halted = true ∨ after.state.phase = .analysisReady)
    (accepted : r.tracker.state.polling = false → after.accepted = r.accepted) :
    after.Coherent := by
  constructor
  case agenda =>
    have agenda := c.agenda
    rw [tracked] at agenda
    rw [tracked', front]
    generalize r.front.duties = duties at agenda
    cases agenda with
    | uploading => exact .uploading
    | stopping halted => exact .stopping (onward.halted halted)
    | done => exact .done (.inl rfl)
  case observes => exact observes
  case early => exact fun none_ => by simp [none_] at tracked'
  case told => exact fun _ => told.trans (c.told tracked)
  case course => exact course
  case closed => exact fun _ => closed
  case found => exact found
  case looked =>
    intro view status judging seen final
    have latest := c.looked view status (front.symm.trans judging) seen final
    rw [accepted (c.course.unfollowed latest final)]
    exact latest

/-! ### The poll -/

theorem Coherent.fetch (c : r.Coherent) : r.fetch.Coherent := by
  unfold Relay.fetch
  split
  · rename_i poll here
    apply c.handsOn <;> simp [unheard, here, PollStand.untold]
  · exact c

theorem Coherent.leave (c : r.Coherent) : r.leave.Coherent := by
  unfold Relay.leave
  split
  · rename_i poll here
    split
    · apply c.handsOn <;> simp [unheard, here, PollStand.untold]
    · exact c
  · rename_i poll here
    split
    · apply c.handsOn <;> simp [unheard, here, PollStand.untold]
    · exact c
  · exact c

theorem Coherent.status (c : r.Coherent) (answer : Except ServiceError JobSnapshot) :
    (r.status answer).Coherent := by
  unfold Relay.status
  split
  · rename_i poll here
    have answered := answered_update r.tracker.state poll answer
    generalize Tracking.update r.tracker.state (statusMsg poll answer) = outcome at answered
    obtain ⟨state, effects⟩ := outcome
    let after : Relay :=
      { r with tracker := { r.tracker with state }, poll := some ⟨poll, .telling effects⟩ }
    have unheard : after.unheard = r.unheard ++ effects.filterMap eventOf := by
      simp [after, Relay.unheard, here, PollStand.untold]
    show after.Coherent
    refine c.goesOn rfl (c.tracked here) (c.tracked here) ⟨id, id⟩ c.observes rfl
      ?_ ?_ c.found ?_
    · rw [statuses, unheard, List.filterMap_append, ← List.append_assoc]
      exact answered.course c.course
    · intro closed
      rw [Closed, unheard]
      rcases answered.closed closed with ⟨before, latest⟩ | final | ⟨message, failed⟩
      · rcases c.closed (c.tracked here) before with halted | final | ⟨message, failed⟩
        · exact .inl halted
        · exact .inr (.inl (by rw [← latest] at final; exact final))
        · exact .inr (.inr ⟨message, List.mem_append_left _ failed⟩)
      · exact .inr (.inl final)
      · exact .inr (.inr ⟨message, List.mem_append_right _ failed⟩)
    · intro before
      exact congrArg (Option.map _) (answered.kept before)
  · exact c

theorem Coherent.tell (c : r.Coherent) : r.tell.Coherent := by
  unfold Relay.tell
  split
  · rename_i poll effect effects here
    have told := c.told (c.tracked here)
    cases effect <;> apply c.handsOn <;>
      simp [unheard, here, PollStand.untold, List.filterMap_cons, eventOf, Tracker.runAnswer,
        Tracker.notify, told]
  · rename_i poll here
    apply c.handsOn <;> simp [unheard, here, PollStand.untold]
  · exact c

/-! ### The observer -/

theorem Coherent.take (c : r.Coherent) : r.take.Coherent := by
  unfold Relay.take
  split
  · rename_i stopper event events here ready
    apply c.handsOn <;> simp [unheard, here, ready, ObserverStand.unheard, Observer.duties]
  · exact c

theorem Coherent.hear (c : r.Coherent) : r.hear.Coherent := by
  unfold Relay.hear
  split
  · rename_i stopper event queue here
    have tracked : r.observer.isSome = true := by rw [here]; rfl
    have onward : (eventMsg event).isOnward = true := by cases event <;> rfl
    have turned := onward_update r.state onward
    have status := jobStatus_update r.state onward
    have observes := Observes.of_event r.state event
    have frozen : ∀ message, event = .failed message →
        (update r.state (eventMsg event)).1.halted = true := by
      intro message failed
      rw [failed]
      rfl
    generalize update r.state (eventMsg event) = outcome at turned status observes frozen
    obtain ⟨state, effects⟩ := outcome
    let after : Relay := { r with state, observer := some ⟨stopper, .waiting, effects⟩ }
    have unheard : r.unheard = event :: after.unheard := by
      simp [after, Relay.unheard, here, ObserverStand.unheard]
    show after.Coherent
    refine c.goesOn rfl tracked rfl turned ?_ rfl ?_ ?_ ?_ fun _ => rfl
    · rintro o ⟨⟩
      exact observes
    · have course := c.course
      rw [statuses, unheard] at course
      rw [statuses, show after.state.jobStatus = _ from status]
      cases event with
      | failed message => exact course
      | refreshed snapshot => exact course.passes
    · intro closed
      rcases c.closed tracked closed with halted | final | ⟨message, failed⟩
      · exact .inl (turned.halted halted)
      · exact .inr (.inl final)
      · rw [unheard] at failed
        rcases List.mem_cons.mp failed with now | later
        · exact .inl (frozen message now.symm)
        · exact .inr (.inr ⟨message, later⟩)
    · intro found
      exact (c.found found).imp turned.halted turned.ready
  · exact c

theorem Coherent.stops (c : r.Coherent) {tracker : Tracker Uuid JobSnapshot}
    (state : tracker.state = (Tracking.update r.tracker.state .stop).1)
    (told : tracker.observed = r.tracker.observed) (events : tracker.events = r.tracker.events)
    (halted : r.state.halted = true) : ({ r with tracker } : Relay).Coherent := by
  have latest : tracker.state.latest = r.tracker.state.latest := congrArg (·.latest) state
  constructor
  case agenda => exact c.agenda
  case observes => exact c.observes
  case early => exact c.early
  case told => exact fun tracked => told.trans (c.told tracked)
  case course =>
    have course := c.course.closes latest (congrArg (·.polling) state)
    rw [statuses, unheard] at course ⊢
    rw [events]
    exact course
  case closed => exact fun _ _ => .inl halted
  case found => exact c.found
  case looked =>
    intro view status judging seen final
    rw [accepted, latest]
    exact c.looked view status judging seen final

theorem Coherent.relieved (c : r.Coherent) {stopper : Stopper} {queue : List Effect}
    (here : r.observer = some ⟨stopper, .waiting, queue⟩) :
    ({ r with observer := some ⟨stopper, .waiting, []⟩ } : Relay).Coherent := by
  have same :
      ({ r with observer := some ⟨stopper, .waiting, []⟩ } : Relay).unheard = r.unheard := by
    simp [unheard, here, ObserverStand.unheard]
  have tracked : r.observer.isSome = true := by rw [here]; rfl
  refine c.goesOn rfl tracked rfl ⟨id, id⟩ ?_ rfl ?_ ?_ c.found fun _ => rfl
  · rintro o ⟨⟩
    exact .nothing
  · rw [statuses, same]
    exact c.course
  · rw [Closed, same]
    exact c.closed tracked

theorem Coherent.attend (c : r.Coherent) : r.attend.Coherent := by
  unfold Relay.attend
  split
  · rename_i stopper result queue here
    apply c.handsOn <;> simp [unheard, here, ObserverStand.unheard, Observer.duties]
  · rename_i stopper queue here
    have observes : Observes r.state (.stopTracking :: queue) := c.observes _ here
    cases observes with
    | stops halted =>
      exact (c.stops (stopper.state_stop r.tracker) (stopper.observed_stop r.tracker)
        (stopper.events_stop r.tracker) halted).relieved here
  · rename_i stopper effect queue asks stops here
    have observes : Observes r.state (effect :: queue) := c.observes _ here
    cases observes with
    | asks => exact absurd rfl (asks _)
    | stops => exact absurd rfl stops
  · exact c

theorem Coherent.analysis (c : r.Coherent) (answer : Except ServiceError (Option FileFormat)) :
    (r.analysis answer).Coherent := by
  unfold Relay.analysis
  split
  · rename_i stopper result queue here
    have tracked : r.observer.isSome = true := by rw [here]; rfl
    have observes : Observes r.state (.fetchAnalysis result :: queue) := c.observes _ here
    cases observes with
    | asks named =>
      have onward : (analysisMsg result answer).isOnward = true := by
        unfold analysisMsg
        split <;> rfl
      have silent : (analysisMsg result answer).status? = none := by
        unfold analysisMsg
        split <;> rfl
      have turned := onward_update r.state onward
      have status := jobStatus_update r.state onward
      have observes := Observes.of_analysis r.state result answer
      have found : (answer.toOption.bind id).toList.map (result, ·) ≠ [] →
          (update r.state (analysisMsg result answer)).1.halted = true ∨
            (update r.state (analysisMsg result answer)).1.phase = .analysisReady := by
        match answer with
        | .ok (some info) => exact fun _ => loaded_update named info
        | .ok none => exact fun nothing => absurd rfl nothing
        | .error e => exact fun nothing => absurd rfl nothing
      generalize update r.state (analysisMsg result answer) = outcome
        at turned status observes found
      obtain ⟨state, effects⟩ := outcome
      generalize (answer.toOption.bind id).toList.map (result, ·) = new at found ⊢
      rw [silent] at status
      let after : Relay := { r with
        state, observer := some ⟨stopper, .waiting, [] ++ effects⟩, found := r.found ++ new }
      have unheard : after.unheard = r.unheard := by
        simp [after, Relay.unheard, here, ObserverStand.unheard]
      show after.Coherent
      refine c.goesOn rfl tracked rfl turned ?_ rfl ?_ ?_ ?_ fun _ => rfl
      · rintro o ⟨⟩
        exact observes
      · rw [statuses, unheard, show after.state.jobStatus = _ from status]
        exact c.course
      · intro closed
        rw [Closed, unheard]
        exact (c.closed tracked closed).imp_left turned.halted
      · intro some_
        by_cases nothing : new = []
        · subst nothing
          have before : r.found ≠ [] := by simpa [after] using some_
          exact (c.found before).imp turned.halted turned.ready
        · exact found nothing
  · exact c

/-! ### The command -/

theorem Coherent.fronts (c : r.Coherent) {state : State} {front : Front} {shown printed : String}
    (onward : r.state.Onward state) (status : state.jobStatus = r.state.jobStatus)
    (observed : state.observed = r.state.observed)
    (agenda : Agenda state r.observer.isSome front.duties)
    (looked : ∀ view, front = .judging view → view.jobStatus = state.jobStatus) :
    ({ r with state, front, shown, printed } : Relay).Coherent := by
  constructor
  case agenda => exact agenda
  case observes => exact fun o here => (c.observes o here).onward onward observed
  case early => exact fun none_ => ⟨status.trans (c.early none_).1, (c.early none_).2⟩
  case told => exact c.told
  case course =>
    show Course _ (state.jobStatus.toList ++ r.unheard.filterMap eventStatus?)
    rw [status]
    exact c.course
  case closed => exact fun tracked closed => (c.closed tracked closed).imp_left onward.halted
  case found => exact fun some_ => (c.found some_).imp onward.halted onward.ready
  case looked =>
    intro view known judging seen final
    have seen : r.state.jobStatus = some known := by
      rw [← status, ← looked view judging, seen]
    apply c.course.final known _ final
    simp [statuses, seen]

theorem startTracking_eq (r : Relay) (job : Uuid) (queue : List Effect) :
    ∃ (poll : TrackedPoll Uuid) (tracker : Tracker Uuid JobSnapshot) (stopper : Stopper),
      r.startTracking job queue = { r with
        tracker, poll := some ⟨poll, .ticking⟩, observer := some { stopper }
        front := .working queue } ∧
      tracker.observed = true ∧ tracker.events = [] ∧
        tracker.state = ({} : Tracking.State Uuid JobSnapshot).turnedTo job :=
  ⟨_, _, _, rfl, rfl, rfl, rfl⟩

theorem Coherent.startTracking (c : r.Coherent) {job : Uuid} {queue : List Effect}
    (front : r.front = .working (.startTracking job :: queue)) :
    (r.startTracking job queue).Coherent := by
  have agenda := c.agenda
  rw [front, Front.duties] at agenda
  generalize tracked : r.observer.isSome = known at agenda
  cases agenda with
  | starting =>
    have early := c.early (by simpa using tracked)
    obtain ⟨poll, tracker, stopper, started, told, events, state⟩ :=
      startTracking_eq r job [.upload job]
    rw [started]
    constructor
    case agenda => exact .uploading
    case observes =>
      rintro o ⟨⟩
      exact .nothing
    case early => rintro ⟨⟩
    case told => exact fun _ => told
    case course =>
      -- nothing of the job is known yet, and nothing is on its way
      rw [statuses, early.1, unheard, events, state]
      constructor
      · rfl
      · rintro _ _ ⟨⟩
      · rintro _ ⟨⟩
    case closed =>
      intro _ closed
      rw [state] at closed
      cases closed
    case found => exact c.found
    case looked => exact fun _ _ judging => nomatch judging

theorem Coherent.work (c : r.Coherent) : r.work.Coherent := by
  have agenda := c.agenda
  unfold Relay.work
  split
  · rename_i front
    rw [front] at agenda
    exact c.fronts ⟨id, id⟩ rfl rfl agenda (by rintro _ ⟨⟩)
  · rename_i job queue front
    exact c.startTracking front
  · rename_i queue front
    rw [front, Front.duties] at agenda
    generalize tracked : r.observer.isSome = known at agenda
    cases agenda with
    | stopping halted =>
      have stopped : ({ r with tracker := r.tracker.stop } : Relay).Coherent :=
        c.stops rfl rfl rfl halted
      exact stopped.fronts ⟨id, id⟩ rfl rfl (.done (.inr (.inl halted)))
        (by rintro _ ⟨⟩)
  · rename_i effect queue _ _ front
    rw [front] at agenda
    exact c.fronts ⟨id, id⟩ rfl rfl agenda (by rintro _ ⟨⟩)
  · exact c

theorem Coherent.fails (c : r.Coherent) (message : String) :
    ({ r with
      state := (update r.state (.failed message)).1
      front := .working [.stopTracking] } : Relay).Coherent :=
  c.fronts ⟨fun _ => rfl, id⟩ rfl rfl (.stopping rfl) (by rintro _ ⟨⟩)

theorem Coherent.created (c : r.Coherent) {job : Uuid} (phase : r.state.phase = .uploading)
    (tracked : r.observer.isSome = false) :
    ({ r with
      state := (update r.state (.jobCreated job)).1
      front := .working (update r.state (.jobCreated job)).2 } : Relay).Coherent := by
  cases halted : r.state.halted with
  | true =>
    have ignored : update r.state (.jobCreated job) = (r.state, []) := by simp [update, halted]
    rw [ignored]
    exact c.fronts ⟨id, id⟩ rfl rfl (.done (.inr (.inl halted))) (by rintro _ ⟨⟩)
  | false =>
    have begun : update r.state (.jobCreated job) =
        ({ r.state with job := some job, dirty := true }, [.startTracking job, .upload job]) := by
      simp [update, phase, halted]
    rw [begun]
    refine c.fronts ⟨id, id⟩ rfl rfl ?_ (by rintro _ ⟨⟩)
    rw [tracked]
    exact .starting

theorem Coherent.uploaded (c : r.Coherent) (tracked : r.observer.isSome = true) :
    ({ r with
      state := (update r.state .uploadCompleted).1
      front := .working (update r.state .uploadCompleted).2 } : Relay).Coherent := by
  rw [effects_uploadCompleted]
  exact c.fronts (onward_update _ rfl) (jobStatus_update _ rfl) (observed_uploadCompleted _)
    (.done (.inl tracked)) (by rintro _ ⟨⟩)

theorem Coherent.reply (c : r.Coherent) (answer : Reply) : (r.reply answer).Coherent := by
  have agenda := c.agenda
  unfold Relay.reply
  split
  · rename_i effect queue front
    rw [front, Front.duties] at agenda
    generalize tracked : r.observer.isSome = known at agenda
    split
    · rename_i m said
      cases agenda with
      | creating phase =>
        match answer with
        | .created (.ok job) =>
          cases said
          exact c.created phase tracked
        | .created (.error e) =>
          cases said
          exact c.fails e.userMessage
        | .uploaded _ | .analysed _ => cases said
      | uploading =>
        match answer with
        | .uploaded (.ok ()) =>
          cases said
          exact c.uploaded tracked
        | .uploaded (.error e) =>
          cases said
          exact c.fails e.userMessage
        | .created _ | .analysed _ => cases said
      | starting => cases answer <;> cases said
      | stopping => cases answer <;> cases said
    · exact c
  · exact c

theorem Coherent.look (c : r.Coherent) : r.look.Coherent := by
  have agenda := c.agenda
  unfold Relay.look
  split
  · rename_i front
    rw [front] at agenda
    refine c.fronts ⟨id, id⟩ rfl rfl agenda ?_
    rintro view ⟨⟩
    rfl
  · exact c

theorem Coherent.judge (c : r.Coherent) : r.judge.Coherent := by
  have agenda := c.agenda
  unfold Relay.judge
  split
  · rename_i view front
    rw [front] at agenda
    simp only
    generalize Display.quick r.shown view r.tracker.state.polling = outcome
    obtain ⟨⟨printed, ending⟩, shown⟩ := outcome
    cases ending with
    | none => exact c.fronts ⟨id, id⟩ rfl rfl agenda (by rintro _ ⟨⟩)
    | some ending => exact c.fronts ⟨id, id⟩ rfl rfl agenda (by rintro _ ⟨⟩)
  · exact c

theorem coherent_start (template : Uuid) (byteLength : Nat) :
    (start template byteLength).Coherent := by
  have first : Course {} [] := ⟨rfl, by simp, by simp⟩
  by_cases empty : byteLength = 0
  · subst empty
    exact ⟨.done (.inr (.inr rfl)), by simp [start], fun _ => ⟨rfl, rfl⟩, by simp [start], first,
      by simp [start], by simp [start], by simp [start]⟩
  · have begun : start template byteLength = {
        state := {
          phase := .uploading, template := some template, byteLength
          progress := some Single.zero, dirty := true }
        front := .working [.createJob template] } := by
      simp [start, update, empty]
    rw [begun]
    exact ⟨.creating rfl, by simp, fun _ => ⟨rfl, rfl⟩, by simp, first, by simp, by simp, by simp⟩

theorem Coherent.step (c : r.Coherent) (move : Move) : (r.step move).Coherent := by
  cases move with
  | fetch => exact c.fetch
  | status answer => exact c.status answer
  | tell => exact c.tell
  | leave => exact c.leave
  | take => exact c.take
  | hear => exact c.hear
  | attend => exact c.attend
  | analysis answer => exact c.analysis answer
  | work => exact c.work
  | reply answer => exact c.reply answer
  | look => exact c.look
  | judge => exact c.judge

theorem Coherent.run (c : r.Coherent) (moves : List Move) : (r.run moves).Coherent := by
  induction moves generalizing r with
  | nil => exact c
  | cons move moves ih => exact ih (c.step move)

end Relay
end TranscodeConsole.QuickTranscode
