import TranscodeConsole.Proofs.Quick.Verdict
import TranscodeConsole.Proofs.Rehearsal.QuickTurns
import TranscodeConsole.Rehearsal.Commands

/-!
A quick transcode on its stage is one of the ways in which its three tasks can take their turns:
whatever the script of the service, some order of their steps prints the same and ends the same.
-/
namespace TranscodeConsole.Rehearsal.Quick

open Poll QuickTranscode

/-! ### The submission -/

/-- Some steps bring the command to one of these points, with nothing printed on the way. -/
def Reaches (r : Relay) (s : QuickStage) (front : Front → Prop) : Prop :=
  s.Tidy ∧ ∃ moves, Relays (r.run moves) s.world ∧ (r.run moves).shown = r.shown ∧
    (r.run moves).printed = r.printed ∧ front (r.run moves).front

theorem Reaches.trans {r : Relay} {s after : QuickStage} {front later : Front → Prop}
    (reaches : Reaches r s front)
    (next : ∀ q : Relay, Relays q s.world → s.Tidy → front q.front → Reaches q after later) :
    Reaches r after later := by
  obtain ⟨tidy, moves, relays, shown, printed, comes⟩ := reaches
  obtain ⟨tidy', further, relays', shown', printed', goes⟩ := next _ relays tidy comes
  refine ⟨tidy', moves ++ further, ?_⟩
  rw [Relay.run_append]
  exact ⟨relays', shown'.trans shown, printed'.trans printed, goes⟩

theorem call_reaches {α : Type} {call : Nat → Script → Pending α × Script}
    {msg : Except ServiceError α → QuickTranscode.Msg} (effect : Effect)
    (reply : Except ServiceError α → QuickTranscode.Reply)
    (replies : ∀ answer, (reply answer).msg? effect = some (msg answer))
    {r : Relay} {s : QuickStage} {rest : List Effect} (relays : Relays r s.world) (tidy : s.Tidy)
    (calls : r.work = { r with front := .calling effect rest }) (limit : Deadline) :
    Reaches r (callAndStep call msg limit s).2 fun front =>
      ∀ more, (callAndStep call msg limit s).1 = some more → front = .working (rest ++ more) := by
  generalize called : call s.now s.world.script = c
  obtain ⟨pending, script⟩ := c
  let waits : Relay := { r with front := .calling effect rest }
  have begins : Relays waits { s.world with script } :=
    ⟨relays.state, relays.tracker, relays.poll, relays.observer⟩
  -- the tasks behind the command go on while it waits for the answer
  have slept := run_comes begins (s := { s with world := { s.world with script } })
    ⟨tidy.queue, tidy.order⟩
    { holds := fun now _ => pending.due ≤ now, alarm := some pending.due, limit := some limit }
  simp only [callAndStep, called, Stage.sleep, onWorld]
  generalize Stage.run plan _ _ = result at slept ⊢
  obtain ⟨done, after⟩ := result
  obtain ⟨later, moves, follows, front, shown, printed⟩ := slept
  have goes : r.run (.work :: moves) = waits.run moves := by
    rw [Relay.run_cons, Relay.step, calls]
  cases done with
  | false =>
    refine ⟨later, .work :: moves, ?_⟩
    rw [goes]
    exact ⟨follows, shown, printed, by simp⟩
  | true =>
    have replied : (waits.run moves).reply (reply pending.result) = { waits.run moves with
        state := (update after.world.state (msg pending.result)).1
        front := .working (rest ++ (update after.world.state (msg pending.result)).2) } := by
      simp only [Relay.reply, front, waits, replies, follows.state]
    refine ⟨⟨later.queue, later.order⟩, .work :: moves ++ [.reply (reply pending.result)], ?_⟩
    rw [Relay.run_append, goes, Relay.run_cons, Relay.run_nil, Relay.step, replied]
    exact ⟨⟨rfl, follows.tracker, follows.poll, follows.observer⟩, shown, printed,
      fun more some => by cases some; rfl⟩

theorem stopTracking_reaches {r : Relay} {s : QuickStage} {rest : List Effect}
    (relays : Relays r s.world) (tidy : s.Tidy) (front : r.front = .working (.stopTracking :: rest))
    (limit : Deadline) (byteLength : Nat) :
    Reaches r (carryOut limit byteLength .stopTracking s).2 fun front =>
      ∀ more, (carryOut limit byteLength .stopTracking s).1 = some more →
        front = .working (rest ++ more) := by
  have stops : r.run [.work] = { r with tracker := r.tracker.stop, front := .working rest } := by
    simp [Relay.step, Relay.work, front]
  refine ⟨⟨tidy.queue, tidy.order⟩, [.work], ?_⟩
  rw [stops]
  refine ⟨⟨relays.state, ?_, relays.poll, relays.observer⟩, rfl, rfl, ?_⟩
  · show r.tracker.stop = s.world.tracked.tracker.stop
    rw [relays.tracker]
  · rintro more ⟨⟩
    rw [List.append_nil]

theorem startTracking_reaches {r : Relay} {s : QuickStage} {job : Uuid} {rest : List Effect}
    (relays : Relays r s.world) (tidy : s.Tidy)
    (front : r.front = .working (.startTracking job :: rest)) (limit : Deadline)
    (byteLength : Nat) :
    Reaches r (carryOut limit byteLength (.startTracking job) s).2 fun front =>
      ∀ more, (carryOut limit byteLength (.startTracking job) s).1 = some more →
        front = .working (rest ++ more) := by
  have starts : r.run [.work] = r.startTracking job rest := by
    simp [Relay.step, Relay.work, front]
  refine ⟨⟨tidy.queue, tidy.order⟩, [.work], ?_⟩
  rw [starts]
  simp only [carryOut, startTracking, Relay.startTracking, Tracked.track]
  generalize ({} : Tracker Uuid JobSnapshot).track job = tracked
  obtain ⟨(error | poll), tracker⟩ := tracked
  · refine ⟨⟨?_, rfl, .idle, rfl⟩, rfl, rfl, ?_⟩
    · simp only [step, teardown, stopTracking, stopObserver, relays.state]
    · rintro more ⟨⟩
      rw [relays.state]
      rfl
  · cases poll with
    | none =>
      refine ⟨⟨relays.state, rfl, .idle, rfl⟩, rfl, rfl, ?_⟩
      rintro more ⟨⟩
      rw [List.append_nil]
    | some poll =>
      let begun : TrackedWorker Uuid JobSnapshot :=
        { poll, worker := { ticker := Ticker.start s.now s.world.jobInterval } }
      refine ⟨⟨relays.state, rfl, .works begun, rfl⟩, rfl, rfl, ?_⟩
      rintro more ⟨⟩
      rw [List.append_nil]

theorem carryOut_reaches {r : Relay} {s : QuickStage} {effect : Effect} {rest : List Effect}
    (relays : Relays r s.world) (tidy : s.Tidy) (front : r.front = .working (effect :: rest))
    (limit : Deadline) (byteLength : Nat) :
    Reaches r (carryOut limit byteLength effect s).2 fun front =>
      ∀ more, (carryOut limit byteLength effect s).1 = some more →
        front = .working (rest ++ more) := by
  cases effect with
  | createJob template =>
    apply call_reaches (.createJob template) .created (fun _ => rfl) relays tidy
    simp [Relay.work, front]
  | upload job =>
    apply call_reaches (.upload job) .uploaded (fun _ => rfl) relays tidy
    simp [Relay.work, front]
  | fetchAnalysis result =>
    apply call_reaches (.fetchAnalysis result) .analysed (fun _ => rfl) relays tidy
    simp [Relay.work, front]
  | stopTracking => exact stopTracking_reaches relays tidy front limit byteLength
  | startTracking job => exact startTracking_reaches relays tidy front limit byteLength

theorem carryOutAll_reaches (limit : Deadline) (byteLength : Nat) (effects : List Effect)
    (s : QuickStage) {r : Relay} (relays : Relays r s.world) (tidy : s.Tidy)
    (front : r.front = .working effects) :
    Reaches r (carryOutAll limit byteLength effects s).2 fun front =>
      (carryOutAll limit byteLength effects s).1 = true → front = .working [] := by
  fun_induction carryOutAll limit byteLength effects s generalizing r with
  | case1 s => exact ⟨tidy, [], relays, rfl, rfl, fun _ => front⟩
  | case2 effect rest s more after carried ih =>
    have reaches := carryOut_reaches relays tidy front limit byteLength
    rw [carried] at reaches
    exact reaches.trans fun q relays tidy works => ih relays tidy (works more rfl)
  | case3 effect rest s after carried =>
    have reaches := carryOut_reaches relays tidy front limit byteLength
    rw [carried] at reaches
    obtain ⟨tidy, moves, relays, shown, printed, _⟩ := reaches
    exact ⟨tidy, moves, relays, shown, printed, by simp⟩

theorem submit_reaches (limit : Deadline) (interval : Nat) (template : Uuid) (byteLength : Nat)
    (script : Script) :
    let s : QuickStage := { world := { script, jobInterval := interval } }
    Reaches (Relay.start template byteLength) (submit limit template byteLength s).2 fun front =>
      (submit limit template byteLength s).1 = true → front = .working [] :=
  carryOutAll_reaches limit byteLength _ _ ⟨rfl, rfl, .idle, rfl⟩
    ⟨List.nodup_nil, List.nodup_nil⟩ rfl

/-! ### The looks -/

def Tells (r : Relay) (told : Option Display.Ending × List String × QuickStage) : Prop :=
  ∃ moves, (r.run moves).printed = String.join told.2.1.reverse ∧
    ∀ ending, told.1 = some ending → (r.run moves).front = .ended ending

theorem Relays.looks {r : Relay} {w : Quick} (relays : Relays r w) (front : r.front = .looking)
    {last line : String} {reaction : Display.Reaction} (shown : r.shown = last)
    (judged : Display.quick last w.state.view w.tracked.tracker.state.polling = (reaction, line)) :
    r.run [.look, .judge] = { r with
      shown := line
      printed := r.printed ++ reaction.printed
      front := reaction.ending.elim .looking .ended } := by
  simp only [Relay.run_cons, Relay.run_nil, Relay.step, Relay.look, Relay.judge, front,
    relays.state, relays.tracker, shown, judged]

theorem attendFrom_tells (limit : Deadline) {seen : Look} {printed : List String} {s : QuickStage}
    {told : Option Display.Ending × List String × QuickStage}
    (attended : s.attendFrom plan looking limit seen printed = some told) {r : Relay}
    (relays : Relays r s.world) (tidy : s.Tidy) (front : r.front = .looking)
    (shown : r.shown = seen.last) (print : r.printed = String.join printed.reverse) :
    Tells r told := by
  -- The command may look for ever, so the induction is on the looks of one that has ended.
  refine Stage.attendFrom.partial_correctness plan looking limit
    (fun seen printed s told => ∀ r : Relay, Relays r s.world → s.Tidy → r.front = .looking →
      r.shown = seen.last → r.printed = String.join printed.reverse → Tells r told)
    ?_ seen printed s told attended r relays tidy front shown print
  clear attended relays tidy front shown print
  intro later ih seen printed s told attended r relays tidy front shown print
  have waited := run_comes relays tidy
    { holds := looking.ready seen, alarm := looking.alarm seen, limit := some limit }
  generalize s.run plan _ = result at waited attended
  obtain ⟨ready, after⟩ := result
  obtain ⟨tidy, moves, follows, front', shown', printed'⟩ := waited
  cases ready with
  | false =>
    cases attended
    exact ⟨moves, printed'.trans print, by simp⟩
  | true =>
    generalize judged : Display.quick seen.last after.world.state.view
      after.world.tracked.tracker.state.polling = verdict
    obtain ⟨reaction, line⟩ := verdict
    have looked := follows.looks (front'.trans front) (shown'.trans shown) judged
    rw [← Relay.run_append] at looked
    have print : (r.run moves).printed ++ reaction.printed =
        String.join (reaction.printed :: printed).reverse := by
      simp [printed', print]
    simp only [looking, judged] at attended
    cases ending : reaction.ending with
    | some ending =>
      simp only [ending] at attended
      cases attended
      refine ⟨moves ++ [.look, .judge], ?_⟩
      rw [looked]
      refine ⟨print, ?_⟩
      rintro _ ⟨⟩
      rw [ending]
      rfl
    | none =>
      simp only [ending] at attended looked
      have goesOn : Relays (r.run (moves ++ [.look, .judge])) after.world := by
        rw [looked]
        exact ⟨follows.state, follows.tracker, follows.poll, follows.observer⟩
      obtain ⟨further, prints, ends⟩ := ih _ _ _ _ attended _ goesOn ⟨tidy.queue, tidy.order⟩
        (by rw [looked]; rfl) (by rw [looked]) (by rw [looked]; exact print)
      refine ⟨moves ++ [.look, .judge] ++ further, ?_⟩
      rw [Relay.run_append]
      exact ⟨prints, ends⟩

theorem attend_tells (limit : Deadline) (time : Nat) {r : Relay} {s : QuickStage}
    (relays : Relays r s.world) (tidy : s.Tidy) (front : r.front = .looking) (shown : r.shown = "")
    (printed : r.printed = "") :
    ∃ moves, (r.run moves).printed = (attend plan looking script limit { time } s).printed ∧
      ∀ ending, (attend plan looking script limit { time } s).ending = some ending →
        (r.run moves).front = .ended ending := by
  unfold attend
  cases attended : s.attendFrom plan looking limit { time } [] with
  | none => exact ⟨[], printed, by simp [Outcome.after]⟩
  | some told => exact attendFrom_tells limit attended relays tidy front shown printed

theorem transcode_relayed (limit : Deadline) (interval : Nat) (file : String) (template : Uuid)
    (byteLength : Nat) (script : Script) :
    ∃ (outcome : Outcome) (moves : List Move),
      transcode limit interval file template byteLength script =
        outcome.within ("quick transcode of " ++ file ++ " failed") ∧
      ((Relay.start template byteLength).run moves).printed = outcome.printed ∧
      ∀ ending, outcome.ending = some ending →
        ((Relay.start template byteLength).run moves).front = .ended ending := by
  obtain ⟨tidy, moves, relays, shown, printed, worked⟩ :=
    submit_reaches limit interval template byteLength script
  simp only [transcode]
  generalize submit limit template byteLength _ = submitted at tidy relays worked ⊢
  obtain ⟨done, s⟩ := submitted
  cases done with
  | false =>
    exact ⟨.after s.world.script none "", moves, rfl, printed, by simp [Outcome.after]⟩
  | true =>
    have looks : (Relay.start template byteLength).run (moves ++ [.work]) =
        { (Relay.start template byteLength).run moves with front := .looking } := by
      simp only [Relay.run_append, Relay.run_cons, Relay.run_nil, Relay.step, Relay.work,
        worked rfl]
    have begins : Relays ((Relay.start template byteLength).run (moves ++ [.work])) s.world := by
      rw [looks]
      exact ⟨relays.state, relays.tracker, relays.poll, relays.observer⟩
    obtain ⟨further, prints, ends⟩ := attend_tells limit s.now begins tidy (by rw [looks])
      (by rw [looks]; exact shown) (by rw [looks]; exact printed)
    refine ⟨attend plan looking Quick.script limit { time := s.now } s,
      moves ++ [.work] ++ further, rfl, ?_⟩
    rw [Relay.run_append]
    exact ⟨prints, ends⟩

theorem transcode_done (limit : Deadline) (interval : Nat) (file : String) (template : Uuid)
    (byteLength : Nat) (script : Script)
    (done : (transcode limit interval file template byteLength script).ending = some .done) :
    ∃ moves view, ((Relay.start template byteLength).run moves).Closes view .done ∧
      (view.phase = .analysisReady ∨
        ((Relay.start template byteLength).run moves).accepted = some .completed) := by
  obtain ⟨outcome, moves, same, _, ends⟩ :=
    transcode_relayed limit interval file template byteLength script
  have well : outcome.ending = some .done := by
    rw [same] at done
    unfold Outcome.within at done
    split at done
    · cases done
    · exact done
  rcases Relay.closes_of_run (ends _ well) with start | ⟨earlier, view, closes⟩
  · cases start
  · exact ⟨earlier, view, closes,
      ((Relay.coherent_start template byteLength).run earlier).closes_done closes⟩

end TranscodeConsole.Rehearsal.Quick
