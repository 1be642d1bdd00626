import TranscodeConsole.Proofs.Feed.Paging
import TranscodeConsole.Proofs.Listing.Crew

/-!
A turn of a reader, as the steps that it is made of. When nothing comes between the steps, they do
at the desk what reading a page in one go does.
-/
namespace TranscodeConsole.Listing

open Feed

/-- A reader of a generation comes from one stand to another by steps of its own. -/
inductive Steps (now generation : Nat) : Stand → Desk → Stand → Desk → Prop where
  | refl {stand : Stand} {d : Desk} : Steps now generation stand d stand d
  | step {stand last : Stand} {d after : Desk}
      (later : Steps now generation (Worker.act now true ⟨generation, stand, false⟩ d).1
        (Worker.act now true ⟨generation, stand, false⟩ d).2 last after) :
      Steps now generation stand d last after

def stood (page : Page) : Page.Rest → Stand
  | .waiting _ | .yielding => .reading page
  | .ended _ | .failed _ => .gone

def left (generation : Nat) (page : Page) (d : Desk) : Page.Rest → Desk
  | .waiting _ | .yielding => d
  | .ended how => d.pageOver generation page.session how
  | .failed error => d.feedFailed generation page.session error

namespace Steps

variable {now generation : Nat}

theorem run {stand last : Stand} {d after : Desk} (steps : Steps now generation stand d last after)
    {c : Crew} {i : Nat} (desk : c.desk = d)
    (here : c.workers[i]? = some ⟨generation, stand, false⟩) :
    ∃ moves, c.run moves =
      { c with desk := after, workers := c.workers.set i ⟨generation, last, false⟩ } := by
  induction steps generalizing c with
  | refl =>
    subst desk
    refine ⟨[], ?_⟩
    obtain ⟨inside, same⟩ := List.getElem?_eq_some_iff.mp here
    simp [Crew.run, ← same]
  | @step stand last d after _ ih =>
    subst desk
    have inside := (List.getElem?_eq_some_iff.mp here).1
    have works := Crew.work_here here now true
    obtain ⟨moves, ran⟩ := ih (c := c.work i now true) (by rw [works]) (by simp [works, inside])
    refine ⟨.work i now true :: moves, ?_⟩
    show (c.work i now true).run moves = _
    rw [ran, works]
    simp

theorem close (session : Session) (how : PageEnd) (d : Desk) :
    Steps now generation (Stand.close session how) d .gone (d.pageOver generation session how) := by
  cases how with
  | limitReached => exact .step (.step .refl)
  | exhausted => exact .step (.step .refl)
  | cancelled => exact .step .refl
  | stopped => exact .step .refl

end Steps

theorem act_stepped {now generation : Nat} {mark : Mark} {p after : Page} {d : Desk}
    {step : PageStep BatchEntry} (own : p.session.mark = mark)
    (stepped : p.step BatchEntry.read ((Desk.consumer generation mark).cancelled d) now =
      (step, after)) :
    Worker.act now true ⟨generation, .reading p, false⟩ d = (.after after step, d) := by
  have cancelled : (true && d.cursor.marks.isCancelled p.session.mark) =
      (Desk.consumer generation mark).cancelled d := by
    rw [own]
    rfl
  simp only [Worker.act, cancelled, stepped]

variable {now generation : Nat} {d : Desk}

theorem steps_offer (page : Page) (entry : BatchEntry) {mark : Mark} :
    let ran := Page.proceed (Desk.consumer generation mark) now page (.record entry) d
    Steps now generation (.asking page entry) d (stood ran.2.1 ran.1)
      (left generation ran.2.1 ran.2.2 ran.1) := by
  simp only [Page.proceed_record]
  apply Steps.step
  by_cases present : d.state.generation = generation
  · have taken : (Desk.consumer generation mark).take entry d =
        (true, d.send (.record generation entry)) := by
      simp [Desk.consumer, Desk.offer, present]
    simp only [taken, Worker.act, present, ite_true]
    apply Steps.step
    simp only [Worker.act]
    generalize page.answer true now = answered
    obtain ⟨_ | how, after⟩ := answered
    · show Steps now generation (.reading after) _ (stood after after.rest)
        (left _ after _ after.rest)
      unfold Page.rest
      split <;> exact .refl
    · exact .close after.session how _
  · have taken : (Desk.consumer generation mark).take entry d = (false, d) := by
      simp [Desk.consumer, Desk.offer, present]
    simp only [taken, Worker.act, present, ite_false]
    exact .close page.session .stopped d

theorem steps_run {mark : Mark} (p : Page) (own : p.session.mark = mark) :
    let ran := Page.run BatchEntry.read (Desk.consumer generation mark) now p d
    Steps now generation (.reading p) d (stood ran.2.1 ran.1)
      (left generation ran.2.1 ran.2.2 ran.1) := by
  induction size : p.size using Nat.strongRecOn generalizing p d with
  | ind k ih =>
    subst size
    have kept := p.mark_step BatchEntry.read ((Desk.consumer generation mark).cancelled d) now
    have less := p.size_step_lt BatchEntry.read ((Desk.consumer generation mark).cancelled d) now
    rw [Page.run_eq (Desk.steady_consumer _ _)]
    cases stepped : p.step BatchEntry.read ((Desk.consumer generation mark).cancelled d) now with
    | mk step after =>
    rw [stepped] at kept less
    apply Steps.step
    rw [act_stepped own stepped]
    cases step with
    | offer entry => exact steps_offer after entry
    | waiting time => exact .refl
    | ended how => exact .close after.session how d
    | failed error => exact .step (.step .refl)
    | moved => exact ih after.size (less (.inl rfl)) after (kept.trans own) rfl
    | rejected error =>
      exact .step (ih after.size (less (.inr ⟨_, rfl⟩)) after (kept.trans own) rfl)

end TranscodeConsole.Listing
