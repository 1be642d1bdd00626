import TranscodeConsole.Proofs.Feed.Ageing
import TranscodeConsole.Proofs.Feed.Cursor
import TranscodeConsole.Rehearsal.Feeds

/-!
A cursor and all the sessions that it ever opened, whoever reads them and when. At most one of them
is active, the one that the cursor names; a session that has ended stays so, and is read no more.
-/
namespace TranscodeConsole.Rehearsal

open Feed Json

namespace Feeds

inductive Act where
  | beginOpen (now : Nat)
  | beginNext (index : Nat)
  | beginPage (index : Nat) (stopAfter : Option Nat)
  | turn (now : Nat)
  | hangUp
  | cancelCursor
  | cancelSession (index : Nat)
  | dropSession (index : Nat)
  /-- Beside the call in progress, another one reads a session as far as it can. -/
  | aside (other : FeedCall) (now : Nat)

variable {ρ : Type}

def start (script : Script) (options : Options) : Feeds ρ := { script, options }

def aside (read : Reader ρ) (other : FeedCall) (now : Nat) (w : Feeds ρ) : Feeds ρ :=
  match other with
  | .opening _ _ _ => w
  | .next _ | .page _ _ _ => { { w with call := some other }.turn read now with call := w.call }

def act (read : Reader ρ) (w : Feeds ρ) : Act → Feeds ρ
  | .beginOpen now => w.beginOpen now
  | .beginNext index => w.beginNext index
  | .beginPage index stopAfter => w.beginPage index stopAfter
  | .turn now => w.turn read now
  | .hangUp => { w with call := none }
  | .cancelCursor => w.cancelCursor
  | .cancelSession index => w.cancelSession index
  | .dropSession index => w.dropSession index
  | .aside other now => w.aside read other now

def run (read : Reader ρ) (w : Feeds ρ) (acts : List Act) : Feeds ρ := acts.foldl (act read) w

def IsOpening (w : Feeds ρ) : Prop :=
  ∃ active source reply, w.call = some (.opening active source reply)

/-- A session that was opened and is not active any more. -/
def Over (w : Feeds ρ) (index : Nat) : Prop :=
  index < w.sessions.length ∧
    ∀ s, w.session? index = some s → s.isActive w.cursor.marks = false

structure Exclusive (read : Reader ρ) (w : Feeds ρ) : Prop where
  named : ∀ i s, w.session? i = some s → s.isActive w.cursor.marks = true →
    w.cursor.activeSession = some s.id
  one : ∀ i j s t, w.session? i = some s → w.session? j = some t →
    s.isActive w.cursor.marks = true → t.isActive w.cursor.marks = true → i = j
  opens : w.IsOpening → ∀ now id, (w.turn read now).answer = some (.opened id) →
    (w.turn read now).cursor.activeSession = some id
  fails : w.IsOpening → ∀ now error, (w.turn read now).answer = some (.failed error) →
    (w.turn read now).cursor.activeSession = none

structure Passes (read : Reader ρ) (w later : Feeds ρ) : Prop where
  rising : ∀ i j s t, i < j → w.session? i = some s → later.session? j = some t → s.id < t.id
  ended : ∀ i, w.Over i → later.Over i ∧
    ∀ now, ((later.beginNext i).turn read now).answer = some .done

/-! ### What every act keeps -/

def nextId (w : Feeds ρ) : Nat :=
  match w.call with
  | some (.opening active _ _) => active.id
  | _ => w.cursor.lastId + 1

structure Onward (w after : Feeds ρ) : Prop where
  length : w.sessions.length ≤ after.sessions.length
  ages : ∀ i t, i < w.sessions.length → after.session? i = some t →
    ∃ s, w.session? i = some s ∧ s.Ages t
  fresh : ∀ i t, w.sessions.length ≤ i → after.session? i = some t → w.nextId ≤ t.id
  nextId : w.nextId ≤ after.nextId
  grows : ∀ mark, w.isCancelled mark = true → after.isCancelled mark = true

variable {w middle after : Feeds ρ}

theorem index_lt {i : Nat} {s : Session} (here : w.session? i = some s) :
    i < w.sessions.length := by
  simp only [session?, Option.join_eq_some_iff] at here
  exact (List.getElem?_eq_some_iff.mp here).1

theorem Onward.refl (w : Feeds ρ) : w.Onward w := by
  refine ⟨Nat.le_refl _, fun i t _ here => ⟨t, here, .refl t⟩, ?_, Nat.le_refl _,
    fun _ gone => gone⟩
  intro i t past here
  have := index_lt here
  omega

theorem Onward.trans (first : w.Onward middle) (later : middle.Onward after) : w.Onward after := by
  refine ⟨Nat.le_trans first.length later.length, ?_, ?_, Nat.le_trans first.nextId later.nextId,
    fun mark gone => later.grows mark (first.grows mark gone)⟩
  · intro i t old here
    obtain ⟨u, there, onward⟩ := later.ages i t (Nat.lt_of_lt_of_le old first.length) here
    obtain ⟨s, before, ages⟩ := first.ages i u old there
    exact ⟨s, before, ages.trans onward⟩
  · intro i t new here
    by_cases known : i < middle.sessions.length
    · obtain ⟨u, there, onward⟩ := later.ages i t known here
      have := first.fresh i u new there
      rwa [onward.id]
    · have := later.fresh i t (Nat.not_lt.mp known) here
      have := first.nextId
      omega

theorem Onward.ended (onward : w.Onward after) {i : Nat} (ended : w.Over i) : after.Over i := by
  refine ⟨Nat.lt_of_lt_of_le ended.1 onward.length, ?_⟩
  intro t here
  obtain ⟨s, before, ages⟩ := onward.ages i t ended.1 here
  exact ages.isActive onward.grows (ended.2 s before)

/-- Nothing is opened; the cursor may have given up its session. -/
structure Keeps (w after : Feeds ρ) : Prop where
  length : after.sessions.length = w.sessions.length
  ages : ∀ i t, after.session? i = some t → ∃ s, w.session? i = some s ∧ s.Ages t
  opening : ∀ active source reply, after.call = some (.opening active source reply) →
    w.call = some (.opening active source reply)
  lastId : after.cursor.lastId = w.cursor.lastId
  issued : after.cursor.marks.issued = w.cursor.marks.issued
  grows : ∀ mark, w.isCancelled mark = true → after.isCancelled mark = true
  known : ∀ mark, after.isCancelled mark = true →
    w.isCancelled mark = true ∨ mark < w.cursor.marks.issued
  current : ∀ active, after.cursor.current = some active → w.cursor.current = some active
  leaves : ∀ active, w.cursor.current = some active → after.cursor.current = none →
    after.isCancelled active.mark = true

structure Sound (w : Feeds ρ) : Prop where
  cursor : w.cursor.Orderly
  issued : ∀ i s, w.session? i = some s → s.mark < w.cursor.marks.issued
  numbered : ∀ i s, w.session? i = some s → s.id < w.nextId
  rising : ∀ i j s t, i < j → w.session? i = some s → w.session? j = some t → s.id < t.id
  only : ∀ i s, w.session? i = some s → w.isCancelled s.mark = false →
    w.cursor.current = some ⟨s.id, s.mark⟩
  opening : ∀ active source reply, w.call = some (.opening active source reply) →
    active.id = w.cursor.lastId ∧ active.mark < w.cursor.marks.issued ∧
      (∀ other, w.cursor.current = some other → other = active) ∧
      (w.isCancelled active.mark = false → w.cursor.current = some active)

theorem Sound.nextId_le (sound : w.Sound) : w.nextId ≤ w.cursor.lastId + 1 := by
  unfold Feeds.nextId
  split
  · rename_i active source reply called
    have := (sound.opening active source reply called).1
    omega
  · exact Nat.le_refl _

theorem Keeps.nextId (keeps : w.Keeps after) (sound : w.Sound) : w.nextId ≤ after.nextId := by
  have before := sound.nextId_le
  have lastId := keeps.lastId
  by_cases opening : after.IsOpening
  · obtain ⟨active, source, reply, called⟩ := opening
    have same := keeps.opening active source reply called
    simp [Feeds.nextId, called, same]
  · have closed : after.nextId = after.cursor.lastId + 1 := by
      unfold Feeds.nextId
      split
      · rename_i active source reply called
        exact absurd ⟨active, source, reply, called⟩ opening
      · rfl
    omega

theorem Keeps.onward (keeps : w.Keeps after) (sound : w.Sound) : w.Onward after := by
  refine ⟨Nat.le_of_eq keeps.length.symm, fun i t _ here => keeps.ages i t here, ?_,
    keeps.nextId sound, keeps.grows⟩
  intro i t new here
  have := index_lt here
  have := keeps.length
  omega

theorem Sound.keeps (sound : w.Sound) (keeps : w.Keeps after) : after.Sound := by
  have live : ∀ {mark}, after.isCancelled mark = false → w.isCancelled mark = false := by
    intro mark valid
    cases gone : w.isCancelled mark with
    | false => rfl
    | true => exact absurd (keeps.grows mark gone) (by simp [valid])
  have stays : ∀ {active}, after.isCancelled active.mark = false →
      w.cursor.current = some active → after.cursor.current = some active := by
    intro active valid before
    cases now : after.cursor.current with
    | none => exact absurd (keeps.leaves active before now) (by simp [valid])
    | some other => exact (keeps.current other now).symm.trans before
  constructor
  case cursor =>
    constructor
    · intro mark gone
      rw [keeps.issued]
      exact (keeps.known mark gone).elim (sound.cursor.cancelled mark) id
    · intro active current
      rw [keeps.issued]
      exact sound.cursor.current active (keeps.current active current)
  case issued =>
    intro i t here
    obtain ⟨s, before, ages⟩ := keeps.ages i t here
    rw [keeps.issued, ages.mark]
    exact sound.issued i s before
  case numbered =>
    intro i t here
    obtain ⟨s, before, ages⟩ := keeps.ages i t here
    rw [ages.id]
    exact Nat.lt_of_lt_of_le (sound.numbered i s before) (keeps.nextId sound)
  case rising =>
    intro i j t u lt here there
    obtain ⟨s, before, ages⟩ := keeps.ages i t here
    obtain ⟨r, earlier, aged⟩ := keeps.ages j u there
    rw [ages.id, aged.id]
    exact sound.rising i j s r lt before earlier
  case only =>
    intro i t here valid
    obtain ⟨s, before, ages⟩ := keeps.ages i t here
    rw [ages.mark] at valid
    rw [ages.id, ages.mark]
    exact stays valid (sound.only i s before (live valid))
  case opening =>
    intro active source reply called
    obtain ⟨id, issued, mine, own⟩ :=
      sound.opening active source reply (keeps.opening active source reply called)
    rw [keeps.lastId, keeps.issued]
    exact ⟨id, issued, fun other current => mine other (keeps.current other current),
      fun valid => stays valid (own (live valid))⟩

/-! ### The acts that open nothing -/

theorem session?_set (w : Feeds ρ) (index i : Nat) (s : Option Session) {t : Session}
    (here : ({ w with sessions := w.sessions.set index s } : Feeds ρ).session? i = some t) :
    (i = index ∧ s = some t) ∨ (i ≠ index ∧ w.session? i = some t) := by
  by_cases same : i = index
  · subst same
    by_cases lt : i < w.sessions.length
    · exact .inl ⟨rfl, by simpa [session?, lt] using here⟩
    · simp [session?, lt] at here
  · exact .inr ⟨same, by simpa [session?, Ne.symm same] using here⟩

theorem keeps_of_cursor (cursor : after.cursor = w.cursor)
    (opening : after.IsOpening → after.call = w.call)
    (length : after.sessions.length = w.sessions.length)
    (ages : ∀ i t, after.session? i = some t → ∃ s, w.session? i = some s ∧ s.Ages t) :
    w.Keeps after := by
  refine ⟨length, ages, ?_, by rw [cursor], by rw [cursor], fun mark gone => ?_,
    fun mark gone => ?_, fun active current => by rwa [← cursor], fun active before now => ?_⟩
  · intro active source reply called
    rw [← opening ⟨active, source, reply, called⟩, called]
  · simpa [isCancelled, cursor] using gone
  · exact .inl (by simpa [isCancelled, cursor] using gone)
  · rw [cursor, before] at now
    cases now

theorem keeps_of_same (cursor : after.cursor = w.cursor)
    (opening : after.IsOpening → after.call = w.call)
    (sessions : after.sessions = w.sessions) : w.Keeps after :=
  keeps_of_cursor cursor opening (by rw [sessions]) fun i t here =>
    ⟨t, by rwa [session?, ← sessions], .refl t⟩

theorem keeps_beginPage (w : Feeds ρ) (index : Nat) (stopAfter : Option Nat) :
    w.Keeps (w.beginPage index stopAfter) := by
  have begun : ∀ i, (w.beginPage index stopAfter).session? i =
      if index = i then (w.session? i).map fun s => (Page.start s).session else w.session? i := by
    intro i
    rw [session?, beginPage, List.getElem?_modify]
    by_cases same : index = i <;> cases before : w.sessions[i]? <;> simp [session?, same, before]
  refine keeps_of_cursor rfl (by simp [IsOpening, beginPage]) (by simp [beginPage]) ?_
  intro i t here
  rw [begun] at here
  split at here
  · obtain ⟨s, before, rfl⟩ := Option.map_eq_some_iff.mp here
    exact ⟨s, before, rfl, rfl, fun live => live⟩
  · exact ⟨t, here, .refl t⟩

theorem keeps_of_set (cursor : after.cursor = w.cursor)
    (opening : after.IsOpening → after.call = w.call) {index : Nat} {s s' : Session}
    (here : w.session? index = some s) (ages : s.Ages s')
    (sessions : after.sessions = w.sessions.set index (some s')) : w.Keeps after := by
  refine keeps_of_cursor cursor opening (by rw [sessions, List.length_set]) ?_
  intro i t there
  have there : ({ w with sessions := w.sessions.set index (some s') } : Feeds ρ).session? i =
      some t := by rwa [session?, ← sessions]
  rcases w.session?_set index i (some s') there with ⟨rfl, same⟩ | ⟨_, before⟩
  · cases same
    exact ⟨s, here, ages⟩
  · exact ⟨t, before, .refl t⟩

theorem rejected_keeps (s : Session) (error : ServiceError) (v : Feeds ρ) :
    ∃ diagnostics, v.reject s error = { v with diagnostics } := by
  unfold reject
  split
  · exact ⟨_, rfl⟩
  · exact ⟨v.diagnostics, rfl⟩

theorem keeps_readNext (read : Reader ρ) (now : Nat) {index : Nat} {s : Session}
    (here : w.session? index = some s) : w.Keeps (w.readNext read now index s) := by
  have ages : s.Ages (s.seek read (sink s) now false w).2.1 := s.ages_seek read false
  have told : ∃ diagnostics, (s.seek read (sink s) now false w).2.2 = { w with diagnostics } := by
    refine Session.seek_keeps (fun _ (v : Feeds ρ) => ∃ diagnostics, v = { w with diagnostics })
      (fun _ _ _ kept => kept) ?_ false ⟨w.diagnostics, rfl⟩
    rintro error _ _ ⟨diagnostics, rfl⟩
    obtain ⟨later, same⟩ := rejected_keeps s error { w with diagnostics }
    exact ⟨later, same⟩
  unfold readNext
  generalize s.seek read (sink s) now false w = result at ages told
  obtain ⟨outcome, s', v⟩ := result
  obtain ⟨diagnostics, told⟩ := told
  simp only at ages told
  subst told
  cases outcome with
  | record | done | failed =>
    exact keeps_of_set rfl (by simp [IsOpening, finish]) here ages rfl
  | waiting time =>
    exact keeps_of_set rfl (fun _ => rfl) here ages rfl

theorem keeps_readPage (read : Reader ρ) (now : Nat) {index : Nat} {s : Session}
    (phase : PagePhase) (stopAfter : Option Nat) (here : w.session? index = some s) :
    w.Keeps (w.readPage read now index s phase stopAfter) := by
  have ages := Page.ages_run read (consumer s stopAfter) now { session := s, phase } w
  have kept : let v := (Page.run read (consumer s stopAfter) now { session := s, phase } w).2.2
      v.cursor = w.cursor ∧ v.sessions = w.sessions := by
    refine Page.run_keeps (fun _ (v : Feeds ρ) => v.cursor = w.cursor ∧ v.sessions = w.sessions)
      (fun _ _ _ kept => kept) ?_ (fun _ _ _ kept => kept) ⟨rfl, rfl⟩
    intro error _ v kept
    obtain ⟨diagnostics, same⟩ := rejected_keeps s error v
    simpa [consumer, sink, same] using kept
  unfold readPage
  generalize Page.run read (consumer s stopAfter) now { session := s, phase } w = result
    at ages kept
  obtain ⟨rest, page, v⟩ := result
  obtain ⟨cursor, sessions⟩ := kept
  simp only at ages cursor sessions
  have put : v.sessions.set index (some page.session) =
      w.sessions.set index (some page.session) := by
    rw [sessions]
  cases rest with
  | ended | failed => exact keeps_of_set cursor (by simp [IsOpening, finish]) here ages put
  | waiting | yielding => exact keeps_of_set cursor (by simp [IsOpening]) here ages put

theorem keeps_turn (read : Reader ρ) (now : Nat) (idle : ¬ w.IsOpening) :
    w.Keeps (w.turn read now) := by
  unfold turn
  split
  · exact keeps_of_same rfl (fun _ => rfl) rfl
  · rename_i active source reply called
    exact absurd ⟨active, source, reply, called⟩ idle
  · rename_i index called
    split
    · rename_i s here
      exact keeps_readNext read now here
    · exact keeps_of_same rfl (by simp [IsOpening, finish]) rfl
  · rename_i index phase stopAfter called
    split
    · rename_i s here
      exact keeps_readPage read now phase stopAfter here
    · exact keeps_of_same rfl (by simp [IsOpening, finish]) rfl

theorem keeps_aside (w : Feeds ρ) (read : Reader ρ) (other : FeedCall) (now : Nat) :
    w.Keeps (w.aside read other now) := by
  have reads : ({ w with call := some other } : Feeds ρ).IsOpening ∨
      w.Keeps { { w with call := some other }.turn read now with call := w.call } := by
    by_cases opening : ({ w with call := some other } : Feeds ρ).IsOpening
    · exact .inl opening
    · have keeps := keeps_turn read now opening
      exact .inr ⟨keeps.length, keeps.ages, fun _ _ _ called => called, keeps.lastId, keeps.issued,
        keeps.grows, keeps.known, keeps.current, keeps.leaves⟩
  cases other with
  | opening active source reply => exact keeps_of_same rfl (fun _ => rfl) rfl
  | next | page => exact reads.resolve_left (by simp [IsOpening])

theorem Keeps.trans (first : w.Keeps middle) (later : middle.Keeps after) : w.Keeps after := by
  constructor
  case length => exact later.length.trans first.length
  case ages =>
    intro i t here
    obtain ⟨u, there, onward⟩ := later.ages i t here
    obtain ⟨s, before, ages⟩ := first.ages i u there
    exact ⟨s, before, ages.trans onward⟩
  case opening =>
    exact fun active source reply called =>
      first.opening active source reply (later.opening active source reply called)
  case lastId => exact later.lastId.trans first.lastId
  case issued => exact later.issued.trans first.issued
  case grows => exact fun mark gone => later.grows mark (first.grows mark gone)
  case known =>
    intro mark gone
    rcases later.known mark gone with before | old
    · exact first.known mark before
    · exact .inr (first.issued ▸ old)
  case current => exact fun active current => first.current active (later.current active current)
  case leaves =>
    intro active before gone
    cases between : middle.cursor.current with
    | none => exact later.grows _ (first.leaves active before between)
    | some other =>
      have same := (first.current other between).symm.trans before
      cases same
      exact later.leaves active between gone

theorem keeps_cancelMark {mark : Mark} (old : mark < w.cursor.marks.issued) :
    w.Keeps { w with cursor := w.cursor.cancelMark mark } := by
  refine ⟨rfl, fun i t here => ⟨t, here, .refl t⟩, fun _ _ _ called => called, rfl,
    by simp [Cursor.cancelMark], fun other gone => ?_, fun other gone => ?_,
    fun _ current => current, fun active before gone => ?_⟩
  · have gone : w.cursor.marks.isCancelled other = true := gone
    simp [isCancelled, Cursor.cancelMark, gone]
  · simp only [isCancelled, Cursor.cancelMark, Marks.isCancelled_cancel, Bool.or_eq_true,
      beq_iff_eq] at gone
    rcases gone with before | rfl
    · exact .inl before
    · exact .inr old
  · cases before.symm.trans gone

theorem Sound.keeps_cancelCursor (sound : w.Sound) : w.Keeps w.cancelCursor := by
  cases current : w.cursor.current with
  | none => exact keeps_of_same (by simp [cancelCursor, Cursor.cancel, current]) (fun _ => rfl) rfl
  | some active =>
    have marks := keeps_cancelMark (sound.cursor.current active current)
    have same : w.cancelCursor = { w with cursor := { w.cursor.cancelMark active.mark with
        current := none } } := by
      simp [cancelCursor, Cursor.cancel, current, Cursor.cancelMark]
    rw [same]
    refine ⟨marks.length, marks.ages, marks.opening, marks.lastId, marks.issued, marks.grows,
      marks.known, by simp, fun other before _ => ?_⟩
    cases before.symm.trans current
    simp [isCancelled, Cursor.cancelMark]

theorem Sound.keeps_cancelSession (sound : w.Sound) (index : Nat) :
    w.Keeps (w.cancelSession index) := by
  unfold cancelSession
  split
  · rename_i s here
    have marks := keeps_cancelMark (sound.issued index s here)
    exact marks.trans (keeps_of_set rfl (fun _ => rfl) here s.ages_finish rfl)
  · exact keeps_of_same rfl (fun _ => rfl) rfl

theorem Sound.keeps_dropSession (sound : w.Sound) (index : Nat) :
    w.Keeps (w.dropSession index) := by
  unfold dropSession
  split
  · rename_i s here
    refine (keeps_cancelMark (sound.issued index s here)).trans
      (keeps_of_cursor rfl (fun _ => rfl) (by simp) ?_)
    intro i t there
    rcases session?_set _ index i none there with ⟨_, same⟩ | ⟨_, before⟩
    · cases same
    · exact ⟨t, before, .refl t⟩
  · exact keeps_of_same rfl (fun _ => rfl) rfl

/-! ### Opening a session -/

theorem Sound.vacant (sound : w.Sound) (vacant : w.cursor.current = none) {i : Nat} {s : Session}
    (here : w.session? i = some s) : w.isCancelled s.mark = true := by
  cases gone : w.isCancelled s.mark with
  | true => rfl
  | false => cases vacant.symm.trans (sound.only i s here gone)

structure Connects (w after : Feeds ρ) (active : ActiveSession) : Prop where
  named : active = ⟨w.cursor.lastId + 1, w.cursor.marks.issued⟩
  cursor : after.cursor = {
    marks := { w.cursor.marks with issued := w.cursor.marks.issued + 1 }
    lastId := w.cursor.lastId + 1
    current := some active }
  sessions : after.sessions = w.sessions
  called : ∃ source reply, after.call = some (.opening active source reply)

section Connects

variable {active : ActiveSession} (connects : Connects w after active)
include connects

theorem Connects.session? (i : Nat) : after.session? i = w.session? i := by
  rw [Feeds.session?, connects.sessions, Feeds.session?]

theorem Connects.isCancelled (mark : Mark) : after.isCancelled mark = w.isCancelled mark := by
  rw [Feeds.isCancelled, connects.cursor, Feeds.isCancelled]
  rfl

theorem Connects.nextId : after.nextId = w.cursor.lastId + 1 := by
  obtain ⟨source, reply, called⟩ := connects.called
  simp [Feeds.nextId, called, connects.named]

theorem Connects.onward (sound : w.Sound) : w.Onward after := by
  have next := connects.nextId
  have le := sound.nextId_le
  refine ⟨Nat.le_of_eq (by rw [connects.sessions]), ?_, ?_, by omega,
    fun mark gone => by rwa [connects.isCancelled]⟩
  · intro i t _ here
    exact ⟨t, by rwa [← connects.session?], .refl t⟩
  · intro i t new here
    rw [connects.session?] at here
    have := index_lt here
    omega

theorem Connects.sound_after (sound : w.Sound) (vacant : w.cursor.current = none) :
    after.Sound := by
  constructor
  case cursor =>
    rw [connects.cursor, connects.named]
    refine ⟨fun mark gone => Nat.lt_succ_of_lt (sound.cursor.cancelled mark gone), ?_⟩
    rintro other ⟨⟩
    exact Nat.lt_succ_self _
  case issued =>
    intro i s here
    rw [connects.session?] at here
    have := sound.issued i s here
    rw [connects.cursor]
    exact Nat.lt_succ_of_lt this
  case numbered =>
    intro i s here
    rw [connects.session?] at here
    have := sound.numbered i s here
    have := connects.nextId
    have := sound.nextId_le
    omega
  case rising =>
    intro i j s t lt here there
    rw [connects.session?] at here there
    exact sound.rising i j s t lt here there
  case only =>
    intro i s here valid
    rw [connects.session?] at here
    rw [connects.isCancelled, sound.vacant vacant here] at valid
    cases valid
  case opening =>
    intro other source reply called
    obtain ⟨_, _, called'⟩ := connects.called
    cases called'.symm.trans called
    rw [connects.cursor]
    refine ⟨by rw [connects.named], ?_, fun other current => (Option.some.inj current).symm,
      fun _ => rfl⟩
    rw [connects.named]
    exact Nat.lt_succ_self _

end Connects

theorem Sound.beginOpen (sound : w.Sound) (now : Nat) :
    (w.beginOpen now).Sound ∧ w.Onward (w.beginOpen now) := by
  unfold Feeds.beginOpen
  split
  · have keeps : w.Keeps (w.finish (.failed ‹_›)) :=
      keeps_of_same rfl (by simp [IsOpening, finish]) rfl
    exact ⟨sound.keeps keeps, keeps.onward sound⟩
  · rename_i url resolved
    have gives := sound.keeps_cancelCursor
    have vacant : w.cancelCursor.cursor.current = none := by
      cases current : w.cursor.current <;> simp [cancelCursor, Cursor.cancel, current]
    have kept := sound.keeps gives
    have connects : Connects w.cancelCursor (w.beginOpen now)
        ⟨w.cancelCursor.cursor.lastId + 1, w.cancelCursor.cursor.marks.issued⟩ := by
      unfold Feeds.beginOpen
      rw [resolved]
      exact ⟨rfl, rfl, rfl, _, _, rfl⟩
    rw [Feeds.beginOpen, resolved] at connects
    exact ⟨connects.sound_after kept vacant, (gives.onward sound).trans (connects.onward kept)⟩

theorem Sound.superseded (sound : w.Sound) {active : ActiveSession} {source : String}
    {reply : Pending (List BodyItem)} (called : w.call = some (.opening active source reply))
    {i : Nat} {s : Session} (here : w.session? i = some s) :
    w.isCancelled s.mark = true ∧ s.id < active.id := by
  have numbered := sound.numbered i s here
  rw [show w.nextId = active.id by simp [nextId, called]] at numbered
  refine ⟨?_, numbered⟩
  cases gone : w.isCancelled s.mark with
  | true => rfl
  | false =>
    obtain ⟨_, _, mine, _⟩ := sound.opening active source reply called
    have same := mine _ (sound.only i s here gone)
    rw [← same] at numbered
    exact absurd numbered (Nat.lt_irrefl _)

theorem session?_append (w : Feeds ρ) (i : Nat) (s : Session) {t : Session}
    (here : ({ w with sessions := w.sessions ++ [some s] } : Feeds ρ).session? i = some t) :
    w.session? i = some t ∨ (i = w.sessions.length ∧ t = s) := by
  have lt := index_lt here
  simp only [List.length_append, List.length_singleton] at lt
  by_cases old : i < w.sessions.length
  · exact .inl (by simpa [session?, List.getElem?_append_left old] using here)
  · have last : i = w.sessions.length := by omega
    subst last
    exact .inr ⟨rfl, by simpa [session?, eq_comm] using here⟩

/-- An attempt to open a session is over. If anything came of it, it is the cursor's session. -/
structure Attempted (w after : Feeds ρ) (active : ActiveSession) : Prop where
  idle : after.call = none
  marks : after.cursor.marks = w.cursor.marks
  lastId : after.cursor.lastId = w.cursor.lastId
  current : ∀ other, after.cursor.current = some other → other = active
  length : w.sessions.length ≤ after.sessions.length
  sessions : ∀ i t, after.session? i = some t → w.session? i = some t ∨
    (i = w.sessions.length ∧ t.id = active.id ∧ t.mark = active.mark ∧
      after.cursor.current = some active)

theorem Attempted.isCancelled {active : ActiveSession} (attempted : Attempted w after active)
    (mark : Mark) : after.isCancelled mark = w.isCancelled mark := by
  rw [Feeds.isCancelled, attempted.marks, Feeds.isCancelled]

section Attempted

variable {active : ActiveSession} {source : String} {reply : Pending (List BodyItem)} {i j : Nat}
  {t u : Session} (sound : w.Sound) (called : w.call = some (.opening active source reply))
  (attempted : Attempted w after active)
include sound called attempted

theorem Attempted.id_le (here : after.session? i = some t) : t.id ≤ active.id := by
  rcases attempted.sessions i t here with before | ⟨_, own, _, _⟩
  · exact Nat.le_of_lt (sound.superseded called before).2
  · exact Nat.le_of_eq own

theorem Attempted.rising (lt : i < j) (here : after.session? i = some t)
    (there : after.session? j = some u) : t.id < u.id := by
  rcases attempted.sessions i t here with before | ⟨last, _⟩ <;>
    rcases attempted.sessions j u there with earlier | ⟨end_, own, _⟩
  · exact sound.rising i j t u lt before earlier
  · rw [own]
    exact (sound.superseded called before).2
  · have := index_lt earlier
    omega
  · omega

theorem Attempted.only (here : after.session? i = some t) (valid : after.isCancelled t.mark = false) :
    after.cursor.current = some ⟨t.id, t.mark⟩ := by
  rw [attempted.isCancelled] at valid
  rcases attempted.sessions i t here with before | ⟨_, own, mark, held⟩
  · cases valid.symm.trans (sound.superseded called before).1
  · rw [held, own, mark]

theorem Attempted.onward : w.Onward after := by
  obtain ⟨id, _⟩ := sound.opening active source reply called
  have next : w.nextId = active.id := by simp [nextId, called]
  have later : after.nextId = active.id + 1 := by
    simp [nextId, attempted.idle, attempted.lastId, id]
  refine ⟨attempted.length, ?_, ?_, by omega,
    fun mark gone => by rwa [attempted.isCancelled]⟩
  · intro i t old here
    rcases attempted.sessions i t here with before | ⟨last, _⟩
    · exact ⟨t, before, .refl t⟩
    · omega
  · intro i t new here
    rcases attempted.sessions i t here with before | ⟨_, own, _⟩
    · have := index_lt before
      omega
    · omega

theorem Attempted.sound_after : after.Sound := by
  obtain ⟨id, issued, _⟩ := sound.opening active source reply called
  constructor
  case cursor =>
    constructor
    · rw [attempted.marks]
      exact sound.cursor.cancelled
    · intro other held
      rw [attempted.marks, attempted.current other held]
      exact issued
  case issued =>
    intro i t here
    rw [attempted.marks]
    rcases attempted.sessions i t here with before | ⟨_, _, mark, _⟩
    · exact sound.issued i t before
    · exact mark ▸ issued
  case numbered =>
    intro i t here
    have le := attempted.id_le sound called here
    have later : after.nextId = active.id + 1 := by
      simp [nextId, attempted.idle, attempted.lastId, id]
    omega
  case rising => exact fun i j t u lt here there => attempted.rising sound called lt here there
  case only => exact fun i t here valid => attempted.only sound called here valid
  case opening =>
    intro other source' reply' called'
    cases attempted.idle.symm.trans called'

end Attempted

theorem Sound.opened (sound : w.Sound) {active : ActiveSession} {source : String}
    {reply : Pending (List BodyItem)} (called : w.call = some (.opening active source reply))
    (result : Except ServiceError (List BodyItem)) :
    (w.opened active source result).Sound ∧ w.Onward (w.opened active source result) := by
  obtain ⟨_, _, mine, own⟩ := sound.opening active source reply called
  suffices attempted : Attempted w (w.opened active source result) active from
    ⟨attempted.sound_after sound called, attempted.onward sound called⟩
  unfold Feeds.opened
  split
  · exact ⟨rfl, rfl, rfl, mine, Nat.le_refl _, fun i t here => .inl here⟩
  · rename_i valid
    have held := own (by simpa using valid)
    cases result with
    | ok items =>
      refine ⟨rfl, rfl, rfl, mine, by simp [finish], fun i t here => ?_⟩
      rcases session?_append w i _ here with before | ⟨last, rfl⟩
      · exact .inl before
      · exact .inr ⟨last, rfl, rfl, held⟩
    | error error =>
      have released : w.cursor.release active.id = { w.cursor with current := none } := by
        simp [Cursor.release, held]
      refine ⟨rfl, ?_, ?_, ?_, Nat.le_refl _, fun i t here => .inl here⟩
      · change (w.cursor.release active.id).marks = w.cursor.marks
        rw [released]
      · change (w.cursor.release active.id).lastId = w.cursor.lastId
        rw [released]
      · intro other current
        change (w.cursor.release active.id).current = some other at current
        rw [released] at current
        cases current

/-! ### Any course of acts -/

theorem Sound.step (sound : w.Sound) (read : Reader ρ) (a : Act) :
    (w.act read a).Sound ∧ w.Onward (w.act read a) := by
  have keeping : ∀ {v : Feeds ρ}, w.Keeps v → v.Sound ∧ w.Onward v := fun keeps =>
    ⟨sound.keeps keeps, keeps.onward sound⟩
  cases a with
  | beginOpen now => exact sound.beginOpen now
  | beginNext index => exact keeping (keeps_of_same rfl (by simp [IsOpening, act, beginNext]) rfl)
  | beginPage index stopAfter => exact keeping (w.keeps_beginPage index stopAfter)
  | turn now =>
    by_cases opening : w.IsOpening
    · obtain ⟨active, source, reply, called⟩ := opening
      simp only [act, Feeds.turn, called]
      exact sound.opened called reply.result
    · exact keeping (keeps_turn read now opening)
  | hangUp => exact keeping (keeps_of_same rfl (by simp [IsOpening, act]) rfl)
  | cancelCursor => exact keeping sound.keeps_cancelCursor
  | cancelSession index => exact keeping (sound.keeps_cancelSession index)
  | dropSession index => exact keeping (sound.keeps_dropSession index)
  | aside other now => exact keeping (w.keeps_aside read other now)

theorem Sound.run (sound : w.Sound) (read : Reader ρ) (acts : List Act) :
    (w.run read acts).Sound ∧ w.Onward (w.run read acts) := by
  induction acts generalizing w with
  | nil => exact ⟨sound, .refl w⟩
  | cons a acts ih =>
    obtain ⟨here, first⟩ := sound.step read a
    obtain ⟨there, later⟩ := ih here
    exact ⟨there, first.trans later⟩

theorem sound_start (script : Script) (options : Options) :
    (start script options : Feeds ρ).Sound := by
  constructor <;> simp [start, session?, Cursor.orderly_new]

theorem Sound.named (sound : w.Sound) {i : Nat} {s : Session} (here : w.session? i = some s)
    (active : s.isActive w.cursor.marks = true) : w.cursor.activeSession = some s.id := by
  have valid : w.cursor.marks.isCancelled s.mark = false := by
    simpa [Session.isActive] using (Bool.and_eq_true_iff.mp active).2
  exact Cursor.activeSession_valid (sound.only i s here valid) valid

theorem Sound.opened_active (sound : w.Sound) {active : ActiveSession} {source : String}
    {reply : Pending (List BodyItem)} (called : w.call = some (.opening active source reply))
    (result : Except ServiceError (List BodyItem)) :
    let after := w.opened active source result
    (∀ id, after.answer = some (.opened id) → after.cursor.activeSession = some id) ∧
      ∀ error, after.answer = some (.failed error) → after.cursor.activeSession = none := by
  obtain ⟨_, _, mine, own⟩ := sound.opening active source reply called
  cases gone : w.isCancelled active.mark with
  | true =>
    have vacant : w.cursor.activeSession = none :=
      Cursor.activeSession_gone fun other current => mine other current ▸ gone
    simp [Feeds.opened, finish, gone, vacant]
  | false =>
    have held := own gone
    cases result with
    | ok items => simp [Feeds.opened, finish, gone, Cursor.activeSession_valid held gone]
    | error error =>
      simp [Feeds.opened, finish, gone, Cursor.release, Cursor.activeSession, held]

theorem Sound.exclusive (sound : w.Sound) (read : Reader ρ) : w.Exclusive read := by
  constructor
  case named => exact fun i s here active => sound.named here active
  case one =>
    intro i j s t here there active active'
    have same : s.id = t.id :=
      Option.some.inj ((sound.named here active).symm.trans (sound.named there active'))
    rcases Nat.lt_trichotomy i j with lt | eq | gt
    · exact absurd (sound.rising i j s t lt here there) (by omega)
    · exact eq
    · exact absurd (sound.rising j i t s gt there here) (by omega)
  case opens =>
    rintro ⟨active, source, reply, called⟩ now id answer
    simp only [turn, called] at answer ⊢
    exact (sound.opened_active called reply.result).1 id answer
  case fails =>
    rintro ⟨active, source, reply, called⟩ now error answer
    simp only [turn, called] at answer ⊢
    exact (sound.opened_active called reply.result).2 error answer

theorem Over.next {i : Nat} (ended : w.Over i) (read : Reader ρ) (now : Nat) :
    ((w.beginNext i).turn read now).answer = some .done := by
  have called : (w.beginNext i).call = some (.next i) := rfl
  cases here : w.session? i with
  | none =>
    have gone : (w.beginNext i).session? i = none := here
    simp [turn, called, gone, finish]
  | some s =>
    have same : (w.beginNext i).session? i = some s := here
    have closed : (w.isCancelled s.mark || !s.live) = true := by
      have inactive := ended.2 s here
      simp only [Session.isActive, Bool.and_eq_false_iff, Bool.not_eq_false'] at inactive
      simpa [isCancelled] using inactive.symm
    have read_ : s.seek read (sink s) now false (w.beginNext i) = (.done, s.finish, w.beginNext i) :=
      Session.seek_over read closed
    simp [turn, called, same, readNext, read_, finish]

/-- Whatever is done with a cursor and its sessions: at most one of them is active, the one that the
cursor names, each has a greater number than those before, and one that is over is over for good. -/
theorem one_session_active (read : Reader ρ) (script : Script) (options : Options)
    (acts later : List Act) :
    let w := (start script options).run read acts
    w.Exclusive read ∧ w.Passes read (w.run read later) := by
  intro w
  have sound : w.Sound := ((sound_start script options).run read acts).1
  have onward := (sound.run read later).2
  refine ⟨sound.exclusive read, ?_, fun i ended =>
    ⟨onward.ended ended, fun now => (onward.ended ended).next read now⟩⟩
  · intro i j s t lt here there
    by_cases old : j < w.sessions.length
    · obtain ⟨before, known, ages⟩ := onward.ages j t old there
      have := sound.rising i j s before lt here known
      rwa [ages.id]
    · have := onward.fresh j t (Nat.not_lt.mp old) there
      have := sound.numbered i s here
      omega

end Feeds
end TranscodeConsole.Rehearsal
