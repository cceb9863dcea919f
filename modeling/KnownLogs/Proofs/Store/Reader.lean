/-
One reader on its way through the gate, while others are on theirs:

* `Progress.isUnderWay`, `Progress.left`: whether a reader is on its way, and how many steps it has
  left;
* `Progress.seen?`, `Progress.attempt?`, `Progress.next?`: the snapshot that it has in hand, the
  attempt that it is about to make, and the snapshot that it is about to publish;
* `Progress.Fits`: what holds of a reader and the store at each point of the way;
* `Store.Step`: the steps that a reader can take;
* `Store.step_of_advance`: **every step is one of them**, whatever the collaborators do;
* `Store.advance_eq_none`: a reader waits only for the first snapshot, or for itself;
* `Store.Step.lock`, `Store.Step.snapshot`: what a step does to the lock and to the published
  snapshot;
* `Store.Step.fits`, `Store.Step.seen`, `Store.Step.left_lt`: what it does to the reader;
* `Store.Step.readCount`: whether it reads the source.
-/
import KnownLogs.Proofs.Store.Calls
import KnownLogs.Proofs.Store.Staleness
import KnownLogs.Store.Crowd

namespace KnownLogs

/-- A snapshot after which no attempt is due is that of an attempt. -/
lemma Snapshot.state_ne_of_not_isDue {n : Snapshot} (hn : n.IsCoherent) {interval now : Int}
    (h : n.isDue interval now = false) : n.state ≠ .uninitialized := by
  intro hu
  rw [isDue, hn.mp hu] at h
  cases h

namespace Progress

/-! ### Points of the way -/

/-- Whether a reader is on its way: it has put a question, and has no answer yet. -/
def isUnderWay : Progress → Bool
  | idle | served _ => false
  | _ => true

/-- The snapshot that a reader has in hand, to answer from. -/
def seen? : Progress → Option Snapshot
  | looked seen | atLock seen | lookedInside seen => some seen
  | leaving (.value seen) | served (.value seen) => some seen
  | _ => none

/-- How many steps a reader has to take at most until it is served. -/
def left : Progress → Nat
  | looked _ => 8
  | atLock _ => 7
  | inside => 6
  | lookedInside _ => 5
  | attempting _ _ => 4
  | publishing _ _ => 3
  | announcing _ _ => 2
  | leaving _ => 1
  | idle | served _ | stuck => 0

/-- The clock reading on which the attempt was decided that a reader is about to make. -/
def attempt? : Progress → Option Int
  | attempting _ now => some now
  | _ => none

/-- The snapshot that a reader is about to publish. -/
def next? : Progress → Option Snapshot
  | publishing _ next => some next
  | _ => none

/-- Whether a reader has made an attempt, and has published nothing yet. -/
def isPending : Progress → Bool
  | publishing _ _ | stuck => true
  | _ => false

/-- What holds of a reader and the store at each point of the way: behind the lock the snapshot that
the reader has seen is the published one, its attempt is due, and nothing but the snapshot of an
attempt is published. A reader waits for itself only in the first attempt. -/
def Fits (s : Store) : Progress → Prop
  | idle | inside | leaving (.fault _) | served (.fault _) => True
  | stuck => s.snapshot.checkedAt = none
  | looked seen | atLock seen => seen.IsCoherent
  | lookedInside seen => seen = s.snapshot
  | attempting previous now => previous = s.snapshot ∧ s.isDue now = true
  | publishing previous next =>
    previous = s.snapshot ∧ ∃ a : Attempt, next = a.snapshot ∧ s.isDue a.now = true
  | announcing _ next => next = s.snapshot ∧ ∃ a : Attempt, next = a.snapshot
  | leaving (.value seen) => seen = s.snapshot ∧ seen.state ≠ .uninitialized
  | served (.value seen) => seen.state ≠ .uninitialized
  | leaving .blocked | served .blocked => False

variable {s t : Store} {p : Progress}

lemma isUnderWay_of_holdsLock (h : p.holdsLock = true) : p.isUnderWay = true := by
  cases p with
  | idle => cases h
  | served found => cases h
  | _ => rfl

/-- A reader is behind the lock from the decision on an attempt to the publication. -/
lemma holdsLock_of_attempt? {now : Int} (h : p.attempt? = some now) : p.holdsLock = true := by
  cases p with
  | attempting previous now => rfl
  | _ => cases h

lemma holdsLock_of_isPending (h : p.isPending = true) : p.holdsLock = true := by
  cases p with
  | publishing previous next => rfl
  | stuck => rfl
  | _ => cases h

lemma holdsLock_of_next? {n : Snapshot} (h : p.next? = some n) : p.holdsLock = true := by
  cases p with
  | publishing previous next => rfl
  | _ => cases h

/-- A reader makes no attempt that is not due. -/
lemma Fits.isDue_of_attempt? {now : Int} (hf : p.Fits s) (h : p.attempt? = some now) :
    s.isDue now = true := by
  cases p with
  | attempting previous decided =>
      obtain rfl : decided = now := Option.some.inj h
      exact hf.2
  | _ => cases h

/-- A reader is about to publish only what a due attempt has led to. -/
lemma Fits.exists_attempt_of_next? {n : Snapshot} (hf : p.Fits s) (h : p.next? = some n) :
    ∃ a : Attempt, n = a.snapshot ∧ s.isDue a.now = true := by
  cases p with
  | publishing previous next =>
      obtain rfl : next = n := Option.some.inj h
      exact hf.2
  | _ => cases h

/-- What holds at a point depends only on the published snapshot and the interval. -/
lemma Fits.congr (h : p.Fits s) (hn : t.snapshot = s.snapshot) (hi : t.interval = s.interval) :
    p.Fits t := by
  have hdue : t.isDue = s.isDue := by
    funext now
    rw [Store.isDue, Store.isDue, hn, hi]
  unfold Fits at h ⊢
  simp only [hn, hdue]
  exact h

/-- What holds of a reader that does not hold the lock does not depend on the store. -/
lemma Fits.of_not_holdsLock (hl : p.holdsLock = false) (h : p.Fits s) : p.Fits t := by
  cases p with
  | idle => trivial
  | looked seen => exact h
  | atLock seen => exact h
  | served found =>
      cases found with
      | value n => exact h
      | fault f => trivial
      | blocked => exact h
  | inside => cases hl
  | lookedInside seen => cases hl
  | attempting previous now => cases hl
  | publishing previous next => cases hl
  | announcing previous next => cases hl
  | leaving found => cases hl
  | stuck => cases hl

end Progress

namespace Store

variable {s t : Store} {p q : Progress}

/-! ### Steps -/

/-- The steps that a reader can take. -/
inductive Step (s : Store) : Progress → Progress → Store → Prop
  | setOut : Step s .idle (.looked s.snapshot) s
  | askAgain (found : Ending Snapshot) : Step s (.served found) (.looked s.snapshot) s
  /-- No attempt is due. -/
  | pass (seen : Snapshot) : seen.isDue s.interval s.clock.read.1 = false →
      Step s (.looked seen) (.served (.value seen)) (s.aged s.clock.read.2 [])
  | stand (seen : Snapshot) : Step s (.looked seen) (.atLock seen) (s.aged s.clock.read.2 [])
  | enter (seen : Snapshot) : s.locked = false → Step s (.atLock seen) .inside s.lock
  /-- Another reader is behind the lock, and something has been published. -/
  | turn (seen : Snapshot) : s.locked = true → seen.state ≠ .uninitialized →
      Step s (.atLock seen) (.served (.value seen)) s
  | lookAgain : Step s .inside (.lookedInside s.snapshot) s
  /-- No attempt is due any more. -/
  | leave (seen : Snapshot) : seen.isDue s.interval s.clock.read.1 = false →
      Step s (.lookedInside seen) (.leaving (.value seen)) (s.aged s.clock.read.2 [])
  | decide (seen : Snapshot) : seen.isDue s.interval s.clock.read.1 = true →
      Step s (.lookedInside seen) (.attempting seen s.clock.read.1) (s.aged s.clock.read.2 [])
  | find (previous : Snapshot) (now : Int) (c : Clock) (f : Finding) : s.finding = .value f →
      Step s (.attempting previous now) (.publishing previous (Attempt.mk now f).snapshot)
        (s.aged c s.searchMarks)
  | abort (previous : Snapshot) (now : Int) (c : Clock) (f : Fault) : s.finding = .fault f →
      Step s (.attempting previous now) (.leaving (.fault f)) (s.aged c s.searchMarks)
  /-- The policy waits for the lock that its own reader holds. -/
  | hang (previous : Snapshot) (now : Int) (c : Clock) : s.finding = .blocked →
      Step s (.attempting previous now) .stuck (s.aged c s.searchMarks)
  | publish (previous next : Snapshot) :
      Step s (.publishing previous next) (.announcing previous next) (s.publish next)
  | tell (previous next : Snapshot) (c : Clock) (told : Ending Unit) : told ≠ .blocked →
      Step s (.announcing previous next) (.leaving (told.map fun _ => next))
        (s.aged c ((s.publish previous).newsMarks next))
  | release (found : Ending Snapshot) : Step s (.leaving found) (.served found) s.unlock

/-- A reader that is not on its way sets out with a look at the published snapshot. -/
lemma advance_of_free (s : Store) (h : p.isUnderWay = false) :
    s.advance p = some (.looked s.snapshot, s) := by
  cases p with
  | idle => rfl
  | served found => rfl
  | _ => cases h

lemma advance_looked (s : Store) (seen : Snapshot) :
    s.advance (.looked seen) =
      some (if seen.isDue s.interval s.clock.read.1 then .atLock seen else .served (.value seen),
        s.aged s.clock.read.2 []) := by
  rw [advance, readClock_eq]
  rfl

lemma advance_lookedInside (s : Store) (seen : Snapshot) :
    s.advance (.lookedInside seen) =
      some (if seen.isDue s.interval s.clock.read.1 then .attempting seen s.clock.read.1
          else .leaving (.value seen),
        s.aged s.clock.read.2 []) := by
  rw [advance, readClock_eq]
  rfl

/-- **Every step of a reader is one of these**, whatever the collaborators do. -/
theorem step_of_advance (hs : s.snapshot.IsCoherent) (hp : p.Fits s)
    (h : s.advance p = some (q, t)) : s.Step p q t := by
  cases p with
  | idle =>
      cases h
      exact .setOut
  | served found =>
      cases h
      exact .askAgain found
  -- at the two looks the clock decides, at the lock its state does
  | looked seen =>
      rw [advance_looked] at h
      cases hdue : seen.isDue s.interval s.clock.read.1 with
      | true =>
          obtain ⟨rfl, rfl⟩ : .atLock seen = q ∧ s.aged s.clock.read.2 [] = t := by
            simpa [hdue] using h
          exact .stand seen
      | false =>
          obtain ⟨rfl, rfl⟩ : .served (.value seen) = q ∧ s.aged s.clock.read.2 [] = t := by
            simpa [hdue] using h
          exact .pass seen hdue
  | atLock seen =>
      rw [advance] at h
      cases hl : s.locked with
      | false =>
          obtain ⟨rfl, rfl⟩ : .inside = q ∧ s.lock = t := by simpa [hl] using h
          exact .enter seen hl
      | true =>
          by_cases hu : seen.state = .uninitialized
          · simp [hl, hu] at h
          · obtain ⟨rfl, rfl⟩ : .served (.value seen) = q ∧ s = t := by simpa [hl, hu] using h
            exact .turn seen hl hu
  | inside =>
      cases h
      exact .lookAgain
  | lookedInside seen =>
      rw [advance_lookedInside] at h
      cases hdue : seen.isDue s.interval s.clock.read.1 with
      | true =>
          obtain ⟨rfl, rfl⟩ : .attempting seen s.clock.read.1 = q ∧
              s.aged s.clock.read.2 [] = t := by
            simpa [hdue] using h
          exact .decide seen hdue
      | false =>
          obtain ⟨rfl, rfl⟩ : .leaving (.value seen) = q ∧ s.aged s.clock.read.2 [] = t := by
            simpa [hdue] using h
          exact .leave seen hdue
  -- a search ends as its finding does
  | attempting previous now =>
      obtain ⟨c, he⟩ := examine_eq hs now
      rw [advance, he] at h
      cases hf : s.finding with
      | value f =>
          rw [hf] at h
          cases h
          exact .find previous now c f hf
      | fault f =>
          rw [hf] at h
          cases h
          exact .abort previous now c f hf
      | blocked =>
          rw [hf] at h
          cases h
          exact .hang previous now c hf
  | publishing previous next =>
      cases h
      exact .publish previous next
  | announcing previous next =>
      -- the store is the one that has just published `next` in place of `previous`
      obtain ⟨hn, a, rfl⟩ := hp
      have hself : (s.publish previous).publish a.snapshot = s := by
        rw [hn]
        rfl
      obtain ⟨c, ha⟩ := announce_eq (s.publish previous) a.isCoherent_snapshot
      have ha' : s.announce previous a.snapshot =
          ((s.publish previous).news a.snapshot,
            s.aged c ((s.publish previous).newsMarks a.snapshot)) := by
        rw [hself] at ha
        exact ha
      rw [advance, ha'] at h
      cases hw : (s.publish previous).news a.snapshot with
      | value u =>
          rw [hw] at h
          cases h
          exact .tell previous _ c (.value u) (by simp)
      | fault f =>
          rw [hw] at h
          cases h
          exact .tell previous _ c (.fault f) (by simp)
      | blocked => exact absurd hw ((s.publish previous).news_ne_blocked a)
  | leaving found =>
      cases h
      exact .release found
  | stuck => cases h

/-- A reader waits only at the lock, for the first snapshot, unless it waits for itself. -/
lemma advance_eq_none :
    s.advance p = none ↔ p = .stuck ∨
      s.locked = true ∧ ∃ seen, p = .atLock seen ∧ seen.state = .uninitialized := by
  constructor
  · intro h
    cases p with
    | stuck => exact .inl rfl
    | atLock seen =>
        rw [advance] at h
        split_ifs at h with hl hu
        exact .inr ⟨by simpa using hl, seen, rfl, beq_iff_eq.mp hu⟩
    -- an attempt goes on whatever it comes to
    | attempting previous now =>
        rw [advance] at h
        split at h <;> cases h
    | announcing previous next =>
        rw [advance] at h
        split at h <;> cases h
    | _ => simp [advance] at h
  · rintro (rfl | ⟨hl, seen, rfl, hu⟩)
    · rfl
    · simp [advance, hl, hu]

/-! ### What one step does -/

/-- Readings of the source are counted among the calls. -/
lemma length_filter_isRead (ms : List Mark) :
    (ms.filter Mark.isRead).length = (ms.filter Mark.isCall).countP Mark.isRead := by
  rw [← List.countP_eq_length_filter, List.countP_filter]
  refine List.countP_congr fun m _ => ?_
  simp +contextual [Mark.isCall]

namespace Step

variable (h : s.Step p q t)
include h

lemma interval : t.interval = s.interval := by
  cases h <;> rfl

/-- A step keeps the lock as it is, takes it from nobody, or gives it back. -/
lemma lock :
    (q.holdsLock = p.holdsLock ∧ t.locked = s.locked) ∨
      (s.locked = false ∧ q.holdsLock = true ∧ t.locked = true) ∨
        (p.holdsLock = true ∧ q.holdsLock = false ∧ t.locked = false) := by
  cases h with
  | enter seen hl => exact .inr (.inl ⟨hl, rfl, rfl⟩)
  | release found => exact .inr (.inr ⟨rfl, rfl, rfl⟩)
  | _ => exact .inl ⟨rfl, rfl⟩

/-- A reader that gives the lock back is served. -/
lemma served_of_released (hp : p.holdsLock = true) (hq : q.holdsLock = false) :
    ∃ found, q = .served found := by
  cases h with
  | pass seen _ => exact ⟨_, rfl⟩
  | turn seen _ _ => exact ⟨_, rfl⟩
  | release found => exact ⟨_, rfl⟩
  | setOut => cases hp
  | askAgain found => cases hp
  | stand seen => cases hp
  | _ => cases hq

/-- The published snapshot changes only in the step that publishes another one. -/
lemma snapshot : t.snapshot = p.next?.getD s.snapshot := by
  cases h <;> rfl

/-- What holds of a reader holds of it after its next step. -/
lemma fits (hs : s.snapshot.IsCoherent) (hp : p.Fits s) : q.Fits t := by
  -- step by step, what has been seen is what is published or is about to be
  cases h with
  | setOut => exact hs
  | askAgain found => exact hs
  | pass seen hdue => exact Snapshot.state_ne_of_not_isDue hp hdue
  | stand seen => exact hp
  | enter seen _ => trivial
  | turn seen _ hu => exact hu
  | lookAgain => rfl
  | leave seen hdue => exact ⟨hp, Snapshot.state_ne_of_not_isDue (hp ▸ hs) hdue⟩
  | decide seen hdue => exact ⟨hp, by cases hp; exact hdue⟩
  | find previous now c f _ => exact ⟨hp.1, ⟨now, f⟩, rfl, hp.2⟩
  | abort previous now c f _ => trivial
  | hang previous now c hf => exact checkedAt_of_blocked hf
  | publish previous next =>
      obtain ⟨-, a, ha, -⟩ := hp
      exact ⟨rfl, a, ha⟩
  | tell previous next c told htold =>
      obtain ⟨hn, a, rfl⟩ := hp
      cases told with
      | value u => exact ⟨hn, a.state_snapshot_ne⟩
      | fault f => trivial
      | blocked => exact absurd rfl htold
  | release found =>
      cases found with
      | value n => exact hp.2
      | fault f => trivial
      | blocked => exact hp

lemma isCoherent (hs : s.snapshot.IsCoherent) (hp : p.Fits s) : t.snapshot.IsCoherent := by
  rw [h.snapshot]
  cases p with
  | publishing previous next =>
      obtain ⟨-, a, rfl, -⟩ := hp
      exact a.isCoherent_snapshot
  | _ => exact hs

/-- The snapshot that a reader has in hand after a step is the one that it had in hand, or the one
that is published then. -/
lemma seen (hp : p.Fits s) {n : Snapshot} (hn : q.seen? = some n) :
    p.seen? = some n ∨ t.snapshot = n := by
  cases h with
  | setOut => exact .inr (Option.some.inj hn)
  | askAgain found => exact .inr (Option.some.inj hn)
  | lookAgain => exact .inr (Option.some.inj hn)
  | pass m _ => exact .inl hn
  | stand m => exact .inl hn
  | turn m _ _ => exact .inl hn
  | leave m _ => exact .inl hn
  | tell previous next c told _ =>
      cases told with
      | value u => exact .inr (hp.1.symm.trans (Option.some.inj hn))
      | fault f => cases hn
      | blocked => cases hn
  | release found =>
      cases found with
      | value m => exact .inl hn
      | fault f => cases hn
      | blocked => cases hn
  | _ => cases hn

/-- An attempt is decided on the reading that the gate takes of the clock then. -/
lemma reading {now : Int} (hq : q.attempt? = some now) :
    ∃ n, p = .lookedInside n ∧ s.clock.read.1 = now := by
  cases h with
  | decide n _ => exact ⟨n, rfl, Option.some.inj hq⟩
  | _ => cases hq

/-- A reader that is about to publish something has just made an attempt. -/
lemma next {n : Snapshot} (hn : q.next? = some n) :
    ∃ a : Attempt, p.attempt? = some a.now ∧ n = a.snapshot := by
  cases h with
  | find previous now c f _ => exact ⟨⟨now, f⟩, rfl, (Option.some.inj hn).symm⟩
  | _ => cases hn

/-- An attempt that is not broken off leaves its reader with something to publish, unless it waits
for itself. -/
lemma isPending_of_attempt? {now : Int} (hp : p.attempt? = some now)
    (hq : ∀ f, q ≠ .leaving (.fault f)) : q.isPending = true := by
  cases h with
  | find previous decided c f _ => rfl
  | abort previous decided c f _ => exact absurd rfl (hq f)
  | hang previous decided c _ => rfl
  | _ => cases hp

/-- A reader that has made an attempt publishes its snapshot in the next step. -/
lemma next_of_isPending (hp : p.isPending = true) : p.next? = some t.snapshot := by
  cases h with
  | publish previous next => rfl
  | _ => cases hp

omit h in
/-- A question that ends in a fault has met it behind the lock. -/
lemma leaving_of_fault {f : Fault} (h : s.Step p (.served (.fault f)) t) :
    p = .leaving (.fault f) := by
  cases h
  rfl

omit h in
/-- A fault behind the lock comes from the step that it broke off: a search, or telling the sink. -/
lemma attempting_of_fault {f : Fault} (h : s.Step p (.leaving (.fault f)) t) :
    (∃ previous now, p = .attempting previous now) ∨
      ∃ previous next, p = .announcing previous next := by
  generalize hq : Progress.leaving (.fault f) = q at h
  cases h with
  | abort previous now c f _ => exact .inl ⟨previous, now, rfl⟩
  | tell previous next c told _ => exact .inr ⟨previous, next, rfl⟩
  | _ => cases hq

/-- Each step of a reader on its way brings it nearer to its end. -/
lemma left_lt (hp : p.isUnderWay = true) : q.left < p.left := by
  cases h with
  | setOut => cases hp
  | askAgain found => cases hp
  | _ => simp [Progress.left]

lemma tellsNoCall (hw : s.world.TellsNoCall) : t.world.TellsNoCall := by
  cases h <;> exact ⟨hw.source, hw.parser, hw.policy, hw.sink⟩

/-- The source is read once in the step that makes an attempt, and in no other. -/
lemma readCount (hw : s.world.TellsNoCall) :
    t.readCount = s.readCount + p.attempt?.toList.length := by
  have hsearch : (s.searchMarks.filter Mark.isRead).length = 1 := by
    rw [length_filter_isRead, calls_searchMarks hw, countP_isRead_calls]
  cases h with
  | find previous now c f _ => exact (readCount_aged c _ s).trans (congrArg _ hsearch)
  | abort previous now c f _ => exact (readCount_aged c _ s).trans (congrArg _ hsearch)
  | hang previous now c _ => exact (readCount_aged c _ s).trans (congrArg _ hsearch)
  | tell previous next c told _ =>
      have hnews : (((s.publish previous).newsMarks next).filter Mark.isRead).length = 0 := by
        rw [length_filter_isRead, calls_newsMarks (s := s.publish previous) hw]
        rfl
      exact (readCount_aged c _ s).trans (congrArg _ hnews)
  | pass seen _ => exact readCount_aged _ [] s
  | stand seen => exact readCount_aged _ [] s
  | leave seen _ => exact readCount_aged _ [] s
  | decide seen _ => exact readCount_aged _ [] s
  | _ => rfl

end Step

end Store

end KnownLogs
