/-
What a question to a store does:

* `Store.decides`: the clock reading on which a question decides on an attempt;
* `Store.attempt?`: the attempt that a question completes, if it completes one;
* `Store.Course`: the courses that a question can take;
* `Store.course`: **every question takes one of them**.
-/
import KnownLogs.Proofs.Store.Attempt

namespace KnownLogs

/-- A dialogue that is always answered does not wait for ever. -/
lemma Dialogue.ending_ne_blocked {I : Interface} {α : Type}
    {answer : (q : I.Question) → Ending (I.Answer q)} (h : ∀ q, answer q ≠ .blocked)
    (x : Dialogue I α) : x.ending answer ≠ .blocked := by
  induction x with
  | done a => simp [ending]
  | fail f => simp [ending]
  | note m rest ih => exact ih
  | ask q rest ih =>
      rw [ending]
      cases hq : answer q with
      | value a => exact ih (.ok a)
      | fault f => exact ih (.error f)
      | blocked => exact absurd hq (h q)

namespace Store

/-! ### Decisions -/

/-- The clock reading on which a question that passes the gate decides on an attempt: two
readings, one after the other, must find it due. -/
def decides (s : Store) : Option Int :=
  let first := s.clock.read
  let second := first.2.read
  if s.isDue first.1 && s.isDue second.1 then some second.1 else none

/-- The attempt that a question completes: it passes the gate while no other attempt is going
on, decides on an attempt, and neither a fault nor a wait ends the attempt before it is
published. -/
def attempt? (q : Query) (s : Store) : Option Attempt :=
  if q.isGated && !s.locked then
    match s.decides, s.finding with
    | some now, .value f => some ⟨now, f⟩
    | _, _ => none
  else none

/-- The courses that a question can take. -/
inductive Course (q : Query) (s : Store) : Ending q.Answer × Store → Prop
  /-- It is answered from the snapshot that is there. -/
  | kept (c : Clock) : s.attempt? q = none →
      Course q s (.value (q.answer s.snapshot), s.aged c [])
  /-- It completes an attempt, and is answered from the snapshot of that attempt unless the
  sink ends in a fault. -/
  | made (c : Clock) (a : Attempt) : s.attempt? q = some a →
      Course q s ((s.news a.snapshot).map fun _ => q.answer a.snapshot,
        (s.publish a.snapshot).aged c (s.searchMarks ++ s.newsMarks a.snapshot))
  /-- A fault ends its attempt before anything is published. -/
  | broken (c : Clock) (f : Fault) : s.attempt? q = none → s.finding = .fault f →
      Course q s (.fault f, s.aged c s.searchMarks)
  /-- The policy waits for ever, behind the lock. -/
  | stuck (c : Clock) : s.attempt? q = none → s.finding = .blocked →
      Course q s (.blocked, s.lock.aged c s.searchMarks)
  /-- It waits for ever at the lock, for the first snapshot. -/
  | waiting (c : Clock) : s.attempt? q = none → s.locked = true →
      Course q s (.blocked, s.aged c [])

/-! ### The gate -/

/-- A store that was not locked is as before once it is given back. -/
lemma unlock_of_unlocked {s : Store} (h : s.locked = false) : s.unlock = s := by
  cases s
  simp_all [unlock]

lemma news_ne_blocked (s : Store) (a : Attempt) : s.news a.snapshot ≠ .blocked := by
  rw [news]
  split
  · have hr : ∀ q, a.snapshot.reply q ≠ .blocked := fun q => by
      rw [Snapshot.reply_of_checked a.checkedAt_snapshot]
      simp
    have h := s.sink.attempt.ending_ne_blocked hr
    cases he : s.sink.attempt.ending a.snapshot.reply with
    | value v => simp
    | fault f => simp
    | blocked => exact absurd he h
  · simp

variable {s : Store}

lemma isDue_aged (c : Clock) (ms : List Mark) (s : Store) : (s.aged c ms).isDue = s.isDue := rfl

/-- A store that is not locked reads its clock, and reads it once more behind the lock if an
attempt is due. -/
lemma current_eq (hl : s.locked = false) :
    s.current =
      if s.isDue s.clock.read.1 then (s.aged s.clock.read.2 []).lock.currentLocked
      else (.value s.snapshot, s.aged s.clock.read.2 []) := by
  simp [current, hl, readClock_eq, isDue_aged]

lemma currentLocked_eq (s : Store) (c : Clock) (ms : List Mark) :
    (s.aged c ms).lock.currentLocked =
      if s.isDue c.read.1 then
        match (s.lock.aged c.read.2 ms).reload c.read.1 with
        | (.blocked, t) => (.blocked, t)
        | (found, t) => (found, t.unlock)
      else (.value s.snapshot, (s.aged c.read.2 ms).unlock) := by
  have h : ((s.aged c ms).lock.aged c.read.2 []) = s.lock.aged c.read.2 ms := by
    simp [lock, aged]
  have hc : (s.aged c ms).lock.clock = c := rfl
  rw [currentLocked, readClock_eq]
  simp only [hc, h]
  rfl

lemma current_of_undecided (hl : s.locked = false) (hd : s.decides = none) :
    ∃ c, s.current = (.value s.snapshot, s.aged c []) := by
  rw [current_eq hl, currentLocked_eq]
  by_cases h : s.isDue s.clock.read.1 = true
  · have h' : ¬ s.isDue s.clock.read.2.read.1 = true := fun h' => by simp [decides, h, h'] at hd
    exact ⟨s.clock.read.2.read.2, by rw [if_pos h, if_neg h', unlock_of_unlocked (by exact hl)]⟩
  · exact ⟨s.clock.read.2, by rw [if_neg h]⟩

/-- A question that decides on an attempt makes it behind the lock. -/
lemma current_of_decided {now : Int} (hl : s.locked = false) (hd : s.decides = some now) :
    ∃ c, s.current =
      match (s.lock.aged c []).reload now with
      | (.blocked, t) => (.blocked, t)
      | (found, t) => (found, t.unlock) := by
  have h : s.isDue s.clock.read.1 = true ∧ s.isDue s.clock.read.2.read.1 = true ∧
      s.clock.read.2.read.1 = now := by
    simpa [decides, and_assoc] using hd
  refine ⟨s.clock.read.2.read.2, ?_⟩
  rw [current_eq hl, currentLocked_eq, if_pos h.1, if_pos h.2.1, h.2.2]

lemma current_of_value {now : Int} {f : Finding} (hs : s.snapshot.IsCoherent)
    (hl : s.locked = false) (hd : s.decides = some now) (hf : s.finding = .value f) :
    ∃ c, s.current =
      ((s.news (Attempt.mk now f).snapshot).map fun _ => (Attempt.mk now f).snapshot,
        (s.publish (Attempt.mk now f).snapshot).aged c
          (s.searchMarks ++ s.newsMarks (Attempt.mk now f).snapshot)) := by
  obtain ⟨c, hc⟩ := current_of_decided hl hd
  obtain ⟨c', hr⟩ := reload_of_value (s := s.lock.aged c []) hs hf now
  have hu : ∀ n ms,
      (((s.lock.publish n).aged c []).aged c' ms).unlock = (s.publish n).aged c' ms := by
    intro n ms
    rw [aged_aged]
    exact unlock_of_unlocked (s := (s.publish n).aged c' ms) hl
  have hn : (s.lock.aged c []).news = s.news := rfl
  refine ⟨c', ?_⟩
  rw [hc, hr, hn]
  cases h : s.news (Attempt.mk now f).snapshot with
  | value u => exact congrArg _ (hu _ _)
  | fault e => exact congrArg _ (hu _ _)
  | blocked => exact absurd h (s.news_ne_blocked _)

lemma current_of_fault {now : Int} {f : Fault} (hs : s.snapshot.IsCoherent)
    (hl : s.locked = false) (hd : s.decides = some now) (hf : s.finding = .fault f) :
    ∃ c, s.current = (.fault f, s.aged c s.searchMarks) := by
  obtain ⟨c, hc⟩ := current_of_decided hl hd
  obtain ⟨c', hr⟩ := reload_of_fault (s := s.lock.aged c []) hs hf now
  refine ⟨c', ?_⟩
  rw [hc, hr, aged_aged]
  exact congrArg _ (unlock_of_unlocked (s := s.aged c' s.searchMarks) hl)

lemma current_of_blocked {now : Int} (hs : s.snapshot.IsCoherent) (hl : s.locked = false)
    (hd : s.decides = some now) (hf : s.finding = .blocked) :
    ∃ c, s.current = (.blocked, s.lock.aged c s.searchMarks) := by
  obtain ⟨c, hc⟩ := current_of_decided hl hd
  obtain ⟨c', hr⟩ := reload_of_blocked (s := s.lock.aged c []) hs hf now
  exact ⟨c', by rw [hc, hr, aged_aged]; rfl⟩

/-! ### Questions -/

/-- **Every question takes one of the courses.** -/
theorem course (hs : s.snapshot.IsCoherent) (q : Query) : Course q s (s.answer q) := by
  by_cases hq : q.isGated = true
  · rw [answer, if_pos hq]
    -- a question while the lock is held, then one that begins nothing, then an attempt by its
    -- finding
    cases hl : s.locked with
    | true =>
        have ha : s.attempt? q = none := by simp [attempt?, hl]
        rw [current, if_pos hl, currentDuring_eq hs]
        cases hc : s.snapshot.checkedAt with
        | none => exact .waiting _ ha hl
        | some t => exact .kept _ ha
    | false =>
        cases hd : s.decides with
        | none =>
            obtain ⟨c, h⟩ := current_of_undecided hl hd
            rw [h]
            exact .kept c (by simp [attempt?, hd])
        | some now =>
            cases hf : s.finding with
            | value f =>
                obtain ⟨c, h⟩ := current_of_value hs hl hd hf
                rw [h]
                simp only [Ending.map_map]
                exact .made c ⟨now, f⟩ (by simp [attempt?, hq, hl, hd, hf])
            | fault f =>
                obtain ⟨c, h⟩ := current_of_fault hs hl hd hf
                rw [h]
                exact .broken c f (by simp [attempt?, hf]) hf
            | blocked =>
                obtain ⟨c, h⟩ := current_of_blocked hs hl hd hf
                rw [h]
                exact .stuck c (by simp [attempt?, hf]) hf
  · rw [answer, if_neg hq]
    have h := Course.kept (q := q) (s := s) s.clock (by simp [attempt?, hq])
    rwa [aged_self] at h

/-- A question leaves the collaborators and the interval as they are. -/
lemma answer_frame (hs : s.snapshot.IsCoherent) (q : Query) :
    ∃ c n l j,
      (s.answer q).2 = { s with clock := c, snapshot := n, locked := l, journal := j } := by
  have hc := course hs q
  generalize s.answer q = r at hc ⊢
  cases hc <;> exact ⟨_, _, _, _, rfl⟩

/-- An answer is the answer of the snapshot that is published when it comes. -/
lemma answer_value (hs : s.snapshot.IsCoherent) {q : Query} {a : q.Answer}
    (h : (s.answer q).1 = .value a) : a = q.answer (s.answer q).2.snapshot := by
  have hc := course hs q
  generalize s.answer q = r at h hc ⊢
  cases hc with
  | kept c _ => exact (Ending.value.inj h).symm
  | made c m _ =>
      cases hn : s.news m.snapshot with
      | value u =>
          rw [hn] at h
          exact (Ending.value.inj h).symm
      | fault e =>
          rw [hn] at h
          cases h
      | blocked => exact absurd hn (s.news_ne_blocked m)
  | broken c f _ _ => cases h
  | stuck c _ _ => cases h
  | waiting c _ _ => cases h

end Store

end KnownLogs
