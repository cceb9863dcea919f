/-
How old the snapshot of an answer can be:

* `Clock.after`: a clock after some readings;
* `Store.gateReadings`: the readings that the gate itself takes for a question;
* `Store.current_of_not_due`: what the gate does when one of them finds no attempt due;
* `Store.readCount_lt_of_begun`: an attempt always reads the source;
* `Store.age_of_value`: the age of the snapshot of an answer;
* `Store.answer_fresh`: **an answer is from a snapshot younger than the interval**, and without an
  attempt a question changes nothing but the clock.
-/
import KnownLogs.Proofs.Store.Visits

namespace KnownLogs

/-- A clock after some readings. -/
def Clock.after (c : Clock) : Nat → Clock
  | 0 => c
  | n + 1 => c.read.2.after n

namespace Store

variable {s : Store}

/-! ### The readings of the gate -/

/-- The clock readings that the gate itself takes for a question while no attempt is going on: a
second one, behind the lock, if the first one finds an attempt due. -/
def gateReadings (s : Store) : List Int :=
  if s.isDue s.clock.read.1 then [s.clock.read.1, s.clock.read.2.read.1] else [s.clock.read.1]

/-- A question decides on an attempt on the last reading of the gate. -/
lemma getLast?_gateReadings_of_decides {now : Int} (hd : s.decides = some now) :
    s.gateReadings.getLast? = some now := by
  rw [decides] at hd
  split_ifs at hd with hdue
  obtain ⟨hfirst, -⟩ := Bool.and_eq_true_iff.mp hdue
  cases hd
  rw [gateReadings, if_pos hfirst]
  rfl

/-- A question that decides on no attempt finds none due on the last reading of the gate. -/
lemma exists_gateReading_not_due (hd : s.decides = none) :
    ∃ n, s.gateReadings.getLast? = some n ∧ s.isDue n = false := by
  cases hfirst : s.isDue s.clock.read.1 with
  | false => exact ⟨_, by simp [gateReadings, hfirst], hfirst⟩
  | true =>
      refine ⟨s.clock.read.2.read.1, by simp [gateReadings, hfirst], ?_⟩
      simpa [decides, hfirst] using hd

/-- A store that decides on no attempt gives its snapshot, and has only read its clock. -/
lemma current_of_not_due (hl : s.locked = false) (hd : s.decides = none) :
    s.current = (.value s.snapshot, s.aged (s.clock.after s.gateReadings.length) []) := by
  rw [current_eq hl, currentLocked_eq]
  cases hfirst : s.isDue s.clock.read.1 with
  | false => simp [gateReadings, hfirst, Clock.after]
  | true =>
      have hsecond : ¬ s.isDue s.clock.read.2.read.1 = true := by
        simpa [decides, hfirst] using hd
      have hu : (s.aged s.clock.read.2.read.2 []).unlock = s.aged s.clock.read.2.read.2 [] :=
        unlock_of_unlocked hl
      simp [gateReadings, hfirst, hsecond, hu, Clock.after]

/-- Where no attempt is due there has been one, less than an interval ago. -/
lemma lt_interval_of_not_due {n : Int} (hn : s.isDue n = false) :
    ∃ t, s.snapshot.checkedAt = some t ∧ n - t < s.interval := by
  cases hc : s.snapshot.checkedAt with
  | none => simp [isDue, Snapshot.isDue, hc] at hn
  | some t =>
      refine ⟨t, rfl, ?_⟩
      rw [isDue, Snapshot.isDue, hc] at hn
      have hlt : ¬ s.interval ≤ n - t := of_decide_eq_false hn
      omega

/-! ### Attempts read the source -/

lemma readCount_aged (c : Clock) (ms : List Mark) (s : Store) :
    (s.aged c ms).readCount = s.readCount + (ms.filter Mark.isRead).length := by
  simp [readCount]

/-- An attempt always reads the source. -/
lemma readCount_lt_of_attempt (c : Clock) (ms : List Mark) (s : Store) :
    s.readCount < (s.aged c (s.searchMarks ++ ms)).readCount := by
  have hread : Mark.isRead .read = true := rfl
  rw [readCount_aged, searchMarks, List.cons_append, List.cons_append,
    List.filter_cons_of_pos hread, List.length_cons]
  omega

/-- A question that begins an attempt reads the source, however the attempt ends. -/
lemma readCount_lt_of_begun {q : Query} {now : Int} (hs : s.snapshot.IsCoherent)
    (hb : s.beginsAt? q = some now) : s.readCount < (s.answer q).2.readCount := by
  cases hf : s.finding with
  | value g =>
      obtain ⟨c, h⟩ := answer_of_value hs hb hf
      rw [h]
      exact readCount_lt_of_attempt c _ s
  | fault e =>
      obtain ⟨c, h⟩ := answer_of_fault hs hb hf
      rw [h]
      simpa using readCount_lt_of_attempt c [] s
  | blocked =>
      obtain ⟨c, h⟩ := answer_of_blocked hs hb hf
      have hlt := readCount_lt_of_attempt c [] s.lock
      rw [List.append_nil] at hlt
      rw [h]
      exact hlt

/-! ### Answers -/

/-- A question that passes the gate is answered only while no attempt is going on. -/
lemma IsSound.unlocked_of_value (hs : s.IsSound) {q : Query} (hq : q.isGated = true) {a : q.Answer}
    (h : (s.answer q).1 = .value a) : s.locked = false := by
  by_contra hne
  have hl : s.locked = true := by simpa using hne
  have hb : s.beginsAt? q = none := by simp [beginsAt?, hl]
  obtain ⟨c, he⟩ := answer_of_not_begun hs.isCoherent hb
  rw [he, if_pos hl] at h
  simp [Snapshot.reply, hq, hs.unchecked hl] at h

/-- A snapshot that has a time is not the one before any attempt. -/
lemma state_ne_of_checked (hs : s.IsSound) {t : Int} (ht : s.snapshot.checkedAt = some t) :
    s.snapshot.state ≠ .uninitialized := by
  intro hu
  have hnone := hs.isCoherent.mp hu
  rw [ht] at hnone
  cases hnone

/-- A gated question without an attempt leaves the store as it was, but for its clock. -/
lemma answer_of_not_due {q : Query} (hq : q.isGated = true) (hl : s.locked = false)
    (hd : s.decides = none) :
    s.answer q =
      (.value (q.answer s.snapshot), s.aged (s.clock.after s.gateReadings.length) []) := by
  rw [answer_of_current hq (current_of_not_due hl hd), Ending.map_value]

/-- The snapshot of an answer is younger than the interval on the last reading of the gate, and
without an attempt only the clock has gone on. -/
lemma age_of_value (hs : s.IsSound) {q : Query} (hq : q.isGated = true) (hl : s.locked = false)
    {a : q.Answer} (h : (s.answer q).1 = .value a) :
    (∃ n checked, s.gateReadings.getLast? = some n ∧
      (s.answer q).2.snapshot.checkedAt = some checked ∧
        n - checked < (s.answer q).2.interval) ∧
      (s.beginsAt? q = none →
        (s.answer q).2 = s.aged (s.clock.after s.gateReadings.length) []) := by
  -- the last reading finds nothing due, or the attempt is made on it
  cases hd : s.decides with
  | none =>
      obtain ⟨n, hlast, hn⟩ := exists_gateReading_not_due hd
      obtain ⟨checked, hc, hlt⟩ := lt_interval_of_not_due hn
      rw [answer_of_not_due hq hl hd]
      exact ⟨⟨n, checked, hlast, hc, hlt⟩, fun _ => rfl⟩
  | some now =>
      have hb : s.beginsAt? q = some now := beginsAt?_eq_some.mpr ⟨hq, hl, hd⟩
      have hlast := getLast?_gateReadings_of_decides hd
      cases hf : s.finding with
      | value f =>
          obtain ⟨c, he⟩ := answer_of_value hs.isCoherent hb hf
          refine ⟨⟨now, now, hlast, ?_, ?_⟩, fun hnone => ?_⟩
          · rw [he]
            exact Attempt.checkedAt_snapshot _
          · have hpos := s.interval_pos
            rw [he]
            show now - now < s.interval
            omega
          · cases hb.symm.trans hnone
      | fault f =>
          obtain ⟨c, he⟩ := answer_of_fault hs.isCoherent hb hf
          rw [he] at h
          cases h
      | blocked =>
          obtain ⟨c, he⟩ := answer_of_blocked hs.isCoherent hb hf
          rw [he] at h
          cases h

/-- The source is read for a question exactly when it begins an attempt. -/
lemma readCount_eq_iff (hs : s.snapshot.IsCoherent) (q : Query) :
    (s.answer q).2.readCount = s.readCount ↔ s.beginsAt? q = none := by
  constructor
  · intro hsame
    cases hb : s.beginsAt? q with
    | none => rfl
    | some now => exact absurd hsame (Nat.ne_of_gt (readCount_lt_of_begun hs hb))
  · intro hb
    obtain ⟨c, he⟩ := answer_of_not_begun hs hb
    rw [he, readCount_aged]
    rfl

/-- **An answer is from a snapshot younger than the interval**, on the last reading that the gate
took for it; the snapshot is published, and not the one before any attempt. The source is read only
in an attempt; where the question begins none, nothing has changed but the clock, which the gate has
read. An absent or empty id has no entry in any store, and not even the clock is read for it. -/
theorem answer_fresh :
    (∀ s : Store, s.Reachable → ∀ q : Query, q.isGated = true →
      ∀ (a : q.Answer) (t : Store), s.answer q = (.value a, t) →
        (∃ n checked, s.gateReadings.getLast? = some n ∧ t.snapshot.checkedAt = some checked ∧
          n - checked < t.interval) ∧
        t.snapshot.state ≠ .uninitialized ∧ a = q.answer t.snapshot ∧
        (t.readCount = s.readCount ↔ s.beginsAt? q = none) ∧
        (s.beginsAt? q = none → t = s.aged (s.clock.after s.gateReadings.length) [])) ∧
    (∀ (s : Store) (id : Option Bytes), id = none ∨ id = some [] →
      s.answer (.find id) = (.value none, s) ∧ s.answerDuring (.find id) = (.value none, s)) := by
  refine ⟨fun s hr q hq a t h => ?_, ?_⟩
  · have hs := hr.isSound
    have hvalue : (s.answer q).1 = .value a := by rw [h]
    -- a gated question that is answered has found the lock free
    have hl := hs.unlocked_of_value hq hvalue
    have ha := answer_value hs.isCoherent hvalue
    have hreads := readCount_eq_iff hs.isCoherent q
    obtain ⟨hfresh, hsame⟩ := age_of_value hs hq hl hvalue
    rw [h] at ha hreads hfresh hsame
    obtain ⟨n, checked, hlast, hc, hlt⟩ := hfresh
    have ht : t.IsSound := by
      have hsound := hs.answer q
      rwa [h] at hsound
    exact ⟨⟨n, checked, hlast, hc, hlt⟩, state_ne_of_checked ht hc, ha, hreads, hsame⟩
  · rintro s id (rfl | rfl)
    · exact ⟨rfl, rfl⟩
    · exact ⟨rfl, rfl⟩

/-- A world whose clock goes back between the two readings of a question. -/
def turningWorld : World where
  source := .done (.success [1])
  parser := fun _ => .done (.success { version := "1", timestamp := 5 })
  policy := fun _ => .done (.bool true)
  sink := .done ()
  clock := { pending := [5, 7, 20, 12] }

/-- After an attempt on the reading 7 the readings 20 and 12 lead to none: the answer to the second
question is from a snapshot of age 5, and only the clock has gone on. -/
theorem answer_fresh_of_turningWorld :
    ((newIn turningWorld).answer .state).2.Reachable ∧ Query.timestamp.isGated = true ∧
      ∃ t : Store, ((newIn turningWorld).answer .state).2.answer .timestamp = (.value (some 5), t) ∧
        t.snapshot.checkedAt = some 7 ∧ (12 : Int) - 7 < t.interval ∧
        t.snapshot.state ≠ .uninitialized ∧
        t = ((newIn turningWorld).answer .state).2.aged { now := 12 } [] := by
  have hr : ((newIn turningWorld).answer .state).2.Reachable := .asked .state (.newIn _)
  have hlast : ((newIn turningWorld).answer .state).2.gateReadings.getLast? = some 12 := by
    decide +kernel
  have hchecked : (((newIn turningWorld).answer .state).2.answer .timestamp).2.snapshot.checkedAt =
      some 7 := by
    decide +kernel
  have hclock : ((newIn turningWorld).answer .state).2.clock.after
      ((newIn turningWorld).answer .state).2.gateReadings.length = { now := 12 } := by
    decide +kernel
  have hnone : ((newIn turningWorld).answer .state).2.beginsAt? .timestamp = none := by
    decide +kernel
  obtain ⟨⟨n, checked, hn, hc, hlt⟩, hstate, -, -, hsame⟩ :=
    answer_fresh.1 _ hr .timestamp rfl (some 5) _ rfl
  cases hn.symm.trans hlast
  cases hc.symm.trans hchecked
  rw [hclock] at hsame
  exact ⟨hr, rfl, _, rfl, hchecked, hlt, hstate, hsame hnone⟩

end Store

end KnownLogs
