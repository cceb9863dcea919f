/-
Dialogues of a collaborator while an attempt is going on:

* `Snapshot.IsCoherent`: only the snapshot before any attempt has no time;
* `Snapshot.reply`: what a snapshot answers while an attempt is going on;
* `Dialogue.ending`, `Dialogue.marks`: how a dialogue ends and which marks it leaves, given
  an answer to every question once and for all;
* `Store.runDuring_eq`: **a collaborator is answered from the published snapshot, whatever the
  clock says, and changes nothing but the clock and the marks**.
-/
import Mathlib.Tactic.Common
import KnownLogs.Store.Gate

namespace KnownLogs

/-! ### Answers that do not change -/

/-- Only the snapshot before any attempt has no time. -/
def Snapshot.IsCoherent (s : Snapshot) : Prop :=
  s.state = .uninitialized ↔ s.checkedAt = none

/-- What a snapshot answers while an attempt is going on. Before anything has been
published, a question that passes the gate waits for ever. -/
def Snapshot.reply (s : Snapshot) : (q : storeQueries.Question) → Ending (storeQueries.Answer q) :=
  fun q : Query => if q.isGated && s.checkedAt.isNone then .blocked else .value (q.answer s)

namespace Dialogue

variable {I : Interface} {α : Type}

/-- How a dialogue ends, given an answer to every question once and for all. -/
def ending (answer : (q : I.Question) → Ending (I.Answer q)) : Dialogue I α → Ending α
  | done a => .value a
  | fail f => .fault f
  | note _ rest => rest.ending answer
  | ask q rest =>
    match answer q with
    | .value a => (rest (.ok a)).ending answer
    | .fault f => (rest (.error f)).ending answer
    | .blocked => .blocked

/-- The marks that a dialogue leaves, given an answer to every question once and for
all. -/
def marks (answer : (q : I.Question) → Ending (I.Answer q)) : Dialogue I α → List Mark
  | done _ | fail _ => []
  | note m rest => m :: rest.marks answer
  | ask q rest =>
    match answer q with
    | .value a => (rest (.ok a)).marks answer
    | .fault f => (rest (.error f)).marks answer
    | .blocked => []

end Dialogue

namespace Ending

variable {α β γ : Type}

@[simp] lemma map_value (f : α → β) (a : α) : (value a).map f = value (f a) := rfl
@[simp] lemma map_fault (f : α → β) (e : Fault) : (fault e).map f = fault e := rfl
@[simp] lemma map_blocked (f : α → β) : blocked.map f = blocked := rfl

@[simp] lemma map_map (f : α → β) (g : β → γ) (x : Ending α) :
    (x.map f).map g = x.map fun a => g (f a) := by
  cases x <;> rfl

/-- What a computation ends with, if it has a result. -/
def value? : Ending α → Option α
  | value a => some a
  | _ => none

@[simp] lemma value?_eq_some {x : Ending α} {a : α} : x.value? = some a ↔ x = value a := by
  cases x <;> simp [value?]

end Ending

namespace Snapshot

lemma isCoherent_initial : initial.IsCoherent := by
  simp [IsCoherent, initial]

/-- Where something has been published, every question is answered. -/
lemma reply_of_checked {s : Snapshot} {t : Int} (h : s.checkedAt = some t)
    (q : storeQueries.Question) : s.reply q = .value (Query.answer s q) := by
  simp [reply, h]

end Snapshot

namespace Store

variable {α : Type}

/-! ### Small steps -/

/-- A store whose clock has gone on and which has kept more marks. -/
def aged (c : Clock) (ms : List Mark) (s : Store) : Store :=
  { s with clock := c, journal := s.journal ++ ms }

section Aged

variable (c : Clock) (ms : List Mark) (s : Store)

@[simp] lemma source_aged : (s.aged c ms).source = s.source := rfl
@[simp] lemma parser_aged : (s.aged c ms).parser = s.parser := rfl
@[simp] lemma policy_aged : (s.aged c ms).policy = s.policy := rfl
@[simp] lemma sink_aged : (s.aged c ms).sink = s.sink := rfl
@[simp] lemma clock_aged : (s.aged c ms).clock = c := rfl
@[simp] lemma interval_aged : (s.aged c ms).interval = s.interval := rfl
@[simp] lemma snapshot_aged : (s.aged c ms).snapshot = s.snapshot := rfl
@[simp] lemma locked_aged : (s.aged c ms).locked = s.locked := rfl
@[simp] lemma journal_aged : (s.aged c ms).journal = s.journal ++ ms := rfl

@[simp] lemma aged_aged (c' : Clock) (ns : List Mark) :
    (s.aged c ms).aged c' ns = s.aged c' (ms ++ ns) := by
  simp [aged]

end Aged

lemma aged_self (s : Store) : s.aged s.clock [] = s := by
  simp [aged]

lemma keepAll_eq (s : Store) (ms : List Mark) : s.keepAll ms = s.aged s.clock ms := rfl

lemma keep_eq (s : Store) (m : Mark) : s.keep m = s.aged s.clock [m] := rfl

lemma readClock_eq (s : Store) : s.readClock = (s.clock.read.1, s.aged s.clock.read.2 []) := by
  simp [readClock, aged]

/-- The gate while an attempt is going on reads the clock once and answers from the published
snapshot. -/
lemma currentDuring_eq {s : Store} (hs : s.snapshot.IsCoherent) :
    s.currentDuring =
      (if s.snapshot.checkedAt.isNone then .blocked else .value s.snapshot,
        s.aged s.clock.read.2 []) := by
  rw [currentDuring, readClock_eq]
  cases hc : s.snapshot.checkedAt with
  | none =>
      have hu : s.snapshot.state = .uninitialized := hs.mpr hc
      simp [isDue, Snapshot.isDue, hc, hu]
  | some t =>
      have hu : s.snapshot.state ≠ .uninitialized := fun h => by simp [hs.mp h] at hc
      simp [hu]

/-- A question while an attempt is going on has the answer of the published snapshot; only
the clock goes on. -/
lemma answerDuring_eq {s : Store} (hs : s.snapshot.IsCoherent) (q : Query) :
    ∃ c, s.answerDuring q = (s.snapshot.reply q, s.aged c []) := by
  by_cases hq : q.isGated = true
  · refine ⟨s.clock.read.2, ?_⟩
    rw [answerDuring, if_pos hq, currentDuring_eq hs]
    cases hc : s.snapshot.checkedAt <;> simp [Snapshot.reply, hq, hc] <;> rfl
  · refine ⟨s.clock, ?_⟩
    rw [answerDuring, if_neg hq, aged_self]
    simp [Snapshot.reply, hq]
    rfl

/-! ### Whole dialogues -/

/-- **A collaborator is answered from the published snapshot**, whatever the clock says, and
changes nothing but the clock and the marks. -/
theorem runDuring_eq {s : Store} (hs : s.snapshot.IsCoherent) (x : Dialogue storeQueries α) :
    ∃ c, s.runDuring x = (x.ending s.snapshot.reply, s.aged c (x.marks s.snapshot.reply)) := by
  -- by induction on the dialogue: the snapshot that answers is the same after each step
  induction x generalizing s with
  | done a => exact ⟨s.clock, by rw [Dialogue.marks, aged_self]; rfl⟩
  | fail f => exact ⟨s.clock, by rw [Dialogue.marks, aged_self]; rfl⟩
  | note m rest ih =>
      obtain ⟨c, h⟩ := ih (s := s.keep m) hs
      refine ⟨c, ?_⟩
      rw [runDuring, Dialogue.run, ← runDuring]
      exact h.trans (by simp [keep_eq, Dialogue.ending, Dialogue.marks])
  | ask q rest ih =>
      obtain ⟨c, h⟩ := answerDuring_eq hs q
      rw [runDuring, Dialogue.run, show during.answer q s = s.answerDuring q from rfl, h]
      cases hr : s.snapshot.reply q with
      | value a =>
          obtain ⟨c', h'⟩ := ih (.ok a) (s := s.aged c []) hs
          exact ⟨c', by simpa [runDuring, Dialogue.ending, Dialogue.marks, hr] using h'⟩
      | fault f =>
          obtain ⟨c', h'⟩ := ih (.error f) (s := s.aged c []) hs
          exact ⟨c', by simpa [runDuring, Dialogue.ending, Dialogue.marks, hr] using h'⟩
      | blocked => exact ⟨c, by simp [Dialogue.ending, Dialogue.marks, hr]⟩

end Store

end KnownLogs
