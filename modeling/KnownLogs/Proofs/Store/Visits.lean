/-
Questions to a store in any world:

* `World`, `Store.inWorld`: all that stands around a store, and a store that stands in it;
* `Store.newIn`: a store that has just been built in a world;
* `Store.Reachable`: the stores that can come about, every collaborator replaced at will;
* `Store.beginsAt?`: whether a question begins an attempt, and on which clock reading;
* `Store.answer_of_value`, `Store.answer_of_fault`, `Store.answer_of_blocked`,
  `Store.answer_of_not_begun`: **what a question does**, given what its attempt finds;
* `Store.Reachable.isSound`: a lock that is never given back stands before the first snapshot;
* `Visit`, `Store.visits`: questions one after another, each in a world of its own;
* `Store.snapshot_visits`: **the published snapshot is that of the last completed attempt** on the
  way.
-/
import KnownLogs.Proofs.Store.Gate

namespace KnownLogs

/-! ### Worlds -/

/-- All that stands around a store: its collaborators, and what its clock will tell. -/
structure World where
  source : Call (Outcome Bytes)
  parser : Bytes → Call (Outcome Document)
  policy : CompliancePolicy
  sink : MetricsSink
  clock : Clock

namespace Store

variable {s : Store} {q : Query} {now : Int}

/-- What stands around a store. -/
def world (s : Store) : World where
  source := s.source
  parser := s.parser
  policy := s.policy
  sink := s.sink
  clock := s.clock

/-- A store in another world; what it has published, its lock and its marks are its own. -/
def inWorld (s : Store) (w : World) : Store :=
  { s with source := w.source, parser := w.parser, policy := w.policy, sink := w.sink,
           clock := w.clock }

@[simp] lemma world_inWorld (s : Store) (w : World) : (s.inWorld w).world = w := rfl
@[simp] lemma interval_inWorld (s : Store) (w : World) :
    (s.inWorld w).interval = s.interval := rfl
@[simp] lemma snapshot_inWorld (s : Store) (w : World) :
    (s.inWorld w).snapshot = s.snapshot := rfl
@[simp] lemma locked_inWorld (s : Store) (w : World) : (s.inWorld w).locked = s.locked := rfl
@[simp] lemma journal_inWorld (s : Store) (w : World) : (s.inWorld w).journal = s.journal := rfl

/-- Ten milliseconds. -/
def briefInterval : Int := 10

lemma briefInterval_pos : 0 < briefInterval := by decide

/-- A store that has just been built in a world, with a brief interval. -/
def newIn (w : World) : Store where
  source := w.source
  parser := w.parser
  policy := w.policy
  sink := w.sink
  clock := w.clock
  interval := briefInterval
  interval_pos := briefInterval_pos

lemma build_newIn (w : World) :
    Store.build (some w.source) (some w.parser) (some w.policy) (some w.sink) w.clock
      briefInterval = .ok (newIn w) := rfl

/-- The stores that can come about: one that has just been built, one whose world is another
now, and one that has been asked. -/
inductive Reachable : Store → Prop where
  | built {source : Option (Call (Outcome Bytes))}
      {parser : Option (Bytes → Call (Outcome Document))} {policy : Option CompliancePolicy}
      {sink : Option MetricsSink} {clock : Clock} {interval : Int} {s : Store} :
      Store.build source parser policy sink clock interval = .ok s → Reachable s
  | moved {s : Store} (w : World) : Reachable s → Reachable (s.inWorld w)
  | asked {s : Store} (q : Query) : Reachable s → Reachable (s.answer q).2

lemma Reachable.newIn (w : World) : (newIn w).Reachable :=
  .built (build_newIn w)

/-! ### Beginning an attempt -/

/-- The clock reading on which a question begins an attempt, if it begins one: it passes the
gate while no other attempt is going on, and decides on an attempt. -/
def beginsAt? (q : Query) (s : Store) : Option Int :=
  if q.isGated && !s.locked then s.decides else none

lemma beginsAt?_eq_some :
    s.beginsAt? q = some now ↔ q.isGated = true ∧ s.locked = false ∧ s.decides = some now := by
  cases hq : q.isGated <;> cases hl : s.locked <;> simp [beginsAt?, hq, hl]

/-- A question completes an attempt when it begins one that finds something. -/
lemma attempt?_eq_some {a : Attempt} :
    s.attempt? q = some a ↔ s.beginsAt? q = some a.now ∧ s.finding = .value a.finding := by
  obtain ⟨t, g⟩ := a
  cases hb : (q.isGated && !s.locked) with
  | false => simp [attempt?, beginsAt?, hb]
  | true =>
      cases hd : s.decides with
      | none => simp [attempt?, beginsAt?, hb, hd]
      | some now =>
          cases hf : s.finding with
          | value f => simp [attempt?, beginsAt?, hb, hd, hf]
          | fault f => simp [attempt?, beginsAt?, hb, hd, hf]
          | blocked => simp [attempt?, beginsAt?, hb, hd, hf]

/-- An attempt is begun on a reading on which one is due. -/
lemma isDue_of_beginsAt? (hb : s.beginsAt? q = some now) : s.isDue now = true := by
  obtain ⟨-, -, hd⟩ := beginsAt?_eq_some.mp hb
  rw [decides] at hd
  split_ifs at hd with hdue
  cases hd
  exact (Bool.and_eq_true_iff.mp hdue).2

lemma answer_of_current {found : Ending Snapshot} {t : Store} (hq : q.isGated = true)
    (hc : s.current = (found, t)) : s.answer q = (found.map fun n => q.answer n, t) := by
  rw [answer, if_pos hq, hc]

/-- **An attempt that finds something publishes its snapshot**, from which the question is
answered unless the sink ends in a fault. -/
lemma answer_of_value (hs : s.snapshot.IsCoherent) (hb : s.beginsAt? q = some now) {f : Finding}
    (hf : s.finding = .value f) :
    ∃ c, s.answer q =
      ((s.news (Attempt.mk now f).snapshot).map fun _ => q.answer (Attempt.mk now f).snapshot,
        (s.publish (Attempt.mk now f).snapshot).aged c
          (s.searchMarks ++ s.newsMarks (Attempt.mk now f).snapshot)) := by
  obtain ⟨hq, hl, hd⟩ := beginsAt?_eq_some.mp hb
  obtain ⟨c, hc⟩ := current_of_value hs hl hd hf
  exact ⟨c, by rw [answer_of_current hq hc, Ending.map_map]⟩

/-- **An attempt that ends in a fault** leaves its marks, and nothing else. -/
lemma answer_of_fault (hs : s.snapshot.IsCoherent) (hb : s.beginsAt? q = some now) {f : Fault}
    (hf : s.finding = .fault f) : ∃ c, s.answer q = (.fault f, s.aged c s.searchMarks) := by
  obtain ⟨hq, hl, hd⟩ := beginsAt?_eq_some.mp hb
  obtain ⟨c, hc⟩ := current_of_fault hs hl hd hf
  exact ⟨c, by rw [answer_of_current hq hc, Ending.map_fault]⟩

/-- An attempt whose policy waits for ever keeps the lock. -/
lemma answer_of_blocked (hs : s.snapshot.IsCoherent) (hb : s.beginsAt? q = some now)
    (hf : s.finding = .blocked) :
    ∃ c, s.answer q = (.blocked, s.lock.aged c s.searchMarks) := by
  obtain ⟨hq, hl, hd⟩ := beginsAt?_eq_some.mp hb
  obtain ⟨c, hc⟩ := current_of_blocked hs hl hd hf
  exact ⟨c, by rw [answer_of_current hq hc, Ending.map_blocked]⟩

/-- **A question that begins no attempt** is answered from the snapshot that is there, or waits
for the first one at the lock; only the clock goes on. -/
lemma answer_of_not_begun (hs : s.snapshot.IsCoherent) (hb : s.beginsAt? q = none) :
    ∃ c, s.answer q =
      (if s.locked then s.snapshot.reply q else .value (q.answer s.snapshot), s.aged c []) := by
  cases hl : s.locked with
  | true =>
      obtain ⟨c, hd⟩ := answerDuring_eq hs q
      refine ⟨c, ?_⟩
      rw [if_pos rfl, ← hd, answer, answerDuring, current, if_pos hl]
  | false =>
      cases hq : q.isGated with
      | true =>
          obtain ⟨c, hc⟩ := current_of_undecided hl (by simpa [beginsAt?, hq, hl] using hb)
          exact ⟨c, by rw [answer_of_current hq hc]; rfl⟩
      | false =>
          refine ⟨s.clock, ?_⟩
          rw [answer, if_neg (by simp [hq]), aged_self]
          rfl

/-! ### What holds of every store -/

/-- What holds of a store at any time between questions: its snapshot is coherent, and a lock
that is never given back stands before the first snapshot. -/
structure IsSound (s : Store) : Prop where
  isCoherent : s.snapshot.IsCoherent
  unchecked : s.locked = true → s.snapshot.checkedAt = none

/-- Only a verdict lets an attempt wait for ever. -/
lemma exists_verdict_of_blocked (hf : s.finding = .blocked) : ∃ d, s.verdict d = .blocked := by
  rw [finding] at hf
  split at hf
  · cases hf
  · cases hf
  · split at hf
    · cases hf
    · cases hf
    · rename_i raw _ d _
      cases hd : s.verdict d with
      | value v => simp [hd] at hf
      | fault e => simp [hd] at hf
      | blocked => exact ⟨d, hd⟩

/-- A policy waits for ever only before the first snapshot. -/
lemma checkedAt_of_blocked (hf : s.finding = .blocked) : s.snapshot.checkedAt = none := by
  by_contra hne
  obtain ⟨t, ht⟩ := Option.ne_none_iff_exists'.mp hne
  have hr : ∀ q, s.snapshot.reply q ≠ .blocked := fun q => by
    rw [Snapshot.reply_of_checked ht]
    simp
  obtain ⟨d, hd⟩ := exists_verdict_of_blocked hf
  exact (s.policy ⟨some d⟩).attempt.ending_ne_blocked hr hd

/-- A store that has just been built has published nothing, and keeps its interval. -/
lemma build_fresh {source : Option (Call (Outcome Bytes))}
    {parser : Option (Bytes → Call (Outcome Document))} {policy : Option CompliancePolicy}
    {sink : Option MetricsSink} {clock : Clock} {interval : Int}
    (h : Store.build source parser policy sink clock interval = .ok s) :
    s.snapshot = .initial ∧ s.locked = false ∧ s.journal = [] ∧ s.interval = interval := by
  cases source with
  | none => cases h
  | some source =>
      cases parser with
      | none => cases h
      | some parser =>
          cases policy with
          | none => cases h
          | some policy =>
              cases sink with
              | none => cases h
              | some sink =>
                  rw [Store.build] at h
                  split_ifs at h
                  cases h
                  exact ⟨rfl, rfl, rfl, rfl⟩

/-- Every question leaves a sound store behind. -/
lemma IsSound.answer (hs : s.IsSound) (q : Query) : (s.answer q).2.IsSound := by
  cases hb : s.beginsAt? q with
  | none =>
      obtain ⟨c, h⟩ := answer_of_not_begun hs.isCoherent hb
      rw [h]
      exact ⟨hs.isCoherent, hs.unchecked⟩
  | some now =>
      obtain ⟨-, hl, -⟩ := beginsAt?_eq_some.mp hb
      cases hf : s.finding with
      | value f =>
          obtain ⟨c, h⟩ := answer_of_value hs.isCoherent hb hf
          rw [h]
          refine ⟨(Attempt.mk now f).isCoherent_snapshot, fun hlocked => ?_⟩
          exact absurd (hl.symm.trans hlocked) (by simp)
      | fault f =>
          obtain ⟨c, h⟩ := answer_of_fault hs.isCoherent hb hf
          rw [h]
          exact ⟨hs.isCoherent, hs.unchecked⟩
      -- the policy waits for the first snapshot, which is the one case in which the lock is kept
      | blocked =>
          obtain ⟨c, h⟩ := answer_of_blocked hs.isCoherent hb hf
          rw [h]
          exact ⟨hs.isCoherent, fun _ => checkedAt_of_blocked hf⟩

/-- **Every store that can come about is sound.** -/
theorem Reachable.isSound (hr : s.Reachable) : s.IsSound := by
  induction hr with
  | built h =>
      obtain ⟨hi, hl, -, -⟩ := build_fresh h
      refine ⟨hi ▸ Snapshot.isCoherent_initial, fun hlocked => ?_⟩
      exact absurd (hl.symm.trans hlocked) (by simp)
  | moved w _ ih => exact ⟨ih.isCoherent, ih.unchecked⟩
  | asked q _ ih => exact ih.answer q

end Store

/-! ### Visits -/

/-- A question that is put in a world. -/
structure Visit where
  world : World
  question : Query

namespace Store

variable {s : Store}

/-- The answer to the question of a visit. -/
def visit (s : Store) (v : Visit) : Ending v.question.Answer × Store :=
  (s.inWorld v.world).answer v.question

/-- A store after visits one after another, between which everything around it may change. -/
def visits (s : Store) (vs : List Visit) : Store :=
  vs.foldl (fun s v => (s.visit v).2) s

@[simp] lemma visits_nil (s : Store) : s.visits [] = s := rfl

@[simp] lemma visits_cons (s : Store) (v : Visit) (rest : List Visit) :
    s.visits (v :: rest) = (s.visit v).2.visits rest := rfl

lemma visits_append (s : Store) (vs ws : List Visit) :
    s.visits (vs ++ ws) = (s.visits vs).visits ws :=
  List.foldl_append

lemma IsSound.visit (hs : s.IsSound) (v : Visit) : (s.visit v).2.IsSound :=
  IsSound.answer (s := s.inWorld v.world) ⟨hs.isCoherent, hs.unchecked⟩ v.question

lemma IsSound.visits (hs : s.IsSound) (vs : List Visit) : (s.visits vs).IsSound := by
  induction vs generalizing s with
  | nil => exact hs
  | cons v vs ih => exact ih (hs.visit v)

/-- No question changes the interval. -/
lemma interval_visit (hs : s.IsSound) (v : Visit) : (s.visit v).2.interval = s.interval := by
  obtain ⟨c, n, l, j, h⟩ := answer_frame (s := s.inWorld v.world) hs.isCoherent v.question
  rw [Store.visit, h]
  rfl

/-! ### The attempts of visits -/

/-- The attempt that a visit completes, with the world in which it was made. -/
def reload? (s : Store) (v : Visit) : Option (World × Attempt) :=
  ((s.inWorld v.world).attempt? v.question).map fun a => (v.world, a)

/-- The attempts that are completed over visits, in order, each with its world. -/
def reloads (s : Store) : List Visit → List (World × Attempt)
  | [] => []
  | v :: rest => (s.reload? v).toList ++ (s.visit v).2.reloads rest

lemma reloads_append (s : Store) (vs ws : List Visit) :
    s.reloads (vs ++ ws) = s.reloads vs ++ (s.visits vs).reloads ws := by
  induction vs generalizing s with
  | nil => rfl
  | cons v vs ih => rw [List.cons_append, reloads, ih, reloads, visits_cons, List.append_assoc]

/-- The snapshot changes only when an attempt is completed, and is then that of the attempt. -/
lemma snapshot_visit (hs : s.IsSound) (v : Visit) :
    (s.visit v).2.snapshot = ((s.reload? v).map fun r => r.2.snapshot).getD s.snapshot := by
  have hc := course (s := s.inWorld v.world) hs.isCoherent v.question
  rw [visit, reload?]
  generalize (s.inWorld v.world).answer v.question = r at hc ⊢
  cases hc with
  | kept c h => simp [h]
  | made c a h => simp [h, publish]
  | broken c f h _ => simp [h]
  | stuck c h _ => simp [h, lock]
  | waiting c h _ => simp [h]

/-- **The published snapshot is that of the last completed attempt** on the way, if there is one. -/
lemma snapshot_visits (hs : s.IsSound) (vs : List Visit) :
    (s.visits vs).snapshot =
      ((s.reloads vs).getLast?.map fun r => r.2.snapshot).getD s.snapshot := by
  induction vs generalizing s with
  | nil => rfl
  | cons v vs ih =>
      rw [visits_cons, ih (hs.visit v), snapshot_visit hs, reloads, List.getLast?_append]
      cases ((s.visit v).2.reloads vs).getLast? with
      | some r => rfl
      | none => cases s.reload? v <;> rfl

/-- Without a completed attempt the snapshot stays. -/
lemma snapshot_visits_of_no_reload (hs : s.IsSound) {vs : List Visit} (hn : s.reloads vs = []) :
    (s.visits vs).snapshot = s.snapshot := by
  rw [snapshot_visits hs, hn]
  rfl

end Store

end KnownLogs
