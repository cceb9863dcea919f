/-
The marks that a store has kept:

* `Store.behind`: a store with earlier marks in front of its own;
* `Store.Overlooks`: what is done with a store whatever marks it has kept;
* `Store.overlooks_run`: a dialogue overlooks the marks if those who answer it do;
* `Store.overlooks_answer`: **every question overlooks them**, the clock included;
* `Store.exists_marks_of_answer`: what a question leaves behind, whatever marks were there.
-/
import Mathlib.Tactic.Common
import KnownLogs.Store.Gate

namespace KnownLogs.Store

variable {α : Type}

/-! ### Earlier marks -/

/-- A store with other marks. -/
def remembering (j : List Mark) (s : Store) : Store :=
  { s with journal := j }

/-- A store with earlier marks in front of its own. -/
def behind (js : List Mark) (s : Store) : Store :=
  { s with journal := js ++ s.journal }

/-- Whether something is done with a store in the same way whatever marks it has kept before: these
marks stay in front, and nothing else differs. -/
def Overlooks (f : Store → α × Store) : Prop :=
  ∀ js s, f (s.behind js) = ((f s).1, (f s).2.behind js)

section Behind

variable (js : List Mark) (s : Store)

@[simp] lemma source_behind : (s.behind js).source = s.source := rfl
@[simp] lemma parser_behind : (s.behind js).parser = s.parser := rfl
@[simp] lemma policy_behind : (s.behind js).policy = s.policy := rfl
@[simp] lemma sink_behind : (s.behind js).sink = s.sink := rfl
@[simp] lemma snapshot_behind : (s.behind js).snapshot = s.snapshot := rfl
@[simp] lemma locked_behind : (s.behind js).locked = s.locked := rfl
@[simp] lemma isDue_behind : (s.behind js).isDue = s.isDue := rfl
@[simp] lemma readClock_behind :
    (s.behind js).readClock = (s.readClock.1, s.readClock.2.behind js) := rfl
@[simp] lemma publish_behind (n : Snapshot) :
    (s.behind js).publish n = (s.publish n).behind js := rfl

@[simp] lemma keepAll_behind (ms : List Mark) :
    (s.behind js).keepAll ms = (s.keepAll ms).behind js := by
  simp [keepAll, behind]

@[simp] lemma keep_behind (m : Mark) : (s.behind js).keep m = (s.keep m).behind js :=
  keepAll_behind js s [m]

@[simp] lemma carryOut_behind (x : Call α) :
    (s.behind js).carryOut x = ((s.carryOut x).1, (s.carryOut x).2.behind js) := by
  simp [carryOut]

end Behind

/-! ### While an attempt is going on -/

/-- A dialogue overlooks the marks if those who answer it do. -/
lemma overlooks_run {I : Interface} {h : Handler I Store} (hkeep : h.keep = keep)
    (hanswer : ∀ q, Overlooks (h.answer q)) (x : Dialogue I α) : Overlooks (x.run h) := by
  intro js s
  induction x generalizing s with
  | done a => rfl
  | fail f => rfl
  | note m rest ih => rw [Dialogue.run, hkeep, keep_behind, ih, Dialogue.run, hkeep]
  | ask q rest ih =>
      rw [Dialogue.run, Dialogue.run, hanswer q js s]
      rcases h.answer q s with ⟨a | f | _, t⟩
      · exact ih (.ok a) t
      · exact ih (.error f) t
      · rfl

lemma overlooks_currentDuring : Overlooks currentDuring := by
  intro js s
  rw [currentDuring, currentDuring, readClock_behind]
  dsimp only
  rw [isDue_behind, snapshot_behind]
  split_ifs <;> rfl

lemma overlooks_answerDuring (q : Query) : Overlooks (answerDuring q) := by
  intro js s
  rw [answerDuring, answerDuring]
  split_ifs
  · rw [overlooks_currentDuring js s]
  · rfl

lemma overlooks_runDuring (x : Dialogue storeQueries α) : Overlooks (runDuring x) :=
  overlooks_run rfl overlooks_answerDuring x

/-! ### An attempt -/

lemma overlooks_read : Overlooks read := by
  intro js s
  rw [read, read, keep_behind, source_behind, carryOut_behind]
  rcases (s.keep .read).carryOut s.source with ⟨(raw | f) | f | _, t⟩
  · dsimp only
    rw [keep_behind, parser_behind, carryOut_behind]
  · rfl
  · rfl
  · rfl

lemma overlooks_classify (d : Document) : Overlooks (classify d) := by
  intro js s
  rw [classify, classify, keep_behind, policy_behind, overlooks_runDuring]
  rcases (s.keep .judged).runDuring (s.policy ⟨some d⟩).attempt with ⟨(f | verdict) | f | _, t⟩
  · exact congrArg (Prod.mk _) (keep_behind js t _)
  · rfl
  · rfl
  · rfl

lemma overlooks_examine (now : Int) : Overlooks (examine now) := by
  intro js s
  rw [examine, examine, overlooks_read]
  rcases s.read with ⟨⟨digest, d | f⟩ | f | _, t⟩
  · dsimp only
    rw [overlooks_classify]
  · exact congrArg (Prod.mk _) (keep_behind js t _)
  · rfl
  · rfl

lemma overlooks_notify (state : StoreState) : Overlooks (notify state) := by
  intro js s
  rw [notify, notify, sink_behind, overlooks_runDuring]
  rcases s.runDuring s.sink.attempt with ⟨(f | u) | f | _, t⟩
  · exact congrArg (Prod.mk _) (keep_behind js t _)
  · rfl
  · rfl
  · rfl

lemma overlooks_announce (previous next : Snapshot) : Overlooks (announce previous next) := by
  intro js s
  rw [announce, announce]
  split_ifs
  · rw [keep_behind, overlooks_notify]
  · exact congrArg (Prod.mk _) (keep_behind js s _)

lemma overlooks_reload (now : Int) : Overlooks (reload now) := by
  intro js s
  rw [reload, reload, overlooks_examine]
  rcases s.examine now with ⟨next | f | _, t⟩
  · dsimp only
    rw [publish_behind, snapshot_behind, overlooks_announce]
  · rfl
  · rfl

/-! ### Questions -/

lemma overlooks_currentLocked : Overlooks currentLocked := by
  intro js s
  rw [currentLocked, currentLocked, readClock_behind]
  dsimp only
  rw [isDue_behind]
  split_ifs
  · rw [overlooks_reload]
    rcases s.readClock.2.reload s.readClock.1 with ⟨n | f | _, t⟩ <;> rfl
  · rfl

lemma overlooks_current : Overlooks current := by
  intro js s
  rw [current, current, readClock_behind]
  dsimp only
  rw [isDue_behind, locked_behind]
  split_ifs
  · exact overlooks_currentDuring js s
  · exact overlooks_currentLocked js s.readClock.2.lock
  · rfl

/-- **Every question overlooks the marks** that a store has kept, the clock included. -/
theorem overlooks_answer (q : Query) : Overlooks (answer q) := by
  intro js s
  rw [answer, answer]
  split_ifs
  · rw [overlooks_current js s]
  · rfl

/-- A question leaves its marks behind those that are there, whatever these are, and does the same
in all else. -/
theorem exists_marks_of_answer (s : Store) (q : Query) :
    ∃ ms, (s.answer q).2.journal = s.journal ++ ms ∧
      ∀ j, (s.remembering j).answer q = ((s.answer q).1, (s.answer q).2.remembering (j ++ ms)) := by
  have hany : ∀ j, (s.remembering j).answer q =
      (((s.remembering []).answer q).1, ((s.remembering []).answer q).2.behind j) := by
    intro j
    rw [← overlooks_answer q j (s.remembering [])]
    simp [behind, remembering]
  have hown : s.answer q =
      (((s.remembering []).answer q).1, ((s.remembering []).answer q).2.behind s.journal) :=
    hany s.journal
  refine ⟨((s.remembering []).answer q).2.journal, ?_, fun j => ?_⟩
  · rw [hown]
    rfl
  · rw [hany j, hown]
    rfl

end KnownLogs.Store
