/-
How the verdict on a log list depends on the time of day:

* `Entry.isActiveAt_of_le`: a log that is active was active before;
* `Policy.accepts_of_le`: **a list that can be relied on could be relied on before**, since it was
  younger and its logs were not yet retired;
* `Policy.judge_result`, `Policy.ending_at`: the verdict is given, whoever answers.
-/
import Mathlib.Tactic.Common
import KnownLogs.Proofs.Store.Calls
import KnownLogs.Proofs.Store.Containment

namespace KnownLogs

variable {now later : Int}

/-! ### The passing of time -/

/-- A log that is active was active before: it leaves the active ones when it retires. -/
lemma Entry.isActiveAt_of_le (h : now ≤ later) {e : Entry} (ha : e.isActiveAt later = true) :
    e.isActiveAt now = true := by
  simp only [isActiveAt, Bool.or_eq_true, Bool.and_eq_true, decide_eq_true_eq] at ha ⊢
  rcases ha with ha | ⟨hretired, hlt⟩
  · exact .inl ha
  · exact .inr ⟨hretired, by omega⟩

namespace Policy

variable {p : Policy}

/-- A list that is not too old was not too old before. -/
lemma isStale_of_le (h : now ≤ later) {timestamp : Int} (hs : p.isStale later timestamp = false) :
    p.isStale now timestamp = false := by
  simp only [isStale, decide_eq_false_iff_not] at hs ⊢
  omega

lemma anyActive_of_le (h : now ≤ later) {logs : List Entry} (ha : anyActive later logs = true) :
    anyActive now logs = true := by
  obtain ⟨e, he, hactive⟩ := List.any_eq_true.mp ha
  exact List.any_eq_true.mpr ⟨e, he, Entry.isActiveAt_of_le h hactive⟩

/-- **A list that can be relied on could be relied on before.** -/
theorem accepts_of_le (h : now ≤ later) {v : View} (ha : p.accepts later v = true) :
    p.accepts now v = true := by
  rw [accepts] at ha ⊢
  cases hv : v.timestamp with
  | none => simp [hv] at ha
  | some timestamp =>
      simp only [hv, Bool.and_eq_true, Bool.not_eq_true'] at ha ⊢
      exact ⟨isStale_of_le h ha.1, anyActive_of_le h ha.2⟩

/-! ### The verdict -/

/-- A verdict is always given, whatever warning goes with it. -/
lemma judge_result (p : Policy) (now : Int) (v : View) :
    (p.judge now v).result = .ok (p.accepts now v) := by
  rw [judge, accepts]
  cases v.timestamp with
  | none => rfl
  | some timestamp =>
      dsimp only
      split_ifs with hstale hactive
      · rw [hstale]
        rfl
      · rw [Bool.not_eq_true] at hstale
        rw [hstale, hactive]
        rfl
      · rw [Bool.not_eq_true] at hstale hactive
        rw [hstale, hactive]
        rfl

end Policy

/-- How a computation that puts no questions ends in a dialogue. -/
lemma Dialogue.ending_ofCall_bind {I : Interface} {α β : Type} (x : Call α) (g : α → β)
    (answer : (q : I.Question) → Ending (I.Answer q)) :
    ((ofCall x).bind fun a => done (g a)).ending answer = (Ending.ofExcept x.result).map g := by
  obtain ⟨ms, r⟩ := x
  induction ms with
  | nil => cases r <;> rfl
  | cons m ms ih => exact ih

namespace Policy

/-- **The policy gives its verdict**, whoever answers. -/
lemma ending_at (p : Policy) (now : Int) (v : View)
    (answer : (q : storeQueries.Question) → Ending (storeQueries.Answer q)) :
    (p.at now v).attempt.ending answer = .value (.ok (.bool (p.accepts now v))) := by
  have hending : (p.at now v).ending answer = .value (.bool (p.accepts now v)) := by
    rw [Policy.at, Dialogue.ending_ofCall_bind, judge_result]
    rfl
  rw [Dialogue.ending_attempt, hending]

/-- No mark of the policy tells of a state. -/
lemma keepsNoState_at (p : Policy) (now : Int) : (p.at now).KeepsNoState := by
  intro v answer
  rw [Policy.at, Dialogue.marks_ofCall_bind]
  exact p.forall_marks_judge (fun _ _ _ => rfl) now v

end Policy

end KnownLogs
