/-
Whether there has been an attempt, over whole dialogues with a store:

* `Store.IsChecked`: there has been one;
* `Dialogue.IsPassive`: a dialogue that leaves no mark and puts no question that passes the gate;
* `Store.converse_of_isPassive`: **a passive dialogue leaves the store as it is**, the clock
  included;
* `Store.converse_induction`: what every mark and every question keeps, a dialogue keeps;
* `Exchange.IsAborted`: a question that begins an attempt and completes none;
* `Store.IsIdle.converse`: **without an aborted attempt, a dialogue checks a store exactly if one
  of its questions passes the gate**.
-/
import Mathlib.Data.List.Basic
import KnownLogs.Proofs.Store.Reentry
import KnownLogs.Proofs.Store.Staleness

namespace KnownLogs

variable {α β : Type}

/-- Whether there has been an attempt to load the log list. -/
def Store.IsChecked (s : Store) : Prop :=
  s.snapshot.checkedAt ≠ none

/-! ### Passive dialogues -/

namespace Dialogue

/-- Whether a dialogue with a store leaves no mark and puts no question that passes the gate. -/
def IsPassive : Dialogue storeQueries α → Prop
  | done _ | fail _ => True
  | note _ _ => False
  | ask q rest => Query.isGated q = false ∧ ∀ a, (rest a).IsPassive

lemma IsPassive.bind {x : Dialogue storeQueries α} (hx : x.IsPassive)
    {f : α → Dialogue storeQueries β} (hf : ∀ a, (f a).IsPassive) : (x.bind f).IsPassive := by
  induction x with
  | done a => exact hf a
  | fail e => trivial
  | note m rest ih => exact hx.elim
  | ask q rest ih => exact ⟨hx.1, fun a => ih a (hx.2 a)⟩

lemma IsPassive.attempt {x : Dialogue storeQueries α} (hx : x.IsPassive) : x.attempt.IsPassive := by
  induction x with
  | done a => trivial
  | fail e =>
      rw [Dialogue.attempt]
      split_ifs <;> trivial
  | note m rest ih => exact hx.elim
  | ask q rest ih => exact ⟨hx.1, fun a => ih a (hx.2 a)⟩

lemma exists_gated_of_ask {q : storeQueries.Question} (hq : Query.isGated q = true)
    (rest : Except Fault (storeQueries.Answer q) → Dialogue storeQueries α) (s : Store) :
    ∃ e ∈ (ask q rest).exchanges s, e.question.isGated = true := by
  rw [exchanges]
  exact ⟨_, List.mem_cons_self, hq⟩

lemma isPassive_pose {q : Query} (hq : q.isGated = false) :
    (pose (I := storeQueries) q).IsPassive :=
  ⟨hq, fun a => by cases a <;> trivial⟩

end Dialogue

namespace Store

variable {s : Store} {q : Query}

/-- A question that does not pass the gate is answered from the snapshot, and changes nothing. -/
lemma answer_of_not_gated (hq : q.isGated = false) :
    s.answer q = (.value (q.answer s.snapshot), s) := by
  rw [answer, if_neg (by simp [hq])]

/-- **A passive dialogue leaves the store as it is**, the clock included, and none of its questions
passes the gate. -/
theorem converse_of_isPassive {x : Dialogue storeQueries α} (hx : x.IsPassive) (s : Store) :
    (s.converse x).2 = s ∧ ∀ e ∈ x.exchanges s, e.question.isGated = false := by
  induction x with
  | done a => exact ⟨rfl, by simp [Dialogue.exchanges]⟩
  | fail e => exact ⟨rfl, by simp [Dialogue.exchanges]⟩
  | note m rest ih => exact hx.elim
  | ask q rest ih =>
      have ha := answer_of_not_gated (s := s) hx.1
      have ha' : reader.answer q s = _ := ha
      obtain ⟨hsame, hrest⟩ := ih (.ok _) (hx.2 _)
      rw [converse, Dialogue.run, Dialogue.exchanges, ha, ha']
      exact ⟨hsame, List.forall_mem_cons.mpr ⟨hx.1, hrest⟩⟩

/-! ### What a dialogue keeps -/

/-- What every mark and every question keeps, a dialogue keeps. -/
lemma converse_induction {P : Store → Prop} (hkeep : ∀ s m, P s → P (s.keep m))
    (hanswer : ∀ (s : Store) q, P s → P (s.answer q).2) (hs : P s) (x : Dialogue storeQueries α) :
    P (s.converse x).2 := by
  induction x generalizing s with
  | done a => exact hs
  | fail e => exact hs
  | note m rest ih => exact ih (hkeep s m hs)
  | ask q rest ih =>
      have hnext : P (reader.answer q s).2 := hanswer s q hs
      rw [converse, Dialogue.run]
      rcases hr : reader.answer q s with ⟨a | f | _, t⟩ <;> rw [hr] at hnext
      · exact ih (.ok a) hnext
      · exact ih (.error f) hnext
      · exact hnext

lemma IsSound.keep (hs : s.IsSound) (m : Mark) : (s.keep m).IsSound :=
  ⟨hs.isCoherent, hs.unchecked⟩

lemma IsSound.inWorld (hs : s.IsSound) (w : World) : (s.inWorld w).IsSound :=
  ⟨hs.isCoherent, hs.unchecked⟩

/-- Every dialogue leaves a sound store behind. -/
lemma IsSound.converse (hs : s.IsSound) (x : Dialogue storeQueries α) : (s.converse x).2.IsSound :=
  converse_induction (P := IsSound) (fun _ m h => h.keep m) (fun _ q h => h.answer q) hs x

/-- There has been an attempt exactly if the state is not the one before any attempt. -/
lemma IsSound.isChecked_iff (hs : s.IsSound) : s.IsChecked ↔ s.snapshot.state ≠ .uninitialized :=
  not_congr hs.isCoherent.symm

/-- A completed attempt stays one, whatever comes of the next one. -/
lemma IsChecked.answer (h : s.IsChecked) (hs : s.IsSound) (q : Query) :
    (s.answer q).2.IsChecked := by
  have hnext := snapshot_after hs.isCoherent (.ask q)
  rw [after] at hnext
  rw [IsChecked, hnext]
  cases s.attemptAt? (.ask q) with
  | none => exact h
  | some a => simp [a.checkedAt_snapshot]

/-- **Once there has been an attempt, there always has**, whatever a dialogue comes to. -/
theorem IsChecked.converse (h : s.IsChecked) (hs : s.IsSound) (x : Dialogue storeQueries α) :
    (s.converse x).2.IsChecked :=
  (converse_induction (P := fun t => t.IsSound ∧ t.IsChecked)
    (fun _ m h => ⟨h.1.keep m, h.2⟩) (fun _ q h => ⟨h.1.answer q, h.2.answer h.1 q⟩) ⟨hs, h⟩ x).2

end Store

/-! ### Without an aborted attempt -/

/-- Whether an attempt is begun for a question and not completed. -/
def Exchange.IsAborted (e : Exchange) : Prop :=
  (e.before.beginsAt? e.question).isSome ∧ (e.before.attempt? e.question).isNone

instance (e : Exchange) : Decidable e.IsAborted :=
  inferInstanceAs (Decidable (_ ∧ _))

namespace Store

/-- What holds between dialogues of a store without an aborted attempt: no attempt is going on. -/
structure IsIdle (s : Store) : Prop where
  isSound : s.IsSound
  unlocked : s.locked = false

variable {s : Store}

/-- A question without an aborted attempt leaves the store idle; the store has made an attempt after
it exactly if it had before or the question passes the gate. -/
lemma IsIdle.answer (hs : s.IsIdle) {q : Query}
    (hq : ¬ ((s.beginsAt? q).isSome ∧ (s.attempt? q).isNone)) :
    (s.answer q).2.IsIdle ∧
      ((s.answer q).2.IsChecked ↔ s.IsChecked ∨ q.isGated = true) := by
  have hsound := hs.isSound.answer q
  cases hg : q.isGated with
  | false => simp [answer_of_not_gated hg, hs]
  | true =>
      cases hb : s.beginsAt? q with
      | none =>
          -- no attempt is due, so there has been one
          have hd : s.decides = none := by simpa [beginsAt?, hg, hs.unlocked] using hb
          obtain ⟨n, -, hn⟩ := exists_gateReading_not_due hd
          obtain ⟨t, ht, -⟩ := lt_interval_of_not_due hn
          rw [answer_of_not_due hg hs.unlocked hd] at hsound ⊢
          exact ⟨⟨hsound, hs.unlocked⟩, iff_of_true (by simp [IsChecked, ht]) (.inr rfl)⟩
      | some now =>
          have hne : s.attempt? q ≠ none := by simpa [hb] using hq
          obtain ⟨a, ha⟩ := Option.ne_none_iff_exists'.mp hne
          obtain ⟨hbegun, hf⟩ := attempt?_eq_some.mp ha
          obtain ⟨c, he⟩ := answer_of_value hs.isSound.isCoherent hbegun hf
          rw [he] at hsound ⊢
          exact ⟨⟨hsound, hs.unlocked⟩,
            iff_of_true (by simp [IsChecked, publish, Attempt.checkedAt_snapshot]) (.inr rfl)⟩

/-- **Without an aborted attempt a dialogue checks a store exactly if one of its questions passes
the gate**, and leaves it idle. -/
theorem IsIdle.converse (hs : s.IsIdle) {x : Dialogue storeQueries α}
    (hx : ∀ e ∈ x.exchanges s, ¬ e.IsAborted) :
    (s.converse x).2.IsIdle ∧
      ((s.converse x).2.IsChecked ↔
        s.IsChecked ∨ ∃ e ∈ x.exchanges s, e.question.isGated = true) := by
  -- by induction on the dialogue: each question finds the store idle
  induction x generalizing s with
  | done a => exact ⟨hs, by simp [Dialogue.exchanges]; rfl⟩
  | fail e => exact ⟨hs, by simp [Dialogue.exchanges]; rfl⟩
  | note m rest ih =>
      have hkept : (s.keep m).IsIdle := ⟨hs.isSound.keep m, hs.unlocked⟩
      exact ih hkept hx
  | ask q rest ih =>
      rw [Dialogue.exchanges] at hx ⊢
      obtain ⟨hfirst, hrest⟩ := List.forall_mem_cons.mp hx
      obtain ⟨hidle, hchecked⟩ := hs.answer hfirst
      have hreader : reader.answer q s = s.answer q := rfl
      rw [Store.converse, Dialogue.run, hreader]
      generalize s.answer q = r at hidle hchecked hrest ⊢
      have hcons (es : List Exchange) : (r.2.IsChecked ∨ ∃ e ∈ es, e.question.isGated = true) ↔
          s.IsChecked ∨ ∃ e ∈ Exchange.mk s q r.1 r.2 :: es, e.question.isGated = true := by
        rw [hchecked, or_assoc, List.exists_mem_cons_iff]
      obtain ⟨a | f | _, t⟩ := r
      · obtain ⟨hlast, hiff⟩ := ih (.ok a) hidle hrest
        exact ⟨hlast, hiff.trans (hcons _)⟩
      · obtain ⟨hlast, hiff⟩ := ih (.error f) hidle hrest
        exact ⟨hlast, hiff.trans (hcons _)⟩
      · exact ⟨hidle, by simpa using hchecked⟩

end Store

end KnownLogs
