/-
The verdict on the timestamps of a certificate:

* `Sct.Counts`: whether a timestamp counts;
* `Policy.required`: how many timestamps of a kind a certificate needs;
* `Policy.Reaches`, `Policy.Satisfies`: whether the timestamps of a kind are enough, and come from
  enough operators;
* `Policy.classifyGroups_eq`: the loop over groups ends with the first that complies, and tells
  otherwise whether one was large enough;
* `Policy.classify_eq`: the verdict asks whether there is a kind that does, in no order of the
  kinds;
* `Policy.Convinces`: a set of positions at which the timestamps are all that a policy wants;
* `Policy.classify_iff`: **the four verdicts, each by its own condition**.
-/
import Mathlib.Data.Finset.Card
import Mathlib.Data.Finset.Option
import Mathlib.Data.Finset.Union
import Mathlib.Data.Fintype.Basic
import KnownLogs.Policy.Evidence

namespace KnownLogs

/-! ### Timestamps that count -/

namespace Sct

/-- Whether a timestamp counts: it is valid, its log is known, and the log was active at the time
that was signed. -/
def Counts (s : Sct) : Prop :=
  s.status = .valid ∧ ∃ e, s.log = some e ∧ e.isActiveAt s.timestamp = true

lemma isCountable_iff {s : Sct} : s.isCountable = true ↔ s.Counts := by
  rw [isCountable, Counts, Bool.and_eq_true, beq_iff_eq, Option.any_eq_true]

instance : DecidablePred Counts := fun _ => decidable_of_iff _ isCountable_iff

end Sct

/-- The timestamps that count and are of one kind: those that came inside the certificate, or the
others. -/
def countables (embedded : Bool) (scts : List Sct) : List Sct :=
  scts.filter fun s => s.Counts ∧ s.isEmbedded = embedded

/-- Of the timestamps that count, those of one kind. -/
lemma countables_eq (embedded : Bool) (scts : List Sct) :
    countables embedded scts =
      (scts.filter Sct.isCountable).filter fun s => s.isEmbedded == embedded := by
  rw [List.filter_filter, countables]
  refine List.filter_congr fun s _ => ?_
  by_cases h : s.Counts
  · simp [h, Sct.isCountable_iff.mpr h, Bool.beq_eq_decide_eq]
  · simp [h, mt Sct.isCountable_iff.mp h]

/-! ### Operators -/

lemma nodup_eraseDups {α : Type} [DecidableEq α] (xs : List α) : xs.eraseDups.Nodup := by
  induction xs using List.reverseRecOn with
  | nil => simp
  | append_singleton xs x ih =>
      rw [List.eraseDups_append]
      by_cases hx : x ∈ xs
      · simpa [List.removeAll, hx] using ih
      · have hne : ∀ y ∈ xs, y ≠ x := fun y hy h => hx (h ▸ hy)
        simpa [List.removeAll, hx, List.nodup_append, ih, List.eraseDups_cons] using hne

/-- The number of operators is the number of their different names. -/
lemma operatorCount_eq (scts : List Sct) :
    operatorCount scts = (scts.filterMap fun s => s.log.map Entry.operator).toFinset.card := by
  rw [operatorCount, ← List.toFinset_card_of_nodup (nodup_eraseDups _)]
  congr 1
  ext name
  simp

namespace Policy

variable {p : Policy} {lifetime : Int} {scts : List Sct}

/-! ### The verdict -/

/-- How many timestamps of a kind a certificate of a given lifetime in seconds needs: of those
inside it more if it lives long. -/
def required (p : Policy) (lifetime : Int) : Bool → Int
  | true => if lifetime ≤ p.shortLifeDays * daySeconds then p.shortLifeCount else p.longLifeCount
  | false => p.shortLifeCount

/-- Whether the timestamps of a kind that count are enough. -/
def Reaches (p : Policy) (lifetime : Int) (scts : List Sct) (embedded : Bool) : Prop :=
  p.required lifetime embedded ≤ (countables embedded scts).length

/-- Whether the timestamps of a kind that count are enough, and from enough operators. -/
def Satisfies (p : Policy) (lifetime : Int) (scts : List Sct) (embedded : Bool) : Prop :=
  p.Reaches lifetime scts embedded ∧ p.minOperators ≤ operatorCount (countables embedded scts)

instance : DecidablePred (p.Reaches lifetime scts) := fun _ => inferInstanceAs (Decidable (_ ≤ _))

instance : DecidablePred (p.Satisfies lifetime scts) :=
  fun _ => inferInstanceAs (Decidable (_ ∧ _))

/-- Whether a group of timestamps is as large as it has to be. -/
def isEnough (group : List Sct × Int) : Bool :=
  group.2 ≤ group.1.length

/-- Looking at groups ends with the first that is large enough and diverse. If there is none, what
is known of earlier groups is kept, and so is that one of these was large enough. -/
lemma foldlM_look (p : Policy) (groups : List (List Sct × Int)) (lacksDiversity : Bool) :
    groups.foldlM p.look lacksDiversity =
      if groups.any fun g => isEnough g && p.isDiverse g.1 then .error .comply
      else .ok (lacksDiversity || groups.any isEnough) := by
  induction groups generalizing lacksDiversity with
  | nil => simp [pure, Except.pure]
  | cons g groups ih =>
      rw [List.foldlM_cons, List.any_cons, List.any_cons, look]
      by_cases hsmall : (g.1.length : Int) < g.2
      · have henough : isEnough g = false := decide_eq_false (Int.not_le.mpr hsmall)
        rw [if_pos hsmall, henough, Bool.false_and, Bool.false_or, Bool.false_or]
        exact ih lacksDiversity
      · have henough : isEnough g = true := decide_eq_true (Int.not_lt.mp hsmall)
        rw [if_neg hsmall, henough, Bool.true_and, Bool.true_or, Bool.or_true]
        cases p.isDiverse g.1 with
        | true => rfl -- the loop ends here, whatever the other groups are
        | false => exact ih true

/-- **The verdict on groups** asks only whether one of them is large enough and diverse, and whether
one is large enough. -/
lemma classifyGroups_eq (p : Policy) (groups : List (List Sct × Int)) :
    p.classifyGroups groups =
      if groups.any fun g => isEnough g && p.isDiverse g.1 then .comply
      else if groups.any isEnough then .notEnoughDiverseScts
      else .notEnoughScts := by
  rw [classifyGroups, foldlM_look, Bool.false_or]
  split_ifs with hcomply henough
  · rfl
  · simp only [henough]
  · simp only [henough]

/-- **The verdict** asks only whether there is a kind of which the timestamps are enough, and one of
which they also come from enough operators. -/
theorem classify_eq (p : Policy) (lifetime : Int) (scts : List Sct) :
    p.classify lifetime scts =
      if scts = [] then .noScts
      else if ∃ embedded, p.Satisfies lifetime scts embedded then .comply
      else if ∃ embedded, p.Reaches lifetime scts embedded then .notEnoughDiverseScts
      else .notEnoughScts := by
  have hreaches : (∃ embedded, p.Reaches lifetime scts embedded) ↔
      p.embeddedCount lifetime ≤ (countables true scts).length ∨
        p.shortLifeCount ≤ (countables false scts).length := by
    rw [Bool.exists_bool, or_comm]
    rfl
  have hsatisfies : (∃ embedded, p.Satisfies lifetime scts embedded) ↔
      p.embeddedCount lifetime ≤ (countables true scts).length ∧
          p.minOperators ≤ operatorCount (countables true scts) ∨
        p.shortLifeCount ≤ (countables false scts).length ∧
          p.minOperators ≤ operatorCount (countables false scts) := by
    rw [Bool.exists_bool, or_comm]
    rfl
  -- the loop runs over the two kinds, the embedded ones first
  simp only [classify, classifyGroups_eq, List.isEmpty_iff, countables_eq, beq_true, beq_false,
    List.any_cons, List.any_nil, Bool.or_false, isEnough, isDiverse, Bool.or_eq_true,
    Bool.and_eq_true, decide_eq_true_eq, hreaches, hsatisfies]

/-! ### Sets of positions -/

/-- The names of the operators whose logs signed the timestamps at some positions. -/
def operatorNames (scts : List Sct) (chosen : Finset (Fin scts.length)) : Finset String :=
  chosen.biUnion fun k => (scts[k].log.map Entry.operator).toFinset

/-- Whether the timestamps at some positions are all that a policy wants: all of them count, they
are of one kind, there are enough of them for that kind, and they come from enough operators. -/
structure Convinces (p : Policy) (lifetime : Int) (scts : List Sct)
    (chosen : Finset (Fin scts.length)) : Prop where
  counts : ∀ k ∈ chosen, scts[k].Counts
  enough : ∃ embedded, (∀ k ∈ chosen, scts[k].isEmbedded = embedded) ∧
    p.required lifetime embedded ≤ chosen.card
  diverse : p.minOperators ≤ (operatorNames scts chosen).card

/-- The positions of the timestamps of a kind that count. -/
def positions (embedded : Bool) (scts : List Sct) : Finset (Fin scts.length) :=
  Finset.univ.filter fun k => scts[k].Counts ∧ scts[k].isEmbedded = embedded

lemma mem_positions {embedded : Bool} {k : Fin scts.length} :
    k ∈ positions embedded scts ↔ scts[k].Counts ∧ scts[k].isEmbedded = embedded := by
  simp [positions]

lemma card_positions (embedded : Bool) (scts : List Sct) :
    (positions embedded scts).card = (countables embedded scts).length := by
  have hscts : scts = (List.finRange scts.length).map fun k => scts[k] :=
    (List.map_getElem_finRange scts).symm
  calc (positions embedded scts).card
      = ((List.finRange scts.length).filter
          fun k => scts[k].Counts ∧ scts[k].isEmbedded = embedded).length := rfl
    _ = (countables embedded scts).length := by
        rw [countables]
        conv_rhs => rw [hscts, List.filter_map, List.length_map]
        rfl

lemma operatorNames_positions (embedded : Bool) (scts : List Sct) :
    (operatorNames scts (positions embedded scts)).card =
      operatorCount (countables embedded scts) := by
  rw [operatorCount_eq]
  congr 1
  ext name
  simp only [operatorNames, Finset.mem_biUnion, mem_positions, Option.mem_toFinset,
    List.mem_toFinset, List.mem_filterMap, countables, List.mem_filter, decide_eq_true_eq]
  constructor
  · rintro ⟨k, hk, hname⟩
    exact ⟨scts[k], ⟨List.getElem_mem _, hk⟩, hname⟩
  · rintro ⟨s, ⟨hs, hcounts⟩, hname⟩
    obtain ⟨k, hk, rfl⟩ := List.getElem_of_mem hs
    exact ⟨⟨k, hk⟩, hcounts, hname⟩

/-- **A policy is convinced at some positions** when the timestamps of a kind satisfy it: of these
any convincing set is a part. -/
lemma exists_convinces :
    (∃ chosen, p.Convinces lifetime scts chosen) ↔
      ∃ embedded, p.Satisfies lifetime scts embedded := by
  constructor
  · rintro ⟨chosen, hcounts, ⟨embedded, hkind, henough⟩, hdiverse⟩
    -- all positions of the kind take the place of those chosen
    have hsub : chosen ⊆ positions embedded scts := fun k hk =>
      mem_positions.mpr ⟨hcounts k hk, hkind k hk⟩
    have hcard := Finset.card_le_card hsub
    have hnames : (operatorNames scts chosen).card ≤
        (operatorNames scts (positions embedded scts)).card :=
      Finset.card_le_card (Finset.biUnion_subset_biUnion_of_subset_left _ hsub)
    rw [card_positions] at hcard
    rw [operatorNames_positions] at hnames
    refine ⟨embedded, ?_, ?_⟩
    · rw [Reaches]
      omega
    · omega
  · rintro ⟨embedded, hreaches, hdiverse⟩
    refine ⟨positions embedded scts, fun k hk => (mem_positions.mp hk).1,
      ⟨embedded, fun k hk => (mem_positions.mp hk).2, ?_⟩, ?_⟩
    · rw [card_positions]
      exact hreaches
    · rw [operatorNames_positions]
      exact hdiverse

/-- Nothing convinces without a timestamp: a policy wants at least one operator. -/
lemma not_satisfies_nil (p : Policy) (lifetime : Int) (embedded : Bool) :
    ¬ p.Satisfies lifetime [] embedded := by
  rintro ⟨-, hdiverse⟩
  have hone := p.one_le_minOperators
  have hnone : operatorCount (countables embedded []) = 0 := rfl
  omega

/-- **The verdict on the timestamps of a certificate**, each of the four by its own condition: there
are none; a set of positions convinces the policy; there is no such set, but one of the two kinds is
enough; or neither is. -/
theorem classify_iff (p : Policy) (lifetime : Int) (scts : List Sct) :
    (p.classify lifetime scts = .noScts ↔ scts = []) ∧
    (p.classify lifetime scts = .comply ↔ ∃ chosen, p.Convinces lifetime scts chosen) ∧
    (p.classify lifetime scts = .notEnoughDiverseScts ↔
      scts ≠ [] ∧ (¬ ∃ chosen, p.Convinces lifetime scts chosen) ∧
        ∃ embedded, p.Reaches lifetime scts embedded) ∧
    (p.classify lifetime scts = .notEnoughScts ↔
      scts ≠ [] ∧ (¬ ∃ chosen, p.Convinces lifetime scts chosen) ∧
        ¬ ∃ embedded, p.Reaches lifetime scts embedded) := by
  rw [classify_eq, exists_convinces]
  by_cases hnil : scts = []
  · subst hnil
    simp [not_satisfies_nil]
  · rw [if_neg hnil]
    split_ifs with hsatisfies hreaches
    · simp [hnil, hsatisfies]
    · simp [hnil, hsatisfies, hreaches]
    · simp [hnil, hsatisfies, hreaches]

end Policy

end KnownLogs
