/-
What more timestamps do to a verdict:

* `Verdict.rank`: the verdicts in the order of how much they grant;
* `Policy.rank_classify_le`: a verdict is no better than one for which each kind of timestamps does
  at least as much;
* `Policy.classify_congr`: the verdict depends only on the logs of the timestamps that count, kind
  by kind;
* `Policy.more_evidence_never_hurts`: **more timestamps never lower the verdict**, whatever their
  order; those that do not count leave it as it is, and so does the way in which a timestamp outside
  the certificate came.
-/
import Mathlib.Data.List.Perm.Subperm
import Mathlib.Data.List.Forall2
import KnownLogs.Proofs.Policy.Evidence

namespace KnownLogs

/-! ### The order of the verdicts -/

/-- How much a verdict grants. -/
def Verdict.rank : Verdict → Nat
  | noScts => 0
  | notEnoughScts => 1
  | notEnoughDiverseScts => 2
  | comply => 3

lemma Verdict.rank_injective {v w : Verdict} (h : v.rank = w.rank) : v = w := by
  cases v <;> cases w <;> simp_all [rank]

/-- The other way in which a timestamp outside the certificate may come; one inside it stays
there. -/
def SctOrigin.swapped : SctOrigin → SctOrigin
  | embedded => embedded
  | tlsExtension => ocspResponse
  | ocspResponse => tlsExtension

/-- A timestamp that came in the other way. -/
def Sct.swapped (s : Sct) : Sct :=
  { s with origin := s.origin.swapped }

/-- A timestamp does not count if it is not valid, its log is not known, or the log was not active
at the time that was signed. -/
lemma Sct.not_counts {s : Sct} (h : s.status ≠ .valid ∨ s.log = none ∨
    ∃ e, s.log = some e ∧ e.isActiveAt s.timestamp = false) : ¬ s.Counts := by
  rintro ⟨hvalid, e, he, hactive⟩
  rcases h with h | h | ⟨f, hf, hinactive⟩
  · exact h hvalid
  · rw [h] at he
    cases he
  · rw [hf] at he
    cases he
    rw [hinactive] at hactive
    cases hactive

namespace Policy

variable {p : Policy} {lifetime lifetime' : Int} {xs ys : List Sct}

/-- **A verdict is no better than another one** for which each kind of timestamps does at least as
much. -/
lemma rank_classify_le (hnil : ys = [] → xs = [])
    (hreaches : ∀ k, p.Reaches lifetime xs k → p.Reaches lifetime' ys k)
    (hsatisfies : ∀ k, p.Satisfies lifetime xs k → p.Satisfies lifetime' ys k) :
    (p.classify lifetime xs).rank ≤ (p.classify lifetime' ys).rank := by
  have hr : (∃ k, p.Reaches lifetime xs k) → ∃ k, p.Reaches lifetime' ys k :=
    fun ⟨k, hk⟩ => ⟨k, hreaches k hk⟩
  have hs : (∃ k, p.Satisfies lifetime xs k) → ∃ k, p.Satisfies lifetime' ys k :=
    fun ⟨k, hk⟩ => ⟨k, hsatisfies k hk⟩
  -- the ranks are those of the conditions in the order in which they are asked
  rw [classify_eq, classify_eq]
  by_cases hx : xs = []
  · rw [if_pos hx]
    exact Nat.zero_le _
  · rw [if_neg hx, if_neg (mt hnil hx)]
    by_cases hsx : ∃ k, p.Satisfies lifetime xs k
    · rw [if_pos hsx, if_pos (hs hsx)]
    · rw [if_neg hsx]
      by_cases hrx : ∃ k, p.Reaches lifetime xs k
      · rw [if_pos hrx]
        split_ifs
        · decide
        · decide
        · exact absurd (hr hrx) ‹_›
      · rw [if_neg hrx]
        split_ifs <;> decide

/-- What a kind of timestamps does depends only on the logs of those that count. -/
lemma satisfies_congr {k : Bool}
    (h : (countables k xs).map Sct.log = (countables k ys).map Sct.log) :
    (p.Reaches lifetime xs k ↔ p.Reaches lifetime ys k) ∧
      (p.Satisfies lifetime xs k ↔ p.Satisfies lifetime ys k) := by
  have hlength : (countables k xs).length = (countables k ys).length := by
    simpa using congrArg List.length h
  have hnames : ∀ zs : List Sct, (zs.filterMap fun s => s.log.map Entry.operator) =
      (zs.map Sct.log).filterMap (Option.map Entry.operator) := fun zs => by
    rw [List.filterMap_map]
    rfl
  have hcount : operatorCount (countables k xs) = operatorCount (countables k ys) := by
    rw [operatorCount, operatorCount, hnames, hnames, h]
  rw [Satisfies, Satisfies, Reaches, Reaches, hlength, hcount]
  exact ⟨Iff.rfl, Iff.rfl⟩

/-- The verdict depends only on the logs of the timestamps that count, kind by kind. -/
lemma classify_congr (hnil : xs = [] ↔ ys = [])
    (h : ∀ k, (countables k xs).map Sct.log = (countables k ys).map Sct.log) :
    p.classify lifetime xs = p.classify lifetime ys := by
  refine Verdict.rank_injective (Nat.le_antisymm ?_ ?_)
  · exact rank_classify_le hnil.mpr (fun k => (satisfies_congr (h k)).1.mp)
      fun k => (satisfies_congr (h k)).2.mp
  · exact rank_classify_le hnil.mp (fun k => (satisfies_congr (h k)).1.mpr)
      fun k => (satisfies_congr (h k)).2.mpr

/-! ### More timestamps -/

lemma countables_subperm (h : xs.Subperm ys) (k : Bool) :
    (countables k xs).Subperm (countables k ys) :=
  h.filter _

lemma operatorCount_le (h : xs.Subperm ys) : operatorCount xs ≤ operatorCount ys := by
  rw [operatorCount_eq, operatorCount_eq]
  refine Finset.card_le_card fun name hname => ?_
  rw [List.mem_toFinset, List.mem_filterMap] at hname ⊢
  obtain ⟨s, hs, hlog⟩ := hname
  exact ⟨s, h.subset hs, hlog⟩

/-- More timestamps never lower the verdict. -/
lemma rank_classify_le_of_subperm (p : Policy) (lifetime : Int) (h : xs.Subperm ys) :
    (p.classify lifetime xs).rank ≤ (p.classify lifetime ys).rank := by
  have hreaches : ∀ k, p.Reaches lifetime xs k → p.Reaches lifetime ys k := fun k hk => by
    have hlength := (countables_subperm h k).length_le
    rw [Reaches] at hk ⊢
    omega
  refine rank_classify_le (fun hy => ?_) hreaches fun k hk => ⟨hreaches k hk.1, ?_⟩
  · subst hy
    exact List.subperm_nil.mp h
  · have hcount := operatorCount_le (countables_subperm h k)
    have hdiverse := hk.2
    omega

/-- The order of the timestamps does not matter. -/
lemma classify_perm (p : Policy) (lifetime : Int) (h : xs.Perm ys) :
    p.classify lifetime xs = p.classify lifetime ys :=
  Verdict.rank_injective (Nat.le_antisymm (p.rank_classify_le_of_subperm lifetime h.subperm)
    (p.rank_classify_le_of_subperm lifetime h.symm.subperm))

/-- Timestamps that do not count change nothing where there are others. -/
lemma classify_append_of_not_counts (p : Policy) (lifetime : Int) (hx : xs ≠ [])
    (hy : ∀ s ∈ ys, ¬ s.Counts) : p.classify lifetime (xs ++ ys) = p.classify lifetime xs := by
  refine classify_congr (by simp [hx]) fun k => ?_
  have hnone : countables k ys = [] := by
    refine List.filter_eq_nil_iff.mpr fun s hs => ?_
    simp [hy s hs]
  rw [countables, List.filter_append, ← countables, ← countables, hnone, List.append_nil]

/-- How a timestamp outside the certificate came does not matter. -/
lemma classify_swapped (p : Policy) (lifetime : Int)
    (h : List.Forall₂ (fun s t => t = s ∨ t = s.swapped) xs ys) :
    p.classify lifetime ys = p.classify lifetime xs := by
  have hkind : ∀ s : Sct, s.swapped.isEmbedded = s.isEmbedded := fun s => by
    obtain ⟨status, origin, timestamp, log⟩ := s
    cases origin <;> rfl
  have hcounts : ∀ s : Sct, s.swapped.Counts ↔ s.Counts := fun s => Iff.rfl
  refine classify_congr ?_ fun k => ?_
  · rw [← List.length_eq_zero_iff, ← List.length_eq_zero_iff, h.length_eq]
  · induction h with
    | nil => rfl
    | @cons s t xs ys hst _ ih =>
        rw [countables, countables] at ih ⊢
        have hlog : t.log = s.log := by rcases hst with rfl | rfl <;> rfl
        have hiff : (t.Counts ∧ t.isEmbedded = k) ↔ (s.Counts ∧ s.isEmbedded = k) := by
          rcases hst with rfl | rfl
          · rfl
          · rw [hcounts, hkind]
        by_cases hs : s.Counts ∧ s.isEmbedded = k
        · rw [List.filter_cons_of_pos (by simpa using hiff.mpr hs),
            List.filter_cons_of_pos (by simpa using hs), List.map_cons, List.map_cons, hlog, ih]
        · rw [List.filter_cons_of_neg (by simpa using mt hiff.mp hs),
            List.filter_cons_of_neg (by simpa using hs), ih]

/-- **More timestamps never lower the verdict**: not if those of one list are among those of
another, in any order, so that the order of a list does not matter. Where there are timestamps,
others that are not valid, have no log, or whose log was not active at the time that was signed
change nothing, and neither does it matter how a timestamp outside the certificate came. -/
theorem more_evidence_never_hurts (p : Policy) (lifetime : Int) :
    (∀ xs ys, xs.Subperm ys →
      (p.classify lifetime xs).rank ≤ (p.classify lifetime ys).rank) ∧
    (∀ xs ys, xs.Perm ys → p.classify lifetime xs = p.classify lifetime ys) ∧
    (∀ xs extra ys, xs ≠ [] →
      (∀ s ∈ extra, s.status ≠ .valid ∨ s.log = none ∨
        ∃ e, s.log = some e ∧ e.isActiveAt s.timestamp = false) →
      ys.Perm (xs ++ extra) → p.classify lifetime ys = p.classify lifetime xs) ∧
    (∀ xs ys, List.Forall₂ (fun s t => t = s ∨ t = s.swapped) xs ys →
      p.classify lifetime ys = p.classify lifetime xs) := by
  refine ⟨fun xs ys => p.rank_classify_le_of_subperm lifetime,
    fun xs ys => p.classify_perm lifetime, fun xs extra ys hx hextra hperm => ?_,
    fun xs ys => p.classify_swapped lifetime⟩
  rw [p.classify_perm lifetime hperm]
  exact p.classify_append_of_not_counts lifetime hx fun s hs => Sct.not_counts (hextra s hs)

lemma isSome_build_usual : (Policy.build {}).toOption.isSome = true := rfl

/-- The policy with the usual parameters. -/
def usual : Policy :=
  (Policy.build {}).toOption.get isSome_build_usual

/-- A log of an operator, in some status since 5. -/
def logOf (operator : String) (status : LogStatus) (h : operator ≠ "" := by decide) : Entry where
  logId := List.replicate 32 0
  keyBytes := [7]
  publicKey := ⟨"key"⟩
  description := "log"
  url := "https://log/"
  operator
  status
  since := 5
  interval := .unbounded
  mergeDelay := 86400
  keyBytes_ne_nil := by decide
  length_logId := by decide
  description_ne_empty := by decide
  url_ne_empty := by decide
  operator_ne_empty := h
  mergeDelay_nonneg := by decide

/-- A timestamp at 5 of a log of an operator, outside the certificate. -/
def deliveredSct (operator : String) (status : LogStatus) (h : operator ≠ "" := by decide) :
    Sct where
  status := .valid
  origin := .tlsExtension
  timestamp := 5
  log := some (logOf operator status h)

/-- Two timestamps of one operator are enough but not diverse; with one of another operator in front
of them they comply. Three that do not count change nothing, and neither does the other way to
come. -/
theorem more_evidence_never_hurts_of_twoOperators :
    let one := deliveredSct "A" .usable
    let other := deliveredSct "B" .readOnly
    let retired := deliveredSct "C" .retired
    let bad := { other with status := .invalidSignature }
    let unknown := { other with log := none }
    (usual.classify 1 [one, one] = .notEnoughDiverseScts ∧
      usual.classify 1 [other, one, one] = .comply ∧ [one, one].Subperm [other, one, one] ∧
      (usual.classify 1 [one, one]).rank ≤ (usual.classify 1 [other, one, one]).rank) ∧
    ([other, one, one].Perm [one, one, other] ∧
      usual.classify 1 [other, one, one] = usual.classify 1 [one, one, other]) ∧
    ([one, one] ≠ [] ∧
      (∀ s ∈ [bad, unknown, retired], s.status ≠ .valid ∨ s.log = none ∨
        ∃ e, s.log = some e ∧ e.isActiveAt s.timestamp = false) ∧
      [bad, one, one, unknown, retired].Perm ([one, one] ++ [bad, unknown, retired]) ∧
      usual.classify 1 [bad, one, one, unknown, retired] = usual.classify 1 [one, one]) ∧
    (List.Forall₂ (fun s t => t = s ∨ t = s.swapped) [one, other] [one.swapped, other] ∧
      usual.classify 1 [one.swapped, other] = usual.classify 1 [one, other]) := by
  intro one other retired bad unknown
  obtain ⟨hmore, hperm, hextra, hswapped⟩ := more_evidence_never_hurts usual 1
  have hsub : [one, one].Subperm [other, one, one] := (List.sublist_cons_self _ _).subperm
  have hturn : ∀ s : Sct, ([s] ++ [one, one]).Perm ([one, one] ++ [s]) := fun _ =>
    List.perm_append_comm
  have hturned : [other, one, one].Perm [one, one, other] := hturn other
  have hnot : ∀ s ∈ [bad, unknown, retired], s.status ≠ .valid ∨ s.log = none ∨
      ∃ e, s.log = some e ∧ e.isActiveAt s.timestamp = false := by
    simp only [List.forall_mem_cons]
    exact ⟨.inl (by decide), .inr (.inl rfl), .inr (.inr ⟨_, rfl, rfl⟩), by simp⟩
  have hbehind : [bad, one, one, unknown, retired].Perm ([one, one] ++ [bad, unknown, retired]) :=
    (hturn bad).append_right [unknown, retired]
  have hways : List.Forall₂ (fun s t => t = s ∨ t = s.swapped) [one, other]
      [one.swapped, other] := .cons (.inr rfl) (.cons (.inl rfl) .nil)
  exact ⟨⟨by decide +kernel, by decide +kernel, hsub, hmore _ _ hsub⟩,
    ⟨hturned, hperm _ _ hturned⟩, ⟨by simp, hnot, hbehind, hextra _ _ _ (by simp) hnot hbehind⟩,
    ⟨hways, hswapped _ _ hways⟩⟩

end Policy

end KnownLogs
