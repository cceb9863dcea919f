/-
What the lifetime of a certificate does to a verdict:

* `PolicySettings.read_valid`: which members are settings of the policy, and what the settings are;
* `Policy.build_ok`, `Settings.buildPolicy_ok`: the policy of the settings has their parameters;
* `Policy.required_le`: a certificate of longer life needs no fewer timestamps of any kind;
* `Policy.reaches_of_no_embedded`: without timestamps inside the certificate the lifetime does not
  matter;
* `Settings.longer_life_never_helps`: **a longer life never betters the verdict**, and leaves it as
  it is on one side of the limit or where no timestamp inside the certificate counts.
-/
import KnownLogs.Proofs.Policy.MoreEvidence
import KnownLogs.Proofs.Schema.Reading
import KnownLogs.Settings.Loading

namespace KnownLogs

open Schema Validated

/-! ### From members to a policy -/

namespace PolicySettings

/-- Five numbers that are positive are settings if the counts are in order. -/
lemma check_valid {age operators days short long : { i : Int // 1 ≤ i }} {s : PolicySettings} :
    check age operators days short long = .valid s ↔
      s.toParameters =
        { maxAgeDays := age
          minOperators := operators
          shortLifeDays := days
          shortLifeCount := short
          longLifeCount := long } := by
  rw [check]
  constructor
  · intro h
    split_ifs at h
    · cases h
      rfl
    · simp at h
  · intro h
    have hle : short.val ≤ long.val := by
      have hcounts := s.shortLifeCount_le
      rwa [h] at hcounts
    rw [dif_pos hle, Validated.valid.injEq]
    exact eq_of_parameters h.symm

/-- **Members are settings of the policy** where each of the five is a positive integer or absent
and the counts are in order; each parameter is that of its own member. -/
lemma read_valid {members : List (String × Json)} {s : PolicySettings} :
    read members = .valid s ↔ ∃ age operators days short long : { i : Int // 1 ≤ i },
      optional "max_log_list_age_days" (integerAtLeast 1) ⟨70, by decide⟩ members = .valid age ∧
      optional "min_distinct_operators" (integerAtLeast 1) ⟨2, by decide⟩ members =
        .valid operators ∧
      optional "short_lived_max_days" (integerAtLeast 1) ⟨180, by decide⟩ members = .valid days ∧
      optional "short_lived_min_scts" (integerAtLeast 1) ⟨2, by decide⟩ members = .valid short ∧
      optional "long_lived_min_scts" (integerAtLeast 1) ⟨3, by decide⟩ members = .valid long ∧
      s.toParameters =
        { maxAgeDays := age
          minOperators := operators
          shortLifeDays := days
          shortLifeCount := short
          longLifeCount := long } := by
  simp only [read, andThen_valid, seq_valid, fmap_valid, id_eq]
  constructor
  · rintro ⟨_, ⟨_, long, ⟨_, short, ⟨_, days, ⟨_, operators, ⟨age, hage, rfl⟩, hoperators, rfl⟩,
      hdays, rfl⟩, hshort, rfl⟩, hlong, rfl⟩, hcheck⟩
    exact ⟨age, operators, days, short, long, hage, hoperators, hdays, hshort, hlong,
      check_valid.mp hcheck⟩
  · rintro ⟨age, operators, days, short, long, hage, hoperators, hdays, hshort, hlong, hs⟩
    exact ⟨_, ⟨_, long, ⟨_, short, ⟨_, days, ⟨_, operators, ⟨age, hage, rfl⟩, hoperators, rfl⟩,
      hdays, rfl⟩, hshort, rfl⟩, hlong, rfl⟩, check_valid.mpr hs⟩

end PolicySettings

/-- A policy can be built from parameters that pass its checks, and has them. -/
lemma Policy.build_ok {parameters : Policy.Parameters} {p : Policy} :
    Policy.build parameters = .ok p ↔ p.toParameters = parameters := by
  constructor
  · intro h
    rw [Policy.build] at h
    split_ifs at h
    cases h
    rfl
  · rintro rfl
    have hage : ¬ p.maxAgeDays < 1 := Int.not_lt.mpr p.one_le_maxAgeDays
    have hoperators : ¬ p.minOperators < 1 := Int.not_lt.mpr p.one_le_minOperators
    rw [Policy.build, dif_neg hage, dif_neg hoperators,
      dif_pos ⟨p.neg_mostDays_le, p.le_mostDays⟩]

/-- The policy of the settings has their parameters. -/
lemma Settings.buildPolicy_ok {settings : Settings} {p : Policy}
    (h : settings.buildPolicy = .ok p) : p.toParameters = settings.policy.toParameters := by
  cases hbuilt : Policy.build settings.policy.toParameters with
  | error e => simp [buildPolicy, hbuilt, Except.mapError] at h
  | ok q =>
      rw [buildPolicy, hbuilt] at h
      cases h
      exact Policy.build_ok.mp hbuilt

/-! ### Lifetimes -/

namespace Policy

variable {p : Policy} {shorter longer : Int} {scts : List Sct} {k : Bool}

/-- A certificate of longer life needs no fewer timestamps of any kind. -/
lemma required_le (hcounts : p.shortLifeCount ≤ p.longLifeCount) (hle : shorter ≤ longer)
    (k : Bool) : p.required shorter k ≤ p.required longer k := by
  cases k with
  | false => exact Int.le_refl _
  | true =>
      rw [required, required]
      split_ifs with hshorter hlonger hlonger
      · exact Int.le_refl _
      · exact hcounts
      · -- where the longer life is short, the shorter one is too
        exact absurd (hle.trans hlonger) hshorter
      · exact Int.le_refl _

/-- On one side of the limit the lifetime does not matter. -/
lemma required_congr
    (h : shorter ≤ p.shortLifeDays * daySeconds ↔ longer ≤ p.shortLifeDays * daySeconds)
    (k : Bool) : p.required shorter k = p.required longer k := by
  cases k with
  | false => rfl
  | true =>
      rw [required, required]
      simp only [h]

/-- Without timestamps inside the certificate that count the lifetime does not matter: of none of
them there are enough. -/
lemma reaches_of_no_embedded (hshort : 1 ≤ p.shortLifeCount) (hlong : 1 ≤ p.longLifeCount)
    (hnone : ∀ t ∈ scts, ¬ (t.isEmbedded = true ∧ t.Counts)) (k : Bool)
    (h : p.Reaches shorter scts k) : p.Reaches longer scts k := by
  cases k with
  | false => exact h
  | true =>
      have hempty : countables true scts = [] :=
        List.filter_eq_nil_iff.mpr fun t ht hcounts =>
          hnone t ht (and_comm.mp (of_decide_eq_true hcounts))
      rw [Reaches, hempty, List.length_nil, required] at h
      split_ifs at h <;> omega

/-- A verdict is no better than that for another lifetime at which the same kinds of timestamps are
enough. -/
lemma rank_classify_le_of_reaches
    (h : ∀ k, p.Reaches longer scts k → p.Reaches shorter scts k) :
    (p.classify longer scts).rank ≤ (p.classify shorter scts).rank :=
  rank_classify_le id h fun k hk => ⟨h k hk.1, hk.2⟩

/-- A verdict is that for another lifetime at which the same kinds of timestamps are enough. -/
lemma classify_eq_of_reaches
    (h : ∀ k, p.Reaches longer scts k ↔ p.Reaches shorter scts k) :
    p.classify longer scts = p.classify shorter scts :=
  Verdict.rank_injective (Nat.le_antisymm (rank_classify_le_of_reaches fun k => (h k).mp)
    (rank_classify_le_of_reaches fun k => (h k).mpr))

end Policy

namespace Settings

open Policy (daySeconds)

/-- **A longer life never betters the verdict.** The policy of settings that are accepted judges the
timestamps of a certificate no better than those of one that lives no longer. The verdict is the
same where no timestamp inside the certificate counts, and where both lives are on one side of the
limit that the settings give, which itself belongs to a short life. -/
theorem longer_life_never_helps {members : List (String × Json)} {settings : Settings} {p : Policy}
    (hread : PolicySettings.read members = .valid settings.policy)
    (hbuild : settings.buildPolicy = .ok p) (scts : List Sct) {shorter longer : Int}
    (hle : shorter ≤ longer) :
    (p.classify longer scts).rank ≤ (p.classify shorter scts).rank ∧
      ((∀ t ∈ scts, ¬ (t.isEmbedded = true ∧ t.Counts)) →
        p.classify longer scts = p.classify shorter scts) ∧
      ∃ days : { i : Int // 1 ≤ i },
        optional "short_lived_max_days" (integerAtLeast 1) ⟨180, by decide⟩ members =
          .valid days ∧
        ((shorter ≤ days.val * daySeconds ↔ longer ≤ days.val * daySeconds) →
          p.classify longer scts = p.classify shorter scts) := by
  obtain ⟨age, operators, days, short, long, -, -, hdays, -, -, hsettings⟩ :=
    PolicySettings.read_valid.mp hread
  have hp := (buildPolicy_ok hbuild).trans hsettings
  have hshort : 1 ≤ p.shortLifeCount := by
    rw [hp]
    exact short.property
  have hlong : 1 ≤ p.longLifeCount := by
    rw [hp]
    exact long.property
  have hcounts : p.shortLifeCount ≤ p.longLifeCount := by
    rw [buildPolicy_ok hbuild]
    exact settings.policy.shortLifeCount_le
  -- the lifetime decides how many embedded timestamps are wanted, and nothing else
  refine ⟨?_, fun hnone => ?_, days, hdays, fun hside => ?_⟩
  · refine Policy.rank_classify_le_of_reaches fun k hk => ?_
    exact (Policy.required_le hcounts hle k).trans hk
  · refine Policy.classify_eq_of_reaches fun k => ⟨?_, ?_⟩
    · exact Policy.reaches_of_no_embedded hshort hlong hnone k
    · exact Policy.reaches_of_no_embedded hshort hlong hnone k
  · have hlimit : p.shortLifeDays = days := by rw [hp]
    rw [← hlimit] at hside
    refine Policy.classify_eq_of_reaches fun k => ?_
    rw [Policy.Reaches, Policy.Reaches, Policy.required_congr hside]

/-- Members that set a limit of ninety days and want four timestamps of longer lives. -/
def strictMembers : List (String × Json) :=
  [("short_lived_max_days", .int 90), ("long_lived_min_scts", .int 4)]

/-- Two timestamps inside the certificate are enough for ninety days, the last second included, and
not for a second more. With the logs of another kind, or when both lives are longer, nothing
changes. -/
theorem longer_life_never_helps_of_strictMembers :
    let strictly : Settings :=
      { location := { path := Path.ofText "logs.json" }
        policy := { shortLifeDays := 90, longLifeCount := 4 } }
    let p := strictly.buildPolicy.toOption.get rfl
    let one := Policy.deliveredSct "A" .usable
    let other := Policy.deliveredSct "B" .readOnly
    let inside := [{ one with origin := .embedded }, { other with origin := .embedded }]
    PolicySettings.read strictMembers = .valid strictly.policy ∧ strictly.buildPolicy = .ok p ∧
      (7776000 : Int) ≤ 7776001 ∧
      p.classify 7776000 inside = .comply ∧ p.classify 7776001 inside = .notEnoughScts ∧
      (p.classify 7776001 inside).rank ≤ (p.classify 7776000 inside).rank ∧
      (∀ t ∈ [one, other], ¬ (t.isEmbedded = true ∧ t.Counts)) ∧
      p.classify 7776001 [one, other] = p.classify 7776000 [one, other] ∧
      p.classify 7776002 inside = p.classify 7776001 inside := by
  intro strictly p one other inside
  have hread : PolicySettings.read strictMembers = .valid strictly.policy := by decide +kernel
  have hbuild : strictly.buildPolicy = .ok p := rfl
  have hdays : optional "short_lived_max_days" (integerAtLeast 1) ⟨180, by decide⟩ strictMembers =
      .valid ⟨90, by decide⟩ := by decide +kernel
  have hnone : ∀ t ∈ [one, other], ¬ (t.isEmbedded = true ∧ t.Counts) := by decide +kernel
  obtain ⟨hrank, -, -⟩ := longer_life_never_helps hread hbuild inside
    (show (7776000 : Int) ≤ 7776001 by decide)
  obtain ⟨-, hsame, -⟩ := longer_life_never_helps hread hbuild [one, other]
    (show (7776000 : Int) ≤ 7776001 by decide)
  obtain ⟨-, -, days, hlimit, hside⟩ := longer_life_never_helps hread hbuild inside
    (show (7776001 : Int) ≤ 7776002 by decide)
  cases hlimit.symm.trans hdays
  exact ⟨hread, hbuild, by decide, by decide +kernel, by decide +kernel, hrank, hnone, hsame hnone,
    hside (by decide)⟩

end Settings

end KnownLogs
