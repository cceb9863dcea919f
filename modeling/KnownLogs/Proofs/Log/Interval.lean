/-
The instants between two bounds:

* `Interval.Between`: whether an instant lies between two bounds, either of which may be absent;
* `Interval.build_ok`, `Interval.contains_iff`: the range between two bounds, and what belongs to
  it;
* `Interval.isLeast_iff`, `Interval.isGreatest_iff`: the bounds of a range are the least instant
  in it and the one after the greatest;
* `Interval.bounds_eq_of_contains`: so ranges with the same instants have the same bounds;
* `Interval.exact_between`: **there is a range between two bounds exactly if some instant lies
  between them**; these instants belong to it and no others, and no other bounds have the same
  instants.
-/
import Mathlib.Order.Bounds.Basic
import KnownLogs.Log.Interval

namespace KnownLogs.Interval

/-- An instant lies between two bounds: not before the start, if there is one, and before the stop,
if there is one. -/
def Between (start stop : Option Int) (millis : Int) : Prop :=
  (start = none ∨ ∃ s, start = some s ∧ s ≤ millis) ∧
    (stop = none ∨ ∃ e, stop = some e ∧ millis < e)

/-! ### Ranges and their instants -/

/-- The range between two bounds is the one that has them. -/
lemma build_ok {start stop : Option Int} {i : Interval} :
    Interval.build start stop = .ok i ↔ i.start = start ∧ i.stop = stop := by
  constructor
  · intro h
    rw [Interval.build.eq_def] at h
    split at h
    · split_ifs at h
      cases h
      exact ⟨rfl, rfl⟩
    all_goals
      cases h
      exact ⟨rfl, rfl⟩
  · rintro ⟨rfl, rfl⟩
    obtain ⟨a, b, h⟩ := i
    cases a with
    | none => cases b <;> rfl
    | some s =>
        cases b with
        | none => rfl
        | some e => simp [Interval.build, h s rfl e rfl]

/-- There is something in every range. -/
lemma exists_contains (i : Interval) : ∃ t, i.contains t = true := by
  obtain ⟨a, b, h⟩ := i
  cases a with
  | some s =>
      refine ⟨s, ?_⟩
      cases b with
      | none => simp [contains]
      | some e => simpa [contains] using h s rfl e rfl
  | none =>
      cases b with
      | none => exact ⟨0, rfl⟩
      | some e => exact ⟨e - 1, decide_eq_true (show e - 1 < e by omega)⟩

/-- What belongs to a range lies between its bounds. -/
lemma contains_iff {i : Interval} {m : Int} :
    i.contains m = true ↔ Between i.start i.stop m := by
  obtain ⟨a, b, h⟩ := i
  cases a <;> cases b <;> simp [contains, Between]

/-- Bounds between which an instant lies are those of a range. -/
lemma exists_build {start stop : Option Int} {m : Int} (h : Between start stop m) :
    ∃ i, Interval.build start stop = .ok i := by
  have hlt : ∀ s ∈ start, ∀ e ∈ stop, s < e := by
    rintro s rfl e rfl
    obtain ⟨hnone | ⟨s', hs, hle⟩, hstop⟩ := h
    · cases hnone
    · cases hs
      obtain hnone | ⟨e', he, hlt⟩ := hstop
      · cases hnone
      · cases he
        exact Int.lt_of_le_of_lt hle hlt
  exact ⟨⟨start, stop, hlt⟩, build_ok.mpr ⟨rfl, rfl⟩⟩

/-! ### Bounds told from the instants -/

/-- The start of a range is the least instant in it; without a start there is none. -/
lemma isLeast_iff {i : Interval} {s : Int} :
    IsLeast {m | i.contains m = true} s ↔ i.start = some s := by
  constructor
  · rintro ⟨hs, hleast⟩
    obtain ⟨hstart, hstop⟩ := contains_iff.mp hs
    obtain hnone | ⟨s', hs', hle⟩ := hstart
    · -- without a start the instant before belongs to the range as well
      have hbefore : i.contains (s - 1) = true := by
        refine contains_iff.mpr ⟨.inl hnone, hstop.imp_right ?_⟩
        rintro ⟨e, he, hlt⟩
        exact ⟨e, he, by omega⟩
      have hle : s ≤ s - 1 := hleast hbefore
      omega
    · have hmem : i.contains s' = true := by
        refine contains_iff.mpr ⟨.inr ⟨s', hs', Int.le_refl s'⟩, hstop.imp_right ?_⟩
        rintro ⟨e, he, hlt⟩
        exact ⟨e, he, Int.lt_of_le_of_lt hle hlt⟩
      rw [hs', Int.le_antisymm hle (hleast hmem)]
  · intro hs
    refine ⟨contains_iff.mpr ⟨.inr ⟨s, hs, Int.le_refl s⟩, ?_⟩, fun m hm => ?_⟩
    · cases he : i.stop with
      | none => exact .inl rfl
      | some e => exact .inr ⟨e, rfl, i.start_lt_stop s hs e he⟩
    · obtain ⟨hnone | ⟨s', hs', hle⟩, -⟩ := contains_iff.mp hm
      · cases hs.symm.trans hnone
      · cases hs.symm.trans hs'
        exact hle

/-- The stop of a range comes right after the greatest instant in it; without a stop there is
none. -/
lemma isGreatest_iff {i : Interval} {e : Int} :
    IsGreatest {m | i.contains m = true} (e - 1) ↔ i.stop = some e := by
  constructor
  · rintro ⟨he, hgreatest⟩
    obtain ⟨hstart, hstop⟩ := contains_iff.mp he
    obtain hnone | ⟨e', he', hlt⟩ := hstop
    · -- without a stop the instant after belongs to the range as well
      have hafter : i.contains e = true := by
        refine contains_iff.mpr ⟨hstart.imp_right ?_, .inl hnone⟩
        rintro ⟨s, hs, hle⟩
        exact ⟨s, hs, by omega⟩
      have hle : e ≤ e - 1 := hgreatest hafter
      omega
    · have hmem : i.contains (e' - 1) = true := by
        refine contains_iff.mpr ⟨hstart.imp_right ?_, .inr ⟨e', he', by omega⟩⟩
        rintro ⟨s, hs, hle⟩
        exact ⟨s, hs, by omega⟩
      have hle : e' - 1 ≤ e - 1 := hgreatest hmem
      rw [he', show e' = e by omega]
  · intro he
    refine ⟨contains_iff.mpr ⟨?_, .inr ⟨e, he, by omega⟩⟩, fun m hm => ?_⟩
    · cases hs : i.start with
      | none => exact .inl rfl
      | some s =>
          have hlt := i.start_lt_stop s hs e he
          exact .inr ⟨s, rfl, by omega⟩
    · obtain ⟨-, hnone | ⟨e', he', hlt⟩⟩ := contains_iff.mp hm
      · cases he.symm.trans hnone
      · cases he.symm.trans he'
        exact Int.le_sub_one_of_lt hlt

/-- Ranges with the same instants have the same bounds. -/
lemma bounds_eq_of_contains {i j : Interval} (h : ∀ m, i.contains m = true ↔ j.contains m = true) :
    i.start = j.start ∧ i.stop = j.stop := by
  have hset : {m | i.contains m = true} = {m | j.contains m = true} := Set.ext h
  constructor
  · refine Option.ext fun s => ?_
    rw [← isLeast_iff, ← isLeast_iff, hset]
  · refine Option.ext fun e => ?_
    rw [← isGreatest_iff, ← isGreatest_iff, hset]

/-! ### All bounds -/

/-- **There is a range between two bounds exactly if some instant lies between them.** These
instants belong to it and no others, and it has these bounds; no other bounds have the same
instants. -/
theorem exact_between (start stop : Option Int) :
    ((∃ i, Interval.build start stop = .ok i) ↔ ∃ m, Between start stop m) ∧
      ∀ i, Interval.build start stop = .ok i →
        (∀ m, i.contains m = true ↔ Between start stop m) ∧
        i.start = start ∧ i.stop = stop ∧
        ∀ start' stop' j, Interval.build start' stop' = .ok j →
          (∀ m, i.contains m = true ↔ j.contains m = true) → start = start' ∧ stop = stop' := by
  refine ⟨⟨?_, fun ⟨m, hm⟩ => exists_build hm⟩, fun i hi => ?_⟩
  · rintro ⟨i, hi⟩
    obtain ⟨m, hm⟩ := i.exists_contains
    obtain ⟨rfl, rfl⟩ := build_ok.mp hi
    exact ⟨m, contains_iff.mp hm⟩
  · obtain ⟨rfl, rfl⟩ := build_ok.mp hi
    refine ⟨fun m => contains_iff, rfl, rfl, fun start' stop' j hj hsame => ?_⟩
    obtain ⟨rfl, rfl⟩ := build_ok.mp hj
    exact bounds_eq_of_contains hsame

/-- Between 5 and 6 there is a range that holds 5 alone, and nothing lies between 5 and 5; no start
but 5 goes with these instants. -/
theorem exact_between_of_five :
    ∃ i, Interval.build (some 5) (some 6) = .ok i ∧
      (∀ m, i.contains m = true ↔ Between (some 5) (some 6) m) ∧
      i.contains 5 = true ∧ i.contains 4 = false ∧ i.contains 6 = false ∧
      (¬ ∃ m, Between (some 5) (some 5) m) ∧
      ∀ start j, Interval.build start (some 6) = .ok j →
        (∀ m, i.contains m = true ↔ j.contains m = true) → some 5 = start := by
  obtain ⟨hbuilt, hexact⟩ := exact_between (some 5) (some 6)
  obtain ⟨i, hi⟩ := hbuilt.mpr ⟨5, .inr ⟨5, rfl, by decide⟩, .inr ⟨6, rfl, by decide⟩⟩
  obtain ⟨hcontains, -, -, hsame⟩ := hexact i hi
  have hempty : ¬ ∃ i, Interval.build (some 5) (some 5) = .ok i := by
    rintro ⟨j, hj⟩
    cases hj
  cases hi
  refine ⟨_, rfl, hcontains, rfl, rfl, rfl, (exact_between (some 5) (some 5)).1.not.mp hempty,
    fun start j hj hall => (hsame start (some 6) j hj hall).1⟩

end KnownLogs.Interval
