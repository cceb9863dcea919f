/-
Decimal numbers in double precision:

* `Decimal.size`: a decimal number without its sign, as a fraction;
* `Binary64.IsNearest`: whether a multiple of a power of two is the number of double precision
  nearest to a size;
* `Binary64.IsNearest.eq`: there is one such number at most;
* `roundedQuotient_near`: a rounded quotient is a nearest integer, of two the even one;
* `Binary64.ofQuotient_eq`: the nearest number is found, unless it is too large;
* `Binary64.whole?_eq_some`: when a number of double precision is an integer;
* `Decimal.toBinary64_whole`: **which decimal numbers are integers in double precision**.
-/
import Mathlib.Algebra.Order.Field.Power
import Mathlib.Tactic.FieldSimp
import Mathlib.Tactic.Linarith
import Mathlib.Tactic.NormNum
import Mathlib.Tactic.Positivity
import Mathlib.Data.Rat.Cast.Order
import KnownLogs.Json.Binary64

namespace KnownLogs

/-- A decimal number without its sign. -/
def Decimal.size (d : Decimal) : ℚ :=
  d.mantissa * 10 ^ d.exponent

/-! ### Nearest integers -/

/-- There is one nearest integer at most, if the even one counts of two that are equally near. -/
lemma eq_of_near {x : ℚ} {s t : ℕ} (hs : |x - s| ≤ 1 / 2) (hs' : |x - s| = 1 / 2 → Even s)
    (ht : |x - t| ≤ 1 / 2) (ht' : |x - t| = 1 / 2 → Even t) : s = t := by
  by_contra hne
  have hdist : (1 : ℚ) ≤ |(s : ℚ) - t| := by
    have hint : (1 : ℤ) ≤ |(s : ℤ) - t| := Int.one_le_abs (by omega)
    exact_mod_cast hint
  have htriangle : |(s : ℚ) - t| ≤ |x - s| + |x - t| := by
    rw [abs_sub_comm x s]
    calc |(s : ℚ) - t| = |(s - x) + (x - t)| := by rw [sub_add_sub_cancel]
      _ ≤ |(s : ℚ) - x| + |x - t| := abs_add_le _ _
  -- both are half a step away, and even; but then they are two steps apart
  obtain ⟨a, rfl⟩ := hs' (by linarith)
  obtain ⟨b, rfl⟩ := ht' (by linarith)
  have hone : |((a + a : ℕ) : ℤ) - ((b + b : ℕ) : ℤ)| ≤ 1 := by
    have h : |((a + a : ℕ) : ℚ) - ((b + b : ℕ) : ℚ)| ≤ 1 := by linarith
    exact_mod_cast h
  rw [abs_le] at hone
  omega

/-- **A rounded quotient is a nearest integer**, and the even one of two that are equally near. -/
lemma roundedQuotient_near (n : ℕ) {d : ℕ} (hd : 0 < d) :
    |(n : ℚ) / d - roundedQuotient n d| ≤ 1 / 2 ∧
      (|(n : ℚ) / d - roundedQuotient n d| = 1 / 2 → Even (roundedQuotient n d)) := by
  have hd' : (0 : ℚ) < d := by exact_mod_cast hd
  -- the quotient and what is left of it, which is compared with a half
  have hquotient : (n : ℚ) / d = (n / d : ℕ) + ((n % d : ℕ) : ℚ) / d := by
    rw [eq_comm, ← sub_eq_zero]
    field_simp
    have h : ((d * (n / d) + n % d : ℕ) : ℚ) = n := by rw [Nat.div_add_mod]
    push_cast at h
    linarith
  have hpart : (0 : ℚ) ≤ ((n % d : ℕ) : ℚ) / d := by positivity
  rw [hquotient, roundedQuotient]
  split_ifs with hless hmore
  · have hhalf : ((n % d : ℕ) : ℚ) / d < 1 / 2 := by
      rw [div_lt_iff₀ hd']
      have h : ((2 * (n % d) : ℕ) : ℚ) < d := by exact_mod_cast hless
      push_cast at h
      linarith
    rw [add_sub_cancel_left, abs_of_nonneg hpart]
    exact ⟨hhalf.le, fun h => absurd h hhalf.ne⟩
  · have hhalf : 1 / 2 < ((n % d : ℕ) : ℚ) / d := by
      rw [lt_div_iff₀ hd']
      have h : (d : ℚ) < ((2 * (n % d) : ℕ) : ℚ) := by exact_mod_cast hmore
      push_cast at h
      linarith
    have hone : ((n % d : ℕ) : ℚ) / d < 1 := by
      rw [div_lt_one hd']
      exact_mod_cast Nat.mod_lt n hd
    push_cast
    rw [add_sub_add_left_eq_sub, abs_sub_comm, abs_of_nonneg (by linarith)]
    exact ⟨by linarith, fun h => absurd h (by linarith)⟩
  · have hhalf : ((n % d : ℕ) : ℚ) / d = 1 / 2 := by
      rw [div_eq_iff hd'.ne']
      have h : ((2 * (n % d) : ℕ) : ℚ) = d := by exact_mod_cast (by omega : 2 * (n % d) = d)
      push_cast at h
      linarith
    have heven : Even (n / d + n / d % 2) := by
      rw [Nat.even_iff]
      omega
    refine ⟨?_, fun _ => heven⟩
    rw [hhalf]
    rcases Nat.mod_two_eq_zero_or_one (n / d) with h | h
    · rw [h, Nat.add_zero, add_sub_cancel_left]
      norm_num
    · rw [h, Nat.cast_add, Nat.cast_one, add_sub_add_left_eq_sub]
      norm_num

namespace Binary64

/-! ### Nearest numbers -/

/-- Whether `significand * 2 ^ exponent` is the number of double precision nearest to a size. The
exponent is that of the last of fifty-three bits of the size, or the least there is; of two numbers
that are equally near the one with the even significand counts. -/
structure IsNearest (x : ℚ) (significand : ℕ) (exponent : ℤ) : Prop where
  least_le : -1074 ≤ exponent
  lt : x < 2 ^ (exponent + 53)
  le : exponent = -1074 ∨ 2 ^ (exponent + 52) ≤ x
  near : |x - significand * 2 ^ exponent| ≤ 2 ^ exponent / 2
  even : |x - significand * 2 ^ exponent| = 2 ^ exponent / 2 → Even significand

variable {x : ℚ} {s s' : ℕ} {e e' : ℤ}

/-- The distance in steps of the last bit. -/
lemma abs_div_sub (x : ℚ) (s : ℕ) (e : ℤ) : |x / 2 ^ e - s| = |x - s * 2 ^ e| / 2 ^ e := by
  have hpos : (0 : ℚ) < 2 ^ e := by positivity
  rw [← abs_of_pos hpos, ← abs_div, abs_of_pos hpos, sub_div, mul_div_cancel_right₀ _ hpos.ne']

/-- Nearest in steps of the last bit. -/
lemma near_iff : (|x - s * 2 ^ e| ≤ 2 ^ e / 2 ↔ |x / 2 ^ e - s| ≤ 1 / 2) ∧
    (|x - s * 2 ^ e| = 2 ^ e / 2 ↔ |x / 2 ^ e - s| = 1 / 2) := by
  have hpos : (0 : ℚ) < 2 ^ e := by positivity
  rw [abs_div_sub, div_le_iff₀ hpos, div_eq_iff hpos.ne', one_div, inv_mul_eq_div]
  exact ⟨Iff.rfl, Iff.rfl⟩

namespace IsNearest

/-- A size that reaches the bits of one exponent is not short of those of another one. -/
lemma exponent_le (h : IsNearest x s e) (h' : IsNearest x s' e') : e' ≤ e := by
  rcases h'.le with rfl | hle
  · exact h.least_le
  · have hlt := (zpow_lt_zpow_iff_right₀ (one_lt_two (α := ℚ))).mp (hle.trans_lt h.lt)
    omega

/-- **There is one nearest number at most.** -/
lemma eq (h : IsNearest x s e) (h' : IsNearest x s' e') : s = s' ∧ e = e' := by
  obtain rfl : e = e' := le_antisymm (h'.exponent_le h) (h.exponent_le h')
  exact ⟨eq_of_near (near_iff.1.mp h.near) (fun heq => h.even (near_iff.2.mpr heq))
    (near_iff.1.mp h'.near) (fun heq => h'.even (near_iff.2.mpr heq)), rfl⟩

/-- A nearest number has fifty-three bits, but for the next power of two. -/
lemma significand_le (h : IsNearest x s e) : s ≤ 2 ^ 53 := by
  have hpos : (0 : ℚ) < 2 ^ e := by positivity
  have hx : x / 2 ^ e < 2 ^ 53 := by
    rw [div_lt_iff₀ hpos, ← zpow_natCast, ← zpow_add₀ two_ne_zero, add_comm]
    exact h.lt
  have hnear := (abs_le.mp (near_iff.1.mp h.near)).1
  have hs : (s : ℚ) < 2 ^ 53 + 1 := by linarith
  exact Nat.lt_succ_iff.mp (by exact_mod_cast hs)

/-- A nearest number is no less than half of the size, unless this is near zero. -/
lemma half_le (h : IsNearest x s e) (hx : 1 ≤ x) : x / 2 ≤ s * 2 ^ e := by
  have hstep : (2 : ℚ) ^ e ≤ x := by
    rcases h.le with rfl | hle
    · exact (zpow_le_one_of_nonpos₀ one_le_two (by norm_num)).trans hx
    · exact (zpow_le_zpow_right₀ one_le_two (by omega)).trans hle
  have hnear := (abs_le.mp h.near).2
  linarith

/-- A nearest number with more bits than a significand is no small one. -/
lemma two_pow_le (h : IsNearest x s e) {m n : ℕ} (hm : m ≤ n) (hn : 53 < n)
    (hlarge : 1 <<< n ≤ s <<< e.toNat) : (2 : ℚ) ^ m ≤ s * 2 ^ e := by
  rw [Nat.one_shiftLeft, Nat.shiftLeft_eq] at hlarge
  obtain ⟨k, rfl | rfl⟩ := e.eq_nat_or_neg
  · rw [zpow_natCast]
    exact_mod_cast (Nat.pow_le_pow_right two_pos hm).trans hlarge
  · rw [Int.toNat_neg_natCast, pow_zero, mul_one] at hlarge
    exact absurd (hlarge.trans h.significand_le) (not_le.mpr (Nat.pow_lt_pow_right one_lt_two hn))

end IsNearest

/-! ### Finding the nearest number -/

/-- A quotient whose parts are shifted is shifted. -/
lemma shifted_div (n d : ℕ) (e : ℤ) :
    ((n <<< (-e).toNat : ℕ) : ℚ) / ((d <<< e.toNat : ℕ) : ℚ) = n / d / 2 ^ e := by
  rw [Nat.shiftLeft_eq, Nat.shiftLeft_eq]
  push_cast
  obtain ⟨k, rfl | rfl⟩ := e.eq_nat_or_neg
  · rw [Int.toNat_neg_natCast, pow_zero, mul_one, Int.toNat_natCast, zpow_natCast, div_div]
  · rw [neg_neg, Int.toNat_natCast, Int.toNat_neg_natCast, pow_zero, mul_one, zpow_neg,
      zpow_natCast, div_inv_eq_mul, div_mul_eq_mul_div]

/-- The first guess at the exponent of a quotient is off by less than one in either direction. -/
lemma quotient_bounds {n d : ℕ} (hn : 0 < n) (hd : 0 < d) :
    (2 : ℚ) ^ ((n.log2 : ℤ) - d.log2 - 1) ≤ n / d ∧
      (n : ℚ) / d < 2 ^ ((n.log2 : ℤ) - d.log2 + 1) := by
  have hd' : (0 : ℚ) < d := by exact_mod_cast hd
  have hn1 : (2 : ℚ) ^ (n.log2 : ℤ) ≤ n := by
    rw [zpow_natCast]
    exact_mod_cast Nat.log2_self_le hn.ne'
  have hn2 : (n : ℚ) < 2 ^ ((n.log2 : ℤ) + 1) := by
    exact_mod_cast Nat.lt_log2_self (n := n)
  have hd1 : (2 : ℚ) ^ (d.log2 : ℤ) ≤ d := by
    rw [zpow_natCast]
    exact_mod_cast Nat.log2_self_le hd.ne'
  have hd2 : (d : ℚ) < 2 ^ ((d.log2 : ℤ) + 1) := by
    exact_mod_cast Nat.lt_log2_self (n := d)
  constructor
  · rw [le_div_iff₀ hd']
    calc (2 : ℚ) ^ ((n.log2 : ℤ) - d.log2 - 1) * d
        ≤ 2 ^ ((n.log2 : ℤ) - d.log2 - 1) * 2 ^ ((d.log2 : ℤ) + 1) := by gcongr
      _ = 2 ^ (n.log2 : ℤ) := by
          rw [← zpow_add₀ two_ne_zero]
          congr 1
          omega
      _ ≤ n := hn1
  · rw [div_lt_iff₀ hd']
    calc (n : ℚ) < 2 ^ ((n.log2 : ℤ) + 1) := hn2
      _ = 2 ^ ((n.log2 : ℤ) - d.log2 + 1) * 2 ^ (d.log2 : ℤ) := by
          rw [← zpow_add₀ two_ne_zero]
          congr 1
          omega
      _ ≤ 2 ^ ((n.log2 : ℤ) - d.log2 + 1) * d := by gcongr

/-- Shifted parts tell on which side of a power of two a quotient lies. -/
lemma shifted_le_iff (n : ℕ) {d : ℕ} (hd : 0 < d) (e : ℤ) :
    d <<< e.toNat ≤ n <<< (-e).toNat ↔ (2 : ℚ) ^ e ≤ n / d := by
  have hshifted : (0 : ℚ) < ((d <<< e.toNat : ℕ) : ℚ) := by
    rw [Nat.shiftLeft_eq]
    positivity
  rw [← Nat.cast_le (α := ℚ), ← one_le_div hshifted, shifted_div, one_le_div (by positivity)]

/-- **The nearest number is found**, unless it is too large. -/
lemma ofQuotient_eq (negative : Bool) {n d : ℕ} (hn : 0 < n) (hd : 0 < d) :
    ∃ s e, IsNearest ((n : ℚ) / d) s e ∧
      ofQuotient negative n d =
        if limit ≤ s <<< e.toNat then .tooLarge else .finite negative s e := by
  obtain ⟨hlow, hhigh⟩ := quotient_bounds hn hd
  obtain ⟨guess, hguess⟩ : ∃ guess : ℤ, guess = (n.log2 : ℤ) - d.log2 := ⟨_, rfl⟩
  rw [← hguess] at hlow hhigh
  obtain ⟨scale, hscale⟩ : ∃ scale : ℤ,
      scale = if d <<< guess.toNat ≤ n <<< (-guess).toNat then guess else guess - 1 := ⟨_, rfl⟩
  -- the guess is corrected, so that the size lies between two powers of two
  have hbinade : (2 : ℚ) ^ scale ≤ n / d ∧ (n : ℚ) / d < 2 ^ (scale + 1) := by
    rw [hscale]
    split_ifs with hle
    · exact ⟨(shifted_le_iff n hd guess).mp hle, hhigh⟩
    · rw [sub_add_cancel]
      exact ⟨hlow, not_le.mp (mt (shifted_le_iff n hd guess).mpr hle)⟩
  obtain ⟨e, he⟩ : ∃ e : ℤ, e = max (scale - 52) (-1074) := ⟨_, rfl⟩
  have hpos : 0 < d <<< e.toNat := by
    rw [Nat.shiftLeft_eq]
    positivity
  have hnear := roundedQuotient_near (n <<< (-e).toNat) hpos
  rw [shifted_div] at hnear
  refine ⟨roundedQuotient (n <<< (-e).toNat) (d <<< e.toNat), e, ⟨?_, ?_, ?_, ?_, ?_⟩, ?_⟩
  · exact he ▸ le_max_right _ _
  · exact hbinade.2.trans_le (zpow_le_zpow_right₀ one_le_two (by omega))
  · rcases le_total (scale - 52) (-1074) with h | h
    · exact .inl (by omega)
    · refine .inr (le_of_eq_of_le ?_ hbinade.1)
      congr 1
      omega
  · exact near_iff.1.mpr hnear.1
  · exact fun heq => hnear.2 (near_iff.2.mp heq)
  · rw [he, hscale, hguess]
    rfl

/-! ### Integers -/

/-- A number with its sign. -/
lemma signed_eq {negative : Bool} {m : ℕ} {i : ℤ} :
    (if negative then -(m : ℤ) else m) = i ↔ (i : ℚ) = (if negative then -1 else 1) * m := by
  rw [← Int.cast_inj (α := ℚ), eq_comm]
  cases negative <;> simp

/-- A number of double precision is an integer if nothing is left of its significand behind the
point. -/
lemma whole?_eq_some {negative : Bool} {i : ℤ} :
    whole? negative s e = some i ↔ (i : ℚ) = (if negative then -1 else 1) * (s * 2 ^ e) := by
  rw [whole?]
  obtain ⟨k, rfl | rfl⟩ := e.eq_nat_or_neg
  · -- there is no bit behind the point
    rw [Int.toNat_neg_natCast, Int.toNat_natCast, Nat.shiftLeft_zero, if_pos (Nat.mod_one s),
      Nat.div_one, Nat.shiftLeft_eq, Option.some.injEq, signed_eq, zpow_natCast]
    push_cast
    exact Iff.rfl
  · have hpow : (2 : ℚ) ^ k ≠ 0 := by positivity
    rw [neg_neg, Int.toNat_natCast, Int.toNat_neg_natCast, Nat.shiftLeft_eq, one_mul,
      Nat.shiftLeft_zero, zpow_neg, zpow_natCast]
    by_cases hrest : s % 2 ^ k = 0
    · rw [if_pos hrest]
      obtain ⟨m, rfl⟩ := Nat.dvd_of_mod_eq_zero hrest
      rw [Nat.mul_div_cancel_left m (by positivity), Option.some.injEq, signed_eq]
      push_cast
      rw [mul_comm ((2 : ℚ) ^ k), mul_inv_cancel_right₀ hpow]
    · rw [if_neg hrest]
      refine iff_of_false (by simp) fun h => hrest (Nat.mod_eq_zero_of_dvd ?_)
      -- an integer of this size would be a multiple of the unit
      have hmultiple : i * 2 ^ k = (if negative then -1 else 1) * s := by
        rw [← Int.cast_inj (α := ℚ)]
        push_cast
        rw [h, mul_assoc, mul_assoc, inv_mul_cancel₀ hpow, mul_one]
      have hdvd : (2 : ℤ) ^ k ∣ (if negative then -1 else 1) * s :=
        ⟨i, by rw [← hmultiple, mul_comm]⟩
      have habs : (2 : ℤ) ^ k ∣ s := by
        cases negative
        · simpa using hdvd
        · simpa using hdvd
      exact_mod_cast habs

/-- A size near zero has zero as its nearest number. -/
lemma isNearest_zero (h : 0 ≤ x) (hx : x ≤ 2 ^ (-1075 : ℤ)) : IsNearest x 0 (-1074) where
  least_le := le_rfl
  lt := hx.trans_lt (zpow_lt_zpow_right₀ one_lt_two (by norm_num))
  le := .inl rfl
  near := by
    rw [Nat.cast_zero, zero_mul, sub_zero, abs_of_nonneg h]
    refine hx.trans_eq ?_
    rw [eq_div_iff two_ne_zero, ← zpow_add_one₀ two_ne_zero]
    norm_num
  even _ := Even.zero

/-- The size of a small integer. -/
lemma size_lt_of_signed {negative : Bool} {v : ℚ} {i : ℤ} (hlow : -0x8000000000000000 < i)
    (hhigh : i < 0x8000000000000000) (hi : (i : ℚ) = (if negative then -1 else 1) * v) :
    v < 2 ^ 63 := by
  have hlow' : (-2 ^ 63 : ℚ) < i := by exact_mod_cast hlow
  have hhigh' : (i : ℚ) < 2 ^ 63 := by exact_mod_cast hhigh
  cases negative
  · simp only [Bool.false_eq_true, if_false, one_mul] at hi
    rwa [← hi]
  · simp only [if_true] at hi
    linarith

end Binary64

/-! ### Decimal numbers -/

namespace Decimal

open Binary64

variable {d : Decimal}

lemma size_nonneg : 0 ≤ d.size := by
  rw [size]
  positivity

/-- The number of digits and the exponent bound a decimal number. -/
lemma size_bounds (hm : d.mantissa ≠ 0) :
    (10 : ℚ) ^ (((toString d.mantissa).length : ℤ) + d.exponent - 1) ≤ d.size ∧
      d.size < 10 ^ (((toString d.mantissa).length : ℤ) + d.exponent) := by
  obtain ⟨k, hk⟩ := Nat.exists_eq_succ_of_ne_zero (Nat.length_repr_pos (n := d.mantissa)).ne'
  have hlt : d.mantissa < 10 ^ (k + 1) := (Nat.length_repr_le_iff k.succ_pos).mp hk.le
  have hle : 10 ^ k ≤ d.mantissa := by
    cases k with
    | zero => exact Nat.pos_of_ne_zero hm
    | succ k =>
        refine not_lt.mp fun h => ?_
        have hshort := (Nat.length_repr_le_iff k.succ_pos).mpr h
        omega
  have hlength : ((toString d.mantissa).length : ℤ) = k + 1 := by exact_mod_cast hk
  rw [hlength, size]
  constructor
  · rw [show (k : ℤ) + 1 + d.exponent - 1 = k + d.exponent by omega, zpow_add₀ (by norm_num),
      zpow_natCast]
    gcongr
    exact_mod_cast hle
  · rw [zpow_add₀ (by norm_num)]
    gcongr
    exact_mod_cast hlt

/-- A decimal number is a quotient of two integers. -/
lemma size_eq_div (d : Decimal) :
    d.size = ((d.mantissa * Nat.pow 10 d.exponent.toNat : ℕ) : ℚ) /
      ((Nat.pow 10 (-d.exponent).toNat : ℕ) : ℚ) := by
  rw [size, Nat.pow_eq, Nat.pow_eq]
  push_cast
  obtain ⟨k, h | h⟩ := d.exponent.eq_nat_or_neg
  · rw [h, Int.toNat_neg_natCast, Int.toNat_natCast, zpow_natCast, pow_zero, div_one]
  · rw [h, neg_neg, Int.toNat_natCast, Int.toNat_neg_natCast, pow_zero, mul_one, zpow_neg,
      zpow_natCast, div_eq_mul_inv]

/-- A decimal number whose first digit stands that far behind the point is near zero. -/
lemma size_le_of_small
    (h : d.mantissa = 0 ∨ ((toString d.mantissa).length : ℤ) + d.exponent < -400) :
    d.size ≤ 2 ^ (-1075 : ℤ) := by
  by_cases hm : d.mantissa = 0
  · rw [size, hm, Nat.cast_zero, zero_mul]
    positivity
  · have hsmall := h.resolve_left hm
    calc d.size ≤ 10 ^ (((toString d.mantissa).length : ℤ) + d.exponent) := (size_bounds hm).2.le
      _ ≤ (10 : ℚ) ^ (-400 : ℤ) := zpow_le_zpow_right₀ (by norm_num) hsmall.le
      _ ≤ 2 ^ (-1075 : ℤ) := by
          rw [zpow_neg, zpow_neg]
          refine inv_anti₀ (by positivity) ?_
          calc (2 : ℚ) ^ (1075 : ℤ)
              ≤ 2 ^ (3 * 400 : ℤ) := zpow_le_zpow_right₀ one_le_two (by norm_num)
            _ = 8 ^ (400 : ℤ) := by
                rw [zpow_mul]
                norm_num
            _ ≤ 10 ^ (400 : ℤ) := zpow_le_zpow_left₀ (by norm_num) (by norm_num) (by norm_num)

/-- A decimal number with that many digits in front of the point is large. -/
lemma le_size_of_large (hm : d.mantissa ≠ 0)
    (h : 400 < ((toString d.mantissa).length : ℤ) + d.exponent) : (2 : ℚ) ^ 64 ≤ d.size :=
  calc (2 : ℚ) ^ 64 ≤ 10 ^ (64 : ℕ) := pow_le_pow_left₀ (by norm_num) (by norm_num) 64
    _ ≤ 10 ^ (((toString d.mantissa).length : ℤ) + d.exponent - 1) :=
        zpow_natCast (10 : ℚ) 64 ▸ zpow_le_zpow_right₀ (by norm_num) (by omega)
    _ ≤ d.size := (size_bounds hm).1

/-- What double precision makes of a decimal number: the nearest number, unless this is too
large. -/
lemma toBinary64_cases (d : Decimal) :
    (∃ s e, IsNearest d.size s e ∧ ∃ e', d.toBinary64 = .finite d.negative s e' ∧
        (s : ℚ) * 2 ^ e' = s * 2 ^ e) ∨
      d.toBinary64 = .tooLarge ∧ ∀ s e, IsNearest d.size s e → (2 : ℚ) ^ 63 ≤ s * 2 ^ e := by
  rw [toBinary64]
  by_cases hsmall : d.mantissa = 0 ∨ ((toString d.mantissa).length : ℤ) + d.exponent < -400
  · -- nothing but zero is near
    rw [if_pos hsmall]
    exact .inl ⟨0, -1074, isNearest_zero size_nonneg (size_le_of_small hsmall), 0, rfl, by simp⟩
  · rw [if_neg hsmall]
    obtain ⟨hm, -⟩ := not_or.mp hsmall
    by_cases hlarge : 400 < ((toString d.mantissa).length : ℤ) + d.exponent
    · -- the nearest number is no less than half of the size
      rw [if_pos hlarge]
      have hsize := le_size_of_large hm hlarge
      refine .inr ⟨rfl, fun s e h => ?_⟩
      have hhalf := h.half_le (le_trans (by norm_num) hsize)
      linarith
    · -- the nearest number is worked out
      rw [if_neg hlarge]
      obtain ⟨s, e, h, heq⟩ := ofQuotient_eq d.negative
        (n := d.mantissa * Nat.pow 10 d.exponent.toNat) (d := Nat.pow 10 (-d.exponent).toNat)
        (Nat.mul_pos (Nat.pos_of_ne_zero hm) (Nat.pow_pos (by norm_num)))
        (Nat.pow_pos (by norm_num))
      rw [← size_eq_div] at h
      rw [heq]
      by_cases hlimit : limit ≤ s <<< e.toNat
      · rw [if_pos hlimit]
        refine .inr ⟨rfl, fun s' e' h' => ?_⟩
        obtain ⟨rfl, rfl⟩ := h.eq h'
        exact h.two_pow_le (by omega) (by omega) hlimit
      · rw [if_neg hlimit]
        exact .inl ⟨s, e, h, e, rfl, rfl⟩

/-- **Which decimal numbers are integers in double precision**, of those that are smaller than a
bound. -/
theorem toBinary64_whole {i : ℤ} (hlow : -0x8000000000000000 < i) (hhigh : i < 0x8000000000000000) :
    (∃ negative significand exponent, d.toBinary64 = .finite negative significand exponent ∧
        whole? negative significand exponent = some i) ↔
      ∃ significand exponent, IsNearest d.size significand exponent ∧
        (i : ℚ) = (if d.negative then -1 else 1) * (significand * 2 ^ exponent) := by
  rcases toBinary64_cases d with ⟨s, e, h, e', hd, hvalue⟩ | ⟨hd, hlarge⟩
  · constructor
    · rintro ⟨_, _, _, hfinite, hwhole⟩
      cases hd.symm.trans hfinite
      exact ⟨s, e, h, hvalue ▸ whole?_eq_some.mp hwhole⟩
    · rintro ⟨s', e'', h', hi⟩
      obtain ⟨rfl, rfl⟩ := h.eq h'
      exact ⟨_, _, _, hd, whole?_eq_some.mpr (hvalue ▸ hi)⟩
  · constructor
    · rintro ⟨_, _, _, hfinite, -⟩
      cases hd.symm.trans hfinite
    · rintro ⟨s, e, h, hi⟩
      exact absurd (size_lt_of_signed hlow hhigh hi) (not_lt.mpr (hlarge s e h))

end Decimal

end KnownLogs
