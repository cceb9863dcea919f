/-
What is written in Base64 is read back:

* `Base64.value?_digit`: a digit has the value that it was written for;
* `Base64.steps_two`, `Base64.steps_three`, `Base64.steps_group`: two, three and four digits are
  one, two and three bytes;
* `Base64.steps_encodeChars`: the whole text, by the length of its last group;
* `Base64.decode_encode`: **what is written is read back**, with all three lengths of padding.
-/
import Mathlib.Tactic.Common
import KnownLogs.Bytes.Base64

namespace KnownLogs.Base64

/-! ### Digits -/

/-- A digit has the value that it was written for, and is neither padding nor beyond ASCII. -/
lemma value?_digit : ∀ n < 64,
    value? (digit n) = some n ∧ digit n ≠ '=' ∧ (digit n).toNat < 0x80 := by
  decide

/-- A digit counts while no padding has been read. -/
lemma step_digit {p : Progress} (hc : p.closed = false) (hp : p.pads = 0) {n : Nat}
    (hn : n < 64) : p.step (digit n) = .ok (p.digit n) := by
  obtain ⟨hv, hpad, -⟩ := value?_digit n hn
  simp [Progress.step, hc, hp, hpad, hv]

lemma steps_digit {p : Progress} (hc : p.closed = false) (hp : p.pads = 0) {n : Nat}
    (hn : n < 64) (cs : List Char) :
    (digit n :: cs).foldlM Progress.step p = cs.foldlM Progress.step (p.digit n) := by
  rw [List.foldlM_cons, step_digit hc hp hn]
  rfl

/-! ### Groups -/

section Groups

variable (out : Bytes) (a b c : UInt8) (cs : List Char)

/-- Two digits are one byte, and four bits of the next. -/
lemma steps_two {low : Nat} (hlow : low < 16) :
    (digit (a.toNat / 4) :: digit (a.toNat % 4 * 16 + low) :: cs).foldlM Progress.step { out } =
      cs.foldlM Progress.step { out := a :: out, digits := 2, bits := low } := by
  have ha := a.toNat_lt
  have hbyte : UInt8.ofNat (a.toNat / 4 * 4 + (a.toNat % 4 * 16 + low) / 16) = a := by
    rw [show a.toNat / 4 * 4 + (a.toNat % 4 * 16 + low) / 16 = a.toNat by omega]
    exact UInt8.ofNat_toNat
  have hbits : (a.toNat % 4 * 16 + low) % 16 = low := by omega
  rw [steps_digit rfl rfl (by omega), steps_digit rfl rfl (by omega)]
  simp only [Progress.digit, hbyte, hbits]

/-- Three digits are two bytes, and two bits of the next. -/
lemma steps_three {low : Nat} (hlow : low < 4) :
    (digit (a.toNat / 4) :: digit (a.toNat % 4 * 16 + b.toNat / 16) ::
        digit (b.toNat % 16 * 4 + low) :: cs).foldlM Progress.step { out } =
      cs.foldlM Progress.step { out := b :: a :: out, digits := 3, bits := low } := by
  have hb := b.toNat_lt
  have hbyte : UInt8.ofNat (b.toNat / 16 * 16 + (b.toNat % 16 * 4 + low) / 4) = b := by
    rw [show b.toNat / 16 * 16 + (b.toNat % 16 * 4 + low) / 4 = b.toNat by omega]
    exact UInt8.ofNat_toNat
  have hbits : (b.toNat % 16 * 4 + low) % 4 = low := by omega
  rw [steps_two out a _ (by omega), steps_digit rfl rfl (by omega)]
  simp only [Progress.digit, hbyte, hbits]

/-- Four digits are three bytes. -/
lemma steps_group :
    (digit (a.toNat / 4) :: digit (a.toNat % 4 * 16 + b.toNat / 16) ::
        digit (b.toNat % 16 * 4 + c.toNat / 64) :: digit (c.toNat % 64) :: cs).foldlM
        Progress.step { out } =
      cs.foldlM Progress.step { out := c :: b :: a :: out } := by
  have hc := c.toNat_lt
  have hbyte : UInt8.ofNat (c.toNat / 64 * 64 + c.toNat % 64) = c := by
    rw [show c.toNat / 64 * 64 + c.toNat % 64 = c.toNat by omega]
    exact UInt8.ofNat_toNat
  rw [steps_three out a b _ (by omega), steps_digit rfl rfl (by omega)]
  simp only [Progress.digit, hbyte]

end Groups

/-! ### Texts -/

/-- Padding closes a group of two digits. -/
lemma closing_two (out : Bytes) (a : UInt8) :
    (do (← ['=', '='].foldlM Progress.step { out := a :: out, digits := 2 }).finish) =
      .ok (out.reverse ++ [a]) :=
  congrArg Except.ok List.reverse_cons

/-- Padding closes a group of three digits. -/
lemma closing_three (out : Bytes) (a b : UInt8) :
    (do (← ['='].foldlM Progress.step { out := b :: a :: out, digits := 3 }).finish) =
      .ok (out.reverse ++ [a, b]) := by
  have hrev : (b :: a :: out).reverse = out.reverse ++ [a, b] := by simp
  exact congrArg Except.ok hrev

/-- The whole text is read to its end, by the length of its last group. -/
lemma steps_encodeChars (bs out : Bytes) :
    (do (← (encodeChars bs).foldlM Progress.step { out }).finish) = .ok (out.reverse ++ bs) := by
  fun_induction encodeChars bs generalizing out with
  | case1 =>
      rw [List.append_nil]
      rfl
  | case2 a =>
      have h := steps_two out a ['=', '='] (show 0 < 16 by decide)
      rw [Nat.add_zero] at h
      rw [h, closing_two]
  | case3 a b =>
      have h := steps_three out a b ['='] (show 0 < 4 by decide)
      rw [Nat.add_zero] at h
      rw [h, closing_three]
  | case4 a b c rest ih =>
      rw [steps_group, ih]
      simp

/-- All characters of a text are in ASCII. -/
lemma isAscii_encodeChars (bs : Bytes) : ∀ c ∈ encodeChars bs, c.toNat < 0x80 := by
  have hdigit : ∀ n < 64, (digit n).toNat < 0x80 := fun n hn => (value?_digit n hn).2.2
  fun_induction encodeChars bs with
  | case1 => simp
  | case2 a =>
      have ha := a.toNat_lt
      simp [hdigit (a.toNat / 4) (by omega), hdigit (a.toNat % 4 * 16) (by omega)]
  | case3 a b =>
      have ha := a.toNat_lt
      have hb := b.toNat_lt
      simp [hdigit (a.toNat / 4) (by omega),
        hdigit (a.toNat % 4 * 16 + b.toNat / 16) (by omega), hdigit (b.toNat % 16 * 4) (by omega)]
  | case4 a b c rest ih =>
      have ha := a.toNat_lt
      have hb := b.toNat_lt
      have hc := c.toNat_lt
      simp [hdigit (a.toNat / 4) (by omega),
        hdigit (a.toNat % 4 * 16 + b.toNat / 16) (by omega),
        hdigit (b.toNat % 16 * 4 + c.toNat / 64) (by omega), hdigit (c.toNat % 64) (by omega)]
      exact ih

/-- A text does not begin with padding. -/
lemma head?_encodeChars (bs : Bytes) : (encodeChars bs).head? ≠ some '=' := by
  have hdigit : ∀ n < 64, digit n ≠ '=' := fun n hn => (value?_digit n hn).2.1
  fun_cases encodeChars bs with
  | case1 => simp
  | case2 a => simpa using hdigit (a.toNat / 4) (by have := a.toNat_lt; omega)
  | case3 a b => simpa using hdigit (a.toNat / 4) (by have := a.toNat_lt; omega)
  | case4 a b c rest => simpa using hdigit (a.toNat / 4) (by have := a.toNat_lt; omega)

/-- **What is written is read back.** -/
theorem decode_encode (bs : Bytes) : decode (encode bs) = .ok bs := by
  have hascii : ¬ (encodeChars bs).any (fun c => 0x80 ≤ c.toNat) = true := by
    intro h
    obtain ⟨c, hc, hle⟩ := List.any_eq_true.mp h
    have := isAscii_encodeChars bs c hc
    simp at hle
    omega
  rw [decode, encode]
  simp only [String.toList_ofList]
  rw [if_neg hascii, if_neg (head?_encodeChars bs)]
  exact steps_encodeChars bs []

end KnownLogs.Base64
