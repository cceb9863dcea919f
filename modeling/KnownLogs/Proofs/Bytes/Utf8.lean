/-
The UTF-8 form of text, read in parts and read back:

* `Utf8.decode?_one` to `Utf8.decode?_four`: the first character, by the number of its bytes;
* `Utf8.decode?_append`: where a part can be read, reading goes on behind it;
* `Utf8.IsBlank`, `Utf8.isBlank_of_decode`: only the bytes of blanks are read as blanks;
* `Utf8.decode?_encodeChar_append`: the bytes of one character are read as that character,
  whatever follows them;
* `Utf8.decode?_encodeChars`: **what is written is read back**.
-/
import Mathlib.Tactic.Common
import KnownLogs.Bytes.Utf8
import KnownLogs.Json.Reader

namespace KnownLogs.Utf8

/-! ### The first character -/

section First

variable {b c d e : UInt8} {x : Char}

lemma decode?_one (hb : b.toNat < 0x80) (s : Bytes) :
    decode? (b :: s) = (decode? s).map (Char.ofNat b.toNat :: ·) := by
  rw [decode?.eq_def]
  simp only [if_pos hb]

lemma decode?_two (hb : 0xC0 ≤ b.toNat) (hb' : b.toNat < 0xE0) (hx : two? b c = some x)
    (s : Bytes) : decode? (b :: c :: s) = (decode? s).map (x :: ·) := by
  rw [decode?.eq_def]
  simp only [if_neg (show ¬ b.toNat < 0x80 by omega), if_neg (show ¬ b.toNat < 0xC0 by omega),
    if_pos hb', hx, Option.bind_some]

lemma decode?_three (hb : 0xE0 ≤ b.toNat) (hb' : b.toNat < 0xF0) (hx : three? b c d = some x)
    (s : Bytes) : decode? (b :: c :: d :: s) = (decode? s).map (x :: ·) := by
  rw [decode?.eq_def]
  simp only [if_neg (show ¬ b.toNat < 0x80 by omega), if_neg (show ¬ b.toNat < 0xC0 by omega),
    if_neg (show ¬ b.toNat < 0xE0 by omega), if_pos hb', hx, Option.bind_some]

lemma decode?_four (hb : 0xF0 ≤ b.toNat) (hx : four? b c d e = some x) (s : Bytes) :
    decode? (b :: c :: d :: e :: s) = (decode? s).map (x :: ·) := by
  rw [decode?.eq_def]
  simp only [if_neg (show ¬ b.toNat < 0x80 by omega), if_neg (show ¬ b.toNat < 0xC0 by omega),
    if_neg (show ¬ b.toNat < 0xE0 by omega), if_neg (show ¬ b.toNat < 0xF0 by omega), hx,
    Option.bind_some]

end First

/-! ### Reading in parts -/

/-- Where a part can be read, reading goes on behind it. -/
lemma decode?_append {p : Bytes} {cs : List Char} (h : decode? p = some cs) (s : Bytes) :
    decode? (p ++ s) = (decode? s).map (cs ++ ·) := by
  have hcons : ∀ (c : Char) (ds : List Char),
      ((decode? s).map (ds ++ ·)).map (c :: ·) = (decode? s).map (c :: ds ++ ·) := by
    intro c ds
    rw [Option.map_map]
    rfl
  -- by the bytes of the first character, as reading takes them
  fun_induction decode? p generalizing cs with
  | case1 =>
      cases h
      simp
  | case2 b rest hb ih =>
      obtain ⟨ds, hds, rfl⟩ := Option.map_eq_some_iff.mp h
      rw [List.cons_append, decode?_one hb, ih hds, hcons]
  | case3 => cases h
  | case4 b h1 h2 h3 c rest ih =>
      obtain ⟨x, hx, h⟩ := Option.bind_eq_some_iff.mp h
      obtain ⟨ds, hds, rfl⟩ := Option.map_eq_some_iff.mp h
      rw [List.cons_append, List.cons_append, decode?_two (by omega) h3 hx, ih hds, hcons]
  | case5 => cases h
  | case6 b h1 h2 h3 h4 c d rest ih =>
      obtain ⟨x, hx, h⟩ := Option.bind_eq_some_iff.mp h
      obtain ⟨ds, hds, rfl⟩ := Option.map_eq_some_iff.mp h
      rw [List.cons_append, List.cons_append, List.cons_append,
        decode?_three (by omega) h4 hx, ih hds, hcons]
  | case7 => cases h
  | case8 b h1 h2 h3 h4 c d e rest ih =>
      obtain ⟨x, hx, h⟩ := Option.bind_eq_some_iff.mp h
      obtain ⟨ds, hds, rfl⟩ := Option.map_eq_some_iff.mp h
      rw [List.cons_append, List.cons_append, List.cons_append, List.cons_append,
        decode?_four (by omega) hx, ih hds, hcons]
  | case9 => cases h

/-! ### Blanks -/

/-- The bytes of the four blanks of JSON. -/
def IsBlank (b : UInt8) : Prop :=
  b = 0x20 ∨ b = 0x09 ∨ b = 0x0A ∨ b = 0x0D

instance (b : UInt8) : Decidable (IsBlank b) :=
  inferInstanceAs (Decidable (_ ∨ _))

lemma isBlank_ofNat {b : UInt8} (hb : b.toNat < 0x80)
    (h : Json.Reader.isBlank (Char.ofNat b.toNat)) : IsBlank b := by
  have hall : ∀ n < 0x80, Json.Reader.isBlank (Char.ofNat n) → IsBlank (UInt8.ofNat n) := by
    decide +kernel
  have hb' := hall b.toNat hb h
  rwa [UInt8.ofNat_toNat] at hb'

/-- The number of the character with a number. -/
lemma toNat_ofNat {n : Nat} (h : n.isValidChar) : (Char.ofNat n).toNat = n := by
  rw [Char.ofNat, dif_pos h]
  rfl

/-- A character of two bytes or more is none of the blanks. -/
lemma not_isBlank_of_scalar {least n : Nat} {c : Char} (hl : 0x80 ≤ least)
    (h : scalar? least n = some c) : ¬ Json.Reader.isBlank c := by
  rw [scalar?] at h
  split_ifs at h with hn
  cases h
  intro hblank
  have hlt : (Char.ofNat n).toNat < 0x80 := by
    simp only [Json.Reader.isBlank, Bool.or_eq_true, beq_iff_eq] at hblank
    rcases hblank with ((h | h) | h) | h <;> rw [h] <;> decide
  rw [toNat_ofNat hn.1] at hlt
  omega

/-- **Only the bytes of blanks are read as blanks.** -/
lemma isBlank_of_decode {p : Bytes} {cs : List Char} (h : decode? p = some cs)
    (hcs : ∀ c ∈ cs, Json.Reader.isBlank c) : ∀ b ∈ p, IsBlank b := by
  -- characters of several bytes are not blanks, since the shortest form is asked for
  fun_induction decode? p generalizing cs with
  | case1 => simp
  | case2 b rest hb ih =>
      obtain ⟨ds, hds, rfl⟩ := Option.map_eq_some_iff.mp h
      obtain ⟨hc, hrest⟩ := List.forall_mem_cons.mp hcs
      exact List.forall_mem_cons.mpr ⟨isBlank_ofNat hb hc, ih hds hrest⟩
  | case3 => cases h
  | case4 b h1 h2 h3 c rest ih =>
      obtain ⟨x, hx, h⟩ := Option.bind_eq_some_iff.mp h
      obtain ⟨ds, hds, rfl⟩ := Option.map_eq_some_iff.mp h
      obtain ⟨hblank, -⟩ := List.forall_mem_cons.mp hcs
      obtain ⟨y, -, hscalar⟩ := Option.bind_eq_some_iff.mp hx
      exact absurd hblank (not_isBlank_of_scalar (by omega) hscalar)
  | case5 => cases h
  | case6 b h1 h2 h3 h4 c d rest ih =>
      obtain ⟨x, hx, h⟩ := Option.bind_eq_some_iff.mp h
      obtain ⟨ds, hds, rfl⟩ := Option.map_eq_some_iff.mp h
      obtain ⟨hblank, -⟩ := List.forall_mem_cons.mp hcs
      obtain ⟨y, -, hx⟩ := Option.bind_eq_some_iff.mp hx
      obtain ⟨z, -, hscalar⟩ := Option.bind_eq_some_iff.mp hx
      exact absurd hblank (not_isBlank_of_scalar (by omega) hscalar)
  | case7 => cases h
  | case8 b h1 h2 h3 h4 c d e rest ih =>
      obtain ⟨x, hx, h⟩ := Option.bind_eq_some_iff.mp h
      obtain ⟨ds, hds, rfl⟩ := Option.map_eq_some_iff.mp h
      obtain ⟨hblank, -⟩ := List.forall_mem_cons.mp hcs
      obtain ⟨y, -, hx⟩ := Option.bind_eq_some_iff.mp hx
      obtain ⟨z, -, hx⟩ := Option.bind_eq_some_iff.mp hx
      obtain ⟨u, -, hscalar⟩ := Option.bind_eq_some_iff.mp hx
      exact absurd hblank (not_isBlank_of_scalar (by omega) hscalar)
  | case9 => cases h

/-! ### Reading back -/

/-- The bits of a continuation byte are read back. -/
lemma tail?_tail (n : Nat) : tail? (tail n) = some (n % 64) := by
  have hlt : n % 64 < 64 := Nat.mod_lt _ (by decide)
  have hb : (tail n).toNat = 0x80 + n % 64 := by
    rw [tail, UInt8.toNat_ofNat']
    omega
  rw [tail?, hb, if_pos ⟨by omega, by omega⟩]
  simp

/-- The bits of three continuation bytes are read back, whatever is made of them. -/
lemma tails (x y z : Nat) (f : Nat → Nat → Nat → Option Char) :
    (do
      let x ← tail? (tail x)
      let y ← tail? (tail y)
      let z ← tail? (tail z)
      f x y z) = f (x % 64) (y % 64) (z % 64) := by
  rw [tail?_tail, tail?_tail, tail?_tail]
  rfl

lemma four?_tail (b : UInt8) (x y z : Nat) :
    four? b (tail x) (tail y) (tail z) =
      scalar? 0x10000 ((b.toNat - 0xF0) * 262144 + x % 64 * 4096 + y % 64 * 64 + z % 64) :=
  tails x y z fun x y z => scalar? 0x10000 ((b.toNat - 0xF0) * 262144 + x * 4096 + y * 64 + z)

/-- A character is the one with its number. -/
lemma scalar?_toNat {least : Nat} {c : Char} (h : least ≤ c.toNat) :
    scalar? least c.toNat = some c := by
  rw [scalar?, if_pos ⟨c.valid, h⟩, Char.ofNat_toNat]

/-- A number in pieces of six bits. -/
lemma pieces (n : Nat) :
    n / 262144 * 262144 + n / 4096 % 64 * 4096 + n / 64 % 64 * 64 + n % 64 = n := by
  omega

/-- The bytes of a character are read as that character, whatever follows them. -/
lemma decode?_encodeChar_append (c : Char) (s : Bytes) :
    decode? (encodeChar c ++ s) = (decode? s).map (c :: ·) := by
  have hlt : c.toNat < 0x110000 := by
    have hvalid : c.toNat < 0xD800 ∨ 0xDFFF < c.toNat ∧ c.toNat < 0x110000 := c.valid
    omega
  -- one to four bytes, by the size of the number
  by_cases h1 : c.toNat < 0x80
  · have hb : (UInt8.ofNat c.toNat).toNat = c.toNat := by
      rw [UInt8.toNat_ofNat']
      omega
    rw [encodeChar, if_pos h1, List.singleton_append, decode?_one (by omega), hb, Char.ofNat_toNat]
  by_cases h2 : c.toNat < 0x800
  · have hb : (UInt8.ofNat (0xC0 + c.toNat / 64)).toNat = 0xC0 + c.toNat / 64 := by
      rw [UInt8.toNat_ofNat']
      omega
    have htwo : two? (UInt8.ofNat (0xC0 + c.toNat / 64)) (tail c.toNat) = some c := by
      simp only [two?, tail?_tail, hb, Option.bind_eq_bind, Option.bind_some]
      rw [show (0xC0 + c.toNat / 64 - 0xC0) * 64 + c.toNat % 64 = c.toNat by omega]
      exact scalar?_toNat (by omega)
    rw [encodeChar, if_neg h1, if_pos h2]
    exact decode?_two (by omega) (by omega) htwo s
  by_cases h3 : c.toNat < 0x10000
  · have hb : (UInt8.ofNat (0xE0 + c.toNat / 4096)).toNat = 0xE0 + c.toNat / 4096 := by
      rw [UInt8.toNat_ofNat']
      omega
    have hthree : three? (UInt8.ofNat (0xE0 + c.toNat / 4096)) (tail (c.toNat / 64))
        (tail c.toNat) = some c := by
      simp only [three?, tail?_tail, hb, Option.bind_eq_bind, Option.bind_some]
      rw [show (0xE0 + c.toNat / 4096 - 0xE0) * 4096 + c.toNat / 64 % 64 * 64 + c.toNat % 64
        = c.toNat by omega]
      exact scalar?_toNat (by omega)
    rw [encodeChar, if_neg h1, if_neg h2, if_pos h3]
    exact decode?_three (by omega) (by omega) hthree s
  · have hb : (UInt8.ofNat (0xF0 + c.toNat / 262144)).toNat = 0xF0 + c.toNat / 262144 := by
      rw [UInt8.toNat_ofNat']
      omega
    have hfour : four? (UInt8.ofNat (0xF0 + c.toNat / 262144)) (tail (c.toNat / 4096))
        (tail (c.toNat / 64)) (tail c.toNat) = some c := by
      rw [four?_tail, hb, Nat.add_sub_cancel_left, pieces]
      exact scalar?_toNat (by omega)
    rw [encodeChar, if_neg h1, if_neg h2, if_neg h3]
    exact decode?_four (by omega) hfour s

/-- **What is written is read back.** -/
theorem decode?_encodeChars (cs : List Char) : decode? (encodeChars cs) = some cs := by
  induction cs with
  | nil => rfl
  | cons c cs ih =>
      rw [encodeChars, List.flatMap_cons, decode?_encodeChar_append, ← encodeChars, ih]
      rfl

end KnownLogs.Utf8
