/-
Hexadecimal texts in letters of either case:

* `Hex.toLower_congr`: what is the same for the capitals of ASCII and their small letters is the
  same for every character and its small letter;
* `Hex.decode?_map_toLower`: **the case of letters does not count** in what is read;
* `Hex.exists_digit_of_mem`: what is written consists of digits;
* `Hex.decode?_of_map_toLower`: **what is written is read back** in letters of either case.
-/
import Mathlib.Tactic.Common
import KnownLogs.Bytes.Hex

namespace KnownLogs.Hex

/-! ### Letters of either case -/

/-- Only the capitals of ASCII have a small letter other than themselves. -/
lemma toLower_congr {α : Type} (f : Char → α)
    (h : ∀ n < 91, 65 ≤ n → f (Char.ofNat n).toLower = f (Char.ofNat n)) (c : Char) :
    f c.toLower = f c := by
  by_cases hc : c.val ≥ 'A'.val ∧ c.val ≤ 'Z'.val
  · have hlow : 65 ≤ c.toNat := UInt32.le_iff_toNat_le.mp hc.1
    have hhigh : c.toNat < 91 := Nat.lt_succ_of_le (UInt32.le_iff_toNat_le.mp hc.2)
    have hcapital := h c.toNat hhigh hlow
    rwa [Char.ofNat_toNat] at hcapital
  · rw [show c.toLower = c from dif_neg hc]

lemma value?_toLower (c : Char) : value? c.toLower = value? c :=
  toLower_congr value? (by decide) c

lemma isBlank_toLower (c : Char) : isBlank c.toLower = isBlank c :=
  toLower_congr isBlank (by decide) c

/-- **The case of letters does not count** in what is read. -/
theorem decode?_map_toLower (cs : List Char) : decode? (cs.map Char.toLower) = decode? cs := by
  induction cs using decode?.induct with
  | case1 => rfl
  | case2 c h => simp [decode?, isBlank_toLower, h]
  | case3 c h => simp [decode?, isBlank_toLower, h]
  | case4 c d rest h ih =>
      rw [List.map_cons] at ih
      simp [decode?, isBlank_toLower, h, ih]
  | case5 c d rest h hi lo hhi hlo ih =>
      simp [decode?, isBlank_toLower, value?_toLower, h, hhi, hlo, ih]
  | case6 c d rest h _ =>
      simp [decode?, isBlank_toLower, value?_toLower, h]

/-! ### Reading back -/

/-- What is written consists of digits. -/
lemma exists_digit_of_mem {bs : Bytes} {c : Char} (h : c ∈ encodeChars bs) :
    ∃ n < 16, c = digit n := by
  obtain ⟨b, -, hc⟩ := List.mem_flatMap.mp h
  have hb := b.toNat_lt
  simp only [pair, List.mem_cons, List.not_mem_nil, or_false] at hc
  rcases hc with rfl | rfl
  · exact ⟨_, by omega, rfl⟩
  · exact ⟨_, Nat.mod_lt _ (by decide), rfl⟩

/-- **What is written is read back** in letters of either case. -/
theorem decode?_of_map_toLower {bs : Bytes} {s : String} (h : s.map Char.toLower = encode bs) :
    decode? s.toList = some bs := by
  rw [← decode?_map_toLower, ← String.toList_map, h, encode, String.toList_ofList,
    decode?_encodeChars]

end KnownLogs.Hex
