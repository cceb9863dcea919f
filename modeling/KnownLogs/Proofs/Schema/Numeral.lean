/-
Texts that are integers:

* `Lined`: a text with low lines between some of its characters;
* `AreZeros`, `IsFraction`: zeros in front of a number, and a point with zeros behind it;
* `Writes`: the integer that a text without blanks at its ends writes;
* `IsNumeral`: the integer that a text writes;
* `natural?_eq_some`, `withoutLines_eq_iff`, `withoutZeros?_of_ends`, `withoutFraction_append` and
  their converses: what each step of the reading takes away;
* `ofText_ok`: **which texts are read as integers**, and as which ones.
-/
import Mathlib.Data.List.DropRight
import Mathlib.Data.List.TakeDrop
import Mathlib.Data.Nat.Digits.Defs
import Mathlib.Data.Option.Basic
import Mathlib.Tactic.Common
import KnownLogs.Schema.Integer

namespace KnownLogs.Schema.Integer

open Json (digitValue?)

/-! ### Numerals -/

/-- A text with low lines put between some of its characters, one at a time. -/
inductive Lined : List Char → List Char → Prop
  | last (c : Char) : Lined [c] [c]
  | next (c : Char) {cs ds : List Char} : Lined cs ds → Lined (c :: cs) (c :: ds)
  | line (c : Char) {cs ds : List Char} : Lined cs ds → Lined (c :: '_' :: cs) (c :: ds)

/-- Zeros in front of a number, with any low lines behind the first of them. -/
def AreZeros (cs : List Char) : Prop :=
  cs = [] ∨ ∃ zs, cs = '0' :: zs ∧ ∀ c ∈ zs, c = '0' ∨ c = '_'

/-- A point and zeros behind a number. -/
def IsFraction (cs : List Char) : Prop :=
  cs = [] ∨ ∃ k, cs = '.' :: List.replicate (k + 1) '0'

/-- The integer that a text writes: digits without another zero in front of them, with low lines
between some of them, zeros and a sign before and a fraction of zeros behind. A minus sign may also
stand behind the zeros. -/
inductive Writes : List Char → Int → Prop
  | natural {sign zeros body fraction : List Char} (n : Nat) : sign = [] ∨ sign = ['+'] →
      AreZeros zeros → Lined body (Nat.toDigits 10 n) → IsFraction fraction →
      (Nat.toDigits 10 n).length ≤ 4300 →
      Writes (sign ++ (zeros ++ (body ++ fraction))) n
  | negative {zeros body fraction : List Char} (n : Nat) :
      AreZeros zeros → Lined body (Nat.toDigits 10 n) → IsFraction fraction →
      (Nat.toDigits 10 n).length ≤ 4300 →
      Writes ('-' :: (zeros ++ (body ++ fraction))) (-n)
  | behindZeros {sign zeros body fraction : List Char} (n : Nat) : sign = [] ∨ sign = ['+'] →
      AreZeros zeros → zeros ≠ [] → Lined body ('-' :: Nat.toDigits 10 n) → IsFraction fraction →
      (Nat.toDigits 10 n).length ≤ 4300 →
      Writes (sign ++ (zeros ++ (body ++ fraction))) (-n)

/-- The integer that a text writes, with any blanks before and behind. -/
def IsNumeral (cs : List Char) (i : Int) : Prop :=
  ∃ before core after, cs = before ++ (core ++ after) ∧ (∀ c ∈ before, Text.isBlank c) ∧
    (∀ c ∈ after, Text.isBlank c) ∧ Writes core i

variable {c : Char} {cs ds body fraction zeros : List Char} {i : Int} {n : Nat}

/-! ### Digits -/

lemma isSome_digitValue? : (digitValue? c).isSome ↔ c.isDigit := by
  simp [digitValue?, Char.isDigit, Char.le_def]

lemma digitValue?_eq_some {d : Nat} (h : digitValue? c = some d) :
    d < 10 ∧ Nat.digitChar d = c := by
  rw [digitValue?] at h
  split_ifs at h with hc
  obtain ⟨hlow, hhigh⟩ := hc
  replace hlow : 48 ≤ c.toNat := hlow
  replace hhigh : c.toNat ≤ 57 := hhigh
  have hd : c.toNat = 48 + d ∧ d < 10 := by
    cases h
    omega
  have hchar : ∀ d < 10, Nat.digitChar d = Char.ofNat (48 + d) := by decide
  rw [hchar d hd.2, ← hd.1, Char.ofNat_toNat]
  exact ⟨hd.2, rfl⟩

lemma isDigit_of_mem (h : c ∈ Nat.toDigits 10 n) : c.isDigit :=
  Nat.isDigit_of_mem_toDigits (by decide) (by decide) h

lemma isSome_of_mem (h : c ∈ Nat.toDigits 10 n) : (digitValue? c).isSome :=
  isSome_digitValue?.mpr (isDigit_of_mem h)

/-- The digits of a number do not begin with a sign. -/
lemma toDigits_ne_minus (n : Nat) (cs : List Char) : Nat.toDigits 10 n ≠ '-' :: cs := fun h =>
  absurd (isDigit_of_mem (h ▸ List.mem_cons_self)) (by decide)

lemma toDigits_inj {m n : Nat} : Nat.toDigits 10 m = Nat.toDigits 10 n ↔ m = n := by
  refine ⟨fun h => ?_, fun h => h ▸ rfl⟩
  rw [← Nat.ofDigitChars_toDigits (b := 10) (n := m) (by decide) (by decide), h,
    Nat.ofDigitChars_toDigits (by decide) (by decide)]

/-- Digits behind a number that is not zero go on with it. -/
lemma digits?_eq_some {value : Nat} (hvalue : 0 < value) :
    digits? value cs = some n ↔ Nat.toDigits 10 n = Nat.toDigits 10 value ++ cs := by
  induction cs generalizing value with
  | nil =>
      rw [digits?, Option.some.injEq, List.append_nil, toDigits_inj, eq_comm]
  | cons c cs ih =>
      cases hc : digitValue? c with
      | none =>
          rw [digits?, hc, Option.bind_none]
          refine iff_of_false (by simp) fun h => ?_
          have hsome := isSome_of_mem (h ▸ List.mem_append_right _ List.mem_cons_self)
          rw [hc] at hsome
          cases hsome
      | some d =>
          obtain ⟨hd, rfl⟩ := digitValue?_eq_some hc
          rw [digits?, hc, Option.bind_some, ih (by omega),
            ← Nat.toDigits_append_toDigits (by decide) hvalue hd, Nat.toDigits_of_lt_base hd,
            List.append_assoc, List.singleton_append]

/-- The first digit of a number is no zero, unless the number is zero. -/
lemma toDigits_eq_cons (hn : 0 < n) :
    ∃ c ds, Nat.toDigits 10 n = c :: ds ∧ c ≠ '0' ∧ c.isDigit := by
  induction n using Nat.strong_induction_on with
  | _ n ih =>
    by_cases hless : n < 10
    · have hdigit : ∀ d < 10, 0 < d → Nat.digitChar d ≠ '0' ∧ (Nat.digitChar d).isDigit := by
        decide
      exact ⟨_, [], Nat.toDigits_of_lt_base hless, hdigit n hless hn⟩
    · obtain ⟨c, ds, htenth, hc⟩ := ih (n / 10) (by omega) (by omega)
      refine ⟨c, ds ++ [Nat.digitChar (n % 10)], ?_, hc⟩
      rw [Nat.toDigits_of_base_le (by decide) (by omega), htenth, List.cons_append]

/-- A number is written with its own digits alone. -/
lemma natural?_eq_some : natural? cs = some n ↔ cs = Nat.toDigits 10 n := by
  -- a zero in front stands alone; any other digit begins the number
  by_cases hzero : cs.head? = some '0'
  · obtain ⟨ds, rfl⟩ := List.head?_eq_some_iff.mp hzero
    cases ds with
    | nil =>
        rw [natural?, Option.some.injEq, ← Nat.toDigits_zero 10, toDigits_inj]
    | cons d ds =>
        refine iff_of_false (by simp [natural?]) fun h => ?_
        rcases n.eq_zero_or_pos with rfl | hn
        · simp at h
        · obtain ⟨c, ds', hdigits, hc, -⟩ := toDigits_eq_cons hn
          exact hc (List.cons.inj (h.trans hdigits)).1.symm
  · cases cs with
    | nil => exact iff_of_false (by simp [natural?]) fun h => Nat.toDigits_ne_nil h.symm
    | cons c cs =>
        have hne : c ≠ '0' := fun h => hzero (by rw [h, List.head?_cons])
        have hread : natural? (c :: cs) = digits? 0 (c :: cs) := by
          rw [natural?]
          · simp
          · simpa using fun h => absurd h hne
          · simpa using fun h => absurd h hne
        rw [hread, digits?, Nat.mul_zero]
        cases hc : digitValue? c with
        | none =>
            rw [Option.bind_none]
            refine iff_of_false (by simp) fun h => ?_
            have hsome := isSome_of_mem (h ▸ List.mem_cons_self)
            rw [hc] at hsome
            cases hsome
        | some d =>
            obtain ⟨hd, rfl⟩ := digitValue?_eq_some hc
            have hpos : 0 < d := Nat.pos_of_ne_zero fun h => hne (h ▸ rfl)
            rw [Option.bind_some, Nat.zero_add, digits?_eq_some hpos, Nat.toDigits_of_lt_base hd,
              List.singleton_append, eq_comm]

/-- The integer that digits write, with a minus sign in front of them if there is one. -/
inductive Plain : List Char → Int → Prop
  | natural (n : Nat) : Plain (Nat.toDigits 10 n) n
  | negative (n : Nat) : Plain ('-' :: Nat.toDigits 10 n) (-n)

lemma plain?_eq_some : plain? cs = some i ↔ Plain cs i := by
  constructor
  · intro h
    rw [plain?.eq_def] at h
    split at h
    · obtain ⟨n, hn, rfl⟩ := Option.map_eq_some_iff.mp h
      rw [natural?_eq_some.mp hn]
      exact .negative n
    · obtain ⟨n, hn, rfl⟩ := Option.map_eq_some_iff.mp h
      rw [natural?_eq_some.mp hn]
      exact .natural n
  · rintro (n | n)
    · rw [plain?, natural?_eq_some.mpr rfl, Option.map_some]
      exact toDigits_ne_minus n
    · rw [plain?, natural?_eq_some.mpr rfl, Option.map_some]

/-! ### Low lines -/

lemma Lined.ne_nil (h : Lined cs ds) : cs ≠ [] := by
  cases h <;> exact List.cons_ne_nil _ _

lemma Lined.mem (h : Lined cs ds) : ∀ c ∈ cs, c = '_' ∨ c ∈ ds := by
  induction h with
  | last c => simp
  | next c h ih =>
      rw [List.forall_mem_cons]
      exact ⟨.inr List.mem_cons_self, fun d hd => (ih d hd).imp_right (List.mem_cons_of_mem c)⟩
  | line c h ih =>
      rw [List.forall_mem_cons, List.forall_mem_cons]
      exact ⟨.inr List.mem_cons_self, .inl rfl,
        fun d hd => (ih d hd).imp_right (List.mem_cons_of_mem c)⟩

lemma areApart_iff : areApart cs = true ↔
    cs.head? ≠ some '_' ∧ cs.getLast? ≠ some '_' ∧ ∀ p ∈ cs.zip cs.tail, p ≠ ('_', '_') := by
  simp only [areApart, Bool.and_eq_true, bne_iff_ne, List.all_eq_true, and_assoc]

lemma areApart_cons_cons {d : Char} (hc : c ≠ '_') (hd : d ≠ '_') :
    areApart (c :: d :: cs) = true ↔ areApart (d :: cs) = true := by
  simp [areApart_iff, hc, hd]

lemma areApart_cons_line (hc : c ≠ '_') :
    areApart (c :: '_' :: cs) = true ↔ cs ≠ [] ∧ areApart cs = true := by
  cases cs with
  | nil => simp [areApart_iff]
  | cons d cs =>
      simp only [areApart_iff, List.head?_cons, List.getLast?_cons_cons, List.tail_cons,
        List.zip_cons_cons, List.forall_mem_cons, ne_eq, Option.some.injEq, Prod.mk.injEq, hc]
      simp [and_left_comm]

lemma areApart_of_not_mem (h : '_' ∉ cs) : areApart cs = true := by
  rw [areApart_iff]
  refine ⟨fun hhead => h (List.mem_of_head? hhead), fun hlast => h (List.mem_of_getLast? hlast), ?_⟩
  rintro p hp rfl
  exact h (List.of_mem_zip hp).1

lemma lined_filter : ∀ {cs : List Char}, cs ≠ [] → areApart cs = true →
    Lined cs (cs.filter (· != '_'))
  | [c], _, h => by
      have hc : c ≠ '_' := by simpa [areApart_iff] using h
      simpa [hc] using Lined.last c
  | c :: d :: cs, _, h => by
      have hc : c ≠ '_' := by simpa using (areApart_iff.mp h).1
      by_cases hd : d = '_'
      · subst hd
        obtain ⟨hne, hrest⟩ := (areApart_cons_line hc).mp h
        simpa [hc] using Lined.line c (lined_filter hne hrest)
      · have hrest := lined_filter (List.cons_ne_nil d cs) ((areApart_cons_cons hc hd).mp h)
        simpa [hc] using Lined.next c hrest

lemma Lined.areApart (h : Lined cs ds) (hds : '_' ∉ ds) :
    areApart cs = true ∧ cs.filter (· != '_') = ds := by
  induction h with
  | last c =>
      have hc : c ≠ '_' := by simpa [eq_comm] using hds
      simp [areApart_iff, hc]
  | @next c cs ds h ih =>
      obtain ⟨hc, hrest⟩ := not_or.mp (mt List.mem_cons.mpr hds)
      obtain ⟨hapart, hfilter⟩ := ih hrest
      refine ⟨?_, by simp [Ne.symm hc, hfilter]⟩
      cases h <;> exact (areApart_cons_cons (Ne.symm hc) (by grind)).mpr hapart
  | line c h ih =>
      obtain ⟨hc, hrest⟩ := not_or.mp (mt List.mem_cons.mpr hds)
      obtain ⟨hapart, hfilter⟩ := ih hrest
      exact ⟨(areApart_cons_line (Ne.symm hc)).mpr ⟨h.ne_nil, hapart⟩,
        by simp [Ne.symm hc, hfilter]⟩

/-- Low lines that stand one at a time between digits are taken away. -/
lemma withoutLines_eq_iff (hds : '_' ∉ ds) (hne : ds ≠ []) :
    withoutLines cs = ds ↔ Lined cs ds := by
  rw [withoutLines]
  constructor
  · intro h
    by_cases hapart : areApart cs = true
    · rw [if_pos hapart] at h
      subst h
      refine lined_filter ?_ hapart
      rintro rfl
      exact hne rfl
    · rw [if_neg hapart] at h
      exact absurd (areApart_of_not_mem (h ▸ hds)) hapart
  · intro h
    obtain ⟨hapart, hfilter⟩ := h.areApart hds
    rw [if_pos hapart, hfilter]

/-! ### Fractions -/

/-- A point with zeros behind it is taken away. -/
lemma withoutFraction_append (hbody : '.' ∉ body) (hfraction : IsFraction fraction) :
    withoutFraction (body ++ fraction) = body := by
  have hkeep : ∀ c ∈ body, (c != '.') = true := fun c hc =>
    bne_iff_ne.mpr fun h => hbody (h ▸ hc)
  rw [withoutFraction, List.span_eq_takeWhile_dropWhile, List.takeWhile_append_of_pos hkeep,
    List.dropWhile_append_of_pos hkeep]
  rcases hfraction with rfl | ⟨k, rfl⟩
  · simp
  · simp

/-- What is taken away is a point with zeros behind it. -/
lemma exists_fraction (cs : List Char) :
    ∃ fraction, IsFraction fraction ∧ cs = withoutFraction cs ++ fraction := by
  rw [withoutFraction, List.span_eq_takeWhile_dropWhile]
  split
  · next whole zeros h =>
    obtain ⟨rfl, hrest⟩ := Prod.mk.inj h
    split_ifs with hzeros
    · obtain ⟨hne, hall⟩ := Bool.and_eq_true_iff.mp hzeros
      refine ⟨'.' :: zeros, .inr ⟨zeros.length - 1, ?_⟩, ?_⟩
      · have hlength : zeros.length - 1 + 1 = zeros.length := by
          have hpos := List.length_pos_iff.mpr (by simpa using hne)
          omega
        rw [hlength, ← List.eq_replicate_of_mem (by simpa using hall)]
      · rw [← hrest, List.takeWhile_append_dropWhile]
    · exact ⟨[], .inl rfl, (List.append_nil cs).symm⟩
  · exact ⟨[], .inl rfl, (List.append_nil cs).symm⟩

/-! ### Zeros -/

lemma ne_of_isDigit (h : c.isDigit) {d : Char} (hd : d.isDigit = false) : c ≠ d := by
  rintro rfl
  rw [hd] at h
  cases h

/-- Where the zeros in front of a number end: at its last zero, or at the first other digit. -/
inductive EndsZeros : List Char → Prop
  | zero : EndsZeros ['0']
  | point (cs : List Char) : EndsZeros ('0' :: '.' :: cs)
  | minus (cs : List Char) : EndsZeros ('-' :: cs)
  | digit {c : Char} (cs : List Char) : c ≠ '0' → c.isDigit → EndsZeros (c :: cs)

lemma afterZeros_of_ends (h : EndsZeros cs) (last : Char) {zs : List Char}
    (hzs : ∀ c ∈ zs, c = '0' ∨ c = '_') : afterZeros last (zs ++ cs) = some cs := by
  induction zs generalizing last with
  | nil =>
      rw [List.nil_append]
      cases h with
      | zero => rfl
      | point cs => rfl
      | minus cs => rfl
      | @digit c cs hne hc =>
          have hline : c ≠ '_' := ne_of_isDigit hc (by decide)
          rw [afterZeros, if_neg (by simp [hne, hline]),
            if_pos (.inr (isSome_digitValue?.mpr hc))]
          exact ne_of_isDigit hc (by decide)
  | cons z zs ih =>
      obtain ⟨hz, hzs⟩ := List.forall_mem_cons.mp hzs
      rw [List.cons_append, afterZeros, if_pos hz]
      · exact ih z hzs
      · rintro rfl
        simp at hz

/-- Zeros in front of a number are taken away. -/
lemma withoutZeros?_of_ends (h : EndsZeros cs) (hzeros : AreZeros zeros)
    (hminus : zeros = [] → cs.head? ≠ some '-') : withoutZeros? (zeros ++ cs) = some cs := by
  rcases hzeros with rfl | ⟨zs, rfl, hzs⟩
  · rw [List.nil_append]
    cases h with
    | zero => rfl
    | point cs => rfl
    | minus cs => exact absurd rfl (hminus rfl)
    | @digit c cs hne hc =>
        rw [withoutZeros?, if_pos (isSome_digitValue?.mpr hc)]
        exact hne
  · rw [List.cons_append, withoutZeros?]
    exact afterZeros_of_ends h '0' hzs

lemma exists_zeros_of_afterZeros {last : Char} (h : afterZeros last cs = some ds) :
    ∃ zs, last :: cs = zs ++ ds ∧ ∀ c ∈ zs, c = last ∨ c = '0' ∨ c = '_' := by
  fun_induction afterZeros last cs with
  | case1 last =>
      cases h
      exact ⟨[], rfl, by simp⟩
  | case2 last cs =>
      cases h
      exact ⟨[], rfl, by simp⟩
  | case3 last c cs hc hzero ih =>
      obtain ⟨zs, hcs, hzs⟩ := ih h
      refine ⟨last :: zs, by rw [hcs, List.cons_append], ?_⟩
      rw [List.forall_mem_cons]
      exact ⟨.inl rfl, fun z hz => .inr ((hzs z hz).elim (fun h => h ▸ hzero) id)⟩
  | case4 last c cs hc hzero hother =>
      cases h
      exact ⟨[last], rfl, by simp⟩
  | case5 => cases h

lemma eq_point_of_afterZeros {last d : Char} (h : afterZeros last cs = some ('_' :: d :: ds)) :
    d = '.' := by
  fun_induction afterZeros last cs with
  | case1 last => cases h
  | case2 last cs =>
      cases h
      rfl
  | case3 last c cs hc hzero ih => exact ih h
  | case4 last c cs hc hzero hother =>
      cases h
      simp at hzero
  | case5 => cases h

/-- What is taken away in front of a number is zeros. -/
lemma exists_zeros (h : withoutZeros? cs = some ds) :
    ∃ zeros, cs = zeros ++ ds ∧ AreZeros zeros ∧ (zeros = [] → ds.head? ≠ some '-') := by
  rw [withoutZeros?.eq_def] at h
  split at h
  · cases h
  · obtain ⟨zs, hcs, hzs⟩ := exists_zeros_of_afterZeros h
    refine ⟨zs, hcs, ?_, ?_⟩
    · cases zs with
      | nil => exact .inl rfl
      | cons z zs =>
          obtain ⟨rfl, -⟩ := List.cons.inj hcs
          exact .inr ⟨zs, rfl, fun c hc => by simpa using hzs c (List.mem_cons_of_mem _ hc)⟩
    · rintro rfl
      rw [← List.nil_append ds, ← hcs]
      simp
  · next c cs _ =>
    split_ifs at h with hdigit
    cases h
    refine ⟨[], rfl, .inl rfl, fun _ hminus => ?_⟩
    cases hminus
    exact absurd hdigit (by decide)

/-- Behind zeros a low line stands at the end or in front of a point alone. -/
lemma eq_point_of_withoutZeros? {d : Char} (h : withoutZeros? cs = some ('_' :: d :: ds)) :
    d = '.' := by
  rw [withoutZeros?.eq_def] at h
  split at h
  · cases h
  · exact eq_point_of_afterZeros h
  · split_ifs at h with hdigit
    cases h
    exact absurd hdigit (by decide)

lemma Lined.cons_iff {d : Char} :
    Lined cs (d :: ds) ↔ ∃ rest, cs = d :: rest ∧
      (rest = [] ∧ ds = [] ∨ Lined rest ds ∨ ∃ rest', rest = '_' :: rest' ∧ Lined rest' ds) := by
  constructor
  · rintro (_ | ⟨_, h⟩ | ⟨_, h⟩)
    · exact ⟨[], rfl, .inl ⟨rfl, rfl⟩⟩
    · exact ⟨_, rfl, .inr (.inl h)⟩
    · exact ⟨_, rfl, .inr (.inr ⟨_, rfl, h⟩)⟩
  · rintro ⟨rest, rfl, ⟨rfl, rfl⟩ | h | ⟨rest', rfl, h⟩⟩
    · exact .last d
    · exact .next d h
    · exact .line d h

/-- The digits of a number end the zeros in front of it. -/
lemma endsZeros_of_lined (h : Lined body (Nat.toDigits 10 n)) (hfraction : IsFraction fraction) :
    EndsZeros (body ++ fraction) := by
  rcases n.eq_zero_or_pos with rfl | hn
  · obtain ⟨rest, rfl, ⟨rfl, -⟩ | h | ⟨_, -, h⟩⟩ := Lined.cons_iff.mp (Nat.toDigits_zero 10 ▸ h)
    · rcases hfraction with rfl | ⟨k, rfl⟩
      · exact .zero
      · exact .point _
    · cases h
    · cases h
  · obtain ⟨c, ds, hdigits, hc, hdigit⟩ := toDigits_eq_cons hn
    obtain ⟨rest, rfl, -⟩ := Lined.cons_iff.mp (hdigits ▸ h)
    exact .digit _ hc hdigit

/-! ### Digits with a fraction -/

lemma Plain.mem {w : List Char} (h : Plain w i) (hc : c ∈ w) : c = '-' ∨ c.isDigit := by
  cases h with
  | natural n => exact .inr (isDigit_of_mem hc)
  | negative n => exact (List.mem_cons.mp hc).imp_right isDigit_of_mem

lemma Plain.ne_nil {w : List Char} (h : Plain w i) : w ≠ [] := by
  cases h with
  | natural n => exact Nat.toDigits_ne_nil
  | negative n => exact List.cons_ne_nil _ _

lemma Plain.afterMinus {w : List Char} (h : Plain w i) :
    afterMinus w = Nat.toDigits 10 i.natAbs := by
  cases h with
  | natural n =>
      rw [afterMinus, Int.natAbs_natCast]
      exact toDigits_ne_minus n
  | negative n => rw [Integer.afterMinus, Int.natAbs_neg, Int.natAbs_natCast]

lemma plainWithin?_eq_some {w : List Char} :
    plainWithin? w = some i ↔ Plain w i ∧ (Nat.toDigits 10 i.natAbs).length ≤ 4300 := by
  rw [plainWithin?]
  constructor
  · intro h
    split_ifs at h with hlength
    have hplain := plain?_eq_some.mp h
    exact ⟨hplain, hplain.afterMinus ▸ hlength⟩
  · rintro ⟨hplain, hlength⟩
    rw [if_pos (hplain.afterMinus ▸ hlength), plain?_eq_some.mpr hplain]

/-- What stands behind a sign and zeros is an integer where it is digits with single low lines
between them and a fraction of zeros. -/
lemma plainWithin?_lined :
    plainWithin? (withoutLines (withoutFraction cs)) = some i ↔
      ∃ body fraction w, cs = body ++ fraction ∧ IsFraction fraction ∧ Lined body w ∧
        Plain w i ∧ (Nat.toDigits 10 i.natAbs).length ≤ 4300 := by
  have hkept : ∀ {w : List Char}, Plain w i → '_' ∉ w ∧ '.' ∉ w := fun h =>
    ⟨fun hc => by simpa using h.mem hc, fun hc => by simpa using h.mem hc⟩
  rw [plainWithin?_eq_some]
  constructor
  · rintro ⟨hplain, hbound⟩
    obtain ⟨fraction, hfraction, hcs⟩ := exists_fraction cs
    exact ⟨_, fraction, _, hcs, hfraction,
      (withoutLines_eq_iff (hkept hplain).1 hplain.ne_nil).mp rfl, hplain, hbound⟩
  · rintro ⟨body, fraction, w, rfl, hfraction, hlined, hplain, hbound⟩
    have hpoint : '.' ∉ body := fun hc =>
      (hlined.mem _ hc).elim (by decide) (hkept hplain).2
    rw [withoutFraction_append hpoint hfraction,
      (withoutLines_eq_iff (hkept hplain).1 hplain.ne_nil).mpr hlined]
    exact ⟨hplain, hbound⟩

/-! ### Signs -/

lemma withoutSign?_append {sign : List Char} (hsign : sign = [] ∨ sign = ['+'])
    (hhead : cs.head?.any Char.isDigit) : withoutSign? (sign ++ cs) = withoutZeros? cs := by
  rcases hsign with rfl | rfl
  · rw [List.nil_append, withoutSign?]
    · rintro ds rfl
      simp at hhead
    · rintro ds rfl
      simp at hhead
  · rfl

/-- The digits of a number begin with a digit. -/
lemma Lined.exists_cons (h : Lined body (Nat.toDigits 10 n)) :
    ∃ c rest, body = c :: rest ∧ c.isDigit := by
  obtain ⟨c, ds, hdigits⟩ := List.exists_cons_of_ne_nil (Nat.toDigits_ne_nil (n := n) (b := 10))
  obtain ⟨rest, hbody, -⟩ := Lined.cons_iff.mp (hdigits ▸ h)
  exact ⟨c, rest, hbody, isDigit_of_mem (hdigits ▸ List.mem_cons_self)⟩

lemma head_lined (h : Lined body (Nat.toDigits 10 n)) (rest : List Char) :
    (body ++ rest).head?.any Char.isDigit := by
  obtain ⟨c, _, rfl, hdigit⟩ := h.exists_cons
  simpa using hdigit

lemma AreZeros.head (h : AreZeros zeros) (hne : zeros ≠ []) :
    (zeros ++ cs).head?.any Char.isDigit := by
  rcases h with rfl | ⟨zs, rfl, -⟩
  · exact absurd rfl hne
  · rfl

lemma AreZeros.head_digits (h : AreZeros zeros) (hlined : Lined body (Nat.toDigits 10 n)) :
    (zeros ++ (body ++ fraction)).head?.any Char.isDigit := by
  by_cases hnil : zeros = []
  · rw [hnil, List.nil_append]
    exact head_lined hlined fraction
  · exact h.head hnil

lemma withoutZeros?_digits (hzeros : AreZeros zeros) (hlined : Lined body (Nat.toDigits 10 n))
    (hfraction : IsFraction fraction) :
    withoutZeros? (zeros ++ (body ++ fraction)) = some (body ++ fraction) := by
  refine withoutZeros?_of_ends (endsZeros_of_lined hlined hfraction) hzeros fun _ hminus => ?_
  have hhead := head_lined hlined fraction
  rw [hminus] at hhead
  simp at hhead

/-- An integer behind a plus sign or none. -/
lemma Writes.of_plain {sign w : List Char} (hsign : sign = [] ∨ sign = ['+'])
    (hzeros : AreZeros zeros) (hminus : zeros = [] → (body ++ fraction).head? ≠ some '-')
    (hlined : Lined body w) (hplain : Plain w i) (hfraction : IsFraction fraction)
    (hlength : (Nat.toDigits 10 i.natAbs).length ≤ 4300) :
    Writes (sign ++ (zeros ++ (body ++ fraction))) i := by
  cases hplain with
  | natural n => exact .natural n hsign hzeros hlined hfraction hlength
  | negative n =>
      refine .behindZeros n hsign hzeros (fun hnil => hminus hnil ?_) hlined hfraction ?_
      · obtain ⟨rest, rfl, -⟩ := Lined.cons_iff.mp hlined
        rfl
      · rwa [Int.natAbs_neg, Int.natAbs_natCast] at hlength

/-- **A text without blanks at its ends is read** as the integer it writes. -/
lemma read_eq_some :
    ((withoutSign? cs).bind fun ds => plainWithin? (withoutLines (withoutFraction ds))) = some i ↔
      Writes cs i := by
  rw [Option.bind_eq_some_iff]
  simp only [plainWithin?_lined]
  constructor
  -- a plus sign, a minus sign or none is taken away; a minus sign that is left stands behind zeros
  · rintro ⟨ds, hsign, body, fraction, w, rfl, hfraction, hlined, hplain, hlength⟩
    rw [withoutSign?.eq_def] at hsign
    split at hsign
    · next cs =>
      obtain ⟨zeros, rfl, hzeros, hminus⟩ := exists_zeros hsign
      exact .of_plain (.inr rfl) hzeros hminus hlined hplain hfraction hlength
    · next cs =>
      obtain ⟨rest, hrest, hcons⟩ := Option.map_eq_some_iff.mp hsign
      obtain ⟨zeros, rfl, hzeros, hminus⟩ := exists_zeros hrest
      cases hplain with
      | natural n =>
          have hhead := head_lined hlined fraction
          simp [← hcons] at hhead
      | negative n =>
          rw [Int.natAbs_neg, Int.natAbs_natCast] at hlength
          obtain ⟨body, rfl, ⟨-, hnil⟩ | hbody | ⟨body, rfl, hbody⟩⟩ := Lined.cons_iff.mp hlined
          · exact absurd hnil Nat.toDigits_ne_nil
          · obtain ⟨-, rfl⟩ := List.cons.inj hcons
            exact .negative n hzeros hbody hfraction hlength
          · -- a low line behind the sign would have to stand in front of a point
            obtain ⟨-, rfl⟩ := List.cons.inj hcons
            obtain ⟨c, _, rfl, hdigit⟩ := hbody.exists_cons
            exact absurd (eq_point_of_withoutZeros? hrest) (ne_of_isDigit hdigit (by decide))
    · obtain ⟨zeros, rfl, hzeros, hminus⟩ := exists_zeros hsign
      exact .of_plain (.inl rfl) hzeros hminus hlined hplain hfraction hlength
  · rintro (⟨n, hsign, hzeros, hlined, hfraction, hlength⟩ |
      ⟨n, hzeros, hlined, hfraction, hlength⟩ |
      ⟨n, hsign, hzeros, hne, hlined, hfraction, hlength⟩)
    · refine ⟨_, ?_, _, _, _, rfl, hfraction, hlined, .natural n, hlength⟩
      rw [withoutSign?_append hsign (hzeros.head_digits hlined),
        withoutZeros?_digits hzeros hlined hfraction]
    · refine ⟨_, ?_, '-' :: _, _, _, rfl, hfraction, .next '-' hlined, .negative n, ?_⟩
      · rw [withoutSign?, withoutZeros?_digits hzeros hlined hfraction, Option.map_some,
          List.cons_append]
      · rwa [Int.natAbs_neg, Int.natAbs_natCast]
    · refine ⟨_, ?_, _, _, _, rfl, hfraction, hlined, .negative n, ?_⟩
      · obtain ⟨_, rfl, -⟩ := Lined.cons_iff.mp hlined
        rw [withoutSign?_append hsign (hzeros.head hne)]
        exact withoutZeros?_of_ends (.minus _) hzeros fun hnil => absurd hnil hne
      · rwa [Int.natAbs_neg, Int.natAbs_natCast]

/-! ### Blanks -/

/-- The characters of a numeral. -/
lemma Writes.mem (h : Writes cs i) : ∀ c ∈ cs, c.isDigit ∨ c ∈ ['+', '-', '_', '.'] := by
  have hsigns : ∀ {sign : List Char}, sign = [] ∨ sign = ['+'] →
      ∀ c ∈ sign, c.isDigit ∨ c ∈ ['+', '-', '_', '.'] := by
    rintro sign (rfl | rfl) <;> simp
  have hparts : ∀ {zeros body fraction w : List Char} {i : Int}, AreZeros zeros →
      Lined body w → Plain w i → IsFraction fraction →
      ∀ c ∈ zeros ++ (body ++ fraction), c.isDigit ∨ c ∈ ['+', '-', '_', '.'] := by
    intro zeros body fraction w i hzeros hlined hplain hfraction c hc
    rcases List.mem_append.mp hc with hc | hc
    · rcases hzeros with rfl | ⟨zs, rfl, hzs⟩
      · cases hc
      · rcases List.mem_cons.mp hc with rfl | hc
        · exact .inl rfl
        · rcases hzs c hc with rfl | rfl <;> simp
    · rcases List.mem_append.mp hc with hc | hc
      · rcases hlined.mem c hc with rfl | hc
        · simp
        · exact (hplain.mem hc).symm.imp_right fun h => by simp [h]
      · rcases hfraction with rfl | ⟨k, rfl⟩
        · cases hc
        · rcases List.mem_cons.mp hc with rfl | hc
          · simp
          · rw [List.eq_of_mem_replicate hc]
            exact .inl rfl
  cases h with
  | natural n hsign hzeros hlined hfraction =>
      rw [List.forall_mem_append]
      exact ⟨hsigns hsign, hparts hzeros hlined (.natural n) hfraction⟩
  | negative n hzeros hlined hfraction =>
      rw [List.forall_mem_cons]
      exact ⟨by simp, hparts hzeros hlined (.natural n) hfraction⟩
  | behindZeros n hsign hzeros hne hlined hfraction =>
      rw [List.forall_mem_append]
      exact ⟨hsigns hsign, hparts hzeros hlined (.negative n) hfraction⟩

lemma isDigit_of_isBlank (h : Text.isBlank c) : c.isDigit = false := by
  by_contra hdigit
  have hbounds : 48 ≤ c.toNat ∧ c.toNat ≤ 57 := by
    simpa [Char.isDigit, UInt32.le_iff_toNat_le] using hdigit
  simp only [Text.isBlank, Bool.or_eq_true, Bool.and_eq_true, decide_eq_true_eq, beq_iff_eq] at h
  omega

lemma Writes.not_isBlank (h : Writes cs i) : ∀ c ∈ cs, ¬ Text.isBlank c := by
  intro c hc
  rcases h.mem c hc with hdigit | hmark
  · intro hblank
    rw [isDigit_of_isBlank hblank] at hdigit
    cases hdigit
  · have hmarks : List.all ['+', '-', '_', '.'] (fun c => !Text.isBlank c) := by decide
    simpa using List.all_eq_true.mp hmarks c hmark

lemma Writes.ne_nil (h : Writes cs i) : cs ≠ [] := by
  cases h with
  | natural n hsign hzeros hlined => simp [hlined.ne_nil]
  | negative n hzeros hlined => simp
  | behindZeros n hsign hzeros hne => simp [hne]

/-- Characters of a class in front of others are dropped. -/
lemma dropWhile_append_kept {drop : Char → Bool} {before kept : List Char}
    (hbefore : ∀ c ∈ before, drop c) (hkept : ∀ c ∈ kept, ¬ drop c) (hne : kept ≠ [])
    (rest : List Char) : (before ++ (kept ++ rest)).dropWhile drop = kept ++ rest := by
  obtain ⟨c, cs, rfl⟩ := List.exists_cons_of_ne_nil hne
  rw [List.dropWhile_append_of_pos hbefore, List.cons_append,
    List.dropWhile_cons_of_neg (hkept c List.mem_cons_self)]

/-- Blanks at the ends of a text are taken away. -/
lemma trimChars_append {drop : Char → Bool} {before kept after : List Char}
    (hbefore : ∀ c ∈ before, drop c) (hafter : ∀ c ∈ after, drop c)
    (hkept : ∀ c ∈ kept, ¬ drop c) (hne : kept ≠ []) :
    Text.trimChars drop (before ++ (kept ++ after)) = kept := by
  rw [Text.trimChars, dropWhile_append_kept hbefore hkept hne, List.reverse_append,
    ← List.append_nil kept.reverse,
    dropWhile_append_kept (by simpa using hafter) (by simpa using hkept) (by simpa using hne),
    List.append_nil, List.reverse_reverse]

/-- What is taken away is blanks at the ends. -/
lemma exists_ends (drop : Char → Bool) (cs : List Char) :
    ∃ before after, cs = before ++ (Text.trimChars drop cs ++ after) ∧
      (∀ c ∈ before, drop c) ∧ ∀ c ∈ after, drop c :=
  ⟨cs.takeWhile drop, (cs.dropWhile drop).rtakeWhile drop,
    by rw [Text.trimChars, ← List.rdropWhile, List.rdropWhile_append_rtakeWhile,
      List.takeWhile_append_dropWhile],
    fun _ => List.mem_takeWhile_imp, fun _ => List.mem_rtakeWhile_imp⟩

/-- **A text is read** as the integer it writes. -/
lemma loose?_eq_some : loose? cs = some i ↔ IsNumeral cs i := by
  rw [loose?, read_eq_some]
  constructor
  · intro h
    obtain ⟨before, after, hcs, hbefore, hafter⟩ := exists_ends Text.isBlank cs
    exact ⟨before, _, after, hcs, hbefore, hafter, h⟩
  · rintro ⟨before, core, after, rfl, hbefore, hafter, h⟩
    rwa [trimChars_append hbefore hafter h.not_isBlank h.ne_nil]

/-! ### Length -/

/-- A number is no longer than its digits, whatever stands behind them. -/
lemma Lined.length_takeWhile_le (h : Lined cs ds) {rest : List Char}
    (hrest : ∀ c ∈ rest.head?, c.isDigit = false) :
    ((cs ++ rest).takeWhile fun c => (digitValue? c).isSome).length ≤ ds.length := by
  have hnone : (rest.takeWhile fun c => (digitValue? c).isSome) = [] := by
    cases rest with
    | nil => rfl
    | cons c rest =>
        rw [List.takeWhile_cons_of_neg]
        rw [isSome_digitValue?, hrest c rfl]
        exact Bool.false_ne_true
  induction h with
  | last c =>
      rw [List.singleton_append, List.takeWhile_cons, hnone]
      split_ifs <;> simp
  | next c h ih =>
      rw [List.cons_append, List.takeWhile_cons]
      split_ifs
      · simpa using ih
      · simp
  | line c h ih =>
      -- the digits end in front of the low line
      rw [List.cons_append, List.cons_append, List.takeWhile_cons,
        List.takeWhile_cons_of_neg (by decide)]
      split_ifs <;> simp

lemma leadingDigits_le (cs : List Char) :
    leadingDigits cs ≤ (cs.takeWhile fun c => (digitValue? c).isSome).length := by
  rw [leadingDigits.eq_def]
  split
  · exact Nat.zero_le _
  · exact le_rfl

lemma leadingDigits_eq_zero (h : ∀ c ∈ cs.head?, c = '0' ∨ c.isDigit = false) :
    leadingDigits cs = 0 := by
  cases cs with
  | nil => rfl
  | cons c cs =>
      rcases h c rfl with rfl | hc
      · rfl
      · refine Nat.le_zero.mp ((leadingDigits_le _).trans ?_)
        rw [List.takeWhile_cons_of_neg, List.length_nil]
        rw [isSome_digitValue?, hc]
        exact Bool.false_ne_true

lemma afterMinus_of_head (h : cs.head? ≠ some '-') : afterMinus cs = cs := by
  rw [afterMinus]
  rintro ds rfl
  exact h rfl

lemma leadingDigits_zeros_le (hzeros : AreZeros zeros) (hlined : Lined body (Nat.toDigits 10 n))
    (hlength : (Nat.toDigits 10 n).length ≤ 4300) {rest : List Char}
    (hrest : ∀ c ∈ rest.head?, c.isDigit = false) :
    leadingDigits (zeros ++ (body ++ rest)) ≤ longest := by
  rcases hzeros with rfl | ⟨zs, rfl, -⟩
  · exact ((leadingDigits_le _).trans (hlined.length_takeWhile_le hrest)).trans hlength
  · rw [List.cons_append, leadingDigits_eq_zero (by simp)]
    exact Nat.zero_le _

/-- No digit stands behind a numeral. -/
lemma IsFraction.head (h : IsFraction fraction) {after : List Char}
    (hafter : ∀ c ∈ after, Text.isBlank c) :
    ∀ c ∈ (fraction ++ after).head?, c.isDigit = false := by
  rcases h with rfl | ⟨k, rfl⟩
  · intro c hc
    exact isDigit_of_isBlank (hafter c (List.mem_of_head? hc))
  · rintro c hc
    cases hc
    rfl

lemma afterMinus_of_isDigit (h : cs.head?.any Char.isDigit) : afterMinus cs = cs := by
  refine afterMinus_of_head fun hminus => ?_
  rw [hminus] at h
  simp at h

/-- A text that writes an integer does not begin with one that is too long. -/
lemma beginsTooLong_of_isNumeral (h : IsNumeral cs i) : beginsTooLong cs = false := by
  obtain ⟨before, core, after, rfl, hbefore, hafter, h⟩ := h
  rw [beginsTooLong, decide_eq_false_iff_not, not_lt]
  -- a blank or a plus sign in front hides the digits, and so does a zero
  cases before with
  | cons b before =>
      have hb := hbefore b List.mem_cons_self
      have hne : b ≠ '-' := by
        rintro rfl
        exact absurd hb (by decide)
      have hdigit := isDigit_of_isBlank hb
      rw [afterMinus_of_head (by simpa using hne),
        leadingDigits_eq_zero (by simpa using .inr hdigit)]
      exact Nat.zero_le _
  | nil =>
      rw [List.nil_append]
      have hplus : ∀ cs, leadingDigits (afterMinus ('+' :: cs)) ≤ longest := fun cs => by
        rw [afterMinus_of_head (by simp), leadingDigits_eq_zero (by simp)]
        exact Nat.zero_le _
      cases h with
      | natural n hsign hzeros hlined hfraction hlength =>
          simp only [List.append_assoc]
          rcases hsign with rfl | rfl
          · rw [List.nil_append, afterMinus_of_isDigit (hzeros.head_digits hlined)]
            exact leadingDigits_zeros_le hzeros hlined hlength (hfraction.head hafter)
          · exact hplus _
      | negative n hzeros hlined hfraction hlength =>
          simp only [List.cons_append, List.append_assoc]
          exact leadingDigits_zeros_le hzeros hlined hlength (hfraction.head hafter)
      | behindZeros n hsign hzeros hne hlined hfraction hlength =>
          simp only [List.append_assoc]
          rcases hsign with rfl | rfl
          · obtain ⟨zs, rfl, -⟩ := hzeros.resolve_left hne
            exact Nat.zero_le _
          · exact hplus _

lemma length_le_of_plain (h : Plain cs i) (hlong : beginsTooLong cs = false) :
    (Nat.toDigits 10 i.natAbs).length ≤ 4300 := by
  rw [beginsTooLong, decide_eq_false_iff_not, not_lt, h.afterMinus] at hlong
  rcases i.natAbs.eq_zero_or_pos with hzero | hpos
  · rw [hzero]
    decide
  · obtain ⟨c, ds, hdigits, hc, -⟩ := toDigits_eq_cons hpos
    rw [leadingDigits, List.takeWhile_eq_self_iff.mpr fun c => isSome_of_mem] at hlong
    · exact hlong
    · rw [hdigits]
      rintro ds' h
      exact hc (List.cons.inj h).1

lemma lined_self : ∀ {cs : List Char}, cs ≠ [] → Lined cs cs
  | [c], _ => .last c
  | c :: d :: cs, _ => .next c (lined_self (List.cons_ne_nil d cs))

lemma isNumeral_of_plain (h : Plain cs i) (hlong : beginsTooLong cs = false) :
    IsNumeral cs i := by
  have hlength := length_le_of_plain h hlong
  refine ⟨[], cs, [], by simp, by simp, by simp, ?_⟩
  cases h with
  | natural n =>
      simpa using Writes.natural n (.inl rfl) (.inl rfl) (lined_self Nat.toDigits_ne_nil)
        (.inl rfl) hlength
  | negative n =>
      rw [Int.natAbs_neg] at hlength
      simpa using Writes.negative n (.inl rfl) (lined_self Nat.toDigits_ne_nil) (.inl rfl) hlength

/-- **The texts that are read as integers** are those that write one. -/
theorem ofText_ok {s : String} : ofText s = .ok i ↔ IsNumeral s.toList i := by
  rw [ofText]
  constructor
  · intro h
    split_ifs at h with hlong
    split at h
    · next j hread =>
      cases h
      rcases (Option.orElse_eq_some _ _ _).mp hread with hplain | ⟨-, hloose⟩
      · exact isNumeral_of_plain (plain?_eq_some.mp hplain) (by simpa using hlong)
      · exact loose?_eq_some.mp hloose
    · cases h
  · intro h
    have hlong := beginsTooLong_of_isNumeral h
    have hloose := loose?_eq_some.mpr h
    have hread : (plain? s.toList <|> loose? s.toList) = some i := by
      rw [Option.orElse_eq_some]
      cases hplain : plain? s.toList with
      | none => exact .inr ⟨rfl, hloose⟩
      | some j =>
          -- what is written plainly is read in the other way as well
          have hj := loose?_eq_some.mpr (isNumeral_of_plain (plain?_eq_some.mp hplain) hlong)
          exact .inl (hj.symm.trans hloose)
    rw [if_neg (by simp [hlong]), hread]

example : ofText " +00_4_2.00 " = .ok 42 := by decide

example : ofText "4__2" = .error .integerUnreadable := by decide

end KnownLogs.Schema.Integer
