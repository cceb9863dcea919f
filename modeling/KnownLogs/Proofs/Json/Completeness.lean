/-
Every text of a value is read as that value:

* `Reader.feed_blanks`: blanks between the parts of a text change nothing;
* `Reader.feed_spells`: each way to write a character inside quotes adds that character;
* `Reader.feed_int`: the digits of an integer, which ends in front of what cannot belong to it;
* `Reader.feed_firstItem`, `Reader.feed_firstMember`: the first part of a container is read as any
  later one;
* `Reader.isRead_of_isText`: **a part of a text is read as what it stands for**, by induction on
  the grammar;
* `Json.read?_of_isText`: **every text of a value within the limits is read as that value**.
-/
import Mathlib.Tactic.IntervalCases
import KnownLogs.Proofs.Json.Grammar

namespace KnownLogs.Json

namespace Reader

variable {limits : Limits} {waiting : List Frame} {r s : Reader} {c : Char} {v : Json}

/-! ### Blanks -/

lemma feed_cons (r : Reader) (c : Char) (cs : List Char) :
    r.feed limits (c :: cs) = (r.step limits c).bind fun s => s.feed limits cs :=
  List.foldlM_cons

lemma feed_of_step (h : r.step limits c = some s) (cs : List Char) :
    r.feed limits (c :: cs) = s.feed limits cs := by
  rw [feed_cons, h, Option.bind_some]

/-- Whether blanks may come next. -/
def IsBetween (r : Reader) : Prop :=
  match r.next with
  | .text _ _ _ | .number _ | .word _ _ => False
  | _ => True

lemma isBetween_value (waiting : List Frame) : IsBetween ⟨waiting, .value⟩ := trivial

lemma isBetween_firstItem (waiting : List Frame) (container : Open) :
    IsBetween ⟨waiting, .firstItem container⟩ := trivial

lemma isBetween_name (waiting : List Frame) (members : List (String × Json)) :
    IsBetween ⟨waiting, .name members⟩ := trivial

lemma isBetween_colon (waiting : List Frame) (members : List (String × Json)) (name : String) :
    IsBetween ⟨waiting, .colon members name⟩ := trivial

lemma isBetween_give (waiting : List Frame) (v : Json) : (give waiting v).IsBetween := by
  cases waiting with
  | nil => trivial
  | cons f rest => cases f <;> trivial

lemma step_of_blank (hr : r.IsBetween) (hc : isBlank c) : r.step limits c = some r := by
  obtain ⟨waiting, next⟩ := r
  cases next with
  | value => exact if_pos hc
  | firstItem container => exact if_pos hc
  | comma container => exact if_pos hc
  | name members => exact if_pos hc
  | colon members name => exact if_pos hc
  | nothing v => exact if_pos hc
  | text use w e => exact hr.elim
  | number n => exact hr.elim
  | word rest v => exact hr.elim

/-- **Blanks change nothing.** -/
lemma feed_blanks (hr : r.IsBetween) {bs : List Char} (hbs : AreBlanks bs) (cs : List Char) :
    r.feed limits (bs ++ cs) = r.feed limits cs := by
  induction bs with
  | nil => rfl
  | cons b bs ih =>
      obtain ⟨hb, hbs⟩ := List.forall_mem_cons.mp hbs
      rw [List.cons_append, feed_of_step (step_of_blank hr hb), ih hbs]

/-! ### Texts in quotes -/

variable {use : TextUse} {w : Written} {e : Escape}

/-- A character inside quotes that does not close them. -/
lemma step_text (h : c = '"' → closeText? limits w e = none) :
    step limits ⟨waiting, .text use w e⟩ c =
      (stepText limits w c e).map fun p => ⟨waiting, .text use p.1 p.2⟩ := by
  have hclose : (if c = '"' then closeText? limits w e else none) = none := by
    split_ifs with hc
    · exact h hc
    · rfl
  simp only [step, hclose]

/-- The digits of a number inside an escape. -/
lemma feed_unit {digits : List Char} {n : Nat} (h : IsUnit digits n) (high : Option Nat)
    (cs : List Char) :
    feed limits ⟨waiting, .text use w (.unit 4 0 high)⟩ (digits ++ cs) =
      (endUnit limits w n high).bind fun p => feed limits ⟨waiting, .text use p.1 p.2⟩ cs := by
  have hdigit : ∀ {d : Char} {x : Nat} (left value : Nat), Hex.value? d = some x →
      stepText limits w d (.unit left value high) =
        if left ≤ 1 then endUnit limits w (16 * value + x) high
        else some (w, .unit (left - 1) (16 * value + x) high) := by
    intro d x left value hd
    rw [stepText, hd]
  cases h with
  | digits ha hb hc hd =>
      rw [List.cons_append, feed_of_step (by rw [step_text fun _ => rfl, hdigit 4 0 ha]; rfl),
        List.cons_append, feed_of_step (by rw [step_text fun _ => rfl, hdigit 3 _ hb]; rfl),
        List.cons_append, feed_of_step (by rw [step_text fun _ => rfl, hdigit 2 _ hc]; rfl),
        List.cons_append, feed_cons, step_text fun _ => rfl, hdigit 1 _ hd, if_pos (Nat.le_refl 1),
        Option.bind_map, Nat.mul_zero, Nat.zero_add]
      rfl

lemma shortEscape?_of_mem : ∀ p ∈ escapes, shortEscape? p.1 = some p.2 ∧ p.1 ≠ 'u' := by
  decide

/-- The number of a character is none of the halves. -/
lemma endSingle_toNat (w : Written) (c : Char) :
    endSingle limits w c.toNat = some (w.add c, .plain) := by
  have hvalid : c.toNat < 0xD800 ∨ 0xDFFF < c.toNat ∧ c.toNat < 0x110000 := c.valid
  have hfirst : isFirstHalf c.toNat = false := by
    simp only [isFirstHalf, Bool.and_eq_false_iff, decide_eq_false_iff_not]
    omega
  have hsecond : isSecondHalf c.toNat = false := by
    simp only [isSecondHalf, Bool.and_eq_false_iff, decide_eq_false_iff_not]
    omega
  simp [endSingle, hfirst, hsecond, Char.ofNat_toNat]

/-- The first half of a character waits for the second one. -/
lemma endUnit_first (w : Written) {n : Nat} (hn : n < 0x400) :
    endUnit limits w (0xD800 + n) none = some (w, .backslash (0xD800 + n)) := by
  have hfirst : isFirstHalf (0xD800 + n) = true := by
    simp only [isFirstHalf, Bool.and_eq_true, decide_eq_true_eq]
    omega
  simp [endUnit, endSingle, hfirst]

/-- Two halves are the character that they were made of. -/
lemma endUnit_second (w : Written) {c : Char} (hc : 0x10000 ≤ c.toNat) :
    endUnit limits w (0xDC00 + (c.toNat - 0x10000) % 0x400)
        (some (0xD800 + (c.toNat - 0x10000) / 0x400)) = some (w.add c, .plain) := by
  have hsecond : isSecondHalf (0xDC00 + (c.toNat - 0x10000) % 0x400) = true := by
    simp only [isSecondHalf, Bool.and_eq_true, decide_eq_true_eq]
    omega
  have hnumber : 0x10000 + (0xD800 + (c.toNat - 0x10000) / 0x400 - 0xD800) * 0x400 +
      (0xDC00 + (c.toNat - 0x10000) % 0x400 - 0xDC00) = c.toNat := by
    omega
  rw [endUnit, if_pos hsecond, hnumber, Char.ofNat_toNat]

/-- **Each way to write a character** inside quotes adds that character. -/
lemma feed_spells {cs : List Char} (h : Spells c cs) (ds : List Char) :
    feed limits ⟨waiting, .text use w .plain⟩ (cs ++ ds) =
      feed limits ⟨waiting, .text use (w.add c) .plain⟩ ds := by
  have hbackslash : step limits ⟨waiting, .text use w .plain⟩ '\\' =
      some ⟨waiting, .text use w .begun⟩ := rfl
  have hnumber : step limits ⟨waiting, .text use w .begun⟩ 'u' =
      some ⟨waiting, .text use w (.unit 4 0 none)⟩ := rfl
  cases h with
  | plain hq hb hc =>
      have hplain : stepText limits w c .plain = some (w.add c, .plain) := by
        rw [stepText, stepPlain, if_neg hb, if_neg (by omega)]
      rw [List.singleton_append, feed_of_step (by rw [step_text fun h => absurd h hq, hplain]; rfl)]
  | @letter e _ he =>
      obtain ⟨hshort, hu⟩ := shortEscape?_of_mem _ he
      have hletter : stepText limits w e .begun = some (w.add c, .plain) := by
        rw [stepText, stepEscape, if_neg hu, hshort]
        rfl
      rw [List.cons_append, feed_of_step hbackslash, List.singleton_append,
        feed_of_step (by rw [step_text fun _ => rfl, hletter]; rfl)]
  | unit hunit =>
      rw [List.cons_append, feed_of_step hbackslash, List.cons_append, feed_of_step hnumber,
        feed_unit hunit, endUnit, endSingle_toNat, Option.bind_some]
  -- the first number waits for the second, and the two make one character
  | @halves _ first second hc hfirst hsecond =>
      have hlt : c.toNat < 0x110000 := by
        have hvalid : c.toNat < 0xD800 ∨ 0xDFFF < c.toNat ∧ c.toNat < 0x110000 := c.valid
        omega
      have hagain : ∀ high, step limits ⟨waiting, .text use w (.backslash high)⟩ '\\' =
          some ⟨waiting, .text use w (.letter high)⟩ := fun _ => rfl
      have hagain' : ∀ high, step limits ⟨waiting, .text use w (.letter high)⟩ 'u' =
          some ⟨waiting, .text use w (.unit 4 0 (some high))⟩ := fun _ => rfl
      rw [List.append_assoc, List.cons_append, feed_of_step hbackslash, List.cons_append,
        feed_of_step hnumber, feed_unit hfirst, endUnit_first w (by omega), Option.bind_some,
        List.cons_append, feed_of_step (hagain _), List.cons_append, feed_of_step (hagain' _),
        feed_unit hsecond, endUnit_second w hc, Option.bind_some]

lemma feed_spellsAll {cs es : List Char} (h : SpellsAll cs es) (w : Written) (ds : List Char) :
    feed limits ⟨waiting, .text use w .plain⟩ (es ++ ds) =
      feed limits ⟨waiting, .text use { w with chars := cs.reverse ++ w.chars } .plain⟩ ds := by
  induction h generalizing w with
  | nil => rfl
  | @cons c cs _ es hc _ ih =>
      rw [List.append_assoc, feed_spells hc, ih, List.reverse_cons, List.append_assoc]
      rfl

/-- A text in quotes is read as a value. -/
lemma feed_quotedValue {t : String} {cs : List Char} (h : IsQuoted t cs) (ds : List Char) :
    feed limits ⟨waiting, .value⟩ (cs ++ ds) = feed limits (give waiting (.text t)) ds := by
  cases h with
  | @quotes es h =>
      have hopen : step limits ⟨waiting, .value⟩ '"' =
          some ⟨waiting, .text .value {} .plain⟩ := rfl
      have hclose : step limits ⟨waiting, .text .value { chars := t.toList.reverse } .plain⟩ '"' =
          some (give waiting (.text t)) := by
        have hvalue : Written.value { chars := t.toList.reverse } = .text t := by
          rw [Written.value, List.reverse_reverse, String.ofList_toList]
          rfl
        rw [← hvalue]
        rfl
      rw [List.append_assoc, List.cons_append, feed_of_step hopen, feed_spellsAll h,
        List.append_nil, List.singleton_append, feed_of_step hclose]

/-- A text in quotes is read as a name. -/
lemma feed_quotedName {t : String} {cs : List Char} (h : IsQuoted t cs)
    (members : List (String × Json)) (ds : List Char) :
    feed limits ⟨waiting, .name members⟩ (cs ++ ds) =
      feed limits ⟨waiting, .colon members t⟩ ds := by
  cases h with
  | @quotes es h =>
      have hopen : step limits ⟨waiting, .name members⟩ '"' =
          some ⟨waiting, .text (.name members) {} .plain⟩ := rfl
      have hclose :
          step limits ⟨waiting, .text (.name members) { chars := t.toList.reverse } .plain⟩ '"' =
            some ⟨waiting, .colon members t⟩ := by
        have hstring : (Written.text { chars := t.toList.reverse }).string = t := by
          rw [Written.text, List.reverse_reverse]
          simp [Text.Halved.string, Text.Halved.spell]
        have hstep : step limits
            ⟨waiting, .text (.name members) { chars := t.toList.reverse } .plain⟩ '"' =
              some ⟨waiting, .colon members
                (Written.text { chars := t.toList.reverse }).string⟩ := rfl
        rw [hstep, hstring]
      rw [List.append_assoc, List.cons_append, feed_of_step hopen, feed_spellsAll h,
        List.append_nil, List.singleton_append, feed_of_step hclose]

/-! ### Integers -/

/-- An integer so far. -/
def whole (negative : Bool) (m : Nat) : Numeral where
  part := if m = 0 then .zero else .whole
  negative := negative
  mantissa := m
  digits := (Nat.toDigits 10 m).length

lemma digitValue?_digitChar : ∀ d < 10, digitValue? (Nat.digitChar d) = some d := by
  decide

/-- One more digit of an integer that does not begin with zero. -/
lemma extend?_whole {negative : Bool} {m d : Nat} (hm : m ≠ 0) (hd : d < 10) :
    (whole negative m).extend? (Nat.digitChar d) = some (whole negative (10 * m + d)) := by
  have hdigits : Nat.toDigits 10 (10 * m + d) = Nat.toDigits 10 m ++ [Nat.digitChar d] := by
    rw [Nat.toDigits_of_base_le (by decide) (by omega)]
    rw [show (10 * m + d) / 10 = m by omega, show (10 * m + d) % 10 = d by omega]
  have hlength : (Nat.toDigits 10 (10 * m + d)).length = (Nat.toDigits 10 m).length + 1 := by
    rw [hdigits, List.length_append, List.length_singleton]
  have hne : 10 * m + d ≠ 0 := by omega
  simp only [Numeral.extend?, whole, digitValue?_digitChar d hd, if_neg hm, if_neg hne, hlength]

/-- The digits of an integer, given that the first of them begins it. -/
lemma feed_toDigits {negative : Bool}
    (hfirst : ∀ d < 10,
      r.step limits (Nat.digitChar d) = some ⟨waiting, .number (whole negative d)⟩)
    (m : Nat) (cs : List Char) :
    r.feed limits (Nat.toDigits 10 m ++ cs) =
      feed limits ⟨waiting, .number (whole negative m)⟩ cs := by
  -- by induction on the number: its last digit comes behind those of its tenth
  induction m using Nat.strong_induction_on generalizing cs with
  | _ m ih =>
    by_cases hm : m < 10
    · rw [Nat.toDigits_of_lt_base hm, List.singleton_append, feed_of_step (hfirst m hm)]
    · have hlast : step limits ⟨waiting, .number (whole negative (m / 10))⟩
          (Nat.digitChar (m % 10)) = some ⟨waiting, .number (whole negative m)⟩ := by
        have hextend : (whole negative (m / 10)).extend? (Nat.digitChar (m % 10)) =
            some (whole negative (10 * (m / 10) + m % 10)) :=
          extend?_whole (by omega) (by omega)
        rw [show 10 * (m / 10) + m % 10 = m by omega] at hextend
        simp only [step, hextend]
      rw [Nat.toDigits_of_base_le (by decide) (by omega), List.append_assoc,
        ih (m / 10) (by omega), List.singleton_append, feed_of_step hlast]

/-- The value of an integer that is not too long. -/
lemma value?_whole {negative : Bool} {m : Nat}
    (h : (Nat.toDigits 10 m).length ≤ limits.digits) :
    (whole negative m).value? limits = some (.int (if negative then -m else m)) := by
  have hfits : (whole negative m).fits limits = true := by simp [Numeral.fits, whole, h]
  rw [Numeral.value?, if_neg (by simp [hfits])]
  by_cases hm : m = 0
  · simp [whole, hm]
  · simp [whole, hm]

/-- The characters that can stand behind a number. -/
def IsEnd (c : Char) : Prop :=
  isBlank c ∨ c = ',' ∨ c = ']' ∨ c = '}'

/-- Whether a text can stand behind a value: an integer goes on until something ends it. -/
def Follows (v : Json) (cs : List Char) : Prop :=
  ∀ i, v = .int i → ∃ c ds, cs = c :: ds ∧ IsEnd c

lemma extend?_of_isEnd {negative : Bool} {m : Nat} (hc : IsEnd c) :
    (whole negative m).extend? c = none := by
  have hnone : digitValue? c = none ∧ c ≠ '.' ∧ c ≠ 'e' ∧ c ≠ 'E' := by
    simp only [IsEnd, isBlank, Bool.or_eq_true, beq_iff_eq] at hc
    rcases hc with (((rfl | rfl) | rfl) | rfl) | rfl | rfl | rfl <;> decide
  obtain ⟨hdigit, hpoint, he, hE⟩ := hnone
  by_cases hm : m = 0
  · simp [Numeral.extend?, whole, hm, hdigit, hpoint, he, hE]
  · simp [Numeral.extend?, whole, hm, hdigit, hpoint, he, hE]

/-- What ends an integer is read as if the integer had been handed over before it. -/
lemma step_of_isEnd {negative : Bool} {m : Nat} (hc : IsEnd c)
    (h : (whole negative m).value? limits = some v) :
    step limits ⟨waiting, .number (whole negative m)⟩ c = (give waiting v).step limits c := by
  have hsettled : (give waiting v).step limits c = (give waiting v).settled c := by
    cases waiting with
    | nil => rfl
    | cons f rest => cases f <;> rfl
  have hpart : (whole negative m).part ≠ .sign := by
    simp only [whole]
    split_ifs <;> simp
  rw [hsettled]
  simp only [step, extend?_of_isEnd hc]
  rw [if_neg fun h => hpart h.1, h, Option.bind_some]

/-- The text of an integer: a sign in front of the digits if it is negative. -/
lemma toList_toString (i : Int) :
    (toString i).toList = (if i < 0 then ['-'] else []) ++ Nat.toDigits 10 i.natAbs := by
  cases i with
  | ofNat m =>
      rw [if_neg (show ¬ Int.ofNat m < 0 from Int.not_lt.mpr (Int.natCast_nonneg m)),
        List.nil_append]
      exact String.toList_ofList
  | negSucc m =>
      rw [if_pos (Int.negSucc_lt_zero m)]
      show ("-" ++ Nat.repr (m + 1)).toList = _
      rw [String.toList_append, Nat.repr, String.toList_ofList (l := Nat.toDigits 10 (m + 1))]
      rfl

/-- The reader behind the digits of an integer. -/
lemma feed_toString (i : Int) (cs : List Char) :
    feed limits ⟨waiting, .value⟩ ((toString i).toList ++ cs) =
      feed limits ⟨waiting, .number (whole (i < 0) i.natAbs)⟩ cs := by
  rw [toList_toString]
  by_cases hi : i < 0
  · have hminus : step limits ⟨waiting, .value⟩ '-' =
        some ⟨waiting, .number { part := .sign, negative := true }⟩ := rfl
    have hfirst : ∀ d < 10,
        step limits ⟨waiting, .number { part := .sign, negative := true }⟩ (Nat.digitChar d) =
          some ⟨waiting, .number (whole true d)⟩ := by
      intro d hd
      interval_cases d <;> rfl
    rw [if_pos hi, List.append_assoc, List.singleton_append, feed_of_step hminus,
      feed_toDigits hfirst, decide_eq_true hi]
  · have hfirst : ∀ d < 10, step limits ⟨waiting, .value⟩ (Nat.digitChar d) =
        some ⟨waiting, .number (whole false d)⟩ := by
      intro d hd
      interval_cases d <;> rfl
    rw [if_neg hi, List.nil_append, feed_toDigits hfirst, decide_eq_false hi]

lemma value?_toString {i : Int} (h : (Nat.toDigits 10 i.natAbs).length ≤ limits.digits) :
    (whole (i < 0) i.natAbs).value? limits = some (.int i) := by
  rw [value?_whole h]
  have hi : (if decide (i < 0) = true then -(i.natAbs : Int) else i.natAbs) = i := by
    split_ifs with hneg
    · have := of_decide_eq_true hneg
      omega
    · have : ¬ i < 0 := fun h => hneg (decide_eq_true h)
      omega
  rw [hi]

/-- **An integer** is read where something ends it. -/
lemma feed_int {i : Int} (h : (Nat.toDigits 10 i.natAbs).length ≤ limits.digits)
    {cs : List Char} (hcs : Follows (.int i) cs) :
    feed limits ⟨waiting, .value⟩ ((toString i).toList ++ cs) =
      feed limits (give waiting (.int i)) cs := by
  obtain ⟨c, ds, rfl, hc⟩ := hcs i rfl
  rw [feed_toString, feed_cons, step_of_isEnd hc (value?_toString h), ← feed_cons]

/-! ### Containers -/

/-- An integer begins with a sign or a digit. -/
lemma exists_first_toString (i : Int) :
    ∃ c ds, (toString i).toList = c :: ds ∧ isBlank c = false ∧ c ≠ ']' := by
  rw [toList_toString]
  split_ifs with hi
  · exact ⟨_, _, rfl, rfl, by decide⟩
  · obtain ⟨c, ds, hcs⟩ :=
      List.exists_cons_of_ne_nil (Nat.toDigits_ne_nil (b := 10) (n := i.natAbs))
    have hdigit : c.isDigit := Nat.isDigit_of_mem_toDigits (by decide) (by decide)
      (hcs ▸ List.mem_cons_self)
    refine ⟨c, ds, hcs, ?_, ?_⟩
    · by_contra hblank
      simp only [isBlank, Bool.not_eq_false, Bool.or_eq_true, beq_iff_eq] at hblank
      rcases hblank with ((rfl | rfl) | rfl) | rfl <;> cases hdigit
    · rintro rfl
      cases hdigit

/-- A value begins neither with a blank nor as a list ends. -/
lemma exists_first {v : Json} {cs : List Char} (h : (Part.value v).IsText cs) :
    ∃ c ds, cs = c :: ds ∧ isBlank c = false ∧ c ≠ ']' := by
  cases h with
  | null => exact ⟨_, _, rfl, rfl, by decide⟩
  | bool b =>
      cases b with
      | false => exact ⟨_, _, rfl, rfl, by decide⟩
      | true => exact ⟨_, _, rfl, rfl, by decide⟩
  | int i => exact exists_first_toString i
  | text hq =>
      cases hq with
      | quotes _ => exact ⟨_, _, rfl, rfl, by decide⟩
  | emptyList _ => exact ⟨_, _, rfl, rfl, by decide⟩
  | list _ _ => exact ⟨_, _, rfl, rfl, by decide⟩
  | emptyRecord _ => exact ⟨_, _, rfl, rfl, by decide⟩
  | record _ _ => exact ⟨_, _, rfl, rfl, by decide⟩

lemma exists_first_items {vs : List Json} {cs : List Char} (h : (Part.items vs).IsText cs) :
    ∃ c ds, cs = c :: ds ∧ isBlank c = false ∧ c ≠ ']' := by
  cases h with
  | lastItem hv _ =>
      obtain ⟨c, ds, rfl, hc⟩ := exists_first hv
      exact ⟨c, _, rfl, hc⟩
  | item hv _ _ _ =>
      obtain ⟨c, ds, rfl, hc⟩ := exists_first hv
      exact ⟨c, _, rfl, hc⟩

lemma exists_first_members {ms : List (String × Json)} {cs : List Char}
    (h : (Part.members ms).IsText cs) : ∃ ds, cs = '"' :: ds := by
  cases h with
  | lastMember hn _ _ _ _ =>
      cases hn with
      | quotes _ => exact ⟨_, rfl⟩
  | member hn _ _ _ _ _ _ =>
      cases hn with
      | quotes _ => exact ⟨_, rfl⟩

/-- Behind the bracket that opens a list, and blanks. -/
lemma feed_openedList {bs : List Char} (hbs : AreBlanks bs) (ds : List Char) :
    feed limits ⟨waiting, .value⟩ ('[' :: bs ++ ds) =
      feed limits ⟨waiting, .firstItem (.list [])⟩ ds := by
  have hopen : step limits ⟨waiting, .value⟩ '[' = some ⟨waiting, .firstItem (.list [])⟩ := rfl
  rw [List.cons_append, feed_of_step hopen, feed_blanks (isBetween_firstItem _ _) hbs]

/-- Behind the brace that opens a record, and blanks. -/
lemma feed_openedRecord {bs : List Char} (hbs : AreBlanks bs) (ds : List Char) :
    feed limits ⟨waiting, .value⟩ ('{' :: bs ++ ds) =
      feed limits ⟨waiting, .firstItem (.record [])⟩ ds := by
  have hopen : step limits ⟨waiting, .value⟩ '{' =
      some ⟨waiting, .firstItem (.record [])⟩ := rfl
  rw [List.cons_append, feed_of_step hopen, feed_blanks (isBetween_firstItem _ _) hbs]

/-- The first item of a list is read as any later one, unless the list is nested too deep. -/
lemma feed_firstItem (hl : waiting.length < limits.depth) {vs : List Json} {cs : List Char}
    (h : (Part.items vs).IsText cs) (ds : List Char) :
    feed limits ⟨waiting, .firstItem (.list [])⟩ (cs ++ ds) =
      feed limits ⟨.list [] :: waiting, .value⟩ (cs ++ ds) := by
  obtain ⟨c, rest, rfl, hblank, hend⟩ := exists_first_items h
  have hstep : step limits ⟨waiting, .firstItem (.list [])⟩ c =
      step limits ⟨.list [] :: waiting, .value⟩ c := by
    simp only [step, hblank, Bool.false_eq_true, if_false, beginItem, if_neg hend, if_pos hl]
  rw [List.cons_append, feed_cons, hstep, ← feed_cons]

/-- The first member of a record is read as any later one, unless the record is nested too deep. -/
lemma feed_firstMember (hl : waiting.length < limits.depth) {ms : List (String × Json)}
    {cs : List Char} (h : (Part.members ms).IsText cs) (ds : List Char) :
    feed limits ⟨waiting, .firstItem (.record [])⟩ (cs ++ ds) =
      feed limits ⟨waiting, .name []⟩ (cs ++ ds) := by
  obtain ⟨rest, rfl⟩ := exists_first_members h
  have hstep : step limits ⟨waiting, .firstItem (.record [])⟩ '"' =
      step limits ⟨waiting, .name []⟩ '"' := by
    show beginItem limits waiting '"' (.record []) = some _
    rw [beginItem, if_neg (by decide), if_pos ⟨rfl, hl⟩]
  rw [List.cons_append, feed_cons, hstep, ← feed_cons]

/-! ### Parts -/

/-- Whether a part of a text is read as what it stands for, behind the containers that wait. -/
def IsRead (limits : Limits) (waiting : List Frame) (cs : List Char) : Part → Prop
  | .value v => ∀ ds, Follows v ds →
      feed limits ⟨waiting, .value⟩ (cs ++ ds) = feed limits (give waiting v) ds
  | .items vs => ∀ past ds,
      feed limits ⟨.list past :: waiting, .value⟩ (cs ++ ']' :: ds) =
        feed limits (give waiting (.list (past.reverse ++ vs))) ds
  | .members ms => ∀ past ds,
      feed limits ⟨waiting, .name past⟩ (cs ++ '}' :: ds) =
        feed limits (give waiting (.record (past.reverse ++ ms))) ds

/-- How many containers are open inside a part, besides those that wait. -/
def level : Part → Nat
  | .value _ => 0
  | .items _ | .members _ => 1

/-- Behind a value that blanks and the end of something follow. -/
lemma follows_of_isEnd {bs : List Char} (hbs : AreBlanks bs) (hc : IsEnd c) (v : Json)
    (ds : List Char) : Follows v (bs ++ c :: ds) := by
  intro i _
  cases bs with
  | nil => exact ⟨c, ds, rfl, hc⟩
  | cons b bs => exact ⟨b, _, rfl, .inl (hbs b List.mem_cons_self)⟩

/-- An item of a list, up to what follows it. -/
lemma feed_item {past : List Json} {cs bs : List Char}
    (hv : IsRead limits (.list past :: waiting) cs (.value v)) (hbs : AreBlanks bs) (hc : IsEnd c)
    (ds : List Char) :
    feed limits ⟨.list past :: waiting, .value⟩ (cs ++ bs ++ c :: ds) =
      feed limits ⟨waiting, .comma (.list (v :: past))⟩ (c :: ds) := by
  rw [List.append_assoc, hv _ (follows_of_isEnd hbs hc v ds), feed_blanks (isBetween_give _ _) hbs]
  rfl

/-- A member of a record, up to what follows it. -/
lemma feed_member {past : List (String × Json)} {n : String} {ns bs bs' cs bs'' : List Char}
    (hn : IsQuoted n ns) (hbs : AreBlanks bs) (hbs' : AreBlanks bs')
    (hv : IsRead limits (.member past n :: waiting) cs (.value v)) (hbs'' : AreBlanks bs'')
    (hc : IsEnd c) (ds : List Char) :
    feed limits ⟨waiting, .name past⟩ (ns ++ bs ++ ':' :: bs' ++ cs ++ bs'' ++ c :: ds) =
      feed limits ⟨waiting, .comma (.record ((n, v) :: past))⟩ (c :: ds) := by
  have hcolon : step limits ⟨waiting, .colon past n⟩ ':' =
      some ⟨.member past n :: waiting, .value⟩ := rfl
  simp only [List.append_assoc, List.cons_append]
  rw [feed_quotedName hn, feed_blanks (isBetween_colon _ _ _) hbs, feed_of_step hcolon,
    feed_blanks (isBetween_value _) hbs',
    hv _ (follows_of_isEnd hbs'' hc v ds), feed_blanks (isBetween_give _ _) hbs'']
  rfl

/-- **A part of a text is read as what it stands for**, within the limits of the reader. -/
theorem isRead_of_isText {p : Part} {cs : List Char} (h : p.IsText cs) :
    ∀ (waiting : List Frame) (n : Nat), p.Fits limits n →
      waiting.length + level p + n ≤ limits.depth → IsRead limits waiting cs p := by
  have hcomma : IsEnd ',' := by simp [IsEnd]
  have hlist : IsEnd ']' := by simp [IsEnd]
  have hrecord : IsEnd '}' := by simp [IsEnd]
  -- by induction on the grammar; what is open grows with each container
  induction h with
  | null => exact fun _ _ _ _ _ _ => rfl
  | bool b =>
      cases b with
      | false => exact fun _ _ _ _ _ _ => rfl
      | true => exact fun _ _ _ _ _ _ => rfl
  | int i =>
      intro waiting n hfits _ ds hds
      exact feed_int (Fits.digits_le hfits) hds
  | text hq => exact fun _ _ _ _ ds _ => feed_quotedValue hq ds
  | emptyList hbs =>
      intro waiting n _ _ ds _
      have hclose : step limits ⟨waiting, .firstItem (.list [])⟩ ']' =
          some (give waiting (.list [])) := rfl
      rw [List.append_assoc, feed_openedList hbs, List.singleton_append, feed_of_step hclose]
  | @list vs bs cs hbs htext ih =>
      intro waiting n hfits hdepth ds _
      cases hfits with
      | emptyList => cases htext
      | @list n _ hvs =>
          simp only [level] at hdepth
          have hitems := ih waiting n hvs (by simp only [level]; omega) [] ds
          rw [List.append_assoc, List.append_assoc, feed_openedList hbs, List.singleton_append,
            feed_firstItem (by omega) htext, hitems]
          rfl
  | emptyRecord hbs =>
      intro waiting n _ _ ds _
      have hclose : step limits ⟨waiting, .firstItem (.record [])⟩ '}' =
          some (give waiting (.record [])) := rfl
      rw [List.append_assoc, feed_openedRecord hbs, List.singleton_append, feed_of_step hclose]
  | @record ms bs cs hbs htext ih =>
      intro waiting n hfits hdepth ds _
      cases hfits with
      | emptyRecord => cases htext
      | @record n _ hms =>
          simp only [level] at hdepth
          have hmembers := ih waiting n hms (by simp only [level]; omega) [] ds
          rw [List.append_assoc, List.append_assoc, feed_openedRecord hbs, List.singleton_append,
            feed_firstMember (by omega) htext, hmembers]
          rfl
  -- an item is read with its list waiting; behind it the list goes on or is closed
  | @lastItem v cs bs _ hbs ih =>
      intro waiting n hfits hdepth past ds
      have hv := ih (.list past :: waiting) n (hfits v List.mem_cons_self)
        (by simp only [level, List.length_cons] at hdepth ⊢; omega)
      have hclose : step limits ⟨waiting, .comma (.list (v :: past))⟩ ']' =
          some (give waiting (.list (v :: past).reverse)) := rfl
      rw [feed_item hv hbs hlist, feed_of_step hclose, List.reverse_cons]
  | @item v vs cs bs bs' ds _ hbs hbs' _ ih ih' =>
      intro waiting n hfits hdepth past es
      obtain ⟨hv, hvs⟩ := List.forall_mem_cons.mp hfits
      have hv := ih (.list past :: waiting) n hv
        (by simp only [level, List.length_cons] at hdepth ⊢; omega)
      have hnext : step limits ⟨waiting, .comma (.list (v :: past))⟩ ',' =
          some ⟨.list (v :: past) :: waiting, .value⟩ := rfl
      have hrest := ih' waiting n hvs hdepth (v :: past) es
      rw [List.append_assoc, List.append_assoc _ (',' :: bs'), List.cons_append,
        feed_item hv hbs hcomma, feed_of_step hnext, feed_blanks (isBetween_value _) hbs', hrest,
        List.reverse_cons, List.append_assoc, List.singleton_append]
  | @lastMember name v ns bs bs' cs bs'' hname hbs hbs' _ hbs'' ih =>
      intro waiting n hfits hdepth past ds
      have hv := ih (.member past name :: waiting) n (hfits (name, v) List.mem_cons_self)
        (by simp only [level, List.length_cons] at hdepth ⊢; omega)
      have hclose : step limits ⟨waiting, .comma (.record ((name, v) :: past))⟩ '}' =
          some (give waiting (.record ((name, v) :: past).reverse)) := rfl
      rw [feed_member hname hbs hbs' hv hbs'' hrecord, feed_of_step hclose, List.reverse_cons]
  | @member name v ms ns bs bs' cs bs'' bs''' ds hname hbs hbs' _ hbs'' hbs''' _ ih ih' =>
      intro waiting n hfits hdepth past es
      obtain ⟨hv, hms⟩ := List.forall_mem_cons.mp hfits
      have hv := ih (.member past name :: waiting) n hv
        (by simp only [level, List.length_cons] at hdepth ⊢; omega)
      have hnext : step limits ⟨waiting, .comma (.record ((name, v) :: past))⟩ ',' =
          some ⟨waiting, .name ((name, v) :: past)⟩ := rfl
      have hrest := ih' waiting n hms hdepth ((name, v) :: past) es
      rw [List.append_assoc, List.append_assoc _ (',' :: bs'''), List.cons_append,
        feed_member hname hbs hbs' hv hbs'' hcomma, feed_of_step hnext,
        feed_blanks (isBetween_name _ _) hbs''',
        hrest, List.reverse_cons, List.append_assoc, List.singleton_append]

end Reader

/-- **Every text of a value within the limits is read as that value.** -/
theorem read?_of_isText {limits : Limits} {v : Json} {cs : List Char}
    (hfits : Fits limits limits.depth v) (h : IsText v cs) : read? limits cs = some v := by
  obtain @⟨bs, cs, bs', hbs, htext, hbs'⟩ := h
  have hread : Reader.IsRead limits [] cs (.value v) :=
    Reader.isRead_of_isText htext [] limits.depth hfits (by simp [Reader.level])
  have hstart : Reader.start.feed limits (bs ++ cs ++ bs') =
      Reader.feed limits ⟨[], .value⟩ (cs ++ bs') := by
    rw [List.append_assoc]
    exact Reader.feed_blanks (Reader.isBetween_value []) hbs _
  rw [read?, hstart]
  by_cases hend : Reader.Follows v bs'
  · have hblanks : (Reader.give [] v).feed limits (bs' ++ []) = (Reader.give [] v).feed limits [] :=
      Reader.feed_blanks (Reader.isBetween_give [] v) hbs' []
    rw [List.append_nil] at hblanks
    rw [hread bs' hend, hblanks]
    rfl
  · -- nothing follows an integer, which the end of the text ends
    cases bs' with
    | cons b bs' =>
        exact absurd (fun _ _ => ⟨b, bs', rfl, .inl (hbs' b List.mem_cons_self)⟩) hend
    | nil =>
        cases htext with
        | int i =>
            rw [Reader.feed_toString]
            exact Reader.value?_toString hfits.digits_le
        | _ => exact absurd (fun _ h => by cases h) hend

end KnownLogs.Json
