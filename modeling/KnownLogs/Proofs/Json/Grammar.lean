/-
The texts of a JSON value, after RFC 8259:

* `Json.Spells`: the ways to write a character inside quotes: as it is, with a letter behind the
  backslash, by its number, or by the numbers of its two halves;
* `Json.Part`, `Part.IsText`: the texts of a value, of the items of a list and of the members of a
  record, with blanks wherever they may stand;
* `Json.IsText`: the texts of a value, blanks around it allowed;
* `Json.Fits`: the values within the limits of a reader;
* `Json.isText_writeChars`: **what is written for a value is one of its texts**.
-/
import Mathlib.Tactic.Common
import KnownLogs.Json.Reader
import KnownLogs.Json.Writer

namespace KnownLogs.Json

/-! ### Texts in quotes -/

/-- The number that four hexadecimal digits write, each of either case. -/
inductive IsUnit : List Char → Nat → Prop
  | digits {a b c d : Char} {w x y z : Nat} : Hex.value? a = some w → Hex.value? b = some x →
      Hex.value? c = some y → Hex.value? d = some z →
        IsUnit [a, b, c, d] (16 * (16 * (16 * w + x) + y) + z)

/-- The letters behind a backslash, with the characters that they stand for. -/
def escapes : List (Char × Char) :=
  [('"', '"'), ('\\', '\\'), ('/', '/'), ('b', '\x08'), ('f', '\x0c'), ('n', '\n'), ('r', '\r'),
   ('t', '\t')]

/-- The ways to write a character inside quotes. -/
inductive Spells : Char → List Char → Prop
  /-- As it is; not the quote, the backslash and the control characters. -/
  | plain {c : Char} : c ≠ '"' → c ≠ '\\' → 0x20 ≤ c.toNat → Spells c [c]
  /-- By a letter. -/
  | letter {e c : Char} : (e, c) ∈ escapes → Spells c ['\\', e]
  /-- By its number. -/
  | unit {c : Char} {digits : List Char} : IsUnit digits c.toNat → Spells c ('\\' :: 'u' :: digits)
  /-- By the numbers of its halves, the first one first. -/
  | halves {c : Char} {first second : List Char} : 0x10000 ≤ c.toNat →
      IsUnit first (0xD800 + (c.toNat - 0x10000) / 0x400) →
      IsUnit second (0xDC00 + (c.toNat - 0x10000) % 0x400) →
        Spells c ('\\' :: 'u' :: first ++ '\\' :: 'u' :: second)

/-- The ways to write the characters of a text, each in a way of its own. -/
inductive SpellsAll : List Char → List Char → Prop
  | nil : SpellsAll [] []
  | cons {c : Char} {cs ds es : List Char} :
      Spells c ds → SpellsAll cs es → SpellsAll (c :: cs) (ds ++ es)

/-- The texts of a string, in quotes. -/
inductive IsQuoted (s : String) : List Char → Prop
  | quotes {cs : List Char} : SpellsAll s.toList cs → IsQuoted s ('"' :: cs ++ ['"'])

/-! ### Values -/

/-- Whether all characters are blanks. -/
def AreBlanks (cs : List Char) : Prop :=
  ∀ c ∈ cs, Reader.isBlank c

/-- What a part of a JSON text stands for. -/
inductive Part where
  | value (v : Json)
  /-- Items of a list, of which there must be one. -/
  | items (vs : List Json)
  /-- Members of a record, of which there must be one. -/
  | members (ms : List (String × Json))

/-- The texts of a part: no blank stands at its front, and none behind a value. -/
inductive Part.IsText : Part → List Char → Prop
  | null : IsText (.value .null) ['n', 'u', 'l', 'l']
  | bool (b : Bool) : IsText (.value (.bool b)) (toString b).toList
  | int (i : Int) : IsText (.value (.int i)) (toString i).toList
  | text {s : String} {cs : List Char} : IsQuoted s cs → IsText (.value (.text s)) cs
  | emptyList {bs : List Char} : AreBlanks bs → IsText (.value (.list [])) ('[' :: bs ++ [']'])
  | list {vs : List Json} {bs cs : List Char} : AreBlanks bs → IsText (.items vs) cs →
      IsText (.value (.list vs)) ('[' :: bs ++ cs ++ [']'])
  | emptyRecord {bs : List Char} : AreBlanks bs →
      IsText (.value (.record [])) ('{' :: bs ++ ['}'])
  | record {ms : List (String × Json)} {bs cs : List Char} : AreBlanks bs →
      IsText (.members ms) cs → IsText (.value (.record ms)) ('{' :: bs ++ cs ++ ['}'])
  | lastItem {v : Json} {cs bs : List Char} : IsText (.value v) cs → AreBlanks bs →
      IsText (.items [v]) (cs ++ bs)
  | item {v : Json} {vs : List Json} {cs bs bs' ds : List Char} : IsText (.value v) cs →
      AreBlanks bs → AreBlanks bs' → IsText (.items vs) ds →
        IsText (.items (v :: vs)) (cs ++ bs ++ ',' :: bs' ++ ds)
  | lastMember {n : String} {v : Json} {ns bs bs' cs bs'' : List Char} : IsQuoted n ns →
      AreBlanks bs → AreBlanks bs' → IsText (.value v) cs → AreBlanks bs'' →
        IsText (.members [(n, v)]) (ns ++ bs ++ ':' :: bs' ++ cs ++ bs'')
  | member {n : String} {v : Json} {ms : List (String × Json)}
      {ns bs bs' cs bs'' bs''' ds : List Char} : IsQuoted n ns →
      AreBlanks bs → AreBlanks bs' → IsText (.value v) cs → AreBlanks bs'' → AreBlanks bs''' →
      IsText (.members ms) ds →
        IsText (.members ((n, v) :: ms))
          (ns ++ bs ++ ':' :: bs' ++ cs ++ bs'' ++ ',' :: bs''' ++ ds)

/-- The texts of a value, blanks around it allowed. -/
inductive IsText (v : Json) : List Char → Prop
  | whole {bs cs bs' : List Char} : AreBlanks bs → (Part.value v).IsText cs → AreBlanks bs' →
      IsText v (bs ++ cs ++ bs')

/-- The values within the limits of a reader, when so many containers that are not empty may still
be opened. -/
inductive Fits (limits : Limits) : Nat → Json → Prop
  | null (n : Nat) : Fits limits n .null
  | bool (n : Nat) (b : Bool) : Fits limits n (.bool b)
  | int (n : Nat) {i : Int} : (Nat.toDigits 10 i.natAbs).length ≤ limits.digits →
      Fits limits n (.int i)
  | text (n : Nat) (s : String) : Fits limits n (.text s)
  | emptyList (n : Nat) : Fits limits n (.list [])
  | list {n : Nat} {vs : List Json} : (∀ v ∈ vs, Fits limits n v) → Fits limits (n + 1) (.list vs)
  | emptyRecord (n : Nat) : Fits limits n (.record [])
  | record {n : Nat} {ms : List (String × Json)} : (∀ m ∈ ms, Fits limits n m.2) →
      Fits limits (n + 1) (.record ms)

lemma Fits.digits_le {limits : Limits} {n : Nat} {i : Int} (h : Fits limits n (.int i)) :
    (Nat.toDigits 10 i.natAbs).length ≤ limits.digits := by
  cases h with
  | int _ hi => exact hi

/-- Whether all values of a part are within the limits of a reader. -/
def Part.Fits (limits : Limits) (n : Nat) : Part → Prop
  | .value v => Json.Fits limits n v
  | .items vs => ∀ v ∈ vs, Json.Fits limits n v
  | .members ms => ∀ m ∈ ms, Json.Fits limits n m.2

/-! ### What is written -/

/-- The digits that are written for a number are its digits. -/
lemma isUnit_hexDigits {n : Nat} (hn : n < 0x10000) : IsUnit (Text.hexDigits 4 n) n := by
  have hdigit : ∀ m, Hex.value? (Hex.digit (m % 16)) = some (m % 16) := fun m =>
    (Hex.value?_digit _ (Nat.mod_lt _ (by decide))).1
  have hunit := IsUnit.digits (hdigit (n / 16 / 16 / 16)) (hdigit (n / 16 / 16))
    (hdigit (n / 16)) (hdigit n)
  rwa [show 16 * (16 * (16 * (n / 16 / 16 / 16 % 16) + n / 16 / 16 % 16) + n / 16 % 16) + n % 16
    = n by omega] at hunit

lemma spells_escape (c : Char) : Spells c (escape c) := by
  rw [escape]
  split_ifs with hq hb hc
  · rw [hq]
    exact .letter (by decide)
  · rw [hb]
    exact .letter (by decide)
  · exact .unit (isUnit_hexDigits (by omega))
  · exact .plain hq hb (by omega)

lemma isQuoted_quote (s : String) : IsQuoted s (quote s) := by
  refine .quotes ?_
  induction s.toList with
  | nil => exact .nil
  | cons c cs ih => exact .cons (spells_escape c) ih

lemma areBlanks_nil : AreBlanks [] := by
  simp [AreBlanks]

/-- The items of a list, in front of its end. -/
lemma isText_writeItems {vs : List Json} (hne : vs ≠ [])
    (h : ∀ v ∈ vs, (Part.value v).IsText (writeChars v)) :
    ∃ cs, writeItems vs = cs ++ [']'] ∧ (Part.items vs).IsText cs := by
  induction vs with
  | nil => exact absurd rfl hne
  | cons v vs ih =>
      obtain ⟨hv, hvs⟩ := List.forall_mem_cons.mp h
      cases vs with
      | nil => exact ⟨_, by rw [writeItems, List.append_nil], .lastItem hv areBlanks_nil⟩
      | cons w rest =>
          obtain ⟨cs, hcs, htext⟩ := ih (List.cons_ne_nil _ _) hvs
          refine ⟨_, ?_, .item hv areBlanks_nil areBlanks_nil htext⟩
          rw [writeItems, hcs]
          simp

/-- The members of a record, in front of its end. -/
lemma isText_writeMembers {ms : List (String × Json)} (hne : ms ≠ [])
    (h : ∀ m ∈ ms, (Part.value m.2).IsText (writeChars m.2)) :
    ∃ cs, writeMembers ms = cs ++ ['}'] ∧ (Part.members ms).IsText cs := by
  induction ms with
  | nil => exact absurd rfl hne
  | cons m ms ih =>
      obtain ⟨hm, hms⟩ := List.forall_mem_cons.mp h
      cases ms with
      | nil =>
          refine ⟨_, ?_, .lastMember (isQuoted_quote m.1) areBlanks_nil areBlanks_nil hm
            areBlanks_nil⟩
          rw [writeMembers]
          simp
      | cons w rest =>
          obtain ⟨cs, hcs, htext⟩ := ih (List.cons_ne_nil _ _) hms
          refine ⟨_, ?_, .member (isQuoted_quote m.1) areBlanks_nil areBlanks_nil hm areBlanks_nil
            areBlanks_nil htext⟩
          rw [writeMembers, hcs]
          simp

/-- **What is written for a value is one of its texts.** -/
theorem isText_writeChars {limits : Limits} {n : Nat} {v : Json} (h : Fits limits n v) :
    IsText v (writeChars v) := by
  have hpart : (Part.value v).IsText (writeChars v) := by
    induction h with
    | null n => exact .null
    | bool n b => cases b with
        | false => exact .bool false
        | true => exact .bool true
    | int n _ => exact .int _
    | text n s => exact .text (isQuoted_quote s)
    | emptyList n => exact .emptyList areBlanks_nil
    | @list n vs _ ih =>
        cases vs with
        | nil => exact .emptyList areBlanks_nil
        | cons v vs =>
            obtain ⟨cs, hcs, htext⟩ := isText_writeItems (List.cons_ne_nil v vs) ih
            rw [writeChars, hcs]
            exact .list areBlanks_nil htext
    | emptyRecord n => exact .emptyRecord areBlanks_nil
    | @record n ms _ ih =>
        cases ms with
        | nil => exact .emptyRecord areBlanks_nil
        | cons m ms =>
            obtain ⟨cs, hcs, htext⟩ := isText_writeMembers (List.cons_ne_nil m ms) ih
            rw [writeChars, hcs]
            exact .record areBlanks_nil htext
  have hwhole := IsText.whole areBlanks_nil hpart areBlanks_nil
  rwa [List.nil_append, List.append_nil] at hwhole

end KnownLogs.Json
