/-
When reading a value by its form succeeds:

* `Json.IsLastMember`, `Json.LacksMember`: the member of a name that counts, or none;
* `Schema.Stands`: the integers that values stand for;
* `Validated.both_valid` and its like: when a combination of readings has a result;
* `required_valid`, `optional_valid`, `listOf_valid`: **when members and items are read**, and
  as what.
-/
import Mathlib.Data.List.Forall2
import Mathlib.Tactic.Common
import KnownLogs.Proofs.Json.Binary64
import KnownLogs.Proofs.Schema.Numeral
import KnownLogs.Schema.Field

namespace KnownLogs

/-! ### Members -/

namespace Json

/-- No member has the name. -/
def LacksMember (name : String) (members : List (String × Json)) : Prop :=
  ∀ m ∈ members, m.1 ≠ name

/-- The member of a name that counts: no member behind it has the name. -/
def IsLastMember (name : String) (members : List (String × Json)) (v : Json) : Prop :=
  ∃ before after, members = before ++ (name, v) :: after ∧ LacksMember name after

lemma lastMember?_eq_none {name : String} {members : List (String × Json)} :
    lastMember? name members = none ↔ LacksMember name members := by
  induction members with
  | nil => simp [lastMember?, LacksMember]
  | cons m rest ih =>
      rw [LacksMember, List.forall_mem_cons, ← LacksMember, ← ih, lastMember?]
      cases lastMember? name rest with
      | some w => simp
      | none => simp

lemma lastMember?_eq_some {name : String} {members : List (String × Json)} {v : Json} :
    lastMember? name members = some v ↔ IsLastMember name members v := by
  induction members with
  | nil => simp [lastMember?, IsLastMember]
  | cons m rest ih =>
      rw [lastMember?]
      constructor
      · intro h
        cases hr : lastMember? name rest with
        | some w =>
            simp only [hr] at h
            obtain ⟨before, after, rfl, ha⟩ := ih.mp (hr.trans h)
            exact ⟨m :: before, after, rfl, ha⟩
        | none =>
            simp only [hr] at h
            split_ifs at h with hm
            refine ⟨[], rest, ?_, lastMember?_eq_none.mp hr⟩
            cases h
            rw [← hm, List.nil_append]
      · rintro ⟨before, after, hb, ha⟩
        cases before with
        | nil =>
            obtain ⟨rfl, rfl⟩ := List.cons.inj hb
            simp [lastMember?_eq_none.mpr ha]
        | cons m' before =>
            obtain ⟨rfl, hr⟩ := List.cons.inj hb
            rw [ih.mpr ⟨before, after, hr, ha⟩]

end Json

namespace Schema

/-! ### Combinations -/

namespace Validated

variable {α β γ : Type}

@[simp] lemma issue_valid {kind : IssueKind} {a : α} : issue kind = .valid a ↔ False := by
  simp [issue]

lemma map_valid {f : α → β} {x : Validated α} {b : β} :
    x.map f = .valid b ↔ ∃ a, x = .valid a ∧ f a = b := by
  cases x <;> simp [map]

lemma both_valid {f : α → β → γ} {x : Validated α} {y : Validated β} {c : γ} :
    x.both f y = .valid c ↔ ∃ a b, x = .valid a ∧ y = .valid b ∧ f a b = c := by
  cases x <;> cases y <;> simp [both]

lemma fmap_valid {f : α → β} {x : Validated α} {b : β} :
    f <$> x = .valid b ↔ ∃ a, x = .valid a ∧ f a = b :=
  map_valid

lemma seq_valid {f : Validated (α → β)} {x : Validated α} {b : β} :
    f <*> x = .valid b ↔ ∃ g a, f = .valid g ∧ x = .valid a ∧ g a = b :=
  both_valid

lemma andThen_valid {x : Validated α} {f : α → Validated β} {b : β} :
    x.andThen f = .valid b ↔ ∃ a, x = .valid a ∧ f a = .valid b := by
  cases x <;> simp [andThen]

@[simp] lemma within_valid {step : Step} {x : Validated α} {a : α} :
    x.within step = .valid a ↔ x = .valid a := by
  cases x <;> simp [within]

end Validated

open Validated

/-! ### Values -/

/-- The integers that values stand for: an integer is itself, the truth values are one and
zero, a number with a point or an exponent is the integer that the nearest number of double
precision is if it is within the signed words of sixty-four bits, and a text is the integer it
writes. -/
inductive Stands : Json → Int → Prop
  | int (i : Int) : Stands (.int i) i
  | bool (b : Bool) : Stands (.bool b) (if b then 1 else 0)
  | decimal (d : Decimal) (i : Int) (significand : Nat) (exponent : Int) :
      Binary64.IsNearest d.size significand exponent →
      (i : ℚ) = (if d.negative then -1 else 1) * (significand * 2 ^ exponent) →
      -0x8000000000000000 < i → i < 0x8000000000000000 → Stands (.decimal d) i
  | text (s : String) (i : Int) : Integer.IsNumeral s.toList i → Stands (.text s) i

variable {α : Type}

lemma ofDecimal_ok {d : Decimal} {i : Int} :
    Integer.ofDecimal d = .ok i ↔
      (∃ negative significand exponent, d.toBinary64 = .finite negative significand exponent ∧
        Binary64.whole? negative significand exponent = some i) ∧
        -0x8000000000000000 < i ∧ i < 0x8000000000000000 := by
  rw [Integer.ofDecimal]
  cases hd : d.toBinary64 with
  | tooLarge => simp
  | finite negative significand exponent =>
      constructor
      · intro h
        cases hw : Binary64.whole? negative significand exponent with
        | none => simp [hw] at h
        | some j =>
            simp only [hw] at h
            split_ifs at h with hj
            cases h
            exact ⟨⟨_, _, _, rfl, hw⟩, hj⟩
      · rintro ⟨⟨_, _, _, he, hw⟩, hb⟩
        cases he
        simp only [hw]
        rw [if_pos hb]

/-- **An integer is read** where a value stands for one. -/
lemma integer_valid {v : Json} {i : Int} : integer v = .valid i ↔ Stands v i := by
  have h : integer v = .valid i ↔ Integer.ofJson v = .ok i := by
    rw [integer]
    cases Integer.ofJson v <;> simp
  rw [h]
  constructor
  · intro h
    cases v with
    | int j =>
        cases h
        exact .int i
    | bool b =>
        cases h
        exact .bool b
    | decimal d =>
        obtain ⟨hread, hlow, hhigh⟩ := ofDecimal_ok.mp h
        obtain ⟨s, e, hnear, hi⟩ := (Decimal.toBinary64_whole hlow hhigh).mp hread
        exact .decimal d i s e hnear hi hlow hhigh
    | text s => exact .text s i (Integer.ofText_ok.mp h)
    | null => cases h
    | nan => cases h
    | infinity n => cases h
    | halved t => cases h
    | list items => cases h
    | record members => cases h
  · intro h
    cases h with
    | int => rfl
    | bool b => rfl
    | decimal d i s e hnear hi hlow hhigh =>
        exact ofDecimal_ok.mpr ⟨(Decimal.toBinary64_whole hlow hhigh).mpr ⟨s, e, hnear, hi⟩,
          hlow, hhigh⟩
    | text s i hs => exact Integer.ofText_ok.mpr hs

lemma integerFrom_valid {least i : Int} {v : Json} :
    integerFrom least v = .valid i ↔ Stands v i ∧ least ≤ i := by
  simp only [integerFrom, integerAtLeast, map_valid, andThen_valid, integer_valid]
  constructor
  · rintro ⟨⟨j, hj⟩, ⟨k, hk, h⟩, rfl⟩
    split_ifs at h
    · cases h
      exact ⟨hk, hj⟩
    · simp at h
  · rintro ⟨hv, hi⟩
    exact ⟨⟨i, hi⟩, ⟨i, hv, by rw [dif_pos hi]⟩, rfl⟩

lemma itemsFrom_valid {read : Json → Validated α} {n : Nat} {items : List Json} {as : List α} :
    itemsFrom read n items = .valid as ↔
      List.Forall₂ (fun v a => read v = .valid a) items as := by
  induction items generalizing n as with
  | nil =>
      cases as with
      | nil => simp [itemsFrom]
      | cons a as => simp [itemsFrom]
  | cons v rest ih =>
      rw [itemsFrom, both_valid]
      constructor
      · rintro ⟨a, as, ha, has, rfl⟩
        exact .cons (within_valid.mp ha) (ih.mp has)
      · intro h
        cases h with
        | cons ha has => exact ⟨_, _, within_valid.mpr ha, ih.mpr has, rfl⟩

/-- **A list is read** where a value is one and all its items are read. -/
lemma listOf_valid {read : Json → Validated α} {v : Json} {as : List α} :
    listOf read v = .valid as ↔
      ∃ items, v = .list items ∧ List.Forall₂ (fun v a => read v = .valid a) items as := by
  cases v <;> simp [listOf, itemsFrom_valid]

lemma record_valid {read : List (String × Json) → Validated α} {v : Json} {a : α} :
    record read v = .valid a ↔ ∃ members, v = .record members ∧ read members = .valid a := by
  cases v <;> simp [record]

lemma nullable_valid {read : Json → Validated α} {v : Json} {o : Option α} :
    nullable read v = .valid o ↔
      v = .null ∧ o = none ∨ v ≠ .null ∧ ∃ a, read v = .valid a ∧ o = some a := by
  cases v <;> simp [nullable, map_valid, eq_comm]

/-! ### Members by name -/

/-- **A member that must be there is read** where one has the name and the last one is read. -/
lemma required_valid {name : String} {read : Json → Validated α} {members : List (String × Json)}
    {a : α} :
    required name read members = .valid a ↔
      ∃ v, Json.IsLastMember name members v ∧ read v = .valid a := by
  rw [required, within_valid]
  simp only [← Json.lastMember?_eq_some]
  cases Json.lastMember? name members <;> simp

/-- **A member that may be absent is read** where none has the name or the last one is read. -/
lemma optional_valid {name : String} {read : Json → Validated α} {absent a : α}
    {members : List (String × Json)} :
    optional name read absent members = .valid a ↔
      Json.LacksMember name members ∧ a = absent ∨
        ∃ v, Json.IsLastMember name members v ∧ read v = .valid a := by
  rw [optional, within_valid]
  simp only [← Json.lastMember?_eq_some, ← Json.lastMember?_eq_none]
  cases Json.lastMember? name members <;> simp [eq_comm]

/-- A member that may be absent or null is read where it is, or where the last one is read. -/
lemma optional_nullable_valid {name : String} {read : Json → Validated α}
    {members : List (String × Json)} {o : Option α} (hnull : ∀ a, read .null ≠ .valid a) :
    optional name (nullable read) none members = .valid o ↔
      (Json.LacksMember name members ∨ Json.IsLastMember name members .null) ∧ o = none ∨
        ∃ v a, Json.IsLastMember name members v ∧ read v = .valid a ∧ o = some a := by
  simp only [optional_valid, nullable_valid]
  constructor
  · rintro (⟨h, rfl⟩ | ⟨v, hv, ⟨rfl, rfl⟩ | ⟨-, a, ha, rfl⟩⟩)
    · exact .inl ⟨.inl h, rfl⟩
    · exact .inl ⟨.inr hv, rfl⟩
    · exact .inr ⟨v, a, hv, ha, rfl⟩
  · rintro (⟨h | h, rfl⟩ | ⟨v, a, hv, ha, rfl⟩)
    · exact .inl ⟨h, rfl⟩
    · exact .inr ⟨.null, h, .inl ⟨rfl, rfl⟩⟩
    · refine .inr ⟨v, hv, .inr ⟨?_, a, ha, rfl⟩⟩
      rintro rfl
      exact hnull a ha

end Schema

end KnownLogs
