/-
A strict reader reads whole characters only:

* `Json.IsWhole`: no half of a character stands alone in a value;
* `Reader.IsWhole`: nor in anything that a reader keeps;
* `Reader.isWhole_step`: a strict reader keeps it so with each character;
* `Json.isWhole_read`: **a value that is read strictly is whole**.
-/
import Mathlib.Tactic.Common
import KnownLogs.Json.Reader

namespace KnownLogs.Json

/-- No half of a character stands alone in the texts of a value. -/
inductive IsWhole : Json → Prop
  | null : IsWhole .null
  | bool (b : Bool) : IsWhole (.bool b)
  | int (i : Int) : IsWhole (.int i)
  | decimal (d : Decimal) : IsWhole (.decimal d)
  | nan : IsWhole .nan
  | infinity (negative : Bool) : IsWhole (.infinity negative)
  | text (s : String) : IsWhole (.text s)
  | list {items : List Json} : (∀ v ∈ items, IsWhole v) → IsWhole (.list items)
  | record {members : List (String × Json)} :
      (∀ m ∈ members, IsWhole m.2) → IsWhole (.record members)

/-! ### What a reader keeps -/

/-- Whether all values in a container are whole. -/
def Open.IsWhole : Open → Prop
  | .list items => ∀ v ∈ items, v.IsWhole
  | .record members => ∀ m ∈ members, m.2.IsWhole

/-- Whether all values in a waiting container are whole. -/
def Frame.IsWhole : Frame → Prop
  | .list items => ∀ v ∈ items, v.IsWhole
  | .member members _ => ∀ m ∈ members, m.2.IsWhole

/-- Whether what is being read is whole so far. -/
def Next.IsWhole : Next → Prop
  | .value | .number _ => True
  | .firstItem container | .comma container => container.IsWhole
  | .name members | .colon members _ => ∀ m ∈ members, m.2.IsWhole
  | .text .value written _ => written.halves = []
  | .text (.name members) written _ => written.halves = [] ∧ ∀ m ∈ members, m.2.IsWhole
  | .word _ v | .nothing v => v.IsWhole

/-- Whether all that a reader keeps is whole. -/
structure Reader.IsWhole (r : Reader) : Prop where
  waiting : ∀ f ∈ r.waiting, f.IsWhole
  next : r.next.IsWhole

lemma Open.isWhole_close {container : Open} (h : container.IsWhole) : container.close.IsWhole := by
  cases container with
  | list items => exact .list fun v hv => h v (List.mem_reverse.mp hv)
  | record members => exact .record fun m hm => h m (List.mem_reverse.mp hm)

lemma Numeral.isWhole_value {limits : Limits} {n : Numeral} {v : Json}
    (h : n.value? limits = some v) : v.IsWhole := by
  rw [value?] at h
  split at h
  · cases h
  split at h
  · cases h
    exact .int _
  · cases h
    exact .int _
  · cases h
    exact .decimal _
  · cases h
    exact .decimal _
  · cases h

/-! ### Texts -/

section Texts

variable {limits : Limits} {w : Written}

lemma Written.isWhole_value (h : w.halves = []) : w.value.IsWhole := by
  rw [value, h]
  exact .text _

/-- A strict reader adds no half of a character. -/
lemma Written.addHalf?_eq_none (hl : limits.lenient = false) (half : Nat) :
    w.addHalf? limits half = none := by
  simp [addHalf?, hl]

lemma halves_stepEscape {c : Char} {w' : Written} {e : Escape}
    (h : stepEscape w c = some (w', e)) : w'.halves = w.halves := by
  rw [stepEscape] at h
  split_ifs at h
  · cases h
    rfl
  · obtain ⟨d, -, hd⟩ := Option.map_eq_some_iff.mp h
    cases hd
    rfl

lemma halves_stepPlain {c : Char} {w' : Written} {e : Escape}
    (h : stepPlain w c = some (w', e)) : w'.halves = w.halves := by
  rw [stepPlain] at h
  split_ifs at h
  · cases h
    rfl
  · cases h
    rfl

lemma halves_endUnit (hl : limits.lenient = false) {value : Nat} {high : Option Nat}
    {w' : Written} {e : Escape} (h : endUnit limits w value high = some (w', e)) :
    w'.halves = w.halves := by
  cases high with
  | none =>
      rw [endUnit, endSingle] at h
      split_ifs at h
      · cases h
        rfl
      · simp [Written.addHalf?_eq_none hl] at h
      · cases h
        rfl
  | some high =>
      rw [endUnit] at h
      split_ifs at h
      · cases h
        rfl
      · simp [Written.addHalf?_eq_none hl] at h

/-- **A strict reader adds whole characters** to a text. -/
lemma halves_stepText (hl : limits.lenient = false) {c : Char} {escape e : Escape} {w' : Written}
    (h : stepText limits w c escape = some (w', e)) : w'.halves = w.halves := by
  -- half of a character can be added at the end of an escape only, where a strict reader stops
  cases escape with
  | plain => exact halves_stepPlain h
  | begun => exact halves_stepEscape h
  | unit left value high =>
      rw [stepText] at h
      split at h
      · cases h
      · split_ifs at h
        · exact halves_endUnit hl h
        · cases h
          rfl
  | backslash high =>
      rw [stepText] at h
      split_ifs at h
      · cases h
        rfl
      · simp [Written.addHalf?_eq_none hl] at h
  | letter high =>
      rw [stepText] at h
      split_ifs at h
      · cases h
        rfl
      · simp [Written.addHalf?_eq_none hl] at h

lemma halves_closeText (hl : limits.lenient = false) {escape : Escape} {w' : Written}
    (h : closeText? limits w escape = some w') : w'.halves = w.halves := by
  cases escape with
  | plain =>
      cases h
      rfl
  | backslash high => simp [closeText?, Written.addHalf?_eq_none hl] at h
  | begun => cases h
  | unit left value high => cases h
  | letter high => cases h

end Texts

/-! ### One character -/

namespace Reader

variable {limits : Limits} {waiting : List Frame} {r r' : Reader} {v : Json} {c : Char}

lemma isWhole_give (hw : ∀ f ∈ waiting, f.IsWhole) (hv : v.IsWhole) :
    (give waiting v).IsWhole := by
  cases waiting with
  | nil => exact ⟨hw, hv⟩
  | cons f rest =>
      obtain ⟨hf, hr⟩ := List.forall_mem_cons.mp hw
      cases f with
      | list items => exact ⟨hr, List.forall_mem_cons.mpr ⟨hv, hf⟩⟩
      | member members name => exact ⟨hr, List.forall_mem_cons.mpr ⟨hv, hf⟩⟩

lemma isWhole_beginValue (hw : ∀ f ∈ waiting, f.IsWhole) (h : beginValue waiting c = some r) :
    r.IsWhole := by
  rw [beginValue.eq_def] at h
  split at h
  · cases h
    exact ⟨hw, by simp [Next.IsWhole, Open.IsWhole]⟩
  · cases h
    exact ⟨hw, by simp [Next.IsWhole, Open.IsWhole]⟩
  · cases h
    exact ⟨hw, rfl⟩
  · cases h
    exact ⟨hw, .bool true⟩
  · cases h
    exact ⟨hw, .bool false⟩
  · cases h
    exact ⟨hw, .null⟩
  · cases h
    exact ⟨hw, .nan⟩
  · cases h
    exact ⟨hw, .infinity false⟩
  · obtain ⟨n, -, rfl⟩ := Option.map_eq_some_iff.mp h
    exact ⟨hw, trivial⟩

lemma isWhole_beginItem (hw : ∀ f ∈ waiting, f.IsWhole) {container : Open}
    (hc : container.IsWhole) (h : beginItem limits waiting c container = some r) : r.IsWhole := by
  cases container with
  | list items =>
      rw [beginItem] at h
      split_ifs at h
      · cases h
        exact isWhole_give hw (Open.isWhole_close hc)
      · have hf : (Frame.list items).IsWhole := hc
        exact isWhole_beginValue (List.forall_mem_cons.mpr ⟨hf, hw⟩) h
  | record members =>
      rw [beginItem] at h
      split_ifs at h
      · cases h
        exact isWhole_give hw (Open.isWhole_close hc)
      · cases h
        exact ⟨hw, rfl, hc⟩

lemma isWhole_endItem (hw : ∀ f ∈ waiting, f.IsWhole) {container : Open}
    (hc : container.IsWhole) (h : endItem waiting c container = some r) : r.IsWhole := by
  cases container with
  | list items =>
      rw [endItem] at h
      split_ifs at h
      · cases h
        exact isWhole_give hw (Open.isWhole_close hc)
      · cases h
        have hf : (Frame.list items).IsWhole := hc
        exact ⟨List.forall_mem_cons.mpr ⟨hf, hw⟩, trivial⟩
  | record members =>
      rw [endItem] at h
      split_ifs at h
      · cases h
        exact isWhole_give hw (Open.isWhole_close hc)
      · cases h
        exact ⟨hw, hc⟩

lemma isWhole_settled (hr : r.IsWhole) (h : r.settled c = some r') : r'.IsWhole := by
  rw [settled] at h
  split_ifs at h
  · cases h
    exact hr
  · split at h
    · rename_i container hn
      have hc := hr.next
      rw [hn] at hc
      exact isWhole_endItem hr.waiting hc h
    · cases h

/-- A character of a text, or the quote that closes it. -/
lemma isWhole_stepText (hl : limits.lenient = false) (hr : r.IsWhole) {use : TextUse}
    {written : Written} {escape : Escape} (hn : r.next = .text use written escape)
    (h : r.step limits c = some r') : r'.IsWhole := by
  have hw := hr.next
  rw [hn] at hw
  simp only [step, hn] at h
  split at h
  · rename_i w hclose
    have hhalves : w.halves = written.halves := by
      split_ifs at hclose
      exact halves_closeText hl hclose
    cases use with
    | value =>
        cases h
        exact isWhole_give hr.waiting (Written.isWhole_value (hhalves.trans hw))
    | name members =>
        cases h
        exact ⟨hr.waiting, hw.2⟩
  · obtain ⟨⟨w, e⟩, hstep, rfl⟩ := Option.map_eq_some_iff.mp h
    have hhalves := halves_stepText hl hstep
    cases use with
    | value => exact ⟨hr.waiting, hhalves.trans hw⟩
    | name members => exact ⟨hr.waiting, hhalves.trans hw.1, hw.2⟩

/-- **A strict reader keeps what it reads whole** with each character. -/
lemma isWhole_step (hl : limits.lenient = false) (hr : r.IsWhole)
    (h : r.step limits c = some r') : r'.IsWhole := by
  -- by what may come next: only a text can bring in half of a character
  have hw := hr.next
  cases hn : r.next with
  | text use written escape => exact isWhole_stepText hl hr hn h
  | number n =>
      simp only [step, hn] at h
      split at h
      · cases h
        exact ⟨hr.waiting, trivial⟩
      · split_ifs at h
        · cases h
          exact ⟨hr.waiting, .infinity true⟩
        · obtain ⟨v, hv, h⟩ := Option.bind_eq_some_iff.mp h
          exact isWhole_settled (isWhole_give hr.waiting (Numeral.isWhole_value hv)) h
  | word rest v =>
      rw [hn] at hw
      simp only [step, hn] at h
      split at h
      · cases h
      · split_ifs at h
        cases h
        exact isWhole_give hr.waiting hw
      · split_ifs at h
        cases h
        exact ⟨hr.waiting, hw⟩
  | comma container =>
      simp only [step, hn] at h
      exact isWhole_settled hr h
  | nothing v =>
      simp only [step, hn] at h
      exact isWhole_settled hr h
  | value =>
      simp only [step, hn] at h
      split_ifs at h
      · cases h
        exact hr
      · exact isWhole_beginValue hr.waiting h
  | firstItem container =>
      rw [hn] at hw
      simp only [step, hn] at h
      split_ifs at h
      · cases h
        exact hr
      · exact isWhole_beginItem hr.waiting hw h
  | name members =>
      rw [hn] at hw
      simp only [step, hn] at h
      split_ifs at h
      · cases h
        exact hr
      · cases h
        exact ⟨hr.waiting, rfl, hw⟩
  | colon members name =>
      rw [hn] at hw
      simp only [step, hn] at h
      split_ifs at h
      · cases h
        exact hr
      · cases h
        exact ⟨List.forall_mem_cons.mpr ⟨hw, hr.waiting⟩, trivial⟩

/-! ### Whole texts -/

lemma isWhole_feed (hl : limits.lenient = false) {cs : List Char} (hr : r.IsWhole)
    (h : r.feed limits cs = some r') : r'.IsWhole := by
  induction cs generalizing r with
  | nil =>
      cases h
      exact hr
  | cons c cs ih =>
      rw [feed, List.foldlM_cons] at h
      obtain ⟨s, hs, h⟩ := Option.bind_eq_some_iff.mp h
      exact ih (isWhole_step hl hr hs) h

lemma isWhole_finish (hr : r.IsWhole) (h : r.finish? limits = some v) : v.IsWhole := by
  rw [finish?] at h
  split at h
  · rename_i w _ hn
    have hv := hr.next
    rw [hn] at hv
    cases h
    exact hv
  · exact Numeral.isWhole_value h
  · cases h

end Reader

/-- **A value that is read strictly is whole.** -/
theorem isWhole_read {limits : Limits} (hl : limits.lenient = false) {cs : List Char} {v : Json}
    (h : read? limits cs = some v) : v.IsWhole := by
  obtain ⟨r, hr, h⟩ := Option.bind_eq_some_iff.mp h
  have hstart : Reader.start.IsWhole := ⟨by simp [Reader.start], trivial⟩
  exact Reader.isWhole_finish (Reader.isWhole_feed hl hstart hr) h

end KnownLogs.Json
