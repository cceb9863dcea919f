/-
The published form of a log list, said without reading it:

* `Published.IsStatus`, `Published.IsInterval`: the members with rules of their own;
* `Published.IsLog`, `Published.IsOperator`, `Published.IsLogList`: which members make a log,
  an operator and a list, and which one;
* `Published.read_valid`: **a value is read as a list** where it is a record of that form.
-/
import KnownLogs.LogList.Published
import KnownLogs.Proofs.Json.Strict
import KnownLogs.Proofs.Schema.Reading

namespace KnownLogs

/-- A record whose members have a form. -/
def Json.IsRecord {α : Type} (form : List (String × Json) → α → Prop) (v : Json) (a : α) : Prop :=
  ∃ members, v = .record members ∧ form members a

namespace Published

open Json (IsLastMember LacksMember IsRecord)
open Schema Validated

/-! ### The form -/

/-- The members of a record with a time. -/
def IsTime (members : List (String × Json)) (time : Int) : Prop :=
  ∃ v, IsLastMember "timestamp" members v ∧ Stands v time

/-- The members of a status map: all of them name one status and carry a time, and the time of
the last one counts. -/
structure IsStatus (states : List (String × Json)) (status : LogStatus) (since : Int) : Prop where
  names : ∀ m ∈ states, m.1 = status.text
  times : ∀ m ∈ states, ∃ time, IsRecord IsTime m.2 time
  last : ∃ v, states.getLast? = some (status.text, v) ∧ IsRecord IsTime v since

/-- The member of a bound: absent, null or an integer. -/
def IsBound (name : String) (members : List (String × Json)) : Option Int → Prop
  | none => LacksMember name members ∨ IsLastMember name members .null
  | some t => ∃ v, IsLastMember name members v ∧ Stands v t

/-- The members of an interval. -/
def IsInterval (members : List (String × Json)) (bounds : Option Int × Option Int) : Prop :=
  IsBound "start_inclusive" members bounds.1 ∧ IsBound "end_exclusive" members bounds.2

/-- The members of a log. -/
structure IsLog (members : List (String × Json)) (l : Log) : Prop where
  description : IsLastMember "description" members (.text l.description)
  description_ne_empty : l.description ≠ ""
  logId : ∃ s, IsLastMember "log_id" members (.text s) ∧ Base64.decode s = .ok l.logId
  key : ∃ s, IsLastMember "key" members (.text s) ∧ Base64.decode s = .ok l.key
  url : IsLastMember "url" members (.text l.url)
  url_ne_empty : l.url ≠ ""
  mergeDelay : ∃ v, IsLastMember "mmd" members v ∧ Stands v l.mergeDelay
  mergeDelay_nonneg : 0 ≤ l.mergeDelay
  status : ∃ states, IsLastMember "state" members (.record states) ∧
    IsStatus states l.status l.since
  interval :
    (LacksMember "temporal_interval" members ∨ IsLastMember "temporal_interval" members .null) ∧
      l.start = none ∧ l.stop = none ∨
    ∃ fields, IsLastMember "temporal_interval" members (.record fields) ∧
      IsInterval fields (l.start, l.stop)

/-- The members of an operator. -/
structure IsOperator (members : List (String × Json)) (o : Operator) : Prop where
  name : IsLastMember "name" members (.text o.name)
  name_ne_empty : o.name ≠ ""
  emails : IsLastMember "email" members (.list (o.emails.map .text))
  logs : ∃ items, IsLastMember "logs" members (.list items) ∧
    List.Forall₂ (IsRecord IsLog) items o.logs

/-- The members of a log list. -/
structure IsLogList (members : List (String × Json)) (l : LogList) : Prop where
  version : IsLastMember "version" members (.text l.version)
  timestamp : ∃ v, IsLastMember "log_list_timestamp" members v ∧ Stands v l.timestamp
  operators : ∃ items, IsLastMember "operators" members (.list items) ∧
    List.Forall₂ (IsRecord IsOperator) items l.operators

/-! ### Members with rules of their own -/

lemma base64_valid {v : Json} {bs : Bytes} :
    base64 v = .valid bs ↔ ∃ s, v = .text s ∧ Base64.decode s = .ok bs := by
  rw [base64.eq_def]
  split
  · rename_i s
    cases hd : Base64.decode s with
    | ok cs => simp [hd]
    | error e => cases e <;> simp [hd]
  · rename_i hv
    simp only [issue_valid, false_iff]
    rintro ⟨s, rfl, -⟩
    exact hv s rfl

lemma time_valid {v : Json} {time : Int} :
    record (required "timestamp" integer) v = .valid time ↔ IsRecord IsTime v time := by
  simp only [record_valid, required_valid, integer_valid, IsRecord, IsTime]

lemma statusTimes_valid {states : List (String × Json)} {times : List (String × Int)} :
    statusTimes states = .valid times ↔
      List.Forall₂ (fun m t => m.1 = t.1 ∧ IsRecord IsTime m.2 t.2) states times := by
  induction states generalizing times with
  | nil => cases times <;> simp [statusTimes]
  | cons m rest ih =>
      simp only [statusTimes, both_valid, within_valid, time_valid, ih]
      constructor
      · rintro ⟨t, ts, ht, hts, rfl⟩
        exact .cons ⟨rfl, ht⟩ hts
      · intro h
        cases h with
        | @cons _ t _ ts ht hts => exact ⟨t.2, ts, ht.2, hts, by rw [ht.1]⟩

/-- A list of one value again and again, and no other. -/
lemma eraseDups_eq_singleton {α : Type} [BEq α] [LawfulBEq α] {xs : List α} {a : α} :
    xs.eraseDups = [a] ↔ xs ≠ [] ∧ ∀ x ∈ xs, x = a := by
  cases xs with
  | nil => simp
  | cons x xs =>
      rw [List.eraseDups_cons]
      constructor
      · intro h
        obtain ⟨rfl, hrest⟩ := List.cons.inj h
        refine ⟨List.cons_ne_nil _ _, List.forall_mem_cons.mpr ⟨rfl, fun y hy => ?_⟩⟩
        by_contra hne
        have hmem : y ∈ (xs.filter fun b => !b == x).eraseDups :=
          List.mem_eraseDups.mpr (List.mem_filter.mpr ⟨hy, by simpa using hne⟩)
        rw [hrest] at hmem
        cases hmem
      · rintro ⟨-, hall⟩
        obtain ⟨rfl, hxs⟩ := List.forall_mem_cons.mp hall
        have hrest : (xs.filter fun b => !b == x) = [] := by
          simpa using hxs
        rw [hrest, List.eraseDups_nil]

lemma ofValue_ok {name : String} {status : LogStatus} :
    Enumeration.ofValue LogStatus (.text name) = .ok status ↔ name = status.text := by
  constructor
  · intro h
    rw [Enumeration.ofValue] at h
    split at h
    · rename_i a ha
      cases h
      rw [Enumeration.ofText?] at ha
      have htext := List.find?_some ha
      exact (beq_iff_eq.mp htext).symm
    · cases h
  · rintro rfl
    cases status <;> rfl

lemma soleStatus_valid {times : List (String × Int)} {status : LogStatus} {since : Int} :
    soleStatus times = .valid (status, since) ↔
      (∀ t ∈ times, t.1 = status.text) ∧ times.getLast? = some (status.text, since) := by
  constructor
  · intro h
    rw [soleStatus.eq_def] at h
    split at h
    · rename_i name name' time hnames hlast
      obtain ⟨-, hall⟩ := eraseDups_eq_singleton.mp hnames
      have hall : ∀ t ∈ times, t.1 = name := fun t ht => hall _ (List.mem_map_of_mem ht)
      have hname : name' = name := hall _ (List.mem_of_getLast? hlast)
      split at h
      · rename_i st hst
        cases h
        rw [← ofValue_ok.mp hst]
        exact ⟨hall, hname ▸ hlast⟩
      · simp at h
    · simp at h
  · rintro ⟨hall, hlast⟩
    have hne : times.map (·.1) ≠ [] := by
      rintro hnil
      simp [List.map_eq_nil_iff.mp hnil] at hlast
    have hnames : (times.map (·.1)).eraseDups = [status.text] :=
      eraseDups_eq_singleton.mpr ⟨hne, by simpa using hall⟩
    rw [soleStatus.eq_def, hnames, hlast]
    simp only [ofValue_ok.mpr rfl]

/-- Where two lists correspond, their last items do. -/
lemma exists_getLast? {α β : Type} {R : α → β → Prop} {xs : List α} {ys : List β}
    (h : List.Forall₂ R xs ys) {y : β} (hy : ys.getLast? = some y) :
    ∃ x, xs.getLast? = some x ∧ R x y := by
  induction h with
  | nil => cases hy
  | @cons x _ _ _ hxy hs ih =>
      cases hs with
      | nil =>
          cases hy
          exact ⟨x, rfl, hxy⟩
      | cons _ _ =>
          rw [List.getLast?_cons_cons] at hy ⊢
          exact ih hy

/-- Where two lists correspond, each item of the second one has one of the first. -/
lemma exists_of_mem {α β : Type} {R : α → β → Prop} {xs : List α} {ys : List β}
    (h : List.Forall₂ R xs ys) {y : β} (hy : y ∈ ys) : ∃ x ∈ xs, R x y := by
  induction h with
  | nil => cases hy
  | @cons x _ _ _ hxy hs ih =>
      rcases List.mem_cons.mp hy with rfl | hy
      · exact ⟨x, List.mem_cons_self, hxy⟩
      · obtain ⟨x', hx', hr⟩ := ih hy
        exact ⟨x', List.mem_cons_of_mem _ hx', hr⟩

lemma exists_forall₂ {α β : Type} {R : α → β → Prop} {xs : List α} (h : ∀ x ∈ xs, ∃ y, R x y) :
    ∃ ys, List.Forall₂ R xs ys := by
  induction xs with
  | nil => exact ⟨[], .nil⟩
  | cons x xs ih =>
      obtain ⟨⟨y, hy⟩, h⟩ := List.forall_mem_cons.mp h
      obtain ⟨ys, hys⟩ := ih h
      exact ⟨y :: ys, .cons hy hys⟩

/-- The times of a status map are those of one status, and one time counts. -/
lemma isStatus_iff {states : List (String × Json)} {status : LogStatus} {since : Int} :
    IsStatus states status since ↔
      ∃ times, statusTimes states = .valid times ∧ soleStatus times = .valid (status, since) := by
  simp only [statusTimes_valid, soleStatus_valid]
  constructor
  · rintro ⟨hnames, htimes, v, hlast, hv⟩
    have htimes : ∀ m ∈ states, ∃ t : String × Int, m.1 = t.1 ∧ IsRecord IsTime m.2 t.2 :=
      fun m hm => (htimes m hm).imp' (m.1, ·) fun _ h => ⟨rfl, h⟩
    obtain ⟨times, hst⟩ := exists_forall₂ htimes
    -- the time that was read for the last member is the one that counts, as it has only one
    obtain ⟨⟨name, time⟩, ht, rfl, htime⟩ := exists_getLast? hst.flip hlast
    have hsince : time = since :=
      Validated.valid.inj ((time_valid.mpr htime).symm.trans (time_valid.mpr hv))
    refine ⟨times, hst, fun t ht => ?_, hsince ▸ ht⟩
    obtain ⟨m, hm, hname, -⟩ := exists_of_mem hst ht
    rw [← hname, hnames m hm]
  · rintro ⟨times, hst, hnames, hlast⟩
    refine ⟨fun m hm => ?_, fun m hm => ?_, ?_⟩
    · obtain ⟨t, ht, hname, -⟩ := exists_of_mem hst.flip hm
      rw [hname, hnames t ht]
    · obtain ⟨t, -, -, htime⟩ := exists_of_mem hst.flip hm
      exact ⟨t.2, htime⟩
    · obtain ⟨⟨name, v⟩, hl, rfl, htime⟩ := exists_getLast? hst hlast
      exact ⟨v, hl, htime⟩

lemma status_valid {v : Json} {status : LogStatus} {since : Int} :
    Published.status v = .valid (status, since) ↔
      ∃ states, v = .record states ∧ IsStatus states status since := by
  rw [Published.status.eq_def]
  split
  · simp only [andThen_valid, isStatus_iff, Json.record.injEq, exists_eq_left']
  · rename_i hv
    simp only [issue_valid, false_iff]
    rintro ⟨states, rfl, -⟩
    exact hv states rfl

/-- A bound is read where it is absent, null or an integer. -/
lemma bound_valid {name : String} {members : List (String × Json)} {t : Option Int} :
    optional name (nullable integer) none members = .valid t ↔ IsBound name members t := by
  have hnull : ∀ i, integer .null ≠ .valid i := by
    intro i h
    cases h
  rw [optional_nullable_valid hnull]
  cases t <;> simp [IsBound, integer_valid]

lemma bounds_valid {members : List (String × Json)} {b : Option Int × Option Int} :
    bounds members = .valid b ↔ IsInterval members b := by
  simp only [bounds, seq_valid, fmap_valid, bound_valid, IsInterval]
  constructor
  · rintro ⟨_, t, ⟨s, hs, rfl⟩, ht, rfl⟩
    exact ⟨hs, ht⟩
  · rintro ⟨hs, ht⟩
    exact ⟨_, b.2, ⟨b.1, hs, rfl⟩, ht, rfl⟩

/-! ### Texts -/

lemma text_valid {v : Json} (hv : v.IsWhole) {s : String} : text v = .valid s ↔ v = .text s := by
  cases hv <;> simp [text]

lemma nonEmptyText_valid {v : Json} (hv : v.IsWhole) {s : String} :
    nonEmptyText v = .valid s ↔ v = .text s ∧ s ≠ "" := by
  simp only [nonEmptyText, andThen_valid, text_valid hv]
  constructor
  · rintro ⟨a, rfl, h⟩
    split_ifs at h with ha
    · simp at h
    · cases h
      exact ⟨rfl, ha⟩
  · rintro ⟨rfl, hs⟩
    exact ⟨s, rfl, if_neg hs⟩

lemma texts_valid {items : List Json} (h : ∀ v ∈ items, v.IsWhole) {ss : List String} :
    List.Forall₂ (fun v s => text v = .valid s) items ss ↔ items = ss.map .text := by
  induction items generalizing ss with
  | nil => cases ss <;> simp
  | cons v items ih =>
      obtain ⟨hv, h⟩ := List.forall_mem_cons.mp h
      cases ss with
      | nil => simp
      | cons s ss => simp [text_valid hv, ih h]

/-! ### Records -/

variable {members : List (String × Json)}

/-- The members of a whole record are whole. -/
lemma isWhole_of_isLastMember (hw : ∀ m ∈ members, m.2.IsWhole) {name : String} {v : Json}
    (h : IsLastMember name members v) : v.IsWhole := by
  obtain ⟨before, after, rfl, -⟩ := h
  exact hw _ (List.mem_append_right _ List.mem_cons_self)

lemma requiredText_valid (hw : ∀ m ∈ members, m.2.IsWhole) {name s : String} :
    required name text members = .valid s ↔ IsLastMember name members (.text s) := by
  rw [required_valid]
  constructor
  · rintro ⟨v, hv, h⟩
    exact (text_valid (isWhole_of_isLastMember hw hv)).mp h ▸ hv
  · intro h
    exact ⟨_, h, rfl⟩

lemma requiredNonEmptyText_valid (hw : ∀ m ∈ members, m.2.IsWhole) {name s : String} :
    required name nonEmptyText members = .valid s ↔
      IsLastMember name members (.text s) ∧ s ≠ "" := by
  rw [required_valid]
  constructor
  · rintro ⟨v, hv, h⟩
    obtain ⟨rfl, hs⟩ := (nonEmptyText_valid (isWhole_of_isLastMember hw hv)).mp h
    exact ⟨hv, hs⟩
  · rintro ⟨h, hs⟩
    exact ⟨_, h, (nonEmptyText_valid (.text s)).mpr ⟨rfl, hs⟩⟩

lemma requiredBase64_valid {name : String} {bs : Bytes} :
    required name base64 members = .valid bs ↔
      ∃ s, IsLastMember name members (.text s) ∧ Base64.decode s = .ok bs := by
  simp only [required_valid, base64_valid]
  constructor
  · rintro ⟨v, hv, s, rfl, hs⟩
    exact ⟨s, hv, hs⟩
  · rintro ⟨s, h, hs⟩
    exact ⟨_, h, s, rfl, hs⟩

lemma requiredInteger_valid {name : String} {i : Int} :
    required name integer members = .valid i ↔ ∃ v, IsLastMember name members v ∧ Stands v i := by
  simp only [required_valid, integer_valid]

lemma requiredIntegerFrom_valid {name : String} {least i : Int} :
    required name (integerFrom least) members = .valid i ↔
      ∃ v, IsLastMember name members v ∧ Stands v i ∧ least ≤ i := by
  simp only [required_valid, integerFrom_valid]

lemma requiredStatus_valid {state : LogStatus × Int} :
    required "state" Published.status members = .valid state ↔
      ∃ states, IsLastMember "state" members (.record states) ∧
        IsStatus states state.1 state.2 := by
  rw [required_valid]
  constructor
  · rintro ⟨v, hv, h⟩
    obtain ⟨states, rfl, hs⟩ := status_valid.mp h
    exact ⟨states, hv, hs⟩
  · rintro ⟨states, h, hs⟩
    exact ⟨_, h, status_valid.mpr ⟨states, rfl, hs⟩⟩

/-- An interval is read where it is absent, null or a record of two bounds. -/
lemma interval_valid {interval : Option (Option Int × Option Int)} :
    optional "temporal_interval" (nullable (record bounds)) none members = .valid interval ↔
      (LacksMember "temporal_interval" members ∨
          IsLastMember "temporal_interval" members .null) ∧ interval = none ∨
        ∃ fields b, IsLastMember "temporal_interval" members (.record fields) ∧
          IsInterval fields b ∧ interval = some b := by
  rw [optional_nullable_valid fun b => by simp [record]]
  simp only [record_valid, bounds_valid]
  refine or_congr_right ⟨?_, ?_⟩
  · rintro ⟨_, b, hv, ⟨fields, rfl, hb⟩, rfl⟩
    exact ⟨fields, b, hv, hb, rfl⟩
  · rintro ⟨fields, b, hv, hb, rfl⟩
    exact ⟨_, b, hv, ⟨fields, rfl, hb⟩, rfl⟩

/-- **A log is read** where members are those of one. -/
lemma log_valid (hw : ∀ m ∈ members, m.2.IsWhole) {l : Log} :
    log members = .valid l ↔ IsLog members l := by
  simp only [log, seq_valid, fmap_valid, requiredNonEmptyText_valid hw, requiredBase64_valid,
    requiredIntegerFrom_valid, requiredStatus_valid, interval_valid]
  constructor
  · -- the members from the last to the first, as they are combined
    rintro ⟨_, interval, ⟨_, state, ⟨_, delay, ⟨_, url, ⟨_, key, ⟨_, id, ⟨text, htext, rfl⟩,
      hid, rfl⟩, hkey, rfl⟩, hurl, rfl⟩, ⟨v, hv, hstands, hdelay⟩, rfl⟩, hstate, rfl⟩,
      hinterval, rfl⟩
    exact
      { description := htext.1
        description_ne_empty := htext.2
        logId := hid
        key := hkey
        url := hurl.1
        url_ne_empty := hurl.2
        mergeDelay := ⟨v, hv, hstands⟩
        mergeDelay_nonneg := hdelay
        status := hstate
        interval := by
          rcases hinterval with ⟨h, rfl⟩ | ⟨fields, b, h, hb, rfl⟩
          · exact .inl ⟨h, rfl, rfl⟩
          · exact .inr ⟨fields, h, hb⟩ }
  · intro h
    obtain ⟨v, hv, hstands⟩ := h.mergeDelay
    -- an absent interval and one that is null are read alike
    have hinterval : ∃ interval : Option (Option Int × Option Int),
        ((LacksMember "temporal_interval" members ∨
            IsLastMember "temporal_interval" members .null) ∧ interval = none ∨
          ∃ fields b, IsLastMember "temporal_interval" members (.record fields) ∧
            IsInterval fields b ∧ interval = some b) ∧
          interval.bind (·.1) = l.start ∧ interval.bind (·.2) = l.stop := by
      rcases h.interval with ⟨h, hstart, hstop⟩ | ⟨fields, h, hb⟩
      · exact ⟨none, .inl ⟨h, rfl⟩, hstart.symm, hstop.symm⟩
      · exact ⟨some (l.start, l.stop), .inr ⟨fields, _, h, hb, rfl⟩, rfl, rfl⟩
    obtain ⟨interval, hi, hstart, hstop⟩ := hinterval
    refine ⟨_, interval, ⟨_, (l.status, l.since), ⟨_, l.mergeDelay, ⟨_, l.url, ⟨_, l.key,
      ⟨_, l.logId, ⟨l.description, ⟨h.description, h.description_ne_empty⟩, rfl⟩, h.logId, rfl⟩,
      h.key, rfl⟩, ⟨h.url, h.url_ne_empty⟩, rfl⟩, ⟨v, hv, hstands, h.mergeDelay_nonneg⟩, rfl⟩,
      h.status, rfl⟩, hi, ?_⟩
    rw [hstart, hstop]

section Records

variable {α : Type} {read : List (String × Json) → Validated α}
  {form : List (String × Json) → α → Prop}
  (hread : ∀ members, (∀ m ∈ members, m.2.IsWhole) →
    ∀ a, read members = .valid a ↔ form members a)
include hread

/-- A whole record is read where its members have the form. -/
lemma isRecord_iff {v : Json} (hv : v.IsWhole) {a : α} :
    record read v = .valid a ↔ IsRecord form v a := by
  rw [record_valid]
  constructor
  · rintro ⟨members, rfl, h⟩
    cases hv with
    | record hw => exact ⟨members, rfl, (hread members hw a).mp h⟩
  · rintro ⟨members, rfl, h⟩
    cases hv with
    | record hw => exact ⟨members, rfl, (hread members hw a).mpr h⟩

/-- A list of records is read where the members of each have the form. -/
lemma requiredRecords_valid (hw : ∀ m ∈ members, m.2.IsWhole) {name : String} {as : List α} :
    required name (listOf (record read)) members = .valid as ↔
      ∃ items, IsLastMember name members (.list items) ∧
        List.Forall₂ (IsRecord form) items as := by
  have hitems : ∀ items : List Json, (∀ v ∈ items, v.IsWhole) →
      (List.Forall₂ (fun v a => record read v = .valid a) items as ↔
        List.Forall₂ (IsRecord form) items as) := by
    intro items h
    induction items generalizing as with
    | nil => cases as <;> simp
    | cons v items ih =>
        obtain ⟨hv, h⟩ := List.forall_mem_cons.mp h
        cases as with
        | nil => simp
        | cons a as => simp only [List.forall₂_cons, isRecord_iff hread hv, ih h]
  simp only [required_valid, listOf_valid]
  constructor
  · rintro ⟨_, hv, items, rfl, h⟩
    cases isWhole_of_isLastMember hw hv with
    | list hi => exact ⟨items, hv, (hitems items hi).mp h⟩
  · rintro ⟨items, hv, h⟩
    cases isWhole_of_isLastMember hw hv with
    | list hi => exact ⟨_, hv, items, rfl, (hitems items hi).mpr h⟩

end Records

lemma requiredTexts_valid (hw : ∀ m ∈ members, m.2.IsWhole) {name : String} {ss : List String} :
    required name (listOf text) members = .valid ss ↔
      IsLastMember name members (.list (ss.map .text)) := by
  simp only [required_valid, listOf_valid]
  constructor
  · rintro ⟨_, hv, items, rfl, h⟩
    cases isWhole_of_isLastMember hw hv with
    | list hi => exact (texts_valid hi).mp h ▸ hv
  · intro hv
    cases isWhole_of_isLastMember hw hv with
    | list hi => exact ⟨_, hv, _, rfl, (texts_valid hi).mpr rfl⟩

/-- **An operator is read** where members are those of one. -/
lemma operator_valid (hw : ∀ m ∈ members, m.2.IsWhole) {o : Operator} :
    operator members = .valid o ↔ IsOperator members o := by
  simp only [operator, seq_valid, fmap_valid, requiredNonEmptyText_valid hw,
    requiredTexts_valid hw, requiredRecords_valid (fun _ h _ => log_valid h) hw]
  constructor
  · rintro ⟨_, logs, ⟨_, emails, ⟨name, hname, rfl⟩, hemails, rfl⟩, hlogs, rfl⟩
    exact ⟨hname.1, hname.2, hemails, hlogs⟩
  · intro h
    exact ⟨_, o.logs, ⟨_, o.emails, ⟨o.name, ⟨h.name, h.name_ne_empty⟩, rfl⟩, h.emails, rfl⟩,
      h.logs, rfl⟩

lemma logList_valid (hw : ∀ m ∈ members, m.2.IsWhole) {l : LogList} :
    logList members = .valid l ↔ IsLogList members l := by
  simp only [logList, seq_valid, fmap_valid, requiredText_valid hw, requiredInteger_valid,
    requiredRecords_valid (fun _ h _ => operator_valid h) hw]
  constructor
  · rintro ⟨_, operators, ⟨_, timestamp, ⟨version, hversion, rfl⟩, ht, rfl⟩, ho, rfl⟩
    exact ⟨hversion, ht, ho⟩
  · intro h
    exact ⟨_, l.operators, ⟨_, l.timestamp, ⟨l.version, h.version, rfl⟩, h.timestamp, rfl⟩,
      h.operators, rfl⟩

/-- **A value is read as a list** where it is a record of the published form. -/
theorem read_valid {v : Json} (hv : v.IsWhole) {l : LogList} :
    Published.read v = .valid l ↔ IsRecord IsLogList v l :=
  isRecord_iff (fun _ h _ => logList_valid h) hv

end Published

end KnownLogs
