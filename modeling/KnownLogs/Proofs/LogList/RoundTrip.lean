/-
Publishing a log list and reading it back:

* `Entry.integers`, `Document.integers`: the integers that a document publishes;
* `Published.isLog_write`, `Published.isOperator_write`, `Published.isLogList_write`: what is
  written for a document is of the published form, however its intervals are written;
* `LogList.fits_write`: it is within the limits of reading, if its integers are;
* `LogList.parse_publish`: **reading undoes publishing**, whichever of its texts is published.
-/
import KnownLogs.Proofs.Bytes.Base64
import KnownLogs.Proofs.Bytes.Utf8
import KnownLogs.Proofs.Json.Completeness
import KnownLogs.Proofs.LogList.Acceptance

namespace KnownLogs

open Json (IsLastMember LacksMember IsRecord)

/-! ### Members -/

namespace Json

variable {name : String} {members before after : List (String × Json)} {v : Json}

lemma IsLastMember.append (h : IsLastMember name members v) (ha : LacksMember name after) :
    IsLastMember name (members ++ after) v := by
  obtain ⟨front, back, rfl, hback⟩ := h
  refine ⟨front, back ++ after, by simp, fun m hm => ?_⟩
  rcases List.mem_append.mp hm with hm | hm
  · exact hback m hm
  · exact ha m hm

lemma IsLastMember.behind (h : IsLastMember name members v) :
    IsLastMember name (before ++ members) v := by
  obtain ⟨front, back, rfl, hback⟩ := h
  exact ⟨before ++ front, back, by simp, hback⟩

lemma LacksMember.append (h : LacksMember name members) (ha : LacksMember name after) :
    LacksMember name (members ++ after) := by
  intro m hm
  rcases List.mem_append.mp hm with hm | hm
  · exact h m hm
  · exact ha m hm

/-- Members that have another name. -/
lemma lacksMember_of_name {other : String} (h : ∀ m ∈ members, m.1 = other) (hne : other ≠ name) :
    LacksMember name members := by
  intro m hm
  rw [h m hm]
  exact hne

end Json

/-- What is written at each place stands for what stands there. -/
lemma forall₂_mapIdx {α β : Type} {R : α → β → Prop} {bs : List β} {f : Nat → β → α}
    (h : ∀ i, ∀ b ∈ bs, R (f i b) b) : List.Forall₂ R (bs.mapIdx f) bs := by
  induction bs generalizing f with
  | nil => exact .nil
  | cons b bs ih =>
      rw [List.mapIdx_cons]
      exact .cons (h 0 b List.mem_cons_self)
        (ih fun i c hc => h (i + 1) c (List.mem_cons_of_mem _ hc))

namespace Published

/-! ### Intervals -/

lemma name_of_mem_bound {name : String} {form : AbsentForm} {t : Option Int} :
    ∀ m ∈ boundMembers name form t, m.1 = name := by
  cases t with
  | some t => simp [boundMembers]
  | none => cases form <;> simp [boundMembers, AbsentForm.members]

/-- The members of a bound are those of one. -/
lemma isBound_write (name : String) (form : AbsentForm) (t : Option Int) :
    IsBound name (boundMembers name form t) t := by
  cases t with
  | some t => exact ⟨.int t, ⟨[], [], rfl, by simp [LacksMember]⟩, .int t⟩
  | none =>
      cases form with
      | omitted => exact .inl (by simp [LacksMember, boundMembers, AbsentForm.members])
      | null => exact .inr ⟨[], [], rfl, by simp [LacksMember]⟩

/-- Members of other names in front of a bound and behind it change nothing. -/
lemma IsBound.among {name : String} {before members after : List (String × Json)} {t : Option Int}
    (h : IsBound name members t) (hb : LacksMember name before) (ha : LacksMember name after) :
    IsBound name (before ++ (members ++ after)) t := by
  cases t with
  | some t =>
      obtain ⟨v, hv, hstands⟩ := h
      exact ⟨v, (hv.append ha).behind, hstands⟩
  | none => exact h.imp (fun h => hb.append (h.append ha)) fun h => (h.append ha).behind

/-- The members of two bounds are those of an interval. -/
lemma isInterval_write (form : IntervalForm) (start stop : Option Int) :
    IsInterval (boundMembers "start_inclusive" form.start start ++
      boundMembers "end_exclusive" form.stop stop) (start, stop) := by
  have hnothing : ∀ name, LacksMember name [] := fun name => by simp [LacksMember]
  have hstart : LacksMember "end_exclusive" (boundMembers "start_inclusive" form.start start) :=
    Json.lacksMember_of_name name_of_mem_bound (by decide)
  have hstop : LacksMember "start_inclusive" (boundMembers "end_exclusive" form.stop stop) :=
    Json.lacksMember_of_name name_of_mem_bound (by decide)
  constructor
  · exact (isBound_write "start_inclusive" form.start start).among (hnothing _) hstop
  · have h := (isBound_write "end_exclusive" form.stop stop).among hstart (hnothing _)
    rwa [List.append_nil] at h

lemma name_of_mem_interval {form : IntervalForm} {start stop : Option Int} :
    ∀ m ∈ intervalMembers form start stop, m.1 = "temporal_interval" := by
  rw [intervalMembers.eq_def]
  split
  · rename_i absent _
    cases absent <;> simp [AbsentForm.members]
  · simp

/-- The interval of a log is read back, in whichever form it is written. -/
lemma interval_write (form : IntervalForm) (start stop : Option Int)
    {before : List (String × Json)} (hb : LacksMember "temporal_interval" before) :
    (LacksMember "temporal_interval" (before ++ intervalMembers form start stop) ∨
        IsLastMember "temporal_interval" (before ++ intervalMembers form start stop) .null) ∧
        start = none ∧ stop = none ∨
      ∃ fields, IsLastMember "temporal_interval" (before ++ intervalMembers form start stop)
        (.record fields) ∧ IsInterval fields (start, stop) := by
  rw [intervalMembers.eq_def]
  split
  · rename_i absent _
    refine .inl ⟨?_, rfl, rfl⟩
    cases absent with
    | omitted => exact .inl (hb.append (by simp [LacksMember, AbsentForm.members]))
    | null => exact .inr ⟨before, [], rfl, by simp [LacksMember]⟩
  · exact .inr ⟨_, ⟨before, [], rfl, by simp [LacksMember]⟩, isInterval_write form _ _⟩

/-! ### Lists -/

/-- **What is written for an entry** is of the published form. -/
lemma isLog_write (form : IntervalForm) (e : Entry) :
    IsRecord IsLog (e.published.write form) e.published := by
  have hlacks : ∀ {name}, "temporal_interval" ≠ name →
      LacksMember name (intervalMembers form e.published.start e.published.stop) := fun h =>
    Json.lacksMember_of_name name_of_mem_interval h
  have htime : IsRecord IsTime (.record [("timestamp", .int e.since)]) e.since :=
    ⟨_, rfl, _, ⟨[], [], rfl, by simp [LacksMember]⟩, .int _⟩
  have hstatus : IsStatus [(e.status.text, .record [("timestamp", .int e.since)])] e.status
      e.since :=
    ⟨by simp, by simpa using ⟨_, htime⟩, _, rfl, htime⟩
  -- each member is followed by those behind it and by the interval, which have other names
  refine ⟨_, rfl, {
    description := IsLastMember.append ⟨[], _, rfl, by simp [LacksMember]⟩ (hlacks (by decide))
    description_ne_empty := e.description_ne_empty
    logId := ⟨_, IsLastMember.append ⟨[_], _, rfl, by simp [LacksMember]⟩ (hlacks (by decide)),
      Base64.decode_encode e.logId⟩
    key := ⟨_, IsLastMember.append ⟨[_, _], _, rfl, by simp [LacksMember]⟩ (hlacks (by decide)),
      Base64.decode_encode e.keyBytes⟩
    url := IsLastMember.append ⟨[_, _, _], _, rfl, by simp [LacksMember]⟩ (hlacks (by decide))
    url_ne_empty := e.url_ne_empty
    mergeDelay := ⟨_, IsLastMember.append ⟨[_, _, _, _], _, rfl, by simp [LacksMember]⟩
      (hlacks (by decide)), .int e.mergeDelay⟩
    mergeDelay_nonneg := e.mergeDelay_nonneg
    status := ⟨_, IsLastMember.append ⟨[_, _, _, _, _], [], rfl, by simp [LacksMember]⟩
      (hlacks (by decide)), hstatus⟩
    interval := interval_write form _ _ (by simp [LacksMember]) }⟩

/-- **What is written for an operator** is of the published form. -/
lemma isOperator_write (form : Nat → IntervalForm) {o : KnownLogs.Operator} (ho : o.name ≠ "") :
    IsRecord IsOperator (o.published.write form) o.published := by
  refine ⟨_, rfl, ⟨[], _, rfl, by simp [LacksMember]⟩, ho, ⟨[_], _, rfl, by simp [LacksMember]⟩,
    _, ⟨[_, _], [], rfl, by simp [LacksMember]⟩, forall₂_mapIdx fun i l hl => ?_⟩
  obtain ⟨e, -, rfl⟩ := List.mem_map.mp hl
  exact isLog_write (form i) e

/-- **What is written for a document** is of the published form. -/
lemma isLogList_write (form : Nat → Nat → IntervalForm) {d : Document}
    (hd : ∀ o ∈ d.operators, o.name ≠ "") :
    IsRecord IsLogList (d.published.write form) d.published := by
  refine ⟨_, rfl, ⟨[], _, rfl, by simp [LacksMember]⟩,
    ⟨_, ⟨[_], _, rfl, by simp [LacksMember]⟩, .int _⟩,
    _, ⟨[_, _], [], rfl, by simp [LacksMember]⟩, forall₂_mapIdx fun i l hl => ?_⟩
  obtain ⟨o, ho, rfl⟩ := List.mem_map.mp hl
  exact isOperator_write (form i) (hd o ho)

end Published

/-! ### Limits -/

/-- The integers that an entry publishes. -/
def Entry.integers (e : Entry) : List Int :=
  e.mergeDelay :: e.since :: (e.interval.start.toList ++ e.interval.stop.toList)

/-- The integers that a document publishes. -/
def Document.integers (d : Document) : List Int :=
  d.timestamp :: d.operators.flatMap fun o => o.logs.flatMap Entry.integers

namespace LogList

open Json (Fits)
open Published (boundMembers)

/-- Whether an integer has no more digits than reading puts up with. -/
def IsShort (i : Int) : Prop :=
  i.natAbs < 10 ^ limits.digits

lemma fits_int {i : Int} (h : IsShort i) (n : Nat) : Fits limits n (.int i) :=
  .int n ((Nat.length_toDigits_le_iff (by decide) (by decide)).mpr h)

lemma fits_bound {name : String} {form : AbsentForm} {t : Option Int} (h : ∀ i ∈ t, IsShort i)
    (n : Nat) : ∀ m ∈ boundMembers name form t, Fits limits n m.2 := by
  cases t with
  | some t => simpa [boundMembers] using fits_int (h t rfl) n
  | none =>
      cases form with
      | omitted => simp [boundMembers, AbsentForm.members]
      | null => simpa [boundMembers, AbsentForm.members] using Fits.null n

lemma fits_interval {form : IntervalForm} {start stop : Option Int} (hs : ∀ i ∈ start, IsShort i)
    (he : ∀ i ∈ stop, IsShort i) (n : Nat) :
    ∀ m ∈ Published.intervalMembers form start stop, Fits limits (n + 1) m.2 := by
  have hbounds : ∀ m ∈ boundMembers "start_inclusive" form.start start ++
      boundMembers "end_exclusive" form.stop stop, Fits limits n m.2 := by
    intro m hm
    rcases List.mem_append.mp hm with hm | hm
    · exact fits_bound hs n m hm
    · exact fits_bound he n m hm
  rw [Published.intervalMembers.eq_def]
  split
  · rename_i absent _
    cases absent with
    | omitted => simp [AbsentForm.members]
    | null => simpa [AbsentForm.members] using (Fits.null (n + 1) : Fits limits (n + 1) .null)
  · simpa using Fits.record hbounds

lemma fits_log {form : IntervalForm} {e : Entry} (h : ∀ i ∈ e.integers, IsShort i) (n : Nat) :
    Fits limits (n + 3) (e.published.write form) := by
  have hdelay : IsShort e.mergeDelay := h _ (by simp [Entry.integers])
  have hsince : IsShort e.since := h _ (by simp [Entry.integers])
  have hstart : ∀ i ∈ e.interval.start, IsShort i := fun i hi => h i (by
    simp [Entry.integers, Option.mem_def.mp hi])
  have hstop : ∀ i ∈ e.interval.stop, IsShort i := fun i hi => h i (by
    simp [Entry.integers, Option.mem_def.mp hi])
  have hstate : Fits limits (n + 2)
      (.record [(e.status.text, .record [("timestamp", .int e.since)])]) :=
    .record (by simpa using Fits.record (by simpa using fits_int hsince n))
  refine .record fun m hm => ?_
  rcases List.mem_append.mp hm with hm | hm
  · simp only [List.mem_cons, List.not_mem_nil, or_false] at hm
    rcases hm with rfl | rfl | rfl | rfl | rfl | rfl
    · exact .text _ _
    · exact .text _ _
    · exact .text _ _
    · exact .text _ _
    · exact fits_int hdelay _
    · exact hstate
  · exact fits_interval hstart hstop (n + 1) m hm

lemma fits_operator {form : Nat → IntervalForm} {o : KnownLogs.Operator}
    (h : ∀ e ∈ o.logs, ∀ i ∈ e.integers, IsShort i) (n : Nat) :
    Fits limits (n + 5) (o.published.write form) := by
  have hlogs : Fits limits (n + 4)
      (.list (o.published.logs.mapIdx fun i l => l.write (form i))) := by
    refine .list fun v hv => ?_
    obtain ⟨i, hi, rfl⟩ := List.mem_mapIdx.mp hv
    obtain ⟨e, he, heq⟩ := List.mem_map.mp (List.getElem_mem hi)
    rw [← heq]
    exact fits_log (h e he) n
  have hemails : Fits limits (n + 4) (.list (o.published.emails.map .text)) := by
    refine .list fun v hv => ?_
    obtain ⟨s, -, rfl⟩ := List.mem_map.mp hv
    exact .text _ s
  refine .record fun m hm => ?_
  simp only [List.mem_cons, List.not_mem_nil, or_false] at hm
  rcases hm with rfl | rfl | rfl
  · exact .text _ _
  · exact hemails
  · exact hlogs

/-- **What is written for a document** is within the limits of reading, if its integers are. -/
lemma fits_write (form : Nat → Nat → IntervalForm) {d : Document}
    (h : ∀ i ∈ d.integers, IsShort i) :
    Fits limits limits.depth (d.published.write form) := by
  have htimestamp : IsShort d.timestamp := h _ List.mem_cons_self
  have hoperators : Fits limits 199
      (.list (d.published.operators.mapIdx fun i o => o.write (form i))) := by
    refine .list fun v hv => ?_
    obtain ⟨i, hi, rfl⟩ := List.mem_mapIdx.mp hv
    obtain ⟨o, ho, heq⟩ := List.mem_map.mp (List.getElem_mem hi)
    rw [← heq]
    refine fits_operator (fun e he j hj => h j (List.mem_cons_of_mem _ ?_)) 193
    exact List.mem_flatMap.mpr ⟨o, ho, List.mem_flatMap.mpr ⟨e, he, hj⟩⟩
  refine .record (n := 199) fun m hm => ?_
  simp only [List.mem_cons, List.not_mem_nil, or_false] at hm
  rcases hm with rfl | rfl | rfl
  · exact .text _ _
  · exact fits_int htimestamp _
  · exact hoperators

/-! ### Reading back -/

/-- **Reading undoes publishing.** Any text of any value that is written for a document is read
back as this document, whichever way its intervals, its characters and its blanks are written. -/
theorem parse_publish {decoder : KeyDecoder} {d : Document}
    (hname : ∀ o ∈ d.operators, o.name ≠ "") (ha : d.IsAuthentic decoder)
    (hi : ∀ i ∈ d.integers, i.natAbs < 10 ^ limits.digits) (form : Nat → Nat → IntervalForm) :
    (∀ cs, Json.IsText (d.published.write form) cs →
        (parse decoder (Utf8.encodeChars cs)).result = .ok (.success d)) ∧
      (parse decoder (d.publish form)).result = .ok (.success d) := by
  have hfits := fits_write form hi
  -- any text of the value is read as the value, and this as the list it was written for
  have hread : ∀ cs, Json.IsText (d.published.write form) cs →
      (parse decoder (Utf8.encodeChars cs)).result = .ok (.success d) := by
    intro cs hcs
    have hjson : json? (Utf8.encodeChars cs) = some (d.published.write form) := by
      rw [json?, Utf8.decode?_encodeChars, Option.bind_some]
      exact Json.read?_of_isText hfits hcs
    exact parse_success.mpr
      ⟨published_valid.mpr ⟨_, hjson, Published.isLogList_write form hname⟩, ha⟩
  refine ⟨hread, ?_⟩
  have hpublish : d.publish form = Utf8.encodeChars (Json.writeChars (d.published.write form)) := by
    rw [Document.publish, Utf8.encode, Json.write, String.toList_ofList]
  rw [hpublish]
  exact hread _ (Json.isText_writeChars hfits)

/-- A log of one key byte that retired before the epoch, with an interval that ends. -/
def retiredEntry : Entry where
  logId := Sha256.digest [1]
  keyBytes := [1]
  publicKey := ⟨"key"⟩
  description := "\"\n"
  url := "u"
  operator := "\u00e5"
  status := .retired
  since := -5
  interval := ⟨none, some 7, by simp⟩
  mergeDelay := 0
  keyBytes_ne_nil := by decide
  length_logId := Sha256.length_digest _
  description_ne_empty := by decide
  url_ne_empty := by decide
  operator_ne_empty := by decide
  mergeDelay_nonneg := by decide

/-- A document that lists this log twice. -/
def retiredDocument : Document where
  version := ""
  timestamp := 3
  operators := [{ name := "\u00e5", emails := ["b"], logs := [retiredEntry, retiredEntry] }]

/-- It is read back, its absent bound once omitted and once written as null. -/
theorem parse_publish_of_retiredDocument :
    retiredDocument.IsAuthentic easyDecoder ∧
      (∀ i ∈ retiredDocument.integers, i.natAbs < 10 ^ limits.digits) ∧
      (parse easyDecoder (retiredDocument.publish fun _ j =>
        if j = 0 then {} else { start := .null })).result = .ok (.success retiredDocument) := by
  have hname : ∀ o ∈ retiredDocument.operators, o.name ≠ "" := by decide
  have hauthentic : retiredEntry.IsAuthentic easyDecoder "\u00e5" := ⟨rfl, rfl, rfl⟩
  have ha : retiredDocument.IsAuthentic easyDecoder := by
    simp only [Document.IsAuthentic, retiredDocument, List.forall_mem_cons]
    exact ⟨⟨hauthentic, hauthentic, by simp⟩, by simp⟩
  have hi : ∀ i ∈ retiredDocument.integers, i.natAbs < 10 ^ limits.digits := by
    have hsmall : ∀ i ∈ retiredDocument.integers, i.natAbs < 10 := by decide
    intro i hmem
    exact Nat.lt_of_lt_of_le (hsmall i hmem) (Nat.le_self_pow (by decide) 10)
  exact ⟨ha, hi, (parse_publish hname ha hi _).2⟩

end LogList

end KnownLogs
