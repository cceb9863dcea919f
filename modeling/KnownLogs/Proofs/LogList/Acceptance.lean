/-
Which bytes are accepted as a log list:

* `Published.Log.IsVerified`: what a log must satisfy beyond its form;
* `LogList.exists_document`: verified logs make a document;
* `LogList.parse_of_not_success`: other bytes are a failure, whatever the decoder raises;
* `LogList.parse_iff`: **bytes are accepted** whenever they are the text of a value of the
  published form whose logs are verified, and the document holds what was published.
-/
import KnownLogs.Proofs.LogList.Format
import KnownLogs.Proofs.LogList.Parsing

namespace KnownLogs

open Json (IsRecord)
open Published (IsLogList)

/-! ### Verified logs -/

/-- What a log must satisfy beyond its form: its id is the digest of its key, which is not empty
and which the decoder makes a handle of, and there is something between its bounds. -/
structure Published.Log.IsVerified (decoder : KeyDecoder) (l : Published.Log) : Prop where
  digest_key : Sha256.digest l.key = l.logId
  key_ne_nil : l.key ≠ []
  exists_handle : ∃ handle, decoder l.key = .ok (some handle)
  start_lt_stop : ∀ s ∈ l.start, ∀ e ∈ l.stop, s < e

variable {decoder : KeyDecoder}

lemma Entry.IsAuthentic.isVerified {operator : String} {e : Entry}
    (h : e.IsAuthentic decoder operator) : e.published.IsVerified decoder where
  digest_key := h.logId_eq.symm
  key_ne_nil := e.keyBytes_ne_nil
  exists_handle := ⟨e.publicKey, h.decoder_eq⟩
  start_lt_stop := e.interval.start_lt_stop

/-- What is in order on every item of a list makes a list. -/
lemma exists_map_eq {α β : Type} {f : α → β} {p : α → Prop} {bs : List β}
    (h : ∀ b ∈ bs, ∃ a, f a = b ∧ p a) : ∃ as : List α, as.map f = bs ∧ ∀ a ∈ as, p a := by
  induction bs with
  | nil => exact ⟨[], rfl, by simp⟩
  | cons b bs ih =>
      obtain ⟨⟨a, rfl, ha⟩, hrest⟩ := List.forall_mem_cons.mp h
      obtain ⟨as, rfl, has⟩ := ih hrest
      exact ⟨a :: as, rfl, List.forall_mem_cons.mpr ⟨ha, has⟩⟩

/-! ### Ordinary faults -/

/-- Whether only ordinary faults can end a computation. -/
def Call.IsOrdinary {α : Type} (x : Call α) : Prop :=
  ∀ f, x.result = .error f → f.isOrdinary = true

/-- Whether only ordinary faults come from a decoder. -/
def KeyDecoder.IsOrdinary (decoder : KeyDecoder) : Prop :=
  ∀ key f, decoder key = .error f → f.isOrdinary = true

namespace Call

variable {α β ε : Type}

lemma isOrdinary_bind {x : Call α} {f : α → Call β} (hx : x.IsOrdinary)
    (hf : ∀ a, (f a).IsOrdinary) : (x >>= f).IsOrdinary := by
  intro e h
  change (x.bind f).result = .error e at h
  rw [bind] at h
  cases hr : x.result with
  | ok a =>
      rw [hr] at h
      exact hf a e h
  | error e' =>
      rw [hr] at h
      cases h
      exact hx e hr

lemma isOrdinary_of_ok {x : Call α} {a : α} (h : x.result = .ok a) : x.IsOrdinary := by
  intro f hf
  rw [h] at hf
  cases hf

lemma isOrdinary_fail {f : Fault} (h : f.isOrdinary = true) : (fail f : Call α).IsOrdinary := by
  intro e he
  cases he
  exact h

lemma isOrdinary_ofExcept {toFault : ε → Fault} {x : Except ε α}
    (h : ∀ p, x = .error p → (toFault p).isOrdinary = true) :
    (ofExcept toFault x).IsOrdinary := by
  intro f hf
  cases x with
  | ok a => cases hf
  | error p =>
      cases hf
      exact h p rfl

end Call

namespace LogList

/-! ### Documents of verified logs -/

/-- A verified log of the published form is the published form of an authentic entry. -/
lemma exists_entry {operator : String} (ho : operator ≠ "") {members : List (String × Json)}
    {l : Published.Log} (hl : Published.IsLog members l) (hv : l.IsVerified decoder) :
    ∃ e : Entry, e.published = l ∧ e.IsAuthentic decoder operator := by
  obtain ⟨handle, hhandle⟩ := hv.exists_handle
  refine ⟨{ logId := l.logId
            keyBytes := l.key
            publicKey := handle
            description := l.description
            url := l.url
            operator := operator
            status := l.status
            since := l.since
            interval := ⟨l.start, l.stop, hv.start_lt_stop⟩
            mergeDelay := l.mergeDelay
            keyBytes_ne_nil := hv.key_ne_nil
            length_logId := by rw [← hv.digest_key]; exact Sha256.length_digest _
            description_ne_empty := hl.description_ne_empty
            url_ne_empty := hl.url_ne_empty
            operator_ne_empty := ho
            mergeDelay_nonneg := hl.mergeDelay_nonneg }, rfl, ?_⟩
  exact ⟨rfl, hv.digest_key.symm, hhandle⟩

lemma exists_operator {members : List (String × Json)} {o : Published.Operator}
    (ho : Published.IsOperator members o) (hv : ∀ l ∈ o.logs, l.IsVerified decoder) :
    ∃ p : Operator, p.published = o ∧ ∀ e ∈ p.logs, e.IsAuthentic decoder p.name := by
  obtain ⟨items, -, hitems⟩ := ho.logs
  have hentries : ∀ l ∈ o.logs, ∃ e : Entry, e.published = l ∧ e.IsAuthentic decoder o.name := by
    intro l hl
    obtain ⟨_, -, _, -, hform⟩ := Published.exists_of_mem hitems hl
    exact exists_entry ho.name_ne_empty hform (hv l hl)
  obtain ⟨es, hes, ha⟩ := exists_map_eq hentries
  exact ⟨⟨o.name, o.emails, es⟩, by rw [Operator.published, hes], ha⟩

/-- **Verified logs make a document.** -/
lemma exists_document {v : Json} {l : Published.LogList} (hl : IsRecord IsLogList v l)
    (hv : ∀ o ∈ l.operators, ∀ g ∈ o.logs, g.IsVerified decoder) :
    ∃ d : Document, d.published = l ∧ d.IsAuthentic decoder := by
  obtain ⟨_, -, hform⟩ := hl
  obtain ⟨items, -, hitems⟩ := hform.operators
  have hoperators : ∀ o ∈ l.operators,
      ∃ p : Operator, p.published = o ∧ ∀ e ∈ p.logs, e.IsAuthentic decoder p.name := by
    intro o ho
    obtain ⟨_, -, _, -, hform⟩ := Published.exists_of_mem hitems ho
    exact exists_operator hform (hv o ho)
  obtain ⟨ps, hps, ha⟩ := exists_map_eq hoperators
  exact ⟨⟨l.version, l.timestamp, ps⟩, by rw [Document.published, hps], ha⟩

/-- The list of an authentic document has verified logs. -/
lemma isVerified_of_isAuthentic {d : Document} (h : d.IsAuthentic decoder) :
    ∀ o ∈ d.published.operators, ∀ g ∈ o.logs, g.IsVerified decoder := by
  intro o ho g hg
  obtain ⟨p, hp, rfl⟩ := List.mem_map.mp ho
  obtain ⟨e, he, rfl⟩ := List.mem_map.mp hg
  exact (h p hp e he).isVerified

/-! ### Bytes -/

/-- The list that bytes hold is that of the value that they are the text of. -/
lemma published_valid {raw : Bytes} {l : Published.LogList} :
    published raw = .valid l ↔ ∃ v, json? raw = some v ∧ IsRecord IsLogList v l := by
  rw [published]
  cases h : json? raw with
  | none => simp
  | some v =>
      obtain ⟨cs, -, hread⟩ := Option.bind_eq_some_iff.mp h
      simp [Published.read_valid (Json.isWhole_read rfl hread)]

section Ordinary

variable (hd : decoder.IsOrdinary)
include hd

lemma isOrdinary_entry (operator : String) (l : Published.Log) :
    (entry decoder operator l).IsOrdinary := by
  rw [entry]
  split_ifs
  · exact Call.isOrdinary_fail rfl
  · refine Call.isOrdinary_bind (Call.isOrdinary_of_ok rfl) fun _ => ?_
    refine Call.isOrdinary_bind (Call.isOrdinary_ofExcept fun f hf => hd _ f hf) fun _ => ?_
    refine Call.isOrdinary_bind (Call.isOrdinary_ofExcept fun _ _ => rfl) fun _ => ?_
    exact Call.isOrdinary_ofExcept fun _ _ => rfl

lemma isOrdinary_entries (operator : String) (ls : List Published.Log) :
    (entries decoder operator ls).IsOrdinary := by
  induction ls with
  | nil => exact Call.isOrdinary_of_ok rfl
  | cons l ls ih =>
      refine Call.isOrdinary_bind (isOrdinary_entry hd operator l) fun _ => ?_
      exact Call.isOrdinary_bind ih fun _ => Call.isOrdinary_of_ok rfl

lemma isOrdinary_operators (os : List Published.Operator) :
    (operators decoder os).IsOrdinary := by
  induction os with
  | nil => exact Call.isOrdinary_of_ok rfl
  | cons o os ih =>
      refine Call.isOrdinary_bind (isOrdinary_entries hd o.name o.logs) fun _ => ?_
      exact Call.isOrdinary_bind ih fun _ => Call.isOrdinary_of_ok rfl

lemma isOrdinary_read (raw : Bytes) : (read decoder raw).IsOrdinary := by
  rw [read]
  split
  · exact Call.isOrdinary_fail rfl
  · refine Call.isOrdinary_bind ?_ fun _ => ?_
    · exact Call.isOrdinary_bind (isOrdinary_operators hd _) fun _ => Call.isOrdinary_of_ok rfl
    · exact Call.isOrdinary_bind (Call.isOrdinary_of_ok rfl) fun _ => Call.isOrdinary_of_ok rfl

/-- **Bytes that are no document are a failure of parsing**, whatever the decoder raises as long
as it is ordinary. -/
lemma parse_of_not_success {raw : Bytes}
    (h : ∀ d, (parse decoder raw).result ≠ .ok (.success d)) :
    ∃ f, (parse decoder raw).result = .ok (.failure f) ∧ f.code = .parse := by
  have hread : (some <$> read decoder raw).IsOrdinary :=
    Call.isOrdinary_bind (isOrdinary_read hd raw) fun _ => Call.isOrdinary_of_ok rfl
  obtain ⟨o, ho⟩ := Outcome.capture_of_ordinary hread
  cases o with
  | success d => exact absurd ho (h d)
  | failure f => exact ⟨f, ho, parse_failure ho⟩

end Ordinary

/-- **Bytes are accepted** whenever they are the text of a value of the published form whose
logs are verified. The document then has the members that were published, every entry the name
of its operator and the handle of its key. All other bytes are a failure of parsing. -/
theorem parse_iff (hd : decoder.IsOrdinary) (raw : Bytes) :
    ((∃ d, (parse decoder raw).result = .ok (.success d)) ↔
      ∃ v l, json? raw = some v ∧ IsRecord IsLogList v l ∧
        ∀ o ∈ l.operators, ∀ g ∈ o.logs, g.IsVerified decoder) ∧
    (∀ d, (parse decoder raw).result = .ok (.success d) →
      (∃ v, json? raw = some v ∧ IsRecord IsLogList v d.published) ∧
        ∀ o ∈ d.operators, ∀ e ∈ o.logs, e.operator = o.name ∧
          e.logId = Sha256.digest e.keyBytes ∧ decoder e.keyBytes = .ok (some e.publicKey)) ∧
    ((∀ d, (parse decoder raw).result ≠ .ok (.success d)) →
      ∃ f, (parse decoder raw).result = .ok (.failure f) ∧ f.code = .parse) := by
  refine ⟨⟨?_, ?_⟩, ?_, parse_of_not_success hd⟩
  · rintro ⟨d, h⟩
    obtain ⟨hpub, ha⟩ := parse_success.mp h
    obtain ⟨v, hv, hl⟩ := published_valid.mp hpub
    exact ⟨v, d.published, hv, hl, isVerified_of_isAuthentic ha⟩
  · rintro ⟨v, l, hv, hl, hverified⟩
    -- the document is built from the members, and read again it is the same
    obtain ⟨d, rfl, ha⟩ := exists_document hl hverified
    exact ⟨d, parse_success.mpr ⟨published_valid.mpr ⟨v, hv, hl⟩, ha⟩⟩
  · intro d h
    obtain ⟨hpub, ha⟩ := parse_success.mp h
    refine ⟨published_valid.mp hpub, fun o ho e he => ?_⟩
    have := ha o ho e he
    exact ⟨this.operator_eq, this.logId_eq, this.decoder_eq⟩

/-- The bytes of a log list with a repeated version, integers in other forms, a status named
twice, and a given interval. -/
def looseList (interval : String) : Bytes :=
  ["\x7b\"version\":0,\"version\":\"1\",\"log_list_timestamp\":\"+5\",",
    "\"operators\":[\x7b\"name\":\"a\",\"email\":[\"b\"],\"logs\":[",
    "\x7b\"description\":\"d\",\"url\":\"u\",\"mmd\":true,\"key\":\"AQ==\",",
    "\"log_id\":\"S/USLzRFVMU73i67jNK349FgCtYxw4Wl18ziPHeFRZo=\",",
    "\"state\":\x7b\"usable\":\x7b\"timestamp\":1\x7d,\"usable\":\x7b\"timestamp\":2.0\x7d\x7d,",
    "\"temporal_interval\":", interval, "\x7d]\x7d]\x7d"].flatMap Utf8.encode

/-- What such a list holds, with the bounds of the interval. -/
def looseMembers (start stop : Option Int) : Published.LogList where
  version := "1"
  timestamp := 5
  operators := [{ name := "a", emails := ["b"], logs := [
    { description := "d", logId := Sha256.digest [1], key := [1], url := "u", mergeDelay := 1,
      status := .usable, since := 2, start, stop }] }]

/-- A decoder that accepts every key. -/
def easyDecoder : KeyDecoder := fun _ => .ok (some ⟨"key"⟩)

/-- Such a list is accepted with one bound absent and the other null, and refused with two
bounds between which there is nothing. -/
theorem parse_iff_of_looseList :
    easyDecoder.IsOrdinary ∧
      (∃ d, (parse easyDecoder (looseList "\x7b\"end_exclusive\":null\x7d")).result =
        .ok (.success d)) ∧
      ∃ f, (parse easyDecoder
          (looseList "\x7b\"start_inclusive\":7,\"end_exclusive\":\"7\"\x7d")).result =
        .ok (.failure f) ∧ f.code = .parse := by
  have hd : easyDecoder.IsOrdinary := by
    intro key f h
    cases h
  have hopen : published (looseList "\x7b\"end_exclusive\":null\x7d") =
      .valid (looseMembers none none) := by
    decide +kernel
  have hempty : published
      (looseList "\x7b\"start_inclusive\":7,\"end_exclusive\":\"7\"\x7d") =
        .valid (looseMembers (some 7) (some 7)) := by
    decide +kernel
  refine ⟨hd, (parse_iff hd _).1.mpr ?_, (parse_iff hd _).2.2 fun d h => ?_⟩
  · obtain ⟨v, hv, hl⟩ := published_valid.mp hopen
    refine ⟨v, _, hv, hl, ?_⟩
    simp only [looseMembers, List.forall_mem_singleton]
    exact ⟨rfl, by simp, ⟨_, rfl⟩, by simp⟩
  · obtain ⟨hpub, ha⟩ := parse_success.mp h
    have hl := isVerified_of_isAuthentic ha
    rw [← Schema.Validated.valid.inj (hempty.symm.trans hpub)] at hl
    simp only [looseMembers, List.forall_mem_singleton] at hl
    exact absurd (hl.start_lt_stop 7 rfl 7 rfl) (by omega)

end LogList

end KnownLogs
