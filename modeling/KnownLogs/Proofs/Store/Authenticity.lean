/-
The logs that a store serves:

* `Entry.IsSoundIn`: what holds of an entry that a document vouches for;
* `View.find?_eq_some`, `View.mem_logs`: the entries that a reader gets;
* `Store.Gives`: an answer, given from outside or to a collaborator;
* `Store.isAuthentic_live`: a published document is authentic;
* `Store.answers_agree`: two answers without an attempt in between are from one snapshot;
* `Store.authentic_live`: **every entry that is served is sound**, and the two ways to ask for
  entries agree.
-/
import KnownLogs.Log.Creation
import KnownLogs.Proofs.Log.Index
import KnownLogs.Proofs.Store.History

namespace KnownLogs

/-! ### Sound entries -/

/-- What holds of an entry that a document vouches for: its id is the digest of its key, its
key handle is what the decoder makes of the key, its fields are in order, an operator of the
document lists it under its name, and building it anew from its fields gives it again. -/
structure Entry.IsSoundIn (decoder : KeyDecoder) (d : Document) (e : Entry) : Prop where
  length_logId : e.logId.length = 32
  logId_eq : e.logId = Sha256.digest e.keyBytes
  decoder_eq : decoder e.keyBytes = .ok (some e.publicKey)
  description_ne_empty : e.description ≠ ""
  url_ne_empty : e.url ≠ ""
  operator_ne_empty : e.operator ≠ ""
  mergeDelay_nonneg : 0 ≤ e.mergeDelay
  interval_nonempty : ∃ t, e.interval.contains t = true
  listed : ∃ o ∈ d.operators, e ∈ o.logs ∧ e.operator = o.name
  createOutcome_eq : (createOutcome e.draft).result = .ok (.success e)

/-- An entry whose id is the digest of its key is what its fields build. -/
lemma Entry.createOutcome_draft {e : Entry} (h : e.logId = logIdOf e.keyBytes) :
    (createOutcome e.draft).result = .ok (.success e) := by
  have hd : { e.draft with logId := logIdOf e.draft.keyBytes } = e.draft := by
    rw [← show e.draft.logId = logIdOf e.draft.keyBytes from h]
  rw [createOutcome, create, hd, check_draft, Outcome.capture_success]
  rfl

/-- The entries that can be found in an authentic document are sound. -/
lemma Document.IsAuthentic.isSoundIn {decoder : KeyDecoder} {d : Document} {e : Entry}
    (hd : d.IsAuthentic decoder) (he : e ∈ d.logs) : e.IsSoundIn decoder d := by
  obtain ⟨name, hl⟩ := mem_listings_of_mem_logs he
  obtain ⟨o, ho, heo, -⟩ := mem_listings.mp hl
  have ha := hd o ho e heo
  exact
    { length_logId := e.length_logId
      logId_eq := ha.logId_eq
      decoder_eq := ha.decoder_eq
      description_ne_empty := e.description_ne_empty
      url_ne_empty := e.url_ne_empty
      operator_ne_empty := e.operator_ne_empty
      mergeDelay_nonneg := e.mergeDelay_nonneg
      interval_nonempty := e.interval.exists_contains
      listed := ⟨o, ho, heo, ha.operator_eq⟩
      createOutcome_eq := Entry.createOutcome_draft ha.logId_eq }

/-! ### What a reader gets -/

namespace View

variable {v : View} {e : Entry}

lemma mem_logs : e ∈ v.logs ↔ ∃ d, v.document = some d ∧ e ∈ d.logs := by
  cases h : v.document with
  | none => simp [logs, h]
  | some d => simp [logs, h]

lemma nodup_logs (v : View) : (v.logs.map Entry.logId).Nodup := by
  cases h : v.document with
  | none => simp [logs, h]
  | some d => simpa [logs, h] using d.nodup_logs

/-- A reader gets an entry for its id, if it is one of the entries that can be found. -/
lemma find?_eq_some {id : Option Bytes} : v.find? id = some e ↔ e ∈ v.logs ∧ id = some e.logId := by
  have hne : e.logId ≠ [] := fun h => by simpa [h, logIdLength] using e.length_logId
  rw [mem_logs]
  cases id with
  | none => simp [find?]
  | some id =>
      cases id with
      | nil => simp [find?, hne.symm]
      | cons b bs =>
          simp only [find?, Option.bind_eq_some_iff, Document.find?_eq_some, Option.some.injEq,
            ← and_assoc, exists_and_right]
          exact and_congr_right fun _ => eq_comm

end View

namespace Store

/-! ### Answers -/

/-- A store gives an answer and is another one then: it is asked from outside, or by a
collaborator while an attempt is going on. -/
def Gives (s : Store) (q : Query) (a : q.Answer) (t : Store) : Prop :=
  s.answer q = (.value a, t) ∨ s.answerDuring q = (.value a, t)

variable {s t : Store}

lemma live_append (s : Store) (xs ys : List Happening) :
    s.live (xs ++ ys) = (s.live xs).live ys :=
  List.foldl_append

lemma live_ask (s : Store) (es : List Happening) (q : Query) :
    s.live (es ++ [.ask q]) = ((s.live es).answer q).2 := by
  rw [live_append]
  rfl

/-- An answer together with the store that is there then. -/
lemma answer_eq {q : Query} {a : q.Answer} (h : (s.answer q).1 = .value a) :
    s.answer q = (.value a, (s.answer q).2) := by
  rw [← h]

/-- An answer is that of a snapshot of the run. -/
lemma gives_live (hs : s.snapshot.IsCoherent) {es : List Happening} {q : Query} {a : q.Answer}
    (h : (s.live es).Gives q a t) :
    a = q.answer t.snapshot ∧ ∃ es', t.snapshot = (s.live es').snapshot := by
  have hc := isCoherent_live hs es
  rcases h with h | h
  · refine ⟨?_, es ++ [.ask q], by rw [live_ask, h]⟩
    have := answer_value hc (a := a) (by rw [h])
    rwa [h] at this
  · obtain ⟨c, hd⟩ := answerDuring_eq hc q
    rw [h] at hd
    obtain ⟨hr, rfl⟩ := Prod.mk.inj hd
    refine ⟨?_, es, rfl⟩
    rw [Snapshot.reply] at hr
    split_ifs at hr
    exact Ending.value.inj hr

/-- Two answers from outside without a completed attempt in between are from one snapshot. -/
lemma answers_agree (hs : s.snapshot.IsCoherent) {q r : Query} {a : q.Answer} {b : r.Answer}
    {between : List Happening} (ha : s.answer q = (.value a, t))
    (hn : t.attempts (between ++ [.ask r]) = []) (hb : ((t.live between).answer r).1 = .value b) :
    a = q.answer t.snapshot ∧ b = r.answer t.snapshot := by
  have hq := answer_value hs (a := a) (by rw [ha])
  have ht := isCoherent_after hs (.ask q)
  rw [after] at ht
  rw [ha] at hq ht
  -- nothing has been published since the first answer
  have hr := answer_value (isCoherent_live ht between) hb
  rw [← live_ask, snapshot_eq ht, hn] at hr
  exact ⟨hq, hr⟩

/-! ### Authentic documents -/

variable {source : Option (Call (Outcome Bytes))} {decoder : KeyDecoder}
  {policy : Option CompliancePolicy} {sink : Option MetricsSink} {clock : Clock} {interval : Int}

/-- A document that is published over a run is authentic: it was made of bytes by the parser. -/
lemma isAuthentic_live
    (h : Store.build source (some (LogList.parse decoder)) policy sink clock interval = .ok s)
    (es : List Happening) {d : Document} (hd : (s.live es).snapshot.document = some d) :
    d.IsAuthentic decoder := by
  obtain ⟨hp, -, hi, -, -⟩ := build_ok h
  have hs := isCoherent_build h
  rw [snapshot_eq hs, hi] at hd
  -- the published document is that of the last attempt, whose parser made it
  cases hl : (s.attempts es).getLast? with
  | none =>
      rw [hl] at hd
      cases hd
  | some a =>
      have hf := attempts_fit hs es a (List.mem_of_getLast? hl)
      rw [hl, Option.map_some, Option.getD_some, Attempt.snapshot] at hd
      split at hd
      · cases hd
      · cases hd
      · rename_i raw d' v hfind
        cases hd
        rw [hfind, Finding.Fits, hp] at hf
        exact (LogList.parse_success.mp hf).2

/-- **Every entry that a store of log lists serves is sound** in the document that is published
then, whether it is asked for by its id or comes with all entries, and whoever asks; the ids of
all entries are different. Without a completed attempt in between, in either order, an entry is
found under an id if and only if it is the one of all entries with this id. -/
theorem authentic_live
    (h : Store.build source (some (LogList.parse decoder)) policy sink clock interval = .ok s)
    (es : List Happening) :
    (∀ id e t, (s.live es).Gives (.find id) (some e) t →
      id = some e.logId ∧ ∃ d, t.snapshot.document = some d ∧ e.IsSoundIn decoder d) ∧
    (∀ (entries : List Entry) t, (s.live es).Gives .logs entries t →
      (∀ e ∈ entries, ∃ d, t.snapshot.document = some d ∧ e.IsSoundIn decoder d) ∧
        (entries.map Entry.logId).Nodup) ∧
    (∀ (entries : List Entry) t between id found, (s.live es).answer .logs = (.value entries, t) →
      t.attempts (between ++ [.ask (.find id)]) = [] →
      ((t.live between).answer (.find id)).1 = .value found →
      ∀ e, found = some e ↔ e ∈ entries ∧ id = some e.logId) ∧
    (∀ found t between id (entries : List Entry),
      (s.live es).answer (.find id) = (.value found, t) →
      t.attempts (between ++ [.ask .logs]) = [] →
      ((t.live between).answer .logs).1 = .value entries →
      ∀ e, found = some e ↔ e ∈ entries ∧ id = some e.logId) := by
  have hs := isCoherent_build h
  have hsound : ∀ es' e, e ∈ (s.live es').snapshot.view.logs →
      ∃ d, (s.live es').snapshot.document = some d ∧ e.IsSoundIn decoder d := by
    intro es' e he
    obtain ⟨d, hd, hed⟩ := View.mem_logs.mp he
    exact ⟨d, hd, (isAuthentic_live h es' hd).isSoundIn hed⟩
  -- every answer is that of a snapshot of the run, whoever asked
  refine ⟨fun id e t hg => ?_, fun entries t hg => ?_, ?_, ?_⟩
  · obtain ⟨hq, es', ht⟩ := gives_live hs hg
    obtain ⟨he, hid⟩ := View.find?_eq_some.mp hq.symm
    rw [ht] at he ⊢
    exact ⟨hid, hsound es' e he⟩
  · obtain ⟨rfl, es', ht⟩ := gives_live hs hg
    rw [ht]
    exact ⟨hsound es', View.nodup_logs _⟩
  · intro entries t between id found ha hn hb e
    obtain ⟨rfl, rfl⟩ := answers_agree (isCoherent_live hs es) ha hn hb
    exact View.find?_eq_some
  · intro found t between id entries ha hn hb e
    obtain ⟨rfl, rfl⟩ := answers_agree (isCoherent_live hs es) ha hn hb
    exact View.find?_eq_some

/-- The bytes of a log list in which two operators list the same log. -/
def sharedList : Bytes :=
  ["\x7b\"version\":\"1\",\"log_list_timestamp\":5,\"operators\":[",
    "\x7b\"name\":\"a\",\"email\":[],\"logs\":[",
    "\x7b\"description\":\"d\",\"url\":\"u\",\"mmd\":0,\"key\":\"AQ==\",",
    "\"log_id\":\"S/USLzRFVMU73i67jNK349FgCtYxw4Wl18ziPHeFRZo=\",",
    "\"state\":\x7b\"usable\":\x7b\"timestamp\":1\x7d\x7d\x7d]\x7d,",
    "\x7b\"name\":\"b\",\"email\":[],\"logs\":[",
    "\x7b\"description\":\"d\",\"url\":\"v\",\"mmd\":0,\"key\":\"AQ==\",",
    "\"log_id\":\"S/USLzRFVMU73i67jNK349FgCtYxw4Wl18ziPHeFRZo=\",",
    "\"state\":\x7b\"retired\":\x7b\"timestamp\":2\x7d\x7d\x7d]\x7d]\x7d"].flatMap Utf8.encode

/-- A store of that list, whose decoder accepts every key. -/
def sharedStore : Store where
  source := ⟨[], .ok (.success sharedList)⟩
  parser := LogList.parse fun _ => .ok (some ⟨"key"⟩)
  policy := fun _ => .fail .unreadableKey
  sink := .done ()
  clock := { now := 5 }
  interval := 10
  interval_pos := by decide

/-- Of two operators that list the same log, the last one's entry is found under the id, and is
sound. -/
theorem authentic_live_of_shared :
    Store.build (some ⟨[], .ok (.success sharedList)⟩)
        (some (LogList.parse fun _ => .ok (some ⟨"key"⟩))) (some fun _ => .fail .unreadableKey)
        (some (.done ())) { now := 5 } 10 = .ok sharedStore ∧
      ∃ e d t, (sharedStore.live [.ask .state]).answer (.find (some (Sha256.digest [1]))) =
          (.value (some e), t) ∧
        e.operator = "b" ∧ t.snapshot.document = some d ∧
        e.IsSoundIn (fun _ => .ok (some ⟨"key"⟩)) d := by
  have h : Store.build (some ⟨[], .ok (.success sharedList)⟩)
      (some (LogList.parse fun _ => .ok (some ⟨"key"⟩))) (some fun _ => .fail .unreadableKey)
      (some (.done ())) { now := 5 } 10 = .ok sharedStore := rfl
  have hfound : (((sharedStore.live [.ask .state]).answer
      (.find (some (Sha256.digest [1])))).1.value? : Option (Option Entry)).map
        (Option.map Entry.operator) = some (some "b") := by
    decide +kernel
  obtain ⟨_, hvalue, hmap⟩ := Option.map_eq_some_iff.mp hfound
  obtain ⟨e, rfl, ho⟩ := Option.map_eq_some_iff.mp hmap
  have he := Ending.value?_eq_some.mp hvalue
  have ha := answer_eq he
  obtain ⟨-, d, hd, hsound⟩ := (authentic_live h [.ask .state]).1 _ e _ (.inl ha)
  exact ⟨h, e, d, _, ha, ho, hd, hsound⟩

end Store

end KnownLogs
