/-
Log lists that are cut off:

* `Json.read?_append`: **a record ends where it is closed**: a text that goes on behind a record
  is read only if it goes on with blanks;
* `LogList.json?_append`: the same for bytes;
* `LogList.parse_of_unreadable`: bytes without a list are a failure of parsing, before any key is
  decoded;
* `LogList.parse_truncated`: **no part that an accepted list begins with is accepted**, unless
  blanks alone are cut off, and a store that reads such a part has no list to serve.
-/
import KnownLogs.Proofs.Bytes.Utf8
import KnownLogs.Proofs.LogList.Acceptance
import KnownLogs.Proofs.LogList.Faults
import KnownLogs.Proofs.Store.Containment

namespace KnownLogs

/-! ### Where a record ends -/

namespace Json

namespace Reader

variable {limits : Limits} {v : Json} {r : Reader}

/-- A number is no record. -/
lemma value?_ne_record (n : Numeral) (members : List (String × Json)) :
    n.value? limits ≠ some (.record members) := by
  intro h
  rw [Numeral.value?] at h
  split at h
  · cases h
  · split at h <;> cases h

/-- Behind a whole value only blanks can be read, and they change nothing. -/
lemma feed_nothing {cs : List Char} (h : feed limits ⟨[], .nothing v⟩ cs = some r) :
    (∀ c ∈ cs, isBlank c) ∧ r = ⟨[], .nothing v⟩ := by
  induction cs with
  | nil =>
      cases h
      exact ⟨by simp, rfl⟩
  | cons c cs ih =>
      rw [feed, List.foldlM_cons] at h
      obtain ⟨next, hnext, h⟩ := Option.bind_eq_some_iff.mp h
      have hsettled : settled ⟨[], .nothing v⟩ c = some next := hnext
      rw [settled] at hsettled
      split_ifs at hsettled with hc
      cases hsettled
      obtain ⟨hcs, hr⟩ := ih h
      exact ⟨List.forall_mem_cons.mpr ⟨hc, hcs⟩, hr⟩

/-- A text that ends with a record ends behind it. -/
lemma eq_nothing_of_finish {members : List (String × Json)}
    (h : r.finish? limits = some (.record members)) : r = ⟨[], .nothing (.record members)⟩ := by
  obtain ⟨waiting, next⟩ := r
  rw [finish?] at h
  split at h
  · rename_i w hwaiting hnext
    cases h
    exact congrArg₂ Reader.mk hwaiting hnext
  · exact absurd h (value?_ne_record _ members)
  · cases h

end Reader

/-- **A record ends where it is closed.** A text that goes on behind a record is read only if it
goes on with blanks. -/
theorem read?_append {limits : Limits} {cs ds : List Char} {members : List (String × Json)}
    {v : Json} (h : read? limits cs = some (.record members))
    (hv : read? limits (cs ++ ds) = some v) : ∀ c ∈ ds, Reader.isBlank c := by
  obtain ⟨r, hr, hfinish⟩ := Option.bind_eq_some_iff.mp h
  rw [Reader.eq_nothing_of_finish hfinish] at hr
  obtain ⟨r', hr', -⟩ := Option.bind_eq_some_iff.mp hv
  rw [Reader.feed_append, hr, Option.bind_some] at hr'
  exact (Reader.feed_nothing hr').1

end Json

namespace LogList

/-! ### Bytes that are cut off -/

/-- Bytes that go on behind a record hold a value only if they go on with blanks. -/
lemma json?_append {p s : Bytes} {members : List (String × Json)} {v : Json}
    (h : json? p = some (.record members)) (hv : json? (p ++ s) = some v) :
    ∀ b ∈ s, Utf8.IsBlank b := by
  obtain ⟨cs, hcs, hread⟩ := Option.bind_eq_some_iff.mp h
  obtain ⟨whole, hwhole, hread'⟩ := Option.bind_eq_some_iff.mp hv
  -- the text of the first part is read, so that what follows is a text of its own
  rw [Utf8.decode?_append hcs] at hwhole
  obtain ⟨ds, hds, rfl⟩ := Option.map_eq_some_iff.mp hwhole
  exact Utf8.isBlank_of_decode hds (Json.read?_append hread hread')

/-- A part that a list begins with is no list, unless blanks alone are cut off. -/
lemma published_truncated {p s : Bytes} {l : Published.LogList}
    (h : published (p ++ s) = .valid l) (hs : ∃ b ∈ s, ¬ Utf8.IsBlank b)
    (l' : Published.LogList) : published p ≠ .valid l' := by
  intro hp
  obtain ⟨v, hv, -⟩ := published_valid.mp h
  obtain ⟨_, hv', members, rfl, -⟩ := published_valid.mp hp
  obtain ⟨b, hb, hblank⟩ := hs
  exact hblank (json?_append hv' hv b hb)

/-- **Bytes without a list are a failure of parsing**, before any key is decoded. -/
lemma parse_of_unreadable {raw : Bytes} (h : ∀ l, published raw ≠ .valid l) :
    ∃ f, f.code = .parse ∧ ∀ decoder, parse decoder raw = .done (.failure f) := by
  cases hp : published raw with
  | valid l => exact absurd hp (h l)
  | invalid issues =>
      exact ⟨unreadable (.form "log list" issues), rfl, fun _ => parse_of_invalid hp⟩

end LogList

namespace Store

/-! ### Stores that read a part -/

variable {s : Store} {q : Query} {now : Int}

/-- The snapshot of bytes that are no list. -/
lemma snapshot_unparsed {raw : Bytes} {f : Failure} (hf : f.code = .parse) (now : Int) :
    (Attempt.mk now (.unparsed raw f)).snapshot =
      { state := .malformed, checkedAt := some now, digest := some (Sha256.digest raw) } := by
  have hstate : stateAfter f = .malformed := by
    rw [Store.stateAfter, hf]
    rfl
  simp only [Attempt.snapshot, hstate]

/-- An attempt that reads bytes without a list is completed, and leaves no list to serve. -/
lemma concludes_of_unreadable (hs : s.IsSound) (hb : s.beginsAt? q = some now) {raw : Bytes}
    {f : Failure} (hf : f.code = .parse) (hr : s.source.result = .ok (.success raw))
    (hp : (s.parser raw).result = .ok (.failure f)) :
    s.Concludes q ⟨now, .unparsed raw f⟩ ∧
      (s.answer q).2.snapshot =
        { state := .malformed, checkedAt := some now, digest := some (Sha256.digest raw) } ∧
      (s.answer q).2.Serves ⟨none⟩ := by
  have hdone : s.Concludes q ⟨now, .unparsed raw f⟩ :=
    concludes_of_finding hs.isCoherent hb (finding_of_parse_failure hr hp)
  have hsnapshot := hdone.snapshot.trans (snapshot_unparsed hf now)
  have hserves : (s.answer q).2.Serves (s.answer q).2.snapshot.view :=
    serves_of_checked (hs.answer q) (t := now) (by rw [hsnapshot])
  have hview : (s.answer q).2.snapshot.view = ⟨none⟩ := by rw [hsnapshot]; rfl
  exact ⟨hdone, hsnapshot, hview ▸ hserves⟩

end Store

namespace LogList

/-- **No part that an accepted list begins with is accepted**, unless blanks alone are cut off: it
is a failure of parsing, whatever the decoder does. A store whose attempt reads such a part has no
logs and no timestamp from then on until the next attempt is completed. -/
theorem parse_truncated {decoder : KeyDecoder} {raw p s : Bytes} {d : Document}
    (h : (parse decoder raw).result = .ok (.success d)) (hraw : raw = p ++ s)
    (hs : ∃ b ∈ s, ¬ Utf8.IsBlank b) :
    ∃ f, f.code = .parse ∧ (∀ decoder', parse decoder' p = .done (.failure f)) ∧
      ∀ (t : Store) (q : Query) (now : Int), t.Reachable → t.beginsAt? q = some now →
        t.source.result = .ok (.success p) → (∃ decoder', t.parser = parse decoder') →
          t.Concludes q ⟨now, .unparsed p f⟩ ∧
            (t.answer q).2.snapshot =
              { state := .malformed, document := none, checkedAt := some now,
                digest := some (Sha256.digest p) } ∧
            (t.answer q).2.snapshot.view.logs = [] ∧
            (t.answer q).2.snapshot.view.timestamp = none ∧
            (t.answer q).2.Serves ⟨none⟩ := by
  obtain ⟨hpublished, -⟩ := parse_success.mp h
  -- the part is not read as a list, which shows before any key is decoded
  obtain ⟨f, hcode, hf⟩ := parse_of_unreadable (published_truncated (hraw ▸ hpublished) hs)
  refine ⟨f, hcode, hf, fun t q now ht hb hr hparser => ?_⟩
  obtain ⟨decoder', hparser⟩ := hparser
  have hp : (t.parser p).result = .ok (.failure f) := by rw [hparser, hf]; rfl
  obtain ⟨hdone, hsnapshot, hserves⟩ := Store.concludes_of_unreadable ht.isSound hb hcode hr hp
  exact ⟨hdone, hsnapshot, by rw [hsnapshot]; rfl, by rw [hsnapshot]; rfl, hserves⟩

/-- The bytes of a list with one log. -/
def fullList : Bytes :=
  ["\x7b\"version\":\"1\",\"log_list_timestamp\":5,",
    "\"operators\":[\x7b\"name\":\"b\",\"email\":[],\"logs\":[",
    "\x7b\"description\":\"shard\",\"url\":\"https://shard/\",\"mmd\":60,\"key\":\"AQI=\",",
    "\"log_id\":\"oShx/uIQ+4YZKR6uoZRYHL0lMeSyN1nSJfaAaSP2MiI=\",",
    "\"state\":\x7b\"usable\":\x7b\"timestamp\":2\x7d\x7d\x7d]\x7d]\x7d"].flatMap Utf8.encode

/-- The log that they tell of. -/
def fullEntry : Entry where
  logId := Sha256.digest [1, 2]
  keyBytes := [1, 2]
  publicKey := ⟨"key"⟩
  description := "shard"
  url := "https://shard/"
  operator := "b"
  status := .usable
  since := 2
  interval := .unbounded
  mergeDelay := 60
  keyBytes_ne_nil := by decide
  length_logId := Sha256.length_digest _
  description_ne_empty := by decide
  url_ne_empty := by decide
  operator_ne_empty := by decide
  mergeDelay_nonneg := by decide

/-- What they hold. -/
def fullDocument : Document where
  version := "1"
  timestamp := 5
  operators := [{ name := "b", emails := [], logs := [fullEntry] }]

/-- A world whose source gives some bytes, at some time. -/
def tornWorld (raw : Bytes) (now : Int) : World where
  source := .done (.success raw)
  parser := parse easyDecoder
  policy := fun _ => .done (.bool true)
  sink := Sink.silent
  clock := { now }

/-- The list is loaded, and its log is served; then it is read without its last brace, and nothing
of it is left. -/
theorem parse_truncated_of_tornWorld :
    (parse easyDecoder fullList).result = .ok (.success fullDocument) ∧
      ∃ t : Store, t.Reachable ∧ t.snapshot.document = some fullDocument ∧
        t.snapshot.view.logs = [fullEntry] ∧
        t.beginsAt? .logs = some 40 ∧ t.source = .done (.success fullList.dropLast) ∧
        (t.answer .logs).2.snapshot.state = .malformed ∧
        (t.answer .logs).2.snapshot.document = none ∧
        (t.answer .logs).2.snapshot.view.logs = [] ∧
        (t.answer .logs).2.Serves ⟨none⟩ := by
  have hparse : (parse easyDecoder fullList).result = .ok (.success fullDocument) := by
    refine parse_success.mpr ⟨by decide +kernel, ?_⟩
    simp only [Document.IsAuthentic, fullDocument, List.forall_mem_singleton]
    exact ⟨rfl, rfl, rfl⟩
  have hraw : fullList = fullList.dropLast ++ [0x7d] := by decide +kernel
  obtain ⟨f, -, -, htorn⟩ := parse_truncated hparse hraw (by decide)
  obtain ⟨t, ht⟩ : ∃ t, t = ((Store.newIn (tornWorld fullList 7)).answer .state).2.inWorld
      (tornWorld fullList.dropLast 40) := ⟨_, rfl⟩
  have hr : t.Reachable := ht ▸ .moved _ (.asked .state (.newIn _))
  have hloaded : t.snapshot.document = some fullDocument ∧ t.beginsAt? .logs = some 40 := by
    rw [ht]
    decide +kernel
  obtain ⟨hdocument, hb⟩ := hloaded
  have hsource : t.source = .done (.success fullList.dropLast) := by rw [ht]; rfl
  have hparser : t.parser = parse easyDecoder := by rw [ht]; rfl
  have hlogs : t.snapshot.view.logs = [fullEntry] := by
    rw [View.logs, Snapshot.view, hdocument]
    decide +kernel
  -- the reload at 40 reads all but the last byte
  obtain ⟨-, hsnapshot, hnone, -, hserves⟩ :=
    htorn t .logs 40 hr hb (by rw [hsource]; rfl) ⟨_, hparser⟩
  exact ⟨hparse, t, hr, hdocument, hlogs, hb, hsource, by rw [hsnapshot], by rw [hsnapshot], hnone,
    hserves⟩

end LogList

end KnownLogs
