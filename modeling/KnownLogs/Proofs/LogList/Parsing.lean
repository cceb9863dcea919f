/-
What a log list that has been read holds:

* `Call.bind_ok`, `Outcome.capture_success`: when a computation has a result;
* `Entry.IsAuthentic`, `Document.IsAuthentic`: the id of a log is the digest of its key, and
  its key handle is what the decoder makes of the key;
* `LogList.entry_ok`: **when a published log is an entry**, and which one;
* `LogList.parse_success`: **when bytes are a document**, and which one;
* `LogList.parse_failure`: the failure of any other bytes.
-/
import Mathlib.Tactic.Common
import KnownLogs.LogList.Publishing
import KnownLogs.LogList.Reading
import KnownLogs.Proofs.Log.Interval

namespace KnownLogs

/-! ### Computations with a result -/

namespace Call

variable {α β ε : Type}

lemma bind_ok {x : Call α} {f : α → Call β} {b : β} :
    (x >>= f).result = .ok b ↔ ∃ a, x.result = .ok a ∧ (f a).result = .ok b := by
  show (x.bind f).result = .ok b ↔ _
  rw [bind]
  cases x.result <;> simp

lemma map_ok {x : Call α} {f : α → β} {b : β} :
    (f <$> x).result = .ok b ↔ ∃ a, x.result = .ok a ∧ f a = b := by
  show (x.bind fun a => done (f a)).result = .ok b ↔ _
  rw [bind]
  cases x.result <;> simp [done]

@[simp] lemma done_ok {a b : α} : (done a).result = .ok b ↔ a = b := by
  simp [done]

@[simp] lemma pure_ok {a b : α} : (pure a : Call α).result = .ok b ↔ a = b := done_ok

@[simp] lemma fail_ok {f : Fault} {a : α} : (fail f : Call α).result = .ok a ↔ False := by
  simp [fail]

@[simp] lemma note_ok {m : Mark} {u : Unit} : (note m).result = .ok u ↔ True := by
  simp [note]

@[simp] lemma ofExcept_ok {toFault : ε → Fault} {x : Except ε α} {a : α} :
    (ofExcept toFault x).result = .ok a ↔ x = .ok a := by
  cases x <;> simp [ofExcept, Except.mapError]

end Call

namespace Outcome

variable {α : Type} {code : ErrorCode} {message : String} {x : Call (Option α)}

/-- What a captured computation comes to. -/
lemma capture_result :
    (capture code message x).result =
      match x.result with
      | .ok (some a) => .ok (.success a)
      | .ok none => .ok (.failure { code, message, fault := some .emptySuccess })
      | .error f =>
        if f.isOrdinary then .ok (.failure { code, message, fault := some f }) else .error f := by
  have hb : (x.bind ofValue).result =
      match x.result with
      | .ok o => (ofValue o).result
      | .error f => .error f := by
    rw [Call.bind]
    cases x.result <;> rfl
  -- nothing in place of a result is a fault as well, and an ordinary one
  rw [capture, Call.rescue, hb]
  cases hx : x.result with
  | ok o =>
      cases o with
      | none => simp [ofValue, Call.fail, Call.done, Fault.isOrdinary]
      | some a => simp [ofValue, Call.done, hb, hx]
  | error f =>
      cases hf : f.isOrdinary with
      | true => simp [hf, Call.done]
      | false => simp [hf, hb, hx]

/-- The success of a captured computation is its result. -/
lemma capture_success {a : α} :
    (capture code message x).result = .ok (.success a) ↔ x.result = .ok (some a) := by
  rw [capture_result]
  split
  · rename_i b hb
    simp [hb]
  · rename_i hb
    simp [hb]
  · rename_i f hf
    split <;> simp [hf]

/-- The failure of a captured computation is of the category that was asked for. -/
lemma capture_failure {f : Failure} (h : (capture code message x).result = .ok (.failure f)) :
    f.code = code := by
  rw [capture_result] at h
  split at h
  · cases h
  · cases h
    rfl
  · split at h
    · cases h
      rfl
    · cases h

/-- A computation that has no result is captured as a failure, if its fault is ordinary. -/
lemma capture_of_ordinary (h : ∀ f, x.result = .error f → f.isOrdinary = true) :
    ∃ o, (capture code message x).result = .ok o := by
  rw [capture_result]
  split
  · exact ⟨_, rfl⟩
  · exact ⟨_, rfl⟩
  · rename_i f hf
    rw [if_pos (h f hf)]
    exact ⟨_, rfl⟩

end Outcome

/-! ### Authentic entries -/

/-- A log whose id is the digest of its key, and whose key handle is what a decoder makes of
the key, under the name of the operator that lists it. -/
structure Entry.IsAuthentic (decoder : KeyDecoder) (operator : String) (e : Entry) : Prop where
  operator_eq : e.operator = operator
  logId_eq : e.logId = logIdOf e.keyBytes
  decoder_eq : decoder e.keyBytes = .ok (some e.publicKey)

/-- A log list all of whose entries are authentic. -/
def Document.IsAuthentic (decoder : KeyDecoder) (d : Document) : Prop :=
  ∀ o ∈ d.operators, ∀ e ∈ o.logs, e.IsAuthentic decoder o.name

/-- The checks pass on the fields of an entry, and on no others. -/
lemma Entry.Draft.check_ok {d : Entry.Draft} {e : Entry} : d.check = .ok e ↔ d = e.draft := by
  constructor
  · intro h
    rw [Draft.check] at h
    split at h
    · cases h
    · rename_i key hkey
      split_ifs at h
      cases h
      cases d
      simp_all [draft]
  · rintro rfl
    exact e.check_draft

namespace LogList

variable {decoder : KeyDecoder}

/-- **A published log is an entry** whenever its members are those of an authentic entry. -/
lemma entry_ok {operator : String} {l : Published.Log} {e : Entry} :
    (entry decoder operator l).result = .ok e ↔
      e.published = l ∧ e.IsAuthentic decoder operator := by
  rw [entry]
  split_ifs with hid
  · constructor
    · intro h
      simp at h
    · rintro ⟨rfl, ha⟩
      exact absurd ha.logId_eq.symm hid
  · simp only [Call.bind_ok, Call.note_ok, Call.ofExcept_ok, Interval.build_ok,
      Entry.Draft.check_ok]
    constructor
    · rintro ⟨_, _, key, hk, i, ⟨hs, he⟩, hd⟩
      simp only [Entry.draft, Entry.Draft.mk.injEq] at hd
      obtain ⟨h1, h2, rfl, h4, h5, h6, h7, h8, rfl, h10⟩ := hd
      have hl : e.published = l := by
        cases l
        simp_all [Entry.published]
      subst hl
      exact ⟨rfl, h6.symm, (not_not.mp hid).symm, hk⟩
    · rintro ⟨rfl, ha⟩
      refine ⟨(), trivial, some e.publicKey, ha.decoder_eq, e.interval, ⟨rfl, rfl⟩, ?_⟩
      simp [Entry.draft, Entry.published, ha.operator_eq]

lemma entries_ok {operator : String} {ls : List Published.Log} {es : List Entry} :
    (entries decoder operator ls).result = .ok es ↔
      es.map Entry.published = ls ∧ ∀ e ∈ es, e.IsAuthentic decoder operator := by
  induction ls generalizing es with
  | nil => cases es <;> simp [entries]
  | cons l ls ih =>
      simp only [entries, Call.bind_ok, Call.pure_ok, entry_ok, ih]
      constructor
      · rintro ⟨e, ⟨rfl, he⟩, es, ⟨rfl, hes⟩, rfl⟩
        exact ⟨rfl, List.forall_mem_cons.mpr ⟨he, hes⟩⟩
      · rintro ⟨hm, ha⟩
        cases es with
        | nil => cases hm
        | cons e es =>
            obtain ⟨he, hes⟩ := List.forall_mem_cons.mp ha
            obtain ⟨rfl, rfl⟩ := List.cons.inj hm
            exact ⟨e, ⟨rfl, he⟩, es, ⟨rfl, hes⟩, rfl⟩

lemma operators_ok {ls : List Published.Operator} {os : List Operator} :
    (operators decoder ls).result = .ok os ↔
      os.map Operator.published = ls ∧ ∀ o ∈ os, ∀ e ∈ o.logs, e.IsAuthentic decoder o.name := by
  induction ls generalizing os with
  | nil => cases os <;> simp [operators]
  | cons l ls ih =>
      simp only [operators, Call.bind_ok, Call.pure_ok, entries_ok, ih]
      constructor
      · rintro ⟨es, ⟨he, ha⟩, os, ⟨rfl, hos⟩, rfl⟩
        refine ⟨?_, List.forall_mem_cons.mpr ⟨ha, hos⟩⟩
        cases l
        simp_all [Operator.published]
      · rintro ⟨hm, ha⟩
        cases os with
        | nil => cases hm
        | cons o os =>
            obtain ⟨ho, hos⟩ := List.forall_mem_cons.mp ha
            obtain ⟨rfl, rfl⟩ := List.cons.inj hm
            exact ⟨o.logs, ⟨rfl, ho⟩, os, ⟨rfl, hos⟩, rfl⟩

/-- A published list is the document whose members it holds, if all entries of that are
authentic. -/
lemma document_ok {l : Published.LogList} {d : Document} :
    (document decoder l).result = .ok d ↔ d.published = l ∧ d.IsAuthentic decoder := by
  simp only [document, Call.bind_ok, operators_ok, announce, Except.ok.injEq]
  constructor
  · rintro ⟨os, ⟨hm, ha⟩, rfl⟩
    cases l
    exact ⟨by simp_all [Document.published], ha⟩
  · rintro ⟨rfl, ha⟩
    exact ⟨d.operators, ⟨rfl, ha⟩, rfl⟩

/-! ### Bytes -/

lemma read_ok {raw : Bytes} {d : Document} :
    (read decoder raw).result = .ok d ↔
      published raw = .valid d.published ∧ d.IsAuthentic decoder := by
  rw [read]
  cases h : published raw with
  | invalid issues => simp
  | valid l =>
      simp only [Call.bind_ok, document_ok, Call.note_ok, Call.pure_ok,
        Schema.Validated.valid.injEq]
      constructor
      · rintro ⟨e, ⟨rfl, ha⟩, _, _, rfl⟩
        exact ⟨rfl, ha⟩
      · rintro ⟨rfl, ha⟩
        exact ⟨d, ⟨rfl, ha⟩, (), trivial, rfl⟩

/-- **Bytes are a document** whenever they hold the published members of one whose entries are
authentic. -/
theorem parse_success {raw : Bytes} {d : Document} :
    (parse decoder raw).result = .ok (.success d) ↔
      published raw = .valid d.published ∧ d.IsAuthentic decoder := by
  rw [parse, Outcome.capture_success, ← read_ok, Call.map_ok]
  simp

/-- Bytes that are no document are a failure of parsing. -/
lemma parse_failure {raw : Bytes} {f : Failure}
    (h : (parse decoder raw).result = .ok (.failure f)) : f.code = .parse :=
  Outcome.capture_failure h

end LogList

end KnownLogs
