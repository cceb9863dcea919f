/-
The faults that end the reading of a log list:

* `Call.Blames`: a computation that ends in every fault of a decoder that it meets, and in no
  other fault but an ordinary one;
* `Call.Blames.bind`: one such computation after another is one;
* `LogList.blames_read`: reading a log list is one;
* `LogList.parse_of_invalid`: bytes without the form of a list are a failure, and leave no mark;
* `LogList.parse_eq_error`: **parsing ends in a fault** exactly when the decoder does on a key that
  was given to it, and the fault is not ordinary;
* `LogList.parse_of_decoder_fault`: an ordinary fault of the decoder makes a failure of parsing.
-/
import KnownLogs.Proofs.LogList.Parsing

namespace KnownLogs

variable {decoder : KeyDecoder}

/-! ### Blame -/

/-- Whether a computation ends in every fault of a decoder that it meets, and in no other fault
but an ordinary one. Its marks tell which keys the decoder was given. -/
structure Call.Blames {α : Type} (decoder : KeyDecoder) (x : Call α) : Prop where
  stops : ∀ key f, .decoded key ∈ x.marks → decoder key = .error f → x.result = .error f
  blames : ∀ f, x.result = .error f →
    f.isOrdinary = true ∨ ∃ key, .decoded key ∈ x.marks ∧ decoder key = .error f

namespace Call

variable {α β ε : Type}

/-- A computation that gives no key to the decoder, and ends in no fault but an ordinary one. -/
lemma blames_of_no_key {x : Call α} (hm : ∀ key, .decoded key ∉ x.marks)
    (hf : ∀ f, x.result = .error f → f.isOrdinary = true) : x.Blames decoder where
  stops key _ h _ := absurd h (hm key)
  blames f h := .inl (hf f h)

/-- **One computation after another** ends in every fault of a decoder that either of them
meets. -/
lemma Blames.bind {x : Call α} {g : α → Call β} (hx : x.Blames decoder)
    (hg : ∀ a, (g a).Blames decoder) : (x >>= g).Blames decoder := by
  change (x.bind g).Blames decoder
  cases hr : x.result with
  | error e =>
      have hb : x.bind g = { marks := x.marks, result := .error e } := by rw [Call.bind, hr]
      rw [hb]
      refine ⟨fun key f hk hd => ?_, fun f h => ?_⟩
      · exact congrArg _ (Except.error.inj (hr.symm.trans (hx.stops key f hk hd)))
      · cases h
        exact hx.blames e hr
  | ok a =>
      have hb : x.bind g = { marks := x.marks ++ (g a).marks, result := (g a).result } := by
        rw [Call.bind, hr]
      rw [hb]
      refine ⟨fun key f hk hd => ?_, fun f h => ?_⟩
      · rcases List.mem_append.mp hk with hk | hk
        · -- the first part has a result, so the decoder cannot have ended in a fault there
          cases hr.symm.trans (hx.stops key f hk hd)
        · exact (hg a).stops key f hk hd
      · refine ((hg a).blames f h).imp_right ?_
        rintro ⟨key, hk, hd⟩
        exact ⟨key, List.mem_append_right _ hk, hd⟩

lemma blames_done (a : α) : (done a).Blames decoder :=
  blames_of_no_key (by simp [done]) (by simp [done])

lemma blames_ofExcept {toFault : ε → Fault} (h : ∀ p, (toFault p).isOrdinary = true)
    (x : Except ε α) : (ofExcept toFault x).Blames decoder := by
  refine blames_of_no_key (by simp [ofExcept]) fun f hf => ?_
  cases x with
  | ok a => cases hf
  | error p =>
      cases hf
      exact h p

end Call

namespace Outcome

variable {α : Type} {code : ErrorCode} {message : String} {x : Call (Option α)}

/-- Capturing leaves no marks of its own. -/
lemma capture_marks : (capture code message x).marks = x.marks := by
  rw [capture, Call.rescue, Call.bind]
  cases hx : x.result with
  | ok o =>
      cases o with
      | none => simp [ofValue, Call.fail, Call.done, Fault.isOrdinary]
      | some a => simp [ofValue, Call.done]
  | error f => cases hf : f.isOrdinary <;> simp [hf, Call.done]

end Outcome

namespace LogList

/-! ### Reading -/

/-- A key that is given to the decoder: a fault of the decoder ends the computation. -/
lemma blames_decode (key : Bytes) :
    ((Call.note (.decoded key)).bind fun _ => Call.ofExcept id (decoder key)).Blames decoder := by
  refine ⟨fun key' f hk hd => ?_, fun f h => ?_⟩
  · have hkey : key' = key := by simpa [Call.bind, Call.note, Call.ofExcept] using hk
    cases hkey
    simp [Call.bind, Call.note, Call.ofExcept, hd, Except.mapError]
  · cases hd : decoder key with
    | ok handle => simp [Call.bind, Call.note, Call.ofExcept, hd, Except.mapError] at h
    | error e =>
        have he : e = f := by
          simpa [Call.bind, Call.note, Call.ofExcept, hd, Except.mapError] using h
        exact .inr ⟨key, by simp [Call.bind, Call.note], he ▸ hd⟩

/-- The key of a log is given to the decoder only when the id of the log is in order. -/
lemma blames_entry (operator : String) (l : Published.Log) :
    (entry decoder operator l).Blames decoder := by
  rw [entry]
  split_ifs
  · exact Call.blames_of_no_key (by simp [Call.fail]) (by rintro _ ⟨⟩; rfl)
  · -- the mark that a key is decoded belongs to the decoding
    show (Call.bind _ fun _ => Call.bind _ _).Blames decoder
    rw [← Call.bind_assoc]
    refine (blames_decode l.key).bind fun handle => ?_
    refine (Call.blames_ofExcept (fun _ => rfl) _).bind fun interval => ?_
    exact Call.blames_ofExcept (fun _ => rfl) _

lemma blames_entries (operator : String) (ls : List Published.Log) :
    (entries decoder operator ls).Blames decoder := by
  induction ls with
  | nil => exact Call.blames_done _
  | cons l ls ih =>
      exact (blames_entry operator l).bind fun e => ih.bind fun es => Call.blames_done _

lemma blames_operators (os : List Published.Operator) :
    (operators decoder os).Blames decoder := by
  induction os with
  | nil => exact Call.blames_done _
  | cons o os ih =>
      exact (blames_entries o.name o.logs).bind fun es => ih.bind fun _ => Call.blames_done _

/-- **Reading a log list** ends in every fault of the decoder that it meets, and in no other fault
but an ordinary one. -/
theorem blames_read (raw : Bytes) : (read decoder raw).Blames decoder := by
  have hannounce : ∀ d, (announce d).Blames decoder := fun d =>
    Call.blames_of_no_key (by simp [announce, repeatWarning, Mark.ofEvent]) (by simp [announce])
  have hcompleted : ∀ d, (Call.note (completed d)).Blames decoder := fun d =>
    Call.blames_of_no_key (by simp [Call.note, completed, Mark.ofEvent]) (by simp [Call.note])
  rw [read]
  split
  · exact Call.blames_of_no_key (by simp [Call.fail]) (by rintro _ ⟨⟩; rfl)
  · refine Call.Blames.bind ?_ fun d => (hcompleted d).bind fun _ => Call.blames_done _
    exact (blames_operators _).bind fun os => hannounce _

/-! ### Parsing -/

lemma parse_marks (raw : Bytes) : (parse decoder raw).marks = (read decoder raw).marks := by
  rw [parse, Outcome.capture_marks]
  show ((read decoder raw).bind fun d => Call.done (some d)).marks = _
  rw [Call.bind]
  split <;> simp [Call.done]

/-- The failure that an ordinary fault of reading is made into. -/
def unreadable (f : Fault) : Failure where
  code := .parse
  message := "Failed to parse log list"
  fault := some f

/-- What parsing makes of a fault of reading. -/
lemma parse_of_read_error {raw : Bytes} {f : Fault} (h : (read decoder raw).result = .error f) :
    (parse decoder raw).result =
      if f.isOrdinary then .ok (.failure (unreadable f)) else .error f := by
  have hread : (some <$> read decoder raw).result = .error f := by
    show ((read decoder raw).bind fun d => Call.done (some d)).result = _
    rw [Call.bind, h]
  rw [parse, Outcome.capture_result, hread]
  rfl

/-- Bytes that have not the form of a list are a failure with all that is wrong, and leave no
mark. -/
lemma parse_of_invalid {raw : Bytes} {issues : List Schema.Issue}
    (h : published raw = .invalid issues) :
    parse decoder raw = .done (.failure (unreadable (.form "log list" issues))) := by
  have hread : read decoder raw = .fail (.form "log list" issues) := by rw [read, h]
  have hmarks : (parse decoder raw).marks = [] := by rw [parse_marks, hread]; rfl
  have hresult : (parse decoder raw).result =
      .ok (.failure (unreadable (.form "log list" issues))) := by
    rw [parse_of_read_error (f := .form "log list" issues) (by rw [hread]; rfl)]
    rfl
  exact congrArg₂ Call.mk hmarks hresult

/-- **Parsing ends in a fault** exactly when the decoder ends in this fault on a key that was given
to it, and the fault is not ordinary. -/
theorem parse_eq_error {raw : Bytes} {f : Fault} :
    (parse decoder raw).result = .error f ↔
      f.isOrdinary = false ∧
        ∃ key, .decoded key ∈ (parse decoder raw).marks ∧ decoder key = .error f := by
  rw [parse_marks]
  constructor
  · intro h
    cases hr : (read decoder raw).result with
    | ok d =>
        have hok : (parse decoder raw).result = .ok (.success d) :=
          Outcome.capture_success.mpr (Call.map_ok.mpr ⟨d, hr, rfl⟩)
        cases hok.symm.trans h
    | error e =>
        rw [parse_of_read_error hr] at h
        split_ifs at h with ho
        cases h
        exact ⟨by simpa using ho, ((blames_read raw).blames f hr).resolve_left ho⟩
  · rintro ⟨ho, key, hk, hd⟩
    rw [parse_of_read_error ((blames_read raw).stops key f hk hd), if_neg (by simp [ho])]

/-- An ordinary fault of the decoder makes a failure of parsing. -/
lemma parse_of_decoder_fault {raw key : Bytes} {f : Fault}
    (hk : .decoded key ∈ (parse decoder raw).marks) (hd : decoder key = .error f)
    (ho : f.isOrdinary = true) :
    (parse decoder raw).result = .ok (.failure (unreadable f)) := by
  rw [parse_marks] at hk
  rw [parse_of_read_error ((blames_read raw).stops key f hk hd), if_pos ho]

end LogList

end KnownLogs
