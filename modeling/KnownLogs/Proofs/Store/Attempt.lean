/-
One attempt to load the log list, by what it finds:

* `Finding`: what the source gave, what the parser made of it, and the verdict;
* `Attempt`, `Attempt.snapshot`: a completed attempt, and the snapshot that it leads to;
* `Store.finding`: what an attempt finds with the collaborators at hand, if nothing ends it;
* `Store.searchMarks`, `Store.newsMarks`: the marks that it leaves before and after
  publishing;
* `Store.reload_of_value`: **an attempt that finds something publishes its snapshot**, however
  the sink ends;
* `Store.reload_of_fault`, `Store.reload_of_blocked`: any other attempt publishes nothing.
-/
import KnownLogs.Proofs.Store.Consultation

namespace KnownLogs

/-! ### Findings -/

/-- What an attempt finds. -/
inductive Finding where
  /-- The source gave no bytes. -/
  | unread (failure : Failure)
  /-- The parser made no document of the bytes. -/
  | unparsed (raw : Bytes) (failure : Failure)
  /-- The parser made a document of the bytes, and the policy gave a verdict on it or an
  ordinary fault. -/
  | judged (raw : Bytes) (document : Document) (verdict : Except Fault Json)

/-- An attempt that is completed. -/
structure Attempt where
  /-- The clock reading on which it was decided. -/
  now : Int
  finding : Finding

/-- The state that a verdict leads to; a fault counts as a no. -/
def stateOfVerdict : Except Fault Json → StoreState
  | .ok verdict => if verdict.affirms then .compliant else .nonCompliant
  | .error _ => .nonCompliant

/-- The snapshot that a completed attempt leads to. -/
def Attempt.snapshot (a : Attempt) : Snapshot :=
  match a.finding with
  | .unread f => { state := Store.stateAfter f, checkedAt := some a.now }
  | .unparsed raw f =>
    { state := Store.stateAfter f, checkedAt := some a.now, digest := some (Sha256.digest raw) }
  | .judged raw d verdict =>
    { state := stateOfVerdict verdict
      document := some d
      checkedAt := some a.now
      digest := some (Sha256.digest raw) }

namespace Attempt

lemma checkedAt_snapshot (a : Attempt) : a.snapshot.checkedAt = some a.now := by
  rw [snapshot]
  split <;> rfl

lemma stateAfter_ne_uninitialized (f : Failure) : Store.stateAfter f ≠ .uninitialized := by
  rw [Store.stateAfter]
  split <;> simp

lemma stateOfVerdict_ne_uninitialized (v : Except Fault Json) :
    stateOfVerdict v ≠ .uninitialized := by
  cases v with
  | ok verdict =>
      rw [stateOfVerdict]
      split <;> simp
  | error f => simp [stateOfVerdict]

/-- No attempt leads back to the state before any attempt. -/
lemma state_snapshot_ne (a : Attempt) : a.snapshot.state ≠ .uninitialized := by
  rw [snapshot]
  split
  · exact stateAfter_ne_uninitialized _
  · exact stateAfter_ne_uninitialized _
  · exact stateOfVerdict_ne_uninitialized _

lemma isCoherent_snapshot (a : Attempt) : a.snapshot.IsCoherent := by
  simp [Snapshot.IsCoherent, a.checkedAt_snapshot, a.state_snapshot_ne]

end Attempt

namespace Store

/-! ### What an attempt finds and tells -/

/-- What the policy says of a document while the published snapshot answers it. -/
def verdict (s : Store) (d : Document) : Ending (Except Fault Json) :=
  (s.policy ⟨some d⟩).attempt.ending s.snapshot.reply

/-- What an attempt finds with the collaborators at hand, unless a fault ends it or the policy
waits for ever. -/
def finding (s : Store) : Ending Finding :=
  match s.source.result with
  | .error f => .fault f
  | .ok (.failure f) => .value (.unread f)
  | .ok (.success raw) =>
    match (s.parser raw).result with
    | .error f => .fault f
    | .ok (.failure f) => .value (.unparsed raw f)
    | .ok (.success d) => (s.verdict d).map (.judged raw d)

/-- The event of a policy that gave no verdict. -/
def verdictMarks : Ending (Except Fault Json) → List Mark
  | .value (.error f) =>
    [.ofEvent .error "store.policy_failed" [("error", .text (policyFailure f).cause)]]
  | _ => []

/-- The marks of an attempt before it publishes anything. -/
def searchMarks (s : Store) : List Mark :=
  .read :: s.source.marks ++
    match s.source.result with
    | .error _ => []
    | .ok (.failure f) => [failureWarning f]
    | .ok (.success raw) =>
      .parsed raw :: (s.parser raw).marks ++
        match (s.parser raw).result with
        | .error _ => []
        | .ok (.failure f) => [failureWarning f]
        | .ok (.success d) =>
          .judged :: (s.policy ⟨some d⟩).attempt.marks s.snapshot.reply ++
            verdictMarks (s.verdict d)

/-- How telling of the next snapshot ends. -/
def news (s : Store) (next : Snapshot) : Ending Unit :=
  if isChange s.snapshot next then (s.sink.attempt.ending next.reply).map fun _ => ()
  else .value ()

/-- The event of a sink that failed. -/
def sinkMarks (state : StoreState) : Ending (Except Fault Unit) → List Mark
  | .value (.error _) =>
    [.ofEvent .error "store.metrics_failed"
      [("state", .text state.text), ("exc_info", .bool true)]]
  | _ => []

/-- The marks of telling of the next snapshot. -/
def newsMarks (s : Store) (next : Snapshot) : List Mark :=
  if isChange s.snapshot next then
    changeEvent s.snapshot next :: s.sink.attempt.marks next.reply ++
      sinkMarks next.state (s.sink.attempt.ending next.reply)
  else [.ofEvent .debug "store.reload_unchanged" [("state", .text next.state.text)]]

section Aged

variable (c : Clock) (ms : List Mark) (s : Store) (next : Snapshot)

@[simp] lemma verdict_aged (d : Document) : (s.aged c ms).verdict d = s.verdict d := rfl
@[simp] lemma finding_aged : (s.aged c ms).finding = s.finding := rfl
@[simp] lemma searchMarks_aged : (s.aged c ms).searchMarks = s.searchMarks := rfl
@[simp] lemma news_aged : (s.aged c ms).news next = s.news next := rfl
@[simp] lemma newsMarks_aged : (s.aged c ms).newsMarks next = s.newsMarks next := rfl
@[simp] lemma publish_aged : (s.aged c ms).publish next = (s.publish next).aged c ms := rfl

end Aged

/-! ### The parts of an attempt -/

lemma read_of_fault {s : Store} {f : Fault} (h : s.source.result = .error f) :
    s.read = (.fault f, s.aged s.clock (.read :: s.source.marks)) := by
  simp [read, carryOut, h, keep_eq, keepAll_eq, Ending.ofExcept]

lemma read_of_failure {s : Store} {f : Failure} (h : s.source.result = .ok (.failure f)) :
    s.read = (.value ⟨none, .failure f⟩, s.aged s.clock (.read :: s.source.marks)) := by
  simp [read, carryOut, h, keep_eq, keepAll_eq, Ending.ofExcept]

lemma read_of_success {s : Store} {raw : Bytes} (h : s.source.result = .ok (.success raw)) :
    s.read =
      ((Ending.ofExcept (s.parser raw).result).map fun x => ⟨some (Sha256.digest raw), x⟩,
        s.aged s.clock (.read :: s.source.marks ++ .parsed raw :: (s.parser raw).marks)) := by
  simp [read, carryOut, h, keep_eq, keepAll_eq, Ending.ofExcept]

/-- Judging a document publishes nothing. -/
lemma classify_eq {s : Store} (hs : s.snapshot.IsCoherent) (d : Document) :
    ∃ c, s.classify d =
      ((s.verdict d).map stateOfVerdict,
        s.aged c (.judged :: (s.policy ⟨some d⟩).attempt.marks s.snapshot.reply ++
          verdictMarks (s.verdict d))) := by
  obtain ⟨c, h⟩ := runDuring_eq (s := s.keep .judged) hs (s.policy ⟨some d⟩).attempt
  rw [keep_eq, snapshot_aged, ← verdict] at h
  refine ⟨c, ?_⟩
  rw [classify, keep_eq, h]
  cases s.verdict d with
  | fault f => simp [verdictMarks]
  | blocked => simp [verdictMarks]
  | value v =>
      cases v with
      | ok v => simp [verdictMarks, stateOfVerdict]
      | error f => simp [verdictMarks, stateOfVerdict, log, keep_eq]

/-- **The search of an attempt** leads to the snapshot of what is found, and publishes
nothing. -/
lemma examine_eq {s : Store} (hs : s.snapshot.IsCoherent) (now : Int) :
    ∃ c, s.examine now =
      (s.finding.map fun f => (Attempt.mk now f).snapshot, s.aged c s.searchMarks) := by
  rw [examine]
  cases hr : s.source.result with
  | error f => exact ⟨s.clock, by simp [read_of_fault hr, finding, searchMarks, hr]⟩
  | ok gave =>
      cases gave with
      | failure f =>
          refine ⟨s.clock, ?_⟩
          simp [read_of_failure hr, finding, searchMarks, hr, Attempt.snapshot, keep_eq]
      | success raw =>
          rw [read_of_success hr]
          cases hp : (s.parser raw).result with
          | error f => exact ⟨s.clock, by simp [finding, searchMarks, hr, hp, Ending.ofExcept]⟩
          | ok found =>
              cases found with
              | failure f =>
                  refine ⟨s.clock, ?_⟩
                  simp [finding, searchMarks, hr, hp, Ending.ofExcept, Attempt.snapshot, keep_eq]
              | success d =>
                  -- the policy is asked when the marks of reading have been kept
                  obtain ⟨c, h⟩ := classify_eq (s := s.aged s.clock
                    (.read :: s.source.marks ++ .parsed raw :: (s.parser raw).marks)) hs d
                  refine ⟨c, ?_⟩
                  simp only [Ending.ofExcept, Ending.map_value, h]
                  simp [finding, searchMarks, hr, hp, Attempt.snapshot]

/-- Telling of a snapshot that has been published changes nothing but the clock and the
marks. -/
lemma announce_eq (s : Store) {next : Snapshot} (hn : next.IsCoherent) :
    ∃ c, (s.publish next).announce s.snapshot next =
      (s.news next, (s.publish next).aged c (s.newsMarks next)) := by
  rw [announce]
  by_cases hc : isChange s.snapshot next = true
  · obtain ⟨c, h⟩ := runDuring_eq (s := (s.publish next).keep (changeEvent s.snapshot next)) hn
      s.sink.attempt
    refine ⟨c, ?_⟩
    rw [keep_eq, snapshot_aged, show (s.publish next).snapshot = next from rfl] at h
    rw [if_pos hc, notify, keep_eq, sink_aged, show (s.publish next).sink = s.sink from rfl, h]
    cases he : s.sink.attempt.ending next.reply with
    | fault f => simp [news, newsMarks, hc, he, sinkMarks]
    | blocked => simp [news, newsMarks, hc, he, sinkMarks]
    | value v =>
        cases v with
        | ok u => simp [news, newsMarks, hc, he, sinkMarks]
        | error f => simp [news, newsMarks, hc, he, sinkMarks, log, keep_eq]
  · exact ⟨(s.publish next).clock, by simp [hc, news, newsMarks, log, keep_eq]⟩

/-! ### The whole attempt -/

variable {s : Store}

/-- **An attempt that finds something publishes its snapshot**, however the sink ends. -/
theorem reload_of_value (hs : s.snapshot.IsCoherent) {f : Finding} (hf : s.finding = .value f)
    (now : Int) :
    ∃ c, s.reload now =
      ((s.news (Attempt.mk now f).snapshot).map fun _ => (Attempt.mk now f).snapshot,
        (s.publish (Attempt.mk now f).snapshot).aged c
          (s.searchMarks ++ s.newsMarks (Attempt.mk now f).snapshot)) := by
  obtain ⟨c, he⟩ := examine_eq hs now
  obtain ⟨c', ha⟩ := announce_eq (s.aged c s.searchMarks) (Attempt.mk now f).isCoherent_snapshot
  refine ⟨c', ?_⟩
  rw [hf, Ending.map_value] at he
  rw [reload, he]
  simp only [ha]
  simp

/-- An attempt that ends in a fault before publishing leaves the snapshot as it was. -/
lemma reload_of_fault (hs : s.snapshot.IsCoherent) {f : Fault} (hf : s.finding = .fault f)
    (now : Int) :
    ∃ c, s.reload now = (.fault f, s.aged c s.searchMarks) := by
  obtain ⟨c, he⟩ := examine_eq hs now
  exact ⟨c, by rw [reload, he, hf, Ending.map_fault]⟩

/-- An attempt whose policy waits for ever leaves the snapshot as it was. -/
lemma reload_of_blocked (hs : s.snapshot.IsCoherent) (hf : s.finding = .blocked) (now : Int) :
    ∃ c, s.reload now = (.blocked, s.aged c s.searchMarks) := by
  obtain ⟨c, he⟩ := examine_eq hs now
  exact ⟨c, by rw [reload, he, hf, Ending.map_blocked]⟩

end Store

end KnownLogs
