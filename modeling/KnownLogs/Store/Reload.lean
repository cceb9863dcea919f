/-
One attempt to load the log list:

* `Store.read`: the source is read and the bytes are parsed;
* `Store.classify`: the policy is asked about a new list; a fault of the policy counts
  as a no;
* `Store.examine`: the snapshot that an attempt leads to, nothing published yet;
* `Store.publish`: one assignment, after which all readers see the new snapshot;
* `Store.announce`: tells of a change, and asks the sink to do the same; a fault of the
  sink changes nothing;
* `Store.reload`: the whole attempt.
-/
import KnownLogs.Json.Binary64
import KnownLogs.Store.Basic

namespace KnownLogs.Store

variable {α : Type}

/-! ### Reading and judging -/

/-- Carries out a computation that puts no questions. -/
def carryOut (x : Call α) (s : Store) : Ending α × Store :=
  (.ofExcept x.result, s.keepAll x.marks)

/-- What reading the source gave: the digest of the bytes, and what the parser made of
them. -/
structure Reading where
  digest : Option Bytes
  document : Outcome Document

/-- Reads the source and parses the bytes. -/
def read (s : Store) : Ending Reading × Store :=
  match (s.keep .read).carryOut s.source with
  | (.fault f, s) => (.fault f, s)
  | (.blocked, s) => (.blocked, s)
  | (.value (.failure f), s) => (.value ⟨none, .failure f⟩, s)
  | (.value (.success raw), s) =>
    let (found, s) := (s.keep (.parsed raw)).carryOut (s.parser raw)
    (found.map fun document => ⟨some (Sha256.digest raw), document⟩, s)

/-- The failure of a policy that gave no verdict. -/
def policyFailure (f : Fault) : Failure :=
  { code := .policy, message := "Compliance policy raised", fault := some f }

/-- The state that the verdict of the policy on a new list leads to. -/
def classify (d : Document) (s : Store) : Ending StoreState × Store :=
  match (s.keep .judged).runDuring (s.policy ⟨some d⟩).attempt with
  | (.fault f, s) => (.fault f, s)
  | (.blocked, s) => (.blocked, s)
  | (.value (.ok verdict), s) =>
    (.value (if verdict.affirms then .compliant else .nonCompliant), s)
  | (.value (.error f), s) =>
    (.value .nonCompliant,
      s.log .error "store.policy_failed" [("error", .text (policyFailure f).cause)])

/-- The state that a failure leads to. -/
def stateAfter (f : Failure) : StoreState :=
  if f.code = .notFound then .notFound else .malformed

/-- The warning about a failure. -/
def failureWarning (f : Failure) : Mark :=
  let name :=
    if f.code = .notFound then "store.log_list_not_found" else "store.log_list_malformed"
  .ofEvent .warning name [("error", .text f.cause)]

/-- The snapshot that an attempt decided at `now` leads to. Only a failure leaves it
without a document. -/
def examine (now : Int) (s : Store) : Ending Snapshot × Store :=
  match s.read with
  | (.fault f, s) => (.fault f, s)
  | (.blocked, s) => (.blocked, s)
  | (.value ⟨digest, .success d⟩, s) =>
    let (state, s) := s.classify d
    (state.map fun state => { state, document := some d, checkedAt := some now, digest }, s)
  | (.value ⟨digest, .failure f⟩, s) =>
    (.value { state := stateAfter f, checkedAt := some now, digest }, s.keep (failureWarning f))

/-! ### Publishing -/

/-- Whether a snapshot tells something else than the one before. -/
def isChange (previous next : Snapshot) : Bool :=
  previous.checkedAt.isNone || previous.state != next.state || previous.digest != next.digest

/-- Makes a snapshot the one that all readers see. -/
def publish (next : Snapshot) (s : Store) : Store :=
  { s with snapshot := next }

/-- Tells of a change of snapshot. -/
def changeEvent (previous next : Snapshot) : Mark :=
  .ofEvent .info "store.state_changed"
    [("previous", .text previous.state.text), ("state", .text next.state.text),
     ("logs", .int ((next.document.map Document.count).getD 0))]

/-- Asks the sink to tell of the state. -/
def notify (state : StoreState) (s : Store) : Ending Unit × Store :=
  match s.runDuring s.sink.attempt with
  | (.fault f, s) => (.fault f, s)
  | (.blocked, s) => (.blocked, s)
  | (.value (.ok ()), s) => (.value (), s)
  | (.value (.error _), s) =>
    (.value (),
      s.log .error "store.metrics_failed" [("state", .text state.text), ("exc_info", .bool true)])

/-- Tells of the published snapshot if it is a change. -/
def announce (previous next : Snapshot) (s : Store) : Ending Unit × Store :=
  if isChange previous next then (s.keep (changeEvent previous next)).notify next.state
  else (.value (), s.log .debug "store.reload_unchanged" [("state", .text next.state.text)])

/-! ### The attempt -/

/-- One attempt, decided at `now`: a fault before publishing leaves the snapshot as it
was. -/
def reload (now : Int) (s : Store) : Ending Snapshot × Store :=
  match s.examine now with
  | (.fault f, s) => (.fault f, s)
  | (.blocked, s) => (.blocked, s)
  | (.value next, s) =>
    let (told, s) := (s.publish next).announce s.snapshot next
    (told.map fun _ => next, s)

end KnownLogs.Store
