/-
Building an entry:

* `Entry.Draft`: the fields of a log, nothing checked;
* `Entry.Draft.check`: the checks, in the order in which they are reported;
* `Entry.create`: the checks on a log whose id is the digest of its key;
* `Entry.check_draft`: **the fields of an entry pass the checks unchanged**;
* `Entry.createOutcome`: the same checks, as a success or a failure.
-/
import KnownLogs.Outcome.Basic

namespace KnownLogs.Entry

/-! ### Checking -/

/-- The fields of a log, nothing checked. -/
structure Draft where
  logId : Bytes
  keyBytes : Bytes
  publicKey : Option KeyHandle
  description : String
  url : String
  operator : String
  status : LogStatus
  /-- When the log entered its status, in milliseconds. -/
  since : Int
  interval : Interval := .unbounded
  /-- The longest delay between a promise and its inclusion, in seconds. -/
  mergeDelay : Int := 0

/-- The checks, in the order in which they are reported. -/
def Draft.check (d : Draft) : Except Problem Entry :=
  match d.publicKey with
  | none => .error .noKey
  | some key =>
    if hk : d.keyBytes = [] then .error .noKeyBytes
    else if hi : d.logId.length ≠ logIdLength then .error (.idLength d.logId.length)
    else if hd : d.description = "" then .error (.noText "description")
    else if hu : d.url = "" then .error (.noText "url")
    else if ho : d.operator = "" then .error (.noText "operator_name")
    else if hm : d.mergeDelay < 0 then .error (.negativeDelay d.mergeDelay)
    else
      .ok
        { d with
          publicKey := key
          keyBytes_ne_nil := hk
          length_logId := by simpa using hi
          description_ne_empty := hd
          url_ne_empty := hu
          operator_ne_empty := ho
          mergeDelay_nonneg := by omega }

/-- The checks on a log whose id is the digest of its key. -/
def create (d : Draft) : Except Problem Entry :=
  Draft.check { d with logId := logIdOf d.keyBytes }

/-- The fields of an entry. -/
def draft (e : Entry) : Draft :=
  { e with publicKey := some e.publicKey }

/-- **The fields of an entry pass the checks unchanged.** -/
theorem check_draft (e : Entry) : e.draft.check = .ok e := by
  simp [Draft.check, draft, e.keyBytes_ne_nil, e.length_logId, e.description_ne_empty,
    e.url_ne_empty, e.operator_ne_empty, Int.not_lt.mpr e.mergeDelay_nonneg]

/-! ### Outcomes -/

/-- The entry with given fields and the digest of its key as its id, or the failure
that names the first check they do not pass. -/
def createOutcome (d : Draft) : Call (Outcome Entry) :=
  Outcome.capture .validation "Invalid log entry" (.ofExcept .entry (some <$> create d))

end KnownLogs.Entry
