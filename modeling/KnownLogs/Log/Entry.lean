/-
One log of an operator:

* `Entry.Problem`: why fields do not make an entry;
* `Entry`: a log whose fields are in order;
* `Entry.isActiveAt`: whether the log counted as trusted at a time.
-/
import KnownLogs.Bytes.Sha256
import KnownLogs.Log.Interval
import KnownLogs.Log.Status

namespace KnownLogs

/-- The id of a log: the SHA-256 digest of its key. -/
def logIdOf (keyBytes : Bytes) : Bytes :=
  Sha256.digest keyBytes

/-- How many bytes an id has. -/
def logIdLength : Nat := 32

/-- What a key decoder makes of a key, known by its description alone. -/
structure KeyHandle where
  label : String
deriving DecidableEq, Repr, Inhabited

namespace Entry

/-- Why fields do not make an entry. -/
inductive Problem where
  | noKey
  | noKeyBytes
  | idLength (length : Nat)
  | noText (field : String)
  | negativeDelay (delay : Int)
deriving DecidableEq, Repr

/-- The wording of a refusal. -/
def Problem.message : Problem → String
  | .noKey => "public key is required"
  | .noKeyBytes => "public key bytes are required"
  | .idLength n => s!"log id must be {logIdLength} bytes, got {n}"
  | .noText field => field ++ " is required"
  | .negativeDelay d => s!"max merge delay must be >= 0, got {d}"

end Entry

/-- A log whose fields are in order. -/
structure Entry where
  logId : Bytes
  keyBytes : Bytes
  publicKey : KeyHandle
  description : String
  url : String
  operator : String
  status : LogStatus
  since : Int
  interval : Interval
  mergeDelay : Int
  keyBytes_ne_nil : keyBytes ≠ []
  length_logId : logId.length = logIdLength
  description_ne_empty : description ≠ ""
  url_ne_empty : url ≠ ""
  operator_ne_empty : operator ≠ ""
  mergeDelay_nonneg : 0 ≤ mergeDelay
deriving DecidableEq

namespace Entry

/-! ### Reading an entry -/

/-- Whether the log counted as trusted at a time: by its status, or, when it is
retired, before its retirement. -/
def isActiveAt (e : Entry) (millis : Int) : Bool :=
  e.status.isActive || (e.status == .retired && decide (millis < e.since))

/-- Whether two entries announce the same log: the key handle, the interval and the
merge delay do not count. -/
def sameLog (e f : Entry) : Bool :=
  e.logId == f.logId && e.keyBytes == f.keyBytes && e.description == f.description &&
    e.url == f.url && e.operator == f.operator && e.status == f.status && e.since == f.since

/-- How many different logs a list announces. -/
def countDistinct : List Entry → Nat
  | [] => 0
  | e :: rest => (if rest.any e.sameLog then 0 else 1) + countDistinct rest

/-- An entry as it is written inside other text, without its key. -/
def written (e : Entry) : String :=
  "LogEntry(log_id=" ++ Text.quotedBytes e.logId ++
    ", description=" ++ Text.quoted e.description ++
    ", url=" ++ Text.quoted e.url ++
    ", operator_name=" ++ Text.quoted e.operator ++
    ", state=LogState(status=" ++ Enumeration.written e.status ++
    ", timestamp_millis=" ++ toString e.since ++
    "), temporal_interval=" ++ e.interval.written ++
    ", max_merge_delay_seconds=" ++ toString e.mergeDelay ++ ")"

end Entry

end KnownLogs
