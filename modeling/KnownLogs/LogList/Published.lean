/-
The published form of a log list:

* `Published.Log`, `Published.Operator`, `Published.LogList`: the members that count;
* `Published.read`: a value of this form, or everything that is wrong with it.

Members of other names are passed over, and of several members of one name the last
counts. The map that holds a log's status is the exception: it must have a single
name, and each of its members must be in order.
-/
import KnownLogs.Bytes.Base64
import KnownLogs.Log.Status
import KnownLogs.Schema.Field

namespace KnownLogs.Published

open Schema

/-- The members of a log. -/
structure Log where
  description : String
  logId : Bytes
  key : Bytes
  url : String
  mergeDelay : Int
  status : LogStatus
  since : Int
  start : Option Int
  stop : Option Int
deriving DecidableEq

/-- The members of an operator. -/
structure Operator where
  name : String
  emails : List String
  logs : List Log
deriving DecidableEq

/-- The members of a log list. -/
structure LogList where
  version : String
  timestamp : Int
  operators : List Operator
deriving DecidableEq

/-! ### Members with rules of their own -/

/-- A byte string as Base64. -/
def base64 : Json → Validated Bytes
  | .text s =>
    match Base64.decode s with
    | .ok bs => .valid bs
    | .error .notAscii => .issue (.rule (Base64.Error.message .notAscii))
    | .error e => .issue (.rule ("invalid base64: " ++ e.message))
  | _ => .issue (.rule "expected a base64 string")

/-- The members of a status map, each with the time it carries. -/
def statusTimes : List (String × Json) → Validated (List (String × Int))
  | [] => .valid []
  | (name, v) :: rest =>
    ((record (required "timestamp" integer) v).within (.member name)).both
      (fun time more => (name, time) :: more) (statusTimes rest)

/-- The one status that a map names, with the time of its last member. -/
def soleStatus (times : List (String × Int)) : Validated (LogStatus × Int) :=
  match (times.map (·.1)).eraseDups, times.getLast? with
  | [name], some (_, time) =>
    match Enumeration.ofValue LogStatus (.text name) with
    | .ok status => .valid (status, time)
    | .error u => .issue (.rule u.message)
  | names, _ =>
    let sorted := Value.list ((names.mergeSort fun a b => decide (a ≤ b)).map .text)
    .issue (.rule ("state must have exactly one status, got " ++ sorted.written))

/-- A status with the time since when it holds. -/
def status : Json → Validated (LogStatus × Int)
  | .record members => (statusTimes members).andThen soleStatus
  | _ => .issue .mapExpected

/-- The two bounds of an interval. -/
def bounds (members : List (String × Json)) : Validated (Option Int × Option Int) :=
  Prod.mk <$> optional "start_inclusive" (nullable integer) none members
    <*> optional "end_exclusive" (nullable integer) none members

/-! ### The form -/

/-- A log by its members. -/
def log (members : List (String × Json)) : Validated Log :=
  let make description logId key url mergeDelay (state : LogStatus × Int)
      (interval : Option (Option Int × Option Int)) : Log :=
    { description, logId, key, url, mergeDelay
      status := state.1
      since := state.2
      start := interval.bind (·.1)
      stop := interval.bind (·.2) }
  make <$> required "description" nonEmptyText members
    <*> required "log_id" base64 members
    <*> required "key" base64 members
    <*> required "url" nonEmptyText members
    <*> required "mmd" (integerFrom 0) members
    <*> required "state" status members
    <*> optional "temporal_interval" (nullable (record bounds)) none members

/-- An operator by its members. -/
def operator (members : List (String × Json)) : Validated Operator :=
  Operator.mk <$> required "name" nonEmptyText members
    <*> required "email" (listOf text) members
    <*> required "logs" (listOf (record log)) members

/-- A log list by its members. -/
def logList (members : List (String × Json)) : Validated LogList :=
  LogList.mk <$> required "version" text members
    <*> required "log_list_timestamp" integer members
    <*> required "operators" (listOf (record operator)) members

/-- A value of the published form, or everything that is wrong with it. -/
def read (v : Json) : Validated LogList :=
  record logList v

end KnownLogs.Published
