/-
Writing a log list in its published form:

* `Document.published`: the members of a document that are published;
* `AbsentForm`, `IntervalForm`: the ways to write what is absent;
* `Published.LogList.write`: the value of a list, each log with a form of its own for
  its interval;
* `Document.publish`: the bytes of a file.
-/
import KnownLogs.Bytes.Utf8
import KnownLogs.Json.Writer
import KnownLogs.Log.Document
import KnownLogs.LogList.Published

namespace KnownLogs

/-! ### What is published -/

/-- The members of an entry that are published. -/
def Entry.published (e : Entry) : Published.Log where
  description := e.description
  logId := e.logId
  key := e.keyBytes
  url := e.url
  mergeDelay := e.mergeDelay
  status := e.status
  since := e.since
  start := e.interval.start
  stop := e.interval.stop

/-- The members of an operator that are published. -/
def Operator.published (o : Operator) : Published.Operator where
  name := o.name
  emails := o.emails
  logs := o.logs.map Entry.published

/-- The members of a document that are published. -/
def Document.published (d : Document) : Published.LogList where
  version := d.version
  timestamp := d.timestamp
  operators := d.operators.map Operator.published

/-! ### Forms -/

/-- The ways to write a member that is absent. -/
inductive AbsentForm where
  | omitted
  | null
deriving DecidableEq, Repr

/-- The member that stands for an absent one, if any does. -/
def AbsentForm.members (name : String) : AbsentForm → List (String × Json)
  | omitted => []
  | null => [(name, .null)]

/-- The ways to write an interval. -/
structure IntervalForm where
  start : AbsentForm := .omitted
  stop : AbsentForm := .omitted
  /-- How an interval without bounds is written, if it is not written as a record. -/
  unbounded : Option AbsentForm := some .omitted
deriving DecidableEq, Repr

namespace Published

/-- The members of a bound. -/
def boundMembers (name : String) (form : AbsentForm) : Option Int → List (String × Json)
  | some t => [(name, .int t)]
  | none => form.members name

/-- The members of an interval. -/
def intervalMembers (form : IntervalForm) (start stop : Option Int) : List (String × Json) :=
  let asRecord : List (String × Json) :=
    [("temporal_interval", .record
      (boundMembers "start_inclusive" form.start start ++
        boundMembers "end_exclusive" form.stop stop))]
  match start, stop, form.unbounded with
  | none, none, some absent => absent.members "temporal_interval"
  | _, _, _ => asRecord

/-- The value of a log. -/
def Log.write (form : IntervalForm) (l : Log) : Json :=
  .record <|
    [("description", .text l.description),
     ("log_id", .text (Base64.encode l.logId)),
     ("key", .text (Base64.encode l.key)),
     ("url", .text l.url),
     ("mmd", .int l.mergeDelay),
     ("state", .record [(l.status.text, .record [("timestamp", .int l.since)])])] ++
    intervalMembers form l.start l.stop

/-- The value of an operator, the forms given by the position of the log. -/
def Operator.write (form : Nat → IntervalForm) (o : Operator) : Json :=
  .record
    [("name", .text o.name),
     ("email", .list (o.emails.map .text)),
     ("logs", .list (o.logs.mapIdx fun i l => l.write (form i)))]

/-- The value of a log list, the forms given by the positions of the operator and the
log. -/
def LogList.write (form : Nat → Nat → IntervalForm) (l : LogList) : Json :=
  .record
    [("version", .text l.version),
     ("log_list_timestamp", .int l.timestamp),
     ("operators", .list (l.operators.mapIdx fun i o => o.write (form i)))]

end Published

/-- The bytes of a document in its published form. -/
def Document.publish (form : Nat → Nat → IntervalForm) (d : Document) : Bytes :=
  Utf8.encode (d.published.write form).write

end KnownLogs
