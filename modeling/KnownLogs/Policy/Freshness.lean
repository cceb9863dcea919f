/-
The policy's view of a whole log list:

* `Policy.isStale`: whether a list is too old at a time;
* `Policy.accepts`: a list that is not too old and has a log that is active;
* `Policy.judge`: the same with warnings.
-/
import KnownLogs.Call
import KnownLogs.Policy.Parameters
import KnownLogs.Log.Document

namespace KnownLogs.Policy

/-- The number of milliseconds in a day. -/
def dayMillis : Int := 24 * 60 * 60 * 1000

/-- Whether a list published at `timestamp` is too old at `now`. -/
def isStale (p : Policy) (now timestamp : Int) : Bool :=
  decide (p.maxAgeDays * dayMillis < now - timestamp)

/-- Whether a log is active. -/
def anyActive (now : Int) (logs : List Entry) : Bool :=
  logs.any fun e => e.isActiveAt now

/-- Whether a list can be relied on at `now`. -/
def accepts (p : Policy) (now : Int) (v : View) : Bool :=
  match v.timestamp with
  | none => false
  | some timestamp => !p.isStale now timestamp && anyActive now v.logs

/-- The verdict on a list at `now`, with a warning where it is refused. -/
def judge (p : Policy) (now : Int) (v : View) : Call Bool :=
  match v.timestamp with
  | none => .done false
  | some timestamp =>
    if p.isStale now timestamp then do
      Call.log .warning "policy.log_list_stale"
        [("age_days", .int ((now - timestamp) / dayMillis)), ("max_age_days", .int p.maxAgeDays)]
      return false
    else if anyActive now v.logs then .done true
    else do
      Call.log .warning "policy.no_active_logs" []
      return false

end KnownLogs.Policy
