/-
The endpoints of the service over HTTP:

* `Service`: what the endpoints know about the program;
* `Installed`: what they know about the store besides its answers;
* `Endpoint`: the endpoints, as dialogues with the store, which may change between any
  two of their questions.
-/
import KnownLogs.Bytes.Base64
import KnownLogs.Trace
import KnownLogs.Service.Response
import KnownLogs.Service.Route
import KnownLogs.Store.Query

namespace KnownLogs

/-- What the endpoints know about the program. -/
structure Service where
  /-- Whether the thread of the scheduler is alive, if there is one. -/
  thread : Option Bool := none
  /-- Whether the scheduler has been started. -/
  started : Bool := false
  /-- What went wrong at the start of the program. -/
  error : Option String := none
deriving DecidableEq, Repr

/-- What the endpoints know about an installed store besides its answers. -/
structure Installed where
  /-- The least time between two attempts, in milliseconds. -/
  interval : Int
  /-- The states that the sink has kept, or the name of a sink that keeps none. -/
  recorded : Except String (List StoreState)

/-- A dialogue with the store that ends with an answer. -/
abbrev Endpoint := Dialogue storeQueries Response

namespace Service

/-- Whether the scheduler is running. -/
def isRunning (s : Service) : Bool :=
  s.thread == some true

/-- What went wrong at the start of the program, unless there is nothing to tell. -/
def problem? (s : Service) : Option String :=
  match s.error with
  | some "" => none
  | e => e

end Service

namespace Endpoint

open Dialogue (done note pose)

/-! ### Parts of answers -/

/-- An optional integer. -/
def intOrNull : Option Int → Json
  | some i => .int i
  | none => .null

/-- What is told about a log. -/
def summary (e : Entry) : List (String × Json) :=
  [("log_id", .text (Base64.encode e.logId)),
   ("log_id_hex", .text (Hex.encode e.logId)),
   ("description", .text e.description),
   ("url", .text e.url),
   ("operator", .text e.operator),
   ("status", .text e.status.text),
   ("status_timestamp", .int e.since),
   ("mmd", .int e.mergeDelay),
   ("temporal_interval", .record
     [("start_inclusive", intOrNull e.interval.start),
      ("end_exclusive", intOrNull e.interval.stop)])]

/-- The answer where no store is installed. -/
def unavailable : Response :=
  .record 503 [("status", .text "unavailable"), ("reason", .text "Store not initialized")]

/-! ### Probes -/

/-- Whether the program is alive. -/
def health (s : Service) : Endpoint :=
  match s.problem? with
  | some e =>
    note (.ofEvent .warning "health.check_failed" [("error", .text e)]) <|
      done (.record 503 [("status", .text "unhealthy"), ("error", .text e)])
  | none =>
    if s.isRunning then
      done (.record 200 [("status", .text "healthy"), ("scheduler_running", .bool true)])
    else
      done (.record 503
        [("status", .text "unhealthy"), ("reason", .text "scheduler thread not running")])

/-- The answer before the first attempt. -/
def starting (s : Service) : Response :=
  .record 202 [("status", .text "starting"), ("scheduler_started", .bool s.started)]

/-- Whether the store has made its first attempt, whatever came of it. -/
def ready (s : Service) (store : Option Installed) : Endpoint :=
  match s.problem?, store with
  | some e, _ => done (.record 503 [("status", .text "error"), ("error", .text e)])
  | none, none => done (starting s)
  | none, some _ =>
    (pose (I := storeQueries) .lastChecked).bind fun (checked : Option Int) =>
      done (if checked.isNone then starting s else .record 200 [("status", .text "ready")])

/-- What the program is. -/
def info (s : Service) : Endpoint :=
  done <| .record 200
    [("name", .text Release.name),
     ("version", .text Release.version),
     ("scheduler_running", .bool s.isRunning),
     ("scheduler_started", .bool s.started),
     ("has_error", .bool s.error.isSome)]

/-! ### The store -/

/-- The state of the store and what goes with it, asked piece by piece. -/
def state (store : Installed) : Endpoint := do
  let state : StoreState ← pose (I := storeQueries) .state
  let logs : List Entry ← pose (I := storeQueries) .logs
  let timestamp : Option Int ← pose (I := storeQueries) .timestamp
  let checked : Option Int ← pose (I := storeQueries) .lastChecked
  done <| .record 200
    [("state", .text state.text),
     ("logs", .int logs.length),
     ("log_list_timestamp", intOrNull timestamp),
     ("last_checked_millis", intOrNull checked),
     ("reload_interval_millis", .int store.interval)]

/-- Every known log. -/
def logs : Endpoint :=
  (pose (I := storeQueries) .logs).bind fun (es : List Entry) =>
    done (.record 200 [("logs", .list (es.map fun e => .record (summary e)))])

/-- The answer for digits that are no id. -/
def notHex : Response :=
  .record 400 [("status", .text "invalid"), ("reason", .text "log id must be hex-encoded")]

/-- The answer for an id that no log has. -/
def unknown (hex : String) : Response :=
  .record 404 [("status", .text "unknown"), ("log_id_hex", .text (hex.map Char.toLower))]

/-- One log, by the digits of its id. -/
def log (hex : String) : Endpoint :=
  match Hex.decode? hex.toList with
  | none => done notHex
  | some id =>
    (pose (I := storeQueries) (.find (some id))).bind fun (found : Option Entry) =>
      match found with
      | some e => done (.record 200 (summary e))
      | none => done (unknown hex)

/-- Every state that the sink has kept. -/
def metrics (store : Installed) : Endpoint :=
  match store.recorded with
  | .ok states => done (.record 200 [("transitions", .list (states.map fun s => .text s.text))])
  | .error sink => .fail (.noStates sink)

/-- The paths of the endpoints. -/
def description : Endpoint :=
  done (.record 200 [("paths", .list (Route.plain.map fun p => .text p.1))])

end Endpoint

end KnownLogs
