/-
The schedule on which a store is kept fresh:

* `Refresh.state`, `Refresh.execute`: asks a store for its state, as an outcome, with the start
  and the end told;
* `Refresh.job`: one run of the job, which reports the state or the failure;
* `Signal`: the signals that end the program;
* `Scheduler`: the trigger, the jobs and the signals that are handled;
* `Scheduler.create`: reads the schedule, and runs the job once if asked to;
* `Scheduler.deliver`: what a signal does.
-/
import KnownLogs.Execution
import KnownLogs.Store.Query

namespace KnownLogs

/-! ### The job -/

namespace Refresh

variable {I : Interface}

/-- The state that a question about it gives; there must be one. -/
def state (ask : Dialogue I (Option StoreState)) : Dialogue I (Outcome StoreState) :=
  ask.bind fun found => .ofCall (Outcome.ofValue found)

/-- The context of a refresh. -/
def context : LoggedContext := { operation := "LogListRefresh" }

/-- The state, with the start and the end told. -/
def execute (ask : Dialogue I (Option StoreState)) : Dialogue I (Outcome StoreState) :=
  context.around (state ask)

/-- Reports the state or the failure. -/
def report : Outcome StoreState → Mark
  | .success s => .ofEvent .info "scheduler.refresh_completed" [("state", .text s.text)]
  | .failure f => .ofEvent .error "scheduler.refresh_failed" [("failure", .text f.cause)]

/-- One run of the job. -/
def job (ask : Dialogue I (Option StoreState)) : Dialogue I Unit :=
  (execute ask).bind fun r => .note (report r) (.done ())

/-- Asks a store for its state. -/
def ofStore : Dialogue storeQueries (Option StoreState) :=
  (Dialogue.pose (I := storeQueries) .state).bind fun s => .done (some s)

end Refresh

/-! ### The schedule -/

/-- The signals that end the program. -/
inductive Signal where
  | interrupt
  | terminate
deriving DecidableEq, Repr

/-- The name of a signal. -/
def Signal.text : Signal → String
  | interrupt => "SIGINT"
  | terminate => "SIGTERM"

/-- A job that is scheduled. -/
structure ScheduledJob where
  id : String
  name : String
deriving DecidableEq, Repr

/-- A schedule for keeping a store fresh. -/
structure Scheduler where
  trigger : Cron
  jobs : List ScheduledJob
  /-- The signals that end the program in good order. -/
  signals : List Signal := []

namespace Scheduler

variable {I : Interface}

/-- Every ten minutes. -/
def standardCron : String := "*/10 * * * *"

/-- The job that refreshes the store. -/
def refreshJob : ScheduledJob :=
  { id := "ct_log_store_refresh", name := "CT log list refresh" }

/-- The signals that are handled. -/
def handled (handleSignals : Bool) : List Signal :=
  if handleSignals then [.interrupt, .terminate] else []

/-- Runs the job at once. -/
def runAtOnce (ask : Dialogue I (Option StoreState)) : Dialogue I Unit :=
  (Dialogue.log .info "scheduler.startup_run"
    [("message", .text "Loading log list immediately on startup")]).bind fun _ => Refresh.job ask

/-- A schedule for a store, which is refreshed at once if `runOnStartup` says so. -/
def create (ask : Dialogue I (Option StoreState)) (cron : String) (runOnStartup : Bool)
    (handleSignals : Bool) : Dialogue I Scheduler :=
  match Cron.read cron with
  | .error p => .fail (.cron p)
  | .ok trigger =>
    (if runOnStartup then runAtOnce ask else .done ()).bind fun _ =>
      .done { trigger, jobs := [refreshJob], signals := handled handleSignals }

/-- What a handled signal does: it is told, the schedule is shut down without waiting
for the job, and the program ends. -/
def deliver (s : Signal) : Call Unit := do
  .log .info "scheduler.shutdown_requested" [("signal", .text s.text)]
  .fail (.exit [.int 0])

/-- Shutting down does not wait for the job. -/
def waitsForJob : Bool := false

end Scheduler

end KnownLogs
