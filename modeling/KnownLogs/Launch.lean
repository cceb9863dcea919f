/-
Starting the program:

* `LaunchStep`: what starting asks of the world around the program;
* `Launch.program`: loads the settings, builds the store, schedules its refreshes and
  waits until the schedule ends.
-/
import KnownLogs.Trace
import KnownLogs.Settings.Loading

namespace KnownLogs

/-- What starting asks of the world around the program. -/
inductive LaunchStep where
  /-- Writes a line about a fault of the settings. -/
  | complain (line : String)
  /-- Shows events from a level on. -/
  | showFrom (level : String)
  /-- Schedules the refreshes of a store. -/
  | schedule (store : Store) (cron : String) (runOnStartup : Bool)
  /-- Waits until the schedule ends. -/
  | run

/-- What starting asks of the world around the program; there is nothing to answer. -/
def launchSteps : Interface where
  Question := LaunchStep
  Answer := fun _ => Unit

namespace Launch

open Dialogue (done fail pose)

/-- What stands in front of the wording of a fault of the settings. -/
def complaint : String := "FATAL: Configuration error — "

/-- The event about the start of the program. -/
def starting (s : Settings) : Mark :=
  .ofEvent .info "app.starting"
    [("version", .text Release.version),
     ("log_level", .text s.logLevel),
     ("log_list", .text s.location.path.text),
     ("reload_interval_seconds", .int s.location.seconds),
     ("cron", .text s.schedule.cron),
     ("run_on_startup", .bool s.runOnStartup)]

/-- The event about an end that was asked for. -/
def shutdown : Mark :=
  .ofEvent .info "app.shutdown" [("reason", .text "signal received")]

/-- Ends the program with a number that tells of a fault. -/
def giveUp {α : Type} : Dialogue launchSteps α :=
  fail (.exit [.int 1])

/-- What follows when the schedule ends: an interrupt ends the program in good order, a
request to exit is passed on, and any other fault is told. -/
def finish : Except Fault Unit → Dialogue launchSteps Unit
  | .ok () => done ()
  | .error (.interrupt _) => .note shutdown (done ())
  | .error (.exit details) => .note shutdown (fail (.exit details))
  | .error f =>
    .note (.ofEvent .error "app.fatal_error" [("error", .text f.message)]) giveUp

/-- The program once its settings are known. -/
def serve (s : Settings) (around : Settings.Surroundings) : Dialogue launchSteps Unit := do
  pose (I := launchSteps) (.showFrom s.logLevel)
  .note (starting s) (done ())
  let store ← Dialogue.ofCall { result := s.createStore around none }
  pose (I := launchSteps) (.schedule store s.schedule.cron s.runOnStartup)
  Dialogue.log .info "app.scheduler_starting" [("cron", .text s.schedule.cron)]
  .ask .run finish

/-- The whole program, given the settings or the fault of loading them. -/
def program (loaded : Except Fault Settings) (around : Settings.Surroundings) :
    Dialogue launchSteps Unit :=
  match loaded with
  | .error f => (pose (I := launchSteps) (.complain (complaint ++ f.message))).bind fun _ => giveUp
  | .ok s => serve s around

end Launch

end KnownLogs
