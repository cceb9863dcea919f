/-
The program: keeps a store of known logs fresh on a schedule.

Settings come from the environment and from a file of variables in the working
directory. Events are written to the standard output, one line each.
-/
import KnownLogs.Cron
import KnownLogs.Files.Source
import KnownLogs.Json.Writer
import KnownLogs.Launch
import KnownLogs.Refresh.Scheduler
import KnownLogs.Store.Gate
import Std.Time.Zoned

open KnownLogs

namespace KnownLogs.Program

/-! ### Time -/

/-- The minute that it is. -/
def moment : IO Moment := do
  let t ← Std.Time.PlainDateTime.now
  return {
    minute := t.time.minute.val.toNat
    hour := t.time.hour.val.toNat
    day := t.date.day.val.toNat
    month := t.date.month.val.toNat
    weekday := t.weekday.toNat - 1
    monthLength := (Std.Time.Month.Ordinal.days t.date.year.isLeap t.date.month).val.toNat }

/-- The time of day, in milliseconds. -/
def wallClock : IO Int := do
  return (← Std.Time.Timestamp.now).toMillisecondsSinceUnixEpoch.val

/-- A clock that shows the time since some moment in the past. -/
def steadyClock : IO Clock := do
  return { now := (← IO.monoMsNow) }

/-! ### Files and variables -/

/-- Why a file could not be read. -/
def causeOf : IO.Error → Files.Cause
  | .noFileOrDirectory .. => .notFound
  | .permissionDenied .. => .permissionDenied
  | .inappropriateType .. => .isDirectory
  | .alreadyExists .. => .alreadyThere
  | .otherError code details => .other code.toNat details
  | e => .other 5 (toString e)

/-- What reading the log list gives now. -/
def readList (path : Path) : IO (Call (Outcome Bytes)) := do
  try
    let raw ← IO.FS.readBinFile path.text
    return Files.report path (.ok raw.toList)
  catch e => return Files.report path (.error { cause := causeOf e, path := path.text })

/-- The variables in a list of bytes, each ended by a zero. -/
def variablesOf (raw : Bytes) : List (String × String) :=
  let texts := (Text.splitAt '\x00' (String.ofList ((Utf8.decode? raw).getD [])))
  texts.filterMap fun s =>
    match s.toList.span (· != '=') with
    | (name, _ :: text) => some (String.ofList name, String.ofList text)
    | _ => none

/-- The variables of the environment. -/
def environment : IO (List (String × String)) := do
  return variablesOf (← IO.FS.readBinFile "/proc/self/environ").toList

/-- The variables of a file in the working directory, if there is one. -/
def fileVariables (environment : List (String × String)) : IO Variables := do
  try return Variables.ofFile environment (← IO.FS.readFile ".env")
  catch _ => return []

/-! ### Carrying out -/

/-- What the program holds while it runs. -/
structure Running where
  /-- The levels of the events that are shown. -/
  shown : List Level := Level.all
  path : Path
  store : Option Store := none
  scheduler : Option Scheduler := none

/-- Shows an event. -/
def showEvent (r : Running) : Mark → IO Unit
  | .event e => do
    if r.shown.contains e.level then
      let fields := e.fields.map fun f => f.1 ++ "=" ++ f.2.write
      let out ← IO.getStdout
      out.putStrLn (Text.join " " (("[" ++ e.level.text ++ "]") :: e.name :: fields))
      out.flush
  | _ => return

/-- Carries out a dialogue with a store, whose file, policy and clock are brought up to
date first. -/
def converse {α : Type} (settings : Settings) (r : IO.Ref Running)
    (x : Dialogue storeQueries α) : IO (Except Fault α) := do
  let held ← r.get
  match held.store, settings.buildPolicy with
  | some store, .ok policy =>
    let source ← readList held.path
    let clock ← steadyClock
    let rules := policy.at (← wallClock)
    let (ending, after) :=
      ({ store with source, clock, policy := rules, journal := [] } : Store).converse x
    r.set { held with store := some after }
    for m in after.journal do showEvent held m
    match ending with
    | .value a => return .ok a
    | .fault f => return .error f
    | .blocked => return .error (.unexpected "the store waits for ever")
  | _, _ => return .error (.lacking "store")

/-- Waits for the next minute. -/
def untilNextMinute : IO Unit := do
  let rest := 60000 - (← wallClock) % 60000
  IO.sleep rest.toNat.toUInt32

/-- Runs the job in every minute in which the schedule fires. -/
partial def loop (settings : Settings) (r : IO.Ref Running) (s : Scheduler) :
    IO (Except Fault Unit) := do
  untilNextMinute
  if s.trigger.fires (← moment) then
    match ← converse settings r (Refresh.job Refresh.ofStore) with
    | .ok () => loop settings r s
    | .error f => return .error f
  else loop settings r s

/-- Does what a step of the start asks for. -/
def perform (loaded : Except Fault Settings) (r : IO.Ref Running) (step : LaunchStep) :
    IO (Except Fault Unit) := do
  match step, loaded with
  | .complain line, _ => do (← IO.getStderr).putStrLn line; return .ok ()
  | .showFrom level, _ =>
    match Level.shownFrom level with
    | .ok shown => r.modify fun held => { held with shown }; return .ok ()
    | .error p => return .error (.level p)
  | .schedule store cron runOnStartup, .ok settings => do
    r.modify fun held => { held with store := some store }
    match ← converse settings r (Scheduler.create Refresh.ofStore cron runOnStartup true) with
    | .ok s => r.modify fun held => { held with scheduler := some s }; return .ok ()
    | .error f => return .error f
  | .run, .ok settings => do
    match (← r.get).scheduler with
    | some s => loop settings r s
    | none => return .error (.lacking "scheduler")
  | _, .error f => return .error f

/-- Carries out the start of the program. -/
def carryOut {α : Type} (loaded : Except Fault Settings) (r : IO.Ref Running) :
    Dialogue launchSteps α → IO (Except Fault α)
  | .done a => return .ok a
  | .fail f => return .error f
  | .note m rest => do showEvent (← r.get) m; carryOut loaded r rest
  | .ask step rest => do carryOut loaded r (rest (← perform loaded r step))

/-- The number with which the program ends. -/
def exitCode : Except Fault Unit → UInt32
  | .ok () => 0
  | .error (.exit details) =>
    match Fault.exitCode details with
    | .none => 0
    | code => (code.number?.getD 1 % 256).toNat.toUInt32
  | .error _ => 1

end KnownLogs.Program

open KnownLogs.Program in
/-- Loads the settings and keeps the store fresh until the program is ended. -/
def main : IO UInt32 := do
  let pairs ← environment
  let loaded := Settings.load (.ofEnvironment pairs) (← fileVariables pairs)
  let path := (loaded.toOption.map fun s => s.location.path).getD default
  let around : Settings.Surroundings :=
    { source := ← readList path, now := ← wallClock, clock := ← steadyClock }
  let r ← IO.mkRef { path }
  let ending ← carryOut loaded r (Launch.program loaded around)
  if let .error f := ending then
    unless f matches .exit _ do (← IO.getStderr).putStrLn (f.kind ++ ": " ++ f.message)
  return exitCode ending
