/-
What can end a computation before it has a result:

* `Fault`: the causes, those of the library's own checks and those that come from
  outside;
* `Fault.isOrdinary`: an ordinary fault can be made into a failure, while an interrupt,
  a request to exit and their like go through to the end;
* `Fault.exitCode`: the code that a request to exit gives;
* `Fault.kind`, `Fault.message`: the family under which a fault is reported, and its
  wording.
-/
import KnownLogs.Cron
import KnownLogs.Files.Problem
import KnownLogs.Level
import KnownLogs.Log.Entry
import KnownLogs.Policy.Parameters
import KnownLogs.Schema.Issue

namespace KnownLogs

/-- What can end a computation before it has a result. -/
inductive Fault where
  /-- The user breaks off. -/
  | interrupt (details : List Value)
  /-- Someone asks the program to end. -/
  | exit (details : List Value)
  /-- A fault that a collaborator reports, known by its family and its details. -/
  | foreign (family : String) (details : List Value)
  | files (problem : Files.Problem)
  | interval (problem : Interval.Problem)
  | entry (problem : Entry.Problem)
  | name (problem : UnknownName)
  /-- The published id of a log is not the digest of its key. -/
  | idMismatch (description : String)
  /-- The default decoder cannot read a key. -/
  | unreadableKey
  /-- Values that do not have the form of a `model`. -/
  | form (model : String) (issues : List Schema.Issue)
  /-- The text for a section of the settings is no JSON. -/
  | unreadableSection (field source : String)
  /-- A container in the text for a section is nested too deep. -/
  | nestedTooDeep (container : String)
  | value (problem : Value.Problem)
  /-- A success would hold nothing. -/
  | emptySuccess
  /-- A failure would describe nothing. -/
  | emptyFailure
  /-- A failure is asked for its value. -/
  | noValue (message : String)
  /-- A success is asked for its failure. -/
  | noFailure (shown : String)
  /-- An outcome is not the one expected. -/
  | unexpected (message : String)
  /-- A store is to be built without one of its collaborators. -/
  | lacking (collaborator : String)
  /-- A store is to be built with an interval that is not positive. -/
  | intervalNotPositive (millis : Int)
  | policy (problem : Policy.Problem)
  | cron (problem : Cron.Problem)
  | level (problem : Level.Problem)
  /-- A sink that keeps no states is asked for them. -/
  | noStates (sink : String)
  /-- An event is given its name twice. -/
  | namedTwice
deriving Inhabited

namespace Fault

/-- The families of faults that are no errors but go through to the end, like an interrupt. -/
def passingFamilies : List String :=
  ["BaseException", "BaseExceptionGroup", "KeyboardInterrupt", "SystemExit", "GeneratorExit",
   "CancelledError"]

/-- Whether a fault can be made into a failure. -/
def isOrdinary : Fault → Bool
  | interrupt _ | exit _ => false
  | foreign family _ => !passingFamilies.contains family
  | _ => true

/-! ### Faults of the system -/

/-- The family of a fault that the system reports by number. -/
def systemFamily (number : Int) : String :=
  if number = 2 then "FileNotFoundError"
  else if number = 1 ∨ number = 13 then "PermissionError"
  else if number = 17 then "FileExistsError"
  else if number = 20 then "NotADirectoryError"
  else if number = 21 then "IsADirectoryError"
  else if number = 3 then "ProcessLookupError"
  else if number = 4 then "InterruptedError"
  else if number = 10 then "ChildProcessError"
  else if number = 11 ∨ number = 114 ∨ number = 115 then "BlockingIOError"
  else if number = 32 ∨ number = 108 then "BrokenPipeError"
  else if number = 103 then "ConnectionAbortedError"
  else if number = 104 then "ConnectionResetError"
  else if number = 110 then "TimeoutError"
  else if number = 111 then "ConnectionRefusedError"
  else "OSError"

/-- The families of faults that the system reports. -/
def systemFamilies : List String :=
  ["OSError", "FileNotFoundError", "PermissionError", "FileExistsError", "NotADirectoryError",
   "IsADirectoryError", "ProcessLookupError", "InterruptedError", "ChildProcessError",
   "BlockingIOError", "BrokenPipeError", "ConnectionError", "ConnectionAbortedError",
   "ConnectionResetError", "ConnectionRefusedError", "TimeoutError"]

/-- What the details of a system fault say. -/
structure SystemReport where
  number : Value
  reason : Value
  path : Option Value
  /-- The second path, where two are involved. -/
  second : Option Value

/-- The report of two to five details: the number, the reason, the path, one that only
other systems know, and the second path. -/
def SystemReport.ofDetails? : List Value → Option SystemReport
  | [number, reason] => some ⟨number, reason, none, none⟩
  | [number, reason, path] | [number, reason, path, _] => some ⟨number, reason, path.present?, none⟩
  | [number, reason, path, _, second] => some ⟨number, reason, path.present?, second.present?⟩
  | _ => none

/-- The wording of a system fault. -/
def SystemReport.message (r : SystemReport) : String :=
  let base := "[Errno " ++ r.number.shown ++ "] " ++ r.reason.shown
  match r.path, r.second with
  | none, _ => base
  | some path, none => base ++ ": " ++ path.written
  | some path, some second => base ++ ": " ++ path.written ++ " -> " ++ second.written

/-- The report of a fault of a family. A fault about waiting may give the number of
characters written in place of the path. -/
def SystemReport.ofFamily? (family : String) (details : List Value) : Option SystemReport :=
  if !systemFamilies.contains family then none
  else
    (ofDetails? details).map fun r =>
      if family = "BlockingIOError" ∧ (r.path.bind Value.number?).isSome then
        { r with path := none }
      else r

/-! ### Reports -/

/-- The fault of a family with its details. The number among the details of a system
fault tells its family. -/
def ofFamily (family : String) (details : List Value) : Fault :=
  match family with
  | "KeyboardInterrupt" => interrupt details
  | "SystemExit" => exit details
  | "OSError" | "IOError" | "EnvironmentError" =>
    match (SystemReport.ofDetails? details).bind fun r => r.number.number? with
    | some number => foreign (systemFamily number) details
    | none => foreign "OSError" details
  | _ => foreign family details

/-- The wording of a fault with details. -/
def detailsMessage (family : String) (details : List Value) : String :=
  match details with
  | [] => ""
  | [v] => if family = "KeyError" then v.written else v.shown
  | _ =>
    match SystemReport.ofFamily? family details with
    | some r => r.message
    | none => Value.writtenTogether details

/-- The code that a request to exit gives: its only detail, or all of them. -/
def exitCode : List Value → Value
  | [] => .none
  | [v] => v
  | vs => .list vs

/-- The family under which a fault is reported. -/
def kind : Fault → String
  | interrupt _ => "KeyboardInterrupt"
  | exit _ => "SystemExit"
  | foreign family _ => family
  | files p =>
    match p.cause.number? with
    | some n => systemFamily n
    | none => "ValueError"
  | form .. => "ValidationError"
  | unreadableSection .. => "SettingsError"
  | nestedTooDeep _ => "RecursionError"
  | value (.noFirst _) => "IndexError"
  | value _ | emptySuccess | emptyFailure | namedTwice => "TypeError"
  | unexpected _ => "AssertionError"
  | noStates _ => "AttributeError"
  | policy (.lifeTooLong _) => "OverflowError"
  | level (.text _) => "KeyError"
  | level .table => "TypeError"
  | _ => "ValueError"

/-- The wording of a fault. That of values without the form of a model is a stand-in, which
counts the issues: the report of such a fault lists them by kind and path in its place. -/
def message : Fault → String
  | interrupt details | exit details => detailsMessage "" details
  | foreign family details => detailsMessage family details
  | files p => p.message
  | interval p => p.message
  | entry p => p.message
  | name p => p.message
  | idMismatch d => "log_id does not match key digest for log " ++ Text.quoted d
  | unreadableKey => "Could not deserialize key data."
  | form model issues => s!"{issues.length} validation errors for {model}"
  | unreadableSection field source =>
    s!"error parsing value for field \"{field}\" from source \"{source}\""
  | nestedTooDeep container =>
    s!"maximum recursion depth exceeded while decoding a JSON {container} from a unicode string"
  | value p => p.message
  | emptySuccess => "Success value must not be None"
  | emptyFailure => "Failure error must not be None"
  | noValue m => "Cannot get value from a Failure: " ++ m
  | noFailure shown => "Cannot get error from a Success: " ++ shown
  | unexpected m => m
  | lacking c => "LogStore requires a " ++ c
  | intervalNotPositive millis => s!"reload interval must be positive, got {millis}"
  | policy p => p.message
  | cron p => p.message
  | level p => p.message
  | noStates sink => s!"'{sink}' object has no attribute 'states'"
  | namedTwice => "got multiple values for argument 'event'"

end Fault

end KnownLogs
