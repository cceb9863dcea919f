/-
What the program shows of itself, beside the results of its computations:

* `Release`: the name and the version under which it presents itself;
* `Event`: a named event with its level and fields;
* `Line`: a line of the record of an execution;
* `Mark`: events, lines, and the steps of a reload that can be counted.
-/
import KnownLogs.Json.Basic
import KnownLogs.Level
import KnownLogs.Bytes.Hex
import KnownLogs.Store.State

namespace KnownLogs

/-! ### The program -/

/-- The name of the program. -/
def Release.name : String := "ct-log-store"

/-- The version of the program. -/
def Release.version : String := "0.1.0"

/-! ### Events and lines -/

/-- A named event. -/
structure Event where
  name : String
  level : Level
  fields : List (String × Json) := []

/-- What a line in the record of an execution tells. -/
inductive Line.News where
  | started
  | completed (success : Bool)
  | failed (reason : String)
deriving DecidableEq, Repr

/-- A line in the record of an execution. -/
structure Line where
  /-- The number of the line's level. -/
  level : Int
  /-- The operation that is executed. -/
  operation : String
  news : Line.News
deriving DecidableEq, Repr

/-- The text of a line, given the seconds that have passed. -/
def Line.text (seconds : String) (l : Line) : String :=
  let start := "[" ++ l.operation ++ "] "
  match l.news with
  | .started => start ++ "Starting execution"
  | .completed success =>
    start ++ "Completed in " ++ seconds ++ "s — " ++ (if success then "SUCCESS" else "FAILURE")
  | .failed reason => start ++ "Execution failed after " ++ seconds ++ "s: " ++ reason

/-- Whether a line is written: one without a level is not. -/
def Line.isWritten (l : Line) : Bool :=
  0 < l.level

/-- What a computation leaves behind. -/
inductive Mark where
  | event (e : Event)
  | line (l : Line)
  /-- The source of the log list is read. -/
  | read
  /-- A byte string is given to the parser. -/
  | parsed (raw : Bytes)
  /-- A key is given to the decoder. -/
  | decoded (key : Bytes)
  /-- The policy is asked about a new list. -/
  | judged
  /-- A state is kept by a sink that remembers all. -/
  | recorded (state : StoreState)

namespace Mark

/-- The event of a mark, if it is one. -/
def event? : Mark → Option Event
  | event e => some e
  | _ => none

/-- The line of a mark, if it is one. -/
def line? : Mark → Option Line
  | line l => some l
  | _ => none

/-- The key of a mark, if it tells of a decoding. -/
def key? : Mark → Option Bytes
  | decoded key => some key
  | _ => none

/-- The state of a mark, if it tells of one. -/
def state? : Mark → Option StoreState
  | recorded state => some state
  | _ => none

/-- Whether a mark tells of a read. -/
def isRead : Mark → Bool
  | read => true
  | _ => false

/-- The mark of an event. -/
def ofEvent (level : Level) (name : String) (fields : List (String × Json)) : Mark :=
  event { name, level, fields }

end Mark

end KnownLogs
