/-
Levels of events:

* `Level`: debug, info, warning, error and critical, with their numbers;
* `Level.threshold`: the number that a name in any case stands for;
* `Level.shownFrom`: the levels of the events that are shown then;
* `Level.nameOf`: the name of a number.
-/
import KnownLogs.Text.Basic
import KnownLogs.Text.Quoted

namespace KnownLogs

/-- How much an event matters. -/
inductive Level where
  | debug
  | info
  | warning
  | error
  | critical
deriving DecidableEq, Repr

namespace Level

/-- The levels, the least important first. -/
def all : List Level := [debug, info, warning, error, critical]

/-- The name of a level. -/
def text : Level → String
  | debug => "debug"
  | info => "info"
  | warning => "warning"
  | error => "error"
  | critical => "critical"

/-- The number of a level. -/
def number : Level → Nat
  | debug => 10
  | info => 20
  | warning => 30
  | error => 40
  | critical => 50

/-- Why a name cannot set the level from which on events are shown. -/
inductive Problem where
  /-- The name stands for a text. -/
  | text (s : String)
  /-- The name stands for a table. -/
  | table
deriving DecidableEq, Repr

/-- The wording of a problem. -/
def Problem.message : Problem → String
  | text s => Text.quoted s
  | table => "unhashable type: 'dict'"

/-- The form of a line in a plain record of events, which has a name among the levels. -/
def plainForm : String := "%(levelname)s:%(name)s:%(message)s"

/-- The number that a name in any case stands for; the number of `info` when it is no
name of a level. Events below the number are left out. -/
def threshold (name : String) : Except Problem Nat :=
  match Text.capitals name with
  | "NOTSET" => .ok 0
  | "WARN" => .ok (number warning)
  | "FATAL" => .ok (number critical)
  | "BASIC_FORMAT" => .error (.text plainForm)
  | "_STYLES" => .error .table
  | upper =>
    match all.find? fun l => Text.capitals l.text == upper with
    | some l => .ok l.number
    | none => .ok (number info)

/-- The levels of the events that are shown from a named level on. -/
def shownFrom (name : String) : Except Problem (List Level) :=
  (threshold name).map fun n => all.filter fun l => n ≤ l.number

/-- The name of a number, in capitals. -/
def nameOf (n : Int) : String :=
  if n = 0 then "NOTSET"
  else
    match all.find? fun l => (l.number : Int) == n with
    | some l => Text.capitals l.text
    | none => s!"Level {n}"

end Level

end KnownLogs
