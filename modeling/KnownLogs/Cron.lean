/-
Schedules of five fields:

* `Cron.Field`: minute, hour, day, month and day of the week, with their ranges;
* `Cron.Term`: all values, a range of numbers, a range of names, the last day;
* `Cron.Term.read`: one term of a field;
* `Cron.read`: a whole schedule; the month is looked at first and the minute last;
* `Cron.trimmed`: a text of five words, without the blanks around it;
* `Moment`, `Cron.fires`: a minute by its place in hour, day, month and week, and whether a
  schedule fires in it.
-/
import KnownLogs.Text.Basic
import KnownLogs.Text.Quoted

namespace KnownLogs.Cron

/-! ### Fields -/

/-- The fields of a schedule. -/
inductive Field where
  | minute
  | hour
  | day
  | month
  | weekday
deriving DecidableEq, Repr

/-- The name of a field. -/
def Field.name : Field → String
  | minute => "minute"
  | hour => "hour"
  | day => "day"
  | month => "month"
  | weekday => "day_of_week"

/-- The smallest value of a field. -/
def Field.least : Field → Nat
  | minute => 0
  | hour => 0
  | day => 1
  | month => 1
  | weekday => 0

/-- The largest value of a field. -/
def Field.most : Field → Nat
  | minute => 59
  | hour => 23
  | day => 31
  | month => 12
  | weekday => 6

/-- The names that may stand for the values of a field, from the smallest on. -/
def Field.names : Field → List String
  | month => ["jan", "feb", "mar", "apr", "may", "jun", "jul", "aug", "sep", "oct", "nov", "dec"]
  | weekday => ["mon", "tue", "wed", "thu", "fri", "sat", "sun"]
  | _ => []

/-- What the names of a field are names of. -/
def Field.family : Field → String
  | month => "month"
  | _ => "weekday"

/-! ### Problems -/

/-- Why a range does not fit its field. -/
inductive RangeProblem where
  | stepTooLarge (step : Nat) (total : Int)
  | firstTooLow (first least : Nat)
  | lastTooHigh (last most : Nat)
deriving DecidableEq, Repr

/-- The wording of a misfit. -/
def RangeProblem.message : RangeProblem → String
  | .stepTooLarge step total =>
    s!"the step value ({step}) is higher than the total range of the expression ({total})"
  | .firstTooLow first least =>
    s!"the first value ({first}) is lower than the minimum value ({least})"
  | .lastTooHigh last most =>
    s!"the last value ({last}) is higher than the maximum value ({most})"

/-- Why a text is not a schedule. -/
inductive Problem where
  /-- There are not five fields. -/
  | fieldCount (count : Nat)
  | unrecognized (term : String) (field : Field)
  | misfit (term : String) (why : RangeProblem)
  | zeroStep
  | reversed
  | unknownName (family name : String)
deriving DecidableEq, Repr

/-- The wording of a problem. -/
def Problem.message : Problem → String
  | .fieldCount n =>
    if n < 5 then s!"not enough values to unpack (expected 5, got {n})"
    else "too many values to unpack (expected 5)"
  | .unrecognized term field =>
    "Unrecognized expression \"" ++ term ++ "\" for field \"" ++ field.name ++ "\""
  | .misfit term why => "Error validating expression " ++ Text.quoted term ++ ": " ++ why.message
  | .zeroStep => "Increment must be higher than 0"
  | .reversed => "The minimum value in a range must not be higher than the maximum"
  | .unknownName family name => "Invalid " ++ family ++ " name \"" ++ name ++ "\""

/-! ### Terms -/

/-- A term of a field. -/
inductive Term where
  /-- All values, or every so-manieth. -/
  | every (step : Option Nat)
  /-- The values from one on, up to another or to the end of the field. -/
  | range (first : Nat) (last : Option Nat) (step : Option Nat)
  /-- The values from one name up to another. -/
  | named (first last : String)
  /-- The last day of the month. -/
  | lastDay
deriving DecidableEq, Repr

/-- The text of an optional step. -/
def stepText : Option Nat → String
  | some step => s!"/{step}"
  | none => ""

/-- The text of a term. -/
def Term.text : Term → String
  | .every step => "*" ++ stepText step
  | .range first last step =>
    let rest :=
      match last with
      | some l => if l = first then "" else s!"-{l}"
      | none => ""
    toString first ++ rest ++ stepText step
  | .named first last => if first = last then first else first ++ "-" ++ last
  | .lastDay => "last"

/-- The number at the front of a text, and what follows it. -/
def number? (cs : List Char) : Option (Nat × List Char) :=
  match cs.takeWhile fun c => (Text.digitValue? c).isSome with
  | [] => none
  | ds =>
    some (ds.foldl (fun n c => 10 * n + (Text.digitValue? c).getD 0) 0,
      cs.drop ds.length)

/-- A step at the end of a term: nothing, or a slash and a number. -/
def step? : List Char → Option (Option Nat)
  | [] => some none
  | '/' :: cs =>
    match number? cs with
    | some (n, []) => some (some n)
    | _ => none
  | _ => none

/-- An optional second number behind a hyphen, and what follows. -/
def second? : List Char → Option (Option Nat × List Char)
  | '-' :: cs => (number? cs).map fun (n, rest) => (some n, rest)
  | cs => some (none, cs)

/-- Letters that belong to names: those of ASCII and the four that differ from one of
them in case alone. -/
def isLetter (c : Char) : Bool :=
  c.isAlpha || [0x130, 0x131, 0x17F, 0x212A].contains c.toNat

/-- A letter of a name, its case removed. -/
def plainLetter (c : Char) : Char :=
  match c.toNat with
  | 0x130 | 0x131 => 'i'
  | 0x17F => 's'
  | 0x212A => 'k'
  | _ => c.toLower

/-- The names at the front of a text: one, or two with a hyphen between them. What
follows them does not count. -/
def names? (cs : List Char) : Option (String × Option String) :=
  match cs.takeWhile isLetter with
  | [] => none
  | first =>
    let second :=
      match cs.drop first.length with
      | '-' :: rest =>
        match rest.takeWhile isLetter with
        | [] => none
        | last => some (String.ofList last)
      | _ => none
    some (String.ofList first, second)

/-- The place of a name among the names of a field. -/
def position (field : Field) (name : String) : Except Problem Nat :=
  match field.names.idxOf? (name.map Char.toLower) with
  | some i => .ok i
  | none => .error (.unknownName field.family name)

/-- The distance between the first and the last value of a field. -/
def Field.total (field : Field) : Int :=
  (field.most : Int) - field.least

/-- Whether a step fits the distance between two values. -/
def checkStep (step : Option Nat) (total : Int) : Except RangeProblem Unit :=
  match step with
  | some s => if total < s then .error (.stepTooLarge s total) else .ok ()
  | none => .ok ()

/-- Whether a range of numbers fits a field. A last value of zero leaves the range
open when its step is looked at. -/
def checkRange (field : Field) (first : Nat) (last step : Option Nat) :
    Except RangeProblem Unit := do
  checkStep step field.total
  if first < field.least then throw (.firstTooLow first field.least)
  match last with
  | some l => if field.most < l then throw (.lastTooHigh l field.most)
  | none => pure ()
  let top : Int := match last with
    | some (l + 1) => l + 1
    | _ => field.most
  checkStep step (top - first)

/-- One term of a field. -/
def Term.read (field : Field) (term : String) : Except Problem Term := do
  let cs := term.toList
  let fit (check : Except RangeProblem Unit) : Except Problem Unit :=
    check.mapError (.misfit term)
  if let some step := (match cs with | '*' :: rest => step? rest | _ => none) then
    if step = some 0 then throw .zeroStep
    fit (checkStep step field.total)
    return .every step
  if let some (first, last, step) :=
      (do let (n, rest) ← number? cs
          let (m, rest) ← second? rest
          return (n, m, ← step? rest)) then
    if step = some 0 then throw .zeroStep
    let last := if last.isNone ∧ step.isNone then some first else last
    if last.any (· < first) then throw .reversed
    fit (checkRange field first last step)
    return .range first last step
  if field = .day ∧ (cs.take 4).map plainLetter = ['l', 'a', 's', 't'] then return .lastDay
  if !field.names.isEmpty then
    if let some (first, second) := names? cs then
      let i ← position field first
      let j ← match second with
        | some last => position field last
        | none => pure i
      if j < i then throw .reversed
      return .named ((field.names[i]?).getD "") ((field.names[j]?).getD "")
  throw (.unrecognized term field)

end Cron

open Cron

/-- A schedule: the terms of each field. -/
structure Cron where
  minute : List Cron.Term
  hour : List Cron.Term
  day : List Cron.Term
  month : List Cron.Term
  weekday : List Cron.Term
deriving DecidableEq, Repr

namespace Cron

/-- The text of a field's terms. -/
def fieldText (terms : List Term) : String :=
  Text.join "," (terms.map Term.text)

/-- The terms of a field, separated by commas. -/
def readField (field : Field) (s : String) : Except Problem (List Term) :=
  (Text.splitAt ',' s).mapM (Term.read field)

/-- A schedule: five words for minute, hour, day, month and day of the week. The
fields are looked at from the longest period to the shortest, the day of the week
behind the day. -/
def read (s : String) : Except Problem Cron :=
  match Text.words s with
  | [minute, hour, day, month, weekday] => do
    let month ← readField .month month
    let day ← readField .day day
    let weekday ← readField .weekday weekday
    let hour ← readField .hour hour
    let minute ← readField .minute minute
    return { minute, hour, day, month, weekday }
  | words => .error (.fieldCount words.length)

/-- A text of five words without the blanks around it, or the number of its words. -/
def trimmed (s : String) : Except Nat String :=
  let count := (Text.words s).length
  if count = 5 then .ok (Text.trim Text.isSeparator s) else .error count

end Cron

/-! ### Firing -/

/-- A minute by its place in hour, day, month and week. -/
structure Moment where
  minute : Nat
  hour : Nat
  day : Nat
  month : Nat
  /-- The day of the week, Monday being zero. -/
  weekday : Nat
  /-- How many days the month has. -/
  monthLength : Nat
deriving DecidableEq, Repr

namespace Cron

/-- The value of a name of a field. -/
def Field.valueOf (field : Field) (name : String) : Nat :=
  field.least + (field.names.idxOf? name).getD 0

/-- Whether a term stands for a value of its field. -/
def Term.includes (field : Field) (monthLength : Nat) (value : Nat) : Term → Bool
  | .every step => (value - field.least) % step.getD 1 == 0
  | .range first last step =>
    first ≤ value && value ≤ last.getD field.most && (value - first) % step.getD 1 == 0
  | .named first last => field.valueOf first ≤ value && value ≤ field.valueOf last
  | .lastDay => value == monthLength

/-- Whether every field of a schedule has a term for a minute. -/
def fires (c : Cron) (m : Moment) : Bool :=
  let fits (field : Field) (value : Nat) (terms : List Term) : Bool :=
    terms.any fun t => t.includes field m.monthLength value
  fits .minute m.minute c.minute && fits .hour m.hour c.hour && fits .day m.day c.day &&
    fits .month m.month c.month && fits .weekday m.weekday c.weekday

end Cron

end KnownLogs
