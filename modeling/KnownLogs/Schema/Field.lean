/-
Reading the members of records:

* `text`, `nonEmptyText`, `integer`, `integerAtLeast`, `integerFrom`, `listOf`,
  `record`: values of a form;
* `required`, `optional`, `nullable`: members by name, of which the last counts.
-/
import KnownLogs.Schema.Integer

namespace KnownLogs.Schema

variable {α : Type}

/-! ### Values -/

/-- A text. Where halves of characters stand in it, it is the nearest string. -/
def text : Json → Validated String
  | .text s => .valid s
  | .halved t => .valid t.string
  | _ => .issue .textExpected

/-- A text of at least one character. -/
def nonEmptyText (v : Json) : Validated String :=
  (text v).andThen fun s => if s = "" then .issue .textTooShort else .valid s

/-- An integer in any of its forms. -/
def integer (v : Json) : Validated Int :=
  match Integer.ofJson v with
  | .ok i => .valid i
  | .error kind => .issue kind

/-- An integer that is not below `least`, with the evidence. -/
def integerAtLeast (least : Int) (v : Json) : Validated { i : Int // least ≤ i } :=
  (integer v).andThen fun i => if h : least ≤ i then .valid ⟨i, h⟩ else .issue .belowMinimum

/-- An integer that is not below `least`. -/
def integerFrom (least : Int) (v : Json) : Validated Int :=
  (integerAtLeast least v).map Subtype.val

/-- The items of a list from a position on, each read. -/
def itemsFrom (read : Json → Validated α) : Nat → List Json → Validated (List α)
  | _, [] => .valid []
  | n, v :: rest => ((read v).within (.item n)).both List.cons (itemsFrom read (n + 1) rest)

/-- A list, its items each read. -/
def listOf (read : Json → Validated α) : Json → Validated (List α)
  | .list items => itemsFrom read 0 items
  | _ => .issue .listExpected

/-- A record read by its members. -/
def record (read : List (String × Json) → Validated α) : Json → Validated α
  | .record members => read members
  | _ => .issue .recordExpected

/-- A value that may be null. -/
def nullable (read : Json → Validated α) : Json → Validated (Option α)
  | .null => .valid none
  | v => (read v).map some

/-! ### Members -/

/-- A member that must be there. -/
def required (name : String) (read : Json → Validated α) (members : List (String × Json)) :
    Validated α :=
  Validated.within (.member name) <|
    match Json.lastMember? name members with
    | some v => read v
    | none => .issue .missing

/-- A member that may be absent. -/
def optional (name : String) (read : Json → Validated α) (absent : α)
    (members : List (String × Json)) : Validated α :=
  Validated.within (.member name) <|
    match Json.lastMember? name members with
    | some v => read v
    | none => .valid absent

end KnownLogs.Schema
