/-
JSON values as they are read:

* `Decimal`: a number written with a point or an exponent, exactly;
* `Json`: a value, its records as lists of members in the order of the text, with
  repeated names kept;
* `Json.lastMember?`: the last member of a name, which is the one that counts.
-/
import KnownLogs.Text.Quoted

namespace KnownLogs

/-- The number `mantissa * 10 ^ exponent`, with its sign. -/
structure Decimal where
  negative : Bool
  mantissa : Nat
  exponent : Int
deriving DecidableEq, Repr

/-- A JSON value. Numbers written with digits alone are integers; the three words
for values that are no numbers are values of their own. -/
inductive Json where
  | null
  | bool (b : Bool)
  | int (i : Int)
  | decimal (d : Decimal)
  | nan
  | infinity (negative : Bool)
  | text (s : String)
  | halved (t : Text.Halved)
  | list (items : List Json)
  | record (members : List (String × Json))
deriving Inhabited

namespace Json

/-- The value of the last member called `name`. -/
def lastMember? (name : String) : List (String × Json) → Option Json
  | [] => none
  | (n, v) :: rest =>
    match lastMember? name rest with
    | some w => some w
    | none => if n = name then some v else none

/-- Sets a member: in the place of the member of that name, or at the end. -/
def setMember (name : String) (v : Json) : List (String × Json) → List (String × Json)
  | [] => [(name, v)]
  | (n, w) :: rest => if n = name then (n, v) :: rest else (n, w) :: setMember name v rest

/-- The number of the members with different names. -/
def distinctNames (members : List (String × Json)) : List String :=
  (members.map (·.1)).eraseDups

end Json

end KnownLogs
