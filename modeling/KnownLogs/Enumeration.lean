/-
Families of named values:

* `Enumeration`: a family with its title, its members in order and their texts;
* `Enumeration.ofText?`: the member that a text names;
* `Enumeration.label`: the text of a member in capitals.
-/
import KnownLogs.Value

namespace KnownLogs

/-- A family of named values. -/
class Enumeration (α : Type) where
  /-- What the family is called. -/
  title : String
  /-- The members in order. -/
  all : List α
  /-- The text of a member. -/
  text : α → String

namespace Enumeration

variable {α : Type} [Enumeration α]

/-- The member that a text names. -/
def ofText? (s : String) : Option α :=
  all.find? fun a => text a == s

/-- The text of a member in capitals. -/
def label (a : α) : String :=
  (text a).map Char.toUpper

/-- A member as it is written inside other text. -/
def written (a : α) : String :=
  "<" ++ title α ++ "." ++ label a ++ ": " ++ Text.quoted (text a) ++ ">"

end Enumeration

/-- A value that names no member of a family. -/
structure UnknownName where
  /-- The value, as it is written. -/
  given : String
  /-- The title of the family. -/
  title : String
deriving DecidableEq, Repr

/-- The wording of the refusal. -/
def UnknownName.message (u : UnknownName) : String :=
  u.given ++ " is not a valid " ++ u.title

/-- The member that a value names. -/
def Enumeration.ofValue (α : Type) [Enumeration α] (v : Value) : Except UnknownName α :=
  match v with
  | .text s =>
    match ofText? s with
    | some a => .ok a
    | none => .error ⟨v.written, title α⟩
  | _ => .error ⟨v.written, title α⟩

end KnownLogs
