/-
What is wrong with values that do not have the form asked for:

* `Issue`: a kind of fault and the way to the value that has it;
* `Validated`: a result, or all issues found, in the order of the fields;
* `Validated.within`: issues one level up.
-/

namespace KnownLogs.Schema

/-- The kinds of faults of form. -/
inductive IssueKind where
  | missing
  | textExpected
  | textTooShort
  /-- A text in which half of a character stands alone. -/
  | textHalved
  | integerExpected
  | integerUnreadable
  | integerTooLarge
  | integerFraction
  | integerNotFinite
  | belowMinimum
  | listExpected
  | mapExpected
  | recordExpected
  | jsonUnreadable
  | booleanUnreadable
  | pathExpected
  /-- A rule beyond form, with its wording. -/
  | rule (message : String)
deriving DecidableEq, Repr

/-- The name under which a kind is reported. -/
def IssueKind.code : IssueKind → String
  | .missing => "missing"
  | .textExpected => "string_type"
  | .textTooShort => "string_too_short"
  | .textHalved => "string_unicode"
  | .integerExpected => "int_type"
  | .integerUnreadable => "int_parsing"
  | .integerTooLarge => "int_parsing_size"
  | .integerFraction => "int_from_float"
  | .integerNotFinite => "finite_number"
  | .belowMinimum => "greater_than_equal"
  | .listExpected => "list_type"
  | .mapExpected => "dict_type"
  | .recordExpected => "model_type"
  | .jsonUnreadable => "json_invalid"
  | .booleanUnreadable => "bool_parsing"
  | .pathExpected => "path_type"
  | .rule _ => "value_error"

/-- The wording that a kind is reported with, if it has one. -/
def IssueKind.message? : IssueKind → Option String
  | .rule message => some ("Value error, " ++ message)
  | _ => none

/-- One step on the way to a value. -/
inductive Step where
  | member (name : String)
  | item (position : Nat)
deriving DecidableEq, Repr

/-- A fault of form and the way to the value that has it. -/
structure Issue where
  kind : IssueKind
  path : List Step := []
deriving DecidableEq, Repr

/-- A result, or everything that is wrong. -/
inductive Validated (α : Type) where
  | valid (a : α)
  | invalid (issues : List Issue)
deriving DecidableEq, Repr

namespace Validated

variable {α β γ : Type}

/-- One issue of the value itself. -/
def issue (kind : IssueKind) : Validated α :=
  .invalid [{ kind }]

/-- A result worked on. -/
def map (f : α → β) : Validated α → Validated β
  | .valid a => .valid (f a)
  | .invalid issues => .invalid issues

/-- Two results together, or the issues of both. -/
def both (f : α → β → γ) : Validated α → Validated β → Validated γ
  | .valid a, .valid b => .valid (f a b)
  | .valid _, .invalid issues => .invalid issues
  | .invalid issues, .valid _ => .invalid issues
  | .invalid issues, .invalid more => .invalid (issues ++ more)

/-- A check that needs the result of the one before. -/
def andThen (x : Validated α) (f : α → Validated β) : Validated β :=
  match x with
  | .valid a => f a
  | .invalid issues => .invalid issues

/-- The issues seen from one level up. -/
def within (step : Step) : Validated α → Validated α
  | .valid a => .valid a
  | .invalid issues => .invalid (issues.map fun i => { i with path := step :: i.path })

instance : Functor Validated where
  map := map

instance : Applicative Validated where
  pure := .valid
  seq f x := both (fun g a => g a) f (x ())

end Validated

end KnownLogs.Schema
