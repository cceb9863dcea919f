/-
Expectations about outcomes:

* `Expectation.success`: the value, or a fault that describes the failure;
* `Expectation.failure`: the failure, perhaps of one category, or a fault that tells
  what there was instead.
-/
import KnownLogs.Outcome.Basic

namespace KnownLogs.Expectation

variable {α : Type}

/-- What is added to a report: a message, unless it is empty. -/
def context (message : String) : String :=
  if message = "" then "" else " — " ++ message

/-- The value of a success. -/
def success (message : String) : Outcome α → Except Fault α
  | .success a => .ok a
  | .failure f =>
    .error <| .unexpected <|
      "Expected Success but got Failure(" ++ f.code.text ++ ": " ++ Text.quoted f.message ++ ")" ++
        context message

/-- The failure, which must be of the category `code` if there is one. -/
def failure (writtenValue : α → String) (code : Option ErrorCode) (message : String) :
    Outcome α → Except Fault Failure
  | .success a =>
    .error <| .unexpected <|
      "Expected Failure but got Success(" ++ writtenValue a ++ ")" ++ context message
  | .failure f =>
    match code with
    | none => .ok f
    | some c =>
      if f.code = c then .ok f
      else
        .error <| .unexpected <|
          "Expected error code " ++ c.text ++ " but got " ++ f.code.text ++ ": " ++
            Text.quoted f.message ++ context message

end KnownLogs.Expectation
