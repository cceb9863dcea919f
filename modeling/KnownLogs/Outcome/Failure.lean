/-
Descriptions of failures:

* `ErrorCode`: the category of a failure;
* `Failure`: a category, a message, the fault behind it and the time;
* `Failure.cause`: the message and the fault in one line.
-/
import KnownLogs.Fault

namespace KnownLogs

/-- The category of a failure. -/
inductive ErrorCode where
  /-- A value is not in order. -/
  | validation
  /-- Something asked for is absent or cannot be read. -/
  | notFound
  /-- Bytes are no valid document. -/
  | parse
  /-- A policy gave no verdict. -/
  | policy
  /-- Anything else. -/
  | technical
deriving DecidableEq, Repr, Inhabited

namespace ErrorCode

/-- The name of a category. -/
def text : ErrorCode → String
  | validation => "VALIDATION_ERROR"
  | notFound => "NOT_FOUND"
  | parse => "PARSE_ERROR"
  | policy => "POLICY_ERROR"
  | technical => "TECHNICAL_ERROR"

instance : Enumeration ErrorCode where
  title := "ErrorCode"
  all := [validation, notFound, parse, policy, technical]
  text := text

end ErrorCode

/-- What went wrong. -/
structure Failure where
  code : ErrorCode
  message : String
  /-- The fault behind the failure, if there is one. -/
  fault : Option Fault := none
  /-- When the failure was recorded, in milliseconds; zero where no clock is at hand. -/
  recordedAt : Int := 0
deriving Inhabited

namespace Failure

/-- The message, and the fault if there is one, in one line. -/
def cause (f : Failure) : String :=
  match f.fault with
  | none => f.message
  | some fault => f.message ++ ": " ++ fault.kind ++ ": " ++ fault.message

/-- Whether two failures count as equal: by category and message alone. -/
def same (f g : Failure) : Bool :=
  f.code == g.code && f.message == g.message

/-- A failure as it is written inside other text, given its time in words. -/
def written (time : String) (f : Failure) : String :=
  "FailureDescription(code=" ++ Enumeration.written f.code ++
    ", message=" ++ Text.quoted f.message ++ ", timestamp=" ++ time ++ ")"

end Failure

end KnownLogs
