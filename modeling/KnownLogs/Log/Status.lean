/-
The operating status of a log:

* `LogStatus`: the six statuses of the published format;
* `LogStatus.isActive`: the three under which a log is trusted whatever the time.
-/
import KnownLogs.Enumeration

namespace KnownLogs

/-- The operating status of a log, as its list names it. -/
inductive LogStatus where
  | pending
  | qualified
  | usable
  | readOnly
  | retired
  | rejected
deriving DecidableEq, Repr

namespace LogStatus

/-- The name of a status in the published format. -/
def text : LogStatus → String
  | pending => "pending"
  | qualified => "qualified"
  | usable => "usable"
  | readOnly => "readonly"
  | retired => "retired"
  | rejected => "rejected"

instance : Enumeration LogStatus where
  title := "LogStatus"
  all := [pending, qualified, usable, readOnly, retired, rejected]
  text := text

/-- Whether a log of this status is trusted whatever the time. -/
def isActive : LogStatus → Bool
  | qualified | usable | readOnly => true
  | _ => false

end LogStatus

end KnownLogs
