/-
The state of a store:

* `StoreState`: what came of the last attempt to load a log list.
-/
import KnownLogs.Enumeration

namespace KnownLogs

/-- What came of the last attempt to load a log list. -/
inductive StoreState where
  /-- There has been no attempt. -/
  | uninitialized
  | notFound
  | malformed
  | compliant
  | nonCompliant
deriving DecidableEq, Repr

namespace StoreState

/-- The name of a state. -/
def text : StoreState → String
  | uninitialized => "UNINITIALIZED"
  | notFound => "NOT_FOUND"
  | malformed => "MALFORMED"
  | compliant => "COMPLIANT"
  | nonCompliant => "NON_COMPLIANT"

instance : Enumeration StoreState where
  title := "StoreState"
  all := [uninitialized, notFound, malformed, compliant, nonCompliant]
  text := text

end StoreState

end KnownLogs
