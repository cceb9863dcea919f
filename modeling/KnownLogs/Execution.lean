/-
How computations are carried out:

* `LoggedContext`: a context that tells when an operation starts and how it ends, and
  makes a failure of every ordinary fault;
* `LoggedContext.around`: one context around a computation;
* `Execution.stack`: contexts around each other, the last one outermost.
-/
import KnownLogs.Dialogue
import KnownLogs.Outcome.Basic

namespace KnownLogs

/-- A context that tells when an operation starts and how it ends. -/
structure LoggedContext where
  operation : String := "unknown"
  /-- The number of the level of its lines. -/
  level : Int := 20
deriving DecidableEq, Repr

namespace LoggedContext

variable {I : Interface} {α : Type}

/-- A line about the operation. -/
def line (c : LoggedContext) (news : Line.News) : Mark :=
  .line { level := c.level, operation := c.operation, news }

/-- The line about a fault, which always has the level of errors. -/
def faultLine (c : LoggedContext) (f : Fault) : Mark :=
  .line { level := Level.error.number, operation := c.operation, news := .failed f.message }

/-- The failure that a fault becomes. -/
def failureOf (f : Fault) : Failure :=
  { code := .technical, message := "Execution failed: " ++ f.message, fault := some f }

/-- The lines around a computation; an ordinary fault of it becomes a failure. -/
def around (c : LoggedContext) (x : Dialogue I (Outcome α)) : Dialogue I (Outcome α) :=
  .note (c.line .started) <|
    x.attempt.bind fun
      | .ok r => .note (c.line (.completed r.isSuccess)) (.done r)
      | .error f => .note (c.faultLine f) (.done (.failure (failureOf f)))

end LoggedContext

/-- A computation inside contexts, the last of them outermost. -/
def Execution.stack {I : Interface} {α : Type} (contexts : List LoggedContext)
    (x : Dialogue I (Outcome α)) : Dialogue I (Outcome α) :=
  contexts.foldl (fun x c => c.around x) x

end KnownLogs
