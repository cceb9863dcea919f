/-
Outcomes, which hold a value or describe a failure:

* `Outcome`: a success with its value, or a failure;
* `Outcome.map`, `Outcome.flatMap`, `Outcome.peek`, `Outcome.peekFailure`,
  `Outcome.either`: work on one of the two tracks; a function may leave marks and may
  end in a fault;
* `Outcome.capture`: makes a failure of an ordinary fault;
* `Outcome.flatMap_assoc`: **chaining is associative, marks included**.
-/
import KnownLogs.Call
import KnownLogs.Outcome.Failure

namespace KnownLogs

/-- A value or a failure. -/
inductive Outcome (α : Type) where
  | success (value : α)
  | failure (failure : Failure)
deriving Inhabited

namespace Outcome

variable {α β γ : Type}

/-! ### Making outcomes -/

/-- The success that holds a value, of which there must be one. -/
def ofValue : Option α → Call (Outcome α)
  | some a => .done (.success a)
  | none => .fail .emptySuccess

/-- The failure with a description, of which there must be one. -/
def ofFailure : Option Failure → Call (Outcome α)
  | some f => .done (.failure f)
  | none => .fail .emptyFailure

/-- Runs a computation and makes a failure of an ordinary fault. A computation that
gives nothing ends in a fault too. -/
def capture (code : ErrorCode) (message : String) (x : Call (Option α)) : Call (Outcome α) :=
  (x.bind ofValue).rescue fun fault => .done (.failure { code, message, fault := some fault })

/-! ### Asking -/

/-- Whether there is a value. -/
def isSuccess : Outcome α → Bool
  | success _ => true
  | failure _ => false

/-- The value, which must be there. -/
def value : Outcome α → Except Fault α
  | success a => .ok a
  | failure f => .error (.noValue f.message)

/-- The failure, which must be there. -/
def error (shown : α → String) : Outcome α → Except Fault Failure
  | success a => .error (.noFailure (shown a))
  | failure f => .ok f

/-- The value, or another one in its place. -/
def getOrElse (x : Outcome α) (default : α) : α :=
  match x with
  | success a => a
  | failure _ => default

/-- Equality, given equality of values; failures by category and message alone. -/
def same (sameValue : α → α → Bool) : Outcome α → Outcome α → Bool
  | success a, success b => sameValue a b
  | failure f, failure g => f.same g
  | _, _ => false

/-- An outcome as it is written inside other text. -/
def written (writtenValue : α → String) : Outcome α → String
  | success a => "Success(" ++ writtenValue a ++ ")"
  | failure f => "Failure(" ++ f.code.text ++ ": " ++ Text.quoted f.message ++ ")"

/-! ### Working on the tracks -/

/-- Works on the value. -/
def map (f : α → Call (Option β)) : Outcome α → Call (Outcome β)
  | success a => (f a).bind ofValue
  | failure e => .done (.failure e)

/-- Goes on from the value to another outcome. -/
def flatMap (f : α → Call (Outcome β)) : Outcome α → Call (Outcome β)
  | success a => f a
  | failure e => .done (.failure e)

/-- Looks at the value. -/
def peek (f : α → Call Unit) (x : Outcome α) : Call (Outcome α) :=
  match x with
  | success a => (f a).bind fun _ => .done x
  | failure _ => .done x

/-- Looks at the failure. -/
def peekFailure (f : Failure → Call Unit) (x : Outcome α) : Call (Outcome α) :=
  match x with
  | success _ => .done x
  | failure e => (f e).bind fun _ => .done x

/-- Goes on from whichever of the two is there. -/
def either (onSuccess : α → Call β) (onFailure : Failure → Call β) : Outcome α → Call β
  | success a => onSuccess a
  | failure e => onFailure e

/-- **Chaining is associative, marks included.** -/
theorem flatMap_assoc (x : Outcome α) (f : α → Call (Outcome β)) (g : β → Call (Outcome γ)) :
    (x.flatMap f).bind (flatMap g) = x.flatMap fun a => (f a).bind (flatMap g) := by
  cases x with
  | success a => rfl
  | failure e => exact Call.pure_bind _ _

end Outcome

end KnownLogs
