/-
Computations that leave marks and may end in a fault:

* `Call`: the marks in order, and a result or a fault;
* `Call.bind`: one computation after another; after a fault nothing follows;
* `Call.rescue`: goes on after an ordinary fault, and after no other;
* the laws of a monad: `Call.pure_bind`, `Call.bind_pure`, `Call.bind_assoc`.
-/
import KnownLogs.Fault
import KnownLogs.Trace

namespace KnownLogs

/-- A computation's marks in order, and its result or the fault that ended it. -/
structure Call (α : Type) where
  marks : List Mark := []
  result : Except Fault α

namespace Call

variable {α β γ : Type}

/-- A computation that has its result. -/
def done (a : α) : Call α :=
  { result := .ok a }

/-- A computation that ends in a fault. -/
def fail (f : Fault) : Call α :=
  { result := .error f }

/-- A mark. -/
def note (m : Mark) : Call Unit :=
  { marks := [m], result := .ok () }

/-- An event. -/
def log (level : Level) (name : String) (fields : List (String × Json)) : Call Unit :=
  note (.ofEvent level name fields)

/-- One computation after another. -/
def bind (x : Call α) (f : α → Call β) : Call β :=
  match x.result with
  | .ok a => { marks := x.marks ++ (f a).marks, result := (f a).result }
  | .error e => { marks := x.marks, result := .error e }

instance : Monad Call where
  pure := done
  bind := bind

/-- A check whose problems are faults. -/
def ofExcept {ε : Type} (toFault : ε → Fault) (x : Except ε α) : Call α :=
  { result := x.mapError toFault }

/-- Goes on after an ordinary fault. -/
def rescue (x : Call α) (f : Fault → Call α) : Call α :=
  match x.result with
  | .ok _ => x
  | .error e =>
    if e.isOrdinary then { marks := x.marks ++ (f e).marks, result := (f e).result } else x

/-! ### Laws -/

theorem pure_bind (a : α) (f : α → Call β) : (done a).bind f = f a := by
  simp [done, bind]

theorem bind_pure (x : Call α) : x.bind done = x := by
  cases x with
  | mk marks result => cases result <;> simp [done, bind]

theorem bind_assoc (x : Call α) (f : α → Call β) (g : β → Call γ) :
    (x.bind f).bind g = x.bind fun a => (f a).bind g := by
  cases x with
  | mk marks result =>
    cases result with
    | error e => simp [bind]
    | ok a => cases h : (f a).result <;> simp [bind, h]

end Call

end KnownLogs
