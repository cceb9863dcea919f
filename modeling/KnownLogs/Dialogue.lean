/-
Computations that put questions to someone else:

* `Interface`: the questions that can be put, and what kind of answer each has;
* `Dialogue`: a computation that leaves marks, puts questions of an interface one after
  another, and has a result or ends in a fault;
* `Dialogue.attempt`: a computation with its ordinary faults turned into results;
* `Handler`, `Dialogue.run`: who answers, and a computation carried out with the
  answers;
* the laws of a monad: `Dialogue.bind_done`, `Dialogue.bind_assoc`.
-/
import KnownLogs.Call

namespace KnownLogs

/-- The questions that can be put, and what kind of answer each has. -/
structure Interface where
  Question : Type
  Answer : Question → Type

/-- A computation that leaves marks and puts questions of an interface. An answer may
fail to come because of a fault; the computation then goes on with the fault. -/
inductive Dialogue (I : Interface) (α : Type) : Type where
  | done (a : α)
  | fail (f : Fault)
  | note (m : Mark) (rest : Dialogue I α)
  | ask (q : I.Question) (rest : Except Fault (I.Answer q) → Dialogue I α)

namespace Dialogue

variable {I : Interface} {α β γ : Type}

/-! ### Composing -/

/-- One computation after another. -/
def bind (x : Dialogue I α) (f : α → Dialogue I β) : Dialogue I β :=
  match x with
  | done a => f a
  | fail e => fail e
  | note m rest => note m (rest.bind f)
  | ask q rest => ask q fun answer => (rest answer).bind f

instance : Monad (Dialogue I) where
  pure := done
  bind := bind

/-- Puts a question; a fault in place of the answer ends the computation. -/
def pose (q : I.Question) : Dialogue I (I.Answer q) :=
  ask q fun
    | .ok a => done a
    | .error f => fail f

/-- An event. -/
def log (level : Level) (name : String) (fields : List (String × Json)) : Dialogue I Unit :=
  note (.ofEvent level name fields) (done ())

/-- A computation that puts no questions. -/
def ofCall (x : Call α) : Dialogue I α :=
  x.marks.foldr note <|
    match x.result with
    | .ok a => done a
    | .error f => fail f

/-- A computation with its ordinary faults turned into results. -/
def attempt : Dialogue I α → Dialogue I (Except Fault α)
  | done a => done (.ok a)
  | fail f => if f.isOrdinary then done (.error f) else fail f
  | note m rest => note m rest.attempt
  | ask q rest => ask q fun answer => (rest answer).attempt

/-! ### Laws -/

theorem bind_done (x : Dialogue I α) : x.bind done = x := by
  induction x with
  | done a => rfl
  | fail f => rfl
  | note m rest ih => simp [bind, ih]
  | ask q rest ih => simp [bind, ih]

theorem bind_assoc (x : Dialogue I α) (f : α → Dialogue I β) (g : β → Dialogue I γ) :
    (x.bind f).bind g = x.bind fun a => (f a).bind g := by
  induction x with
  | done a => rfl
  | fail e => rfl
  | note m rest ih => simp [bind, ih]
  | ask q rest ih => simp [bind, ih]

end Dialogue

/-! ### Carrying out -/

/-- How carrying out a computation ends. -/
inductive Ending (α : Type) where
  | value (a : α)
  | fault (f : Fault)
  /-- It waits for something that cannot happen. -/
  | blocked

namespace Ending

variable {α β : Type}

/-- The result worked on. -/
def map (f : α → β) : Ending α → Ending β
  | value a => value (f a)
  | fault e => fault e
  | blocked => blocked

/-- The ending of a computation that puts no questions. -/
def ofExcept : Except Fault α → Ending α
  | .ok a => value a
  | .error f => fault f

end Ending

/-- Keeps marks and answers the questions of an interface, from a state that may
change with each answer. -/
structure Handler (I : Interface) (σ : Type) where
  keep : Mark → σ → σ
  answer : (q : I.Question) → σ → Ending (I.Answer q) × σ

/-- Carries out a computation with the answers of a handler. -/
def Dialogue.run {I : Interface} {α σ : Type} (h : Handler I σ) :
    Dialogue I α → σ → Ending α × σ
  | done a, s => (.value a, s)
  | fail f, s => (.fault f, s)
  | note m rest, s => run h rest (h.keep m s)
  | ask q rest, s =>
    match h.answer q s with
    | (.value a, s) => run h (rest (.ok a)) s
    | (.fault f, s) => run h (rest (.error f)) s
    | (.blocked, s) => (.blocked, s)

end KnownLogs
