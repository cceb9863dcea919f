/-
Contexts around each other:

* `Handler.keepAll`: marks kept one after another;
* `Dialogue.run_bind`, `Dialogue.run_attempt`, `Dialogue.run_pose_bind`: how computations are
  carried out, by their parts;
* `Execution.openings`, `Execution.closings`: the lines of contexts around each other;
* `LoggedContext.run_around`: what one context does;
* `Execution.run_stack`: **contexts carry a computation out once**, and all of them together make
  of its fault what the innermost one makes of it;
* `Execution.ending_stack`: the outcome is the same for any number of contexts.
-/
import Mathlib.Data.List.Induction
import KnownLogs.Execution
import KnownLogs.Proofs.Store.Consultation

namespace KnownLogs

variable {I : Interface} {α β σ : Type}

/-! ### Carrying out -/

/-- Marks kept one after another. -/
def Handler.keepAll (h : Handler I σ) (ms : List Mark) (s : σ) : σ :=
  ms.foldl (fun s m => h.keep m s) s

@[simp] lemma Handler.keepAll_nil (h : Handler I σ) (s : σ) : h.keepAll [] s = s := rfl

@[simp] lemma Handler.keepAll_cons (h : Handler I σ) (m : Mark) (ms : List Mark) (s : σ) :
    h.keepAll (m :: ms) s = h.keepAll ms (h.keep m s) := rfl

lemma Handler.keepAll_append (h : Handler I σ) (ms ns : List Mark) (s : σ) :
    h.keepAll (ms ++ ns) s = h.keepAll ns (h.keepAll ms s) :=
  List.foldl_append

/-- Who gives each question one answer, and keeps no marks. -/
def Handler.constant (answer : (q : I.Question) → Ending (I.Answer q)) : Handler I Unit where
  keep _ _ := ()
  answer q _ := (answer q, ())

namespace Dialogue

/-- A computation after another one is carried out if the first has a result. -/
lemma run_bind (h : Handler I σ) (x : Dialogue I α) (g : α → Dialogue I β) (s : σ) :
    (x.bind g).run h s =
      match x.run h s with
      | (.value a, t) => (g a).run h t
      | (.fault f, t) => (.fault f, t)
      | (.blocked, t) => (.blocked, t) := by
  induction x generalizing s with
  | done a => rfl
  | fail f => rfl
  | note m rest ih => exact ih _
  | ask q rest ih =>
      rw [bind, run, run]
      rcases h.answer q s with ⟨a | f | _, t⟩
      · exact ih (.ok a) t
      · exact ih (.error f) t
      · rfl

/-- Turning ordinary faults into results changes nothing else. -/
lemma run_attempt (h : Handler I σ) (x : Dialogue I α) (s : σ) :
    x.attempt.run h s =
      match x.run h s with
      | (.value a, t) => (.value (.ok a), t)
      | (.fault f, t) => if f.isOrdinary then (.value (.error f), t) else (.fault f, t)
      | (.blocked, t) => (.blocked, t) := by
  induction x generalizing s with
  | done a => rfl
  | fail f => cases hf : f.isOrdinary <;> simp [attempt, run, hf]
  | note m rest ih => exact ih _
  | ask q rest ih =>
      rw [attempt, run, run]
      rcases h.answer q s with ⟨a | f | _, t⟩
      · exact ih (.ok a) t
      · exact ih (.error f) t
      · rfl

/-- A computation after a question is carried out if the question is answered. -/
lemma run_pose_bind (h : Handler I σ) (q : I.Question) (g : I.Answer q → Dialogue I β) (s : σ) :
    ((pose q).bind g).run h s =
      match h.answer q s with
      | (.value a, t) => (g a).run h t
      | (.fault f, t) => (.fault f, t)
      | (.blocked, t) => (.blocked, t) := by
  rw [pose, bind, run]
  rcases h.answer q s with ⟨a | f | _, t⟩ <;> rfl

lemma run_constant (answer : (q : I.Question) → Ending (I.Answer q)) (x : Dialogue I α) :
    x.run (.constant answer) () = (x.ending answer, ()) := by
  induction x with
  | done a => rfl
  | fail f => rfl
  | note m rest ih => exact ih
  | ask q rest ih =>
      rw [run, ending, show (Handler.constant answer).answer q () = (answer q, ()) from rfl]
      cases answer q with
      | value a => exact ih (.ok a)
      | fault f => exact ih (.error f)
      | blocked => rfl

end Dialogue

/-! ### One context -/

namespace LoggedContext

/-- **What one context does**: it tells of the start, and of the end unless a fault gets out. -/
theorem run_around (c : LoggedContext) (x : Dialogue I (Outcome α)) (h : Handler I σ) (s : σ) :
    (c.around x).run h s =
      match x.run h (h.keep (c.line .started) s) with
      | (.value r, t) => (.value r, h.keep (c.line (.completed r.isSuccess)) t)
      | (.fault f, t) =>
        if f.isOrdinary then (.value (.failure (failureOf f)), h.keep (c.faultLine f) t)
        else (.fault f, t)
      | (.blocked, t) => (.blocked, t) := by
  rw [around, Dialogue.run, Dialogue.run_bind, Dialogue.run_attempt]
  rcases x.run h (h.keep (c.line .started) s) with ⟨r | f | _, t⟩
  · rfl
  · cases hf : f.isOrdinary <;> simp [hf, Dialogue.run]
  · rfl

end LoggedContext

/-! ### Many contexts -/

namespace Execution

/-- The lines of contexts when a computation starts, that of the outermost one first. -/
def openings (contexts : List LoggedContext) : List Mark :=
  contexts.reverse.map fun c =>
    .line { level := c.level, operation := c.operation, news := .started }

/-- The lines of contexts when a computation has led to an outcome, that of the innermost one
first. -/
def closings (success : Bool) (contexts : List LoggedContext) : List Mark :=
  contexts.map fun c =>
    .line { level := c.level, operation := c.operation, news := .completed success }

lemma openings_concat (cs : List LoggedContext) (d : LoggedContext) :
    openings (cs ++ [d]) = d.line .started :: openings cs := by
  simp [openings, LoggedContext.line]

lemma closings_concat (success : Bool) (cs : List LoggedContext) (d : LoggedContext) :
    closings success (cs ++ [d]) = closings success cs ++ [d.line (.completed success)] := by
  simp [closings, LoggedContext.line]

lemma stack_concat (cs : List LoggedContext) (d : LoggedContext) (x : Dialogue I (Outcome α)) :
    stack (cs ++ [d]) x = d.around (stack cs x) := by
  simp [stack]

/-- **Contexts carry a computation out once**, after their lines about the start. An outcome of
it is the outcome of all; an ordinary fault is made into a failure by the innermost context, and is
an outcome like any other to those around it; any other fault gets out, without another line. -/
theorem run_stack (c : LoggedContext) (cs : List LoggedContext) (x : Dialogue I (Outcome α))
    (h : Handler I σ) (s : σ) :
    (stack (c :: cs) x).run h s =
      match x.run h (h.keepAll (openings (c :: cs)) s) with
      | (.value r, t) => (.value r, h.keepAll (closings r.isSuccess (c :: cs)) t)
      | (.fault f, t) =>
        if f.isOrdinary then
          (.value (.failure (LoggedContext.failureOf f)),
            h.keepAll (c.faultLine f :: closings false cs) t)
        else (.fault f, t)
      | (.blocked, t) => (.blocked, t) := by
  -- by induction on the contexts around the innermost one: each of them is given an outcome
  induction cs using List.reverseRecOn generalizing s with
  | nil => exact c.run_around x h s
  | append_singleton cs d ih =>
      rw [← List.cons_append, stack_concat, LoggedContext.run_around, ih, openings_concat,
        Handler.keepAll_cons]
      rcases x.run h (h.keepAll (openings (c :: cs)) (h.keep (d.line .started) s)) with
        ⟨r | f | _, t⟩
      · simp only [closings_concat, Handler.keepAll_append, Handler.keepAll_cons,
          Handler.keepAll_nil]
      · cases hf : f.isOrdinary
        · simp [hf]
        · simp [hf, closings_concat, Handler.keepAll_append, Outcome.isSuccess]
      · rfl

/-- The outcome is the same for any number of contexts. -/
lemma ending_stack (c : LoggedContext) (cs : List LoggedContext) (x : Dialogue I (Outcome α))
    (answer : (q : I.Question) → Ending (I.Answer q)) :
    (stack (c :: cs) x).ending answer =
      match x.ending answer with
      | .value r => .value r
      | .fault f =>
        if f.isOrdinary then .value (.failure (LoggedContext.failureOf f)) else .fault f
      | .blocked => .blocked := by
  have hstack := run_stack c cs x (.constant answer) ()
  rw [Dialogue.run_constant, Dialogue.run_constant] at hstack
  refine (congrArg Prod.fst hstack).trans ?_
  cases x.ending answer with
  | value r => rfl
  | fault f => cases hf : f.isOrdinary <;> simp [hf]
  | blocked => rfl

end Execution

end KnownLogs
