/-
Outcomes worked on step after step:

* `Pipeline.Step`, `Pipeline.run`: the steps on the two tracks, and a chain of them;
* `Step.attends`, `Step.marks`, `Step.fault?`: when the function of a step is called, and what it
  does;
* `Pipeline.arriving`, `Pipeline.calls`: what arrives at a place of a chain, and the calls of its
  functions, in order;
* `Pipeline.run_congr`: **a function that is not called has no say**;
* `Pipeline.marks_run`: **the marks of a chain are those of its calls**;
* `Pipeline.result_of_fault`, `Pipeline.exists_result`: it ends in a fault exactly if a call does;
* `Pipeline.Switches`: the place from which the failure of the end arrives, if there is one;
* `Pipeline.short_circuits`: **what a chain calls, and what it gives**.
-/
import Mathlib.Data.List.Basic
import Mathlib.Data.List.Induction
import KnownLogs.Outcome.Basic

namespace KnownLogs

variable {α β : Type}

/-! ### Steps -/

/-- A step on the tracks of an outcome. Values of several kinds are values of one kind that has them
all as parts. -/
inductive Pipeline.Step (α : Type) where
  | map (f : α → Call (Option α))
  | flatMap (f : α → Call (Outcome α))
  | peek (f : α → Call Unit)
  | peekFailure (f : Failure → Call Unit)

/-- The fault that ends a computation, if one does. -/
def Call.fault? (x : Call α) : Option Fault :=
  match x.result with
  | .ok _ => none
  | .error f => some f

/-- A computation whose result is passed over leaves its marks and ends in its fault, if any. -/
lemma Call.look_spec (x : Call α) (b : β) :
    (x.bind fun _ => done b).marks = x.marks ∧ (x.bind fun _ => done b).fault? = x.fault? ∧
      ∀ c, (x.bind fun _ => done b).result = .ok c → c = b := by
  obtain ⟨marks, f | a⟩ := x
  · exact ⟨rfl, rfl, fun c h => by cases h⟩
  · exact ⟨List.append_nil _, rfl, fun c h => (Except.ok.inj h).symm⟩

namespace Pipeline

namespace Step

/-- Carries out a step. -/
def apply (x : Outcome α) : Step α → Call (Outcome α)
  | map f => x.map f
  | flatMap f => x.flatMap f
  | peek f => x.peek f
  | peekFailure f => x.peekFailure f

/-- Whether a step makes a new outcome. -/
def isLink : Step α → Bool
  | map _ | flatMap _ => true
  | peek _ | peekFailure _ => false

/-- Whether a step is for failures. -/
def isForFailures : Step α → Bool
  | peekFailure _ => true
  | map _ | flatMap _ | peek _ => false

/-- Whether the function of a step is called when an outcome arrives. -/
def attends (x : Outcome α) (step : Step α) : Bool :=
  x.isSuccess != step.isForFailures

/-- The marks of the function of a step, if it is called when an outcome arrives. -/
def marks : Outcome α → Step α → List Mark
  | .success a, map f => (f a).marks
  | .success a, flatMap f => (f a).marks
  | .success a, peek f => (f a).marks
  | .failure e, peekFailure f => (f e).marks
  | _, _ => []

/-- What goes wrong when an outcome arrives: the function of the step is called and ends in a fault,
or it is to work on the value and gives nothing. -/
def fault? : Outcome α → Step α → Option Fault
  | .success a, map f =>
    match (f a).result with
    | .ok (some _) => none
    | .ok none => some .emptySuccess
    | .error e => some e
  | .success a, flatMap f => (f a).fault?
  | .success a, peek f => (f a).fault?
  | .failure e, peekFailure f => (f e).fault?
  | _, _ => none

variable {x y : Outcome α} {step : Step α}

/-- A step leaves the marks of its function, and ends in a fault exactly if something goes wrong. -/
lemma apply_spec (x : Outcome α) (step : Step α) :
    (step.apply x).marks = step.marks x ∧ (step.apply x).fault? = step.fault? x := by
  cases step with
  | map f =>
      cases x with
      | failure e => exact ⟨rfl, rfl⟩
      | success a =>
          rw [apply, Outcome.map, Call.bind, marks, fault?, Call.fault?]
          rcases (f a).result with e | _ | b
          · exact ⟨rfl, rfl⟩
          · exact ⟨List.append_nil _, rfl⟩
          · exact ⟨List.append_nil _, rfl⟩
  | flatMap f => cases x <;> exact ⟨rfl, rfl⟩
  | peek f =>
      cases x with
      | failure e => exact ⟨rfl, rfl⟩
      | success a =>
          obtain ⟨hmarks, hfault, -⟩ := Call.look_spec (f a) (Outcome.success a)
          exact ⟨hmarks, hfault⟩
  | peekFailure f =>
      cases x with
      | success a => exact ⟨rfl, rfl⟩
      | failure e =>
          obtain ⟨hmarks, hfault, -⟩ := Call.look_spec (f e) (Outcome.failure (α := α) e)
          exact ⟨hmarks, hfault⟩

/-- A step whose function is not called hands on what arrives. -/
lemma apply_of_not_attends (h : step.attends x = false) : step.apply x = .done x := by
  cases step <;> cases x <;> first | rfl | cases h

/-- **A failure is handed on unchanged.** -/
lemma eq_of_failure {e : Failure} (h : (step.apply (.failure e)).result = .ok y) :
    y = .failure e := by
  cases step with
  | map f => exact (Except.ok.inj h).symm
  | flatMap f => exact (Except.ok.inj h).symm
  | peek f => exact (Except.ok.inj h).symm
  | peekFailure f => exact (Call.look_spec (f e) _).2.2 y h

/-- A step that makes no new outcome hands on what arrives. -/
lemma eq_of_not_isLink (hstep : step.isLink = false) (h : (step.apply x).result = .ok y) :
    y = x := by
  cases step with
  | map f => cases hstep
  | flatMap f => cases hstep
  | peek f =>
      cases x with
      | failure e => exact (Except.ok.inj h).symm
      | success a => exact (Call.look_spec (f a) _).2.2 y h
  | peekFailure f =>
      cases x with
      | success a => exact (Except.ok.inj h).symm
      | failure e => exact eq_of_failure h

end Step

/-! ### Chains -/

/-- Carries out steps one after another. -/
def run (steps : List (Step α)) (x : Outcome α) : Call (Outcome α) :=
  steps.foldl (fun r step => r.bind fun y => step.apply y) (.done x)

/-- What arrives at a place of a chain. -/
def arriving (steps : List (Step α)) (x : Outcome α) (place : Nat) : Except Fault (Outcome α) :=
  (run (steps.take place) x).result

/-- A call of the function of a step. -/
structure Called (α : Type) where
  /-- The place of the step in its chain. -/
  place : Nat
  step : Step α
  /-- The outcome that arrives, of which the function is given the value or the failure. -/
  given : Outcome α

/-- The call at a place, if what arrives there is what its step is for. -/
def callAt? (steps : List (Step α)) (x : Outcome α) (place : Nat) : Option (Called α) :=
  match steps[place]?, arriving steps x place with
  | some step, .ok y => if step.attends y then some ⟨place, step, y⟩ else none
  | _, _ => none

/-- The calls of a chain, in order. -/
def calls (steps : List (Step α)) (x : Outcome α) : List (Called α) :=
  (List.range steps.length).filterMap (callAt? steps x)

variable {steps : List (Step α)} {x y z : Outcome α}

@[simp] lemma run_nil (x : Outcome α) : run [] x = .done x := rfl

@[simp] lemma run_concat (steps : List (Step α)) (step : Step α) (x : Outcome α) :
    run (steps ++ [step]) x = (run steps x).bind fun y => step.apply y := by
  simp [run]

/-- A step is carried out on the result of the steps before it. -/
lemma result_concat_of_ok (h : (run steps x).result = .ok y) (step : Step α) :
    (run (steps ++ [step]) x).result = (step.apply y).result := by
  rw [run_concat, Call.bind, h]

/-- A chain with a result has had one before its last step. -/
lemma exists_of_result_concat {step : Step α} (h : (run (steps ++ [step]) x).result = .ok z) :
    ∃ y, (run steps x).result = .ok y ∧ (step.apply y).result = .ok z := by
  cases hr : (run steps x).result with
  | error f => simp [run_concat, Call.bind, hr] at h
  | ok y => exact ⟨y, rfl, (result_concat_of_ok hr step).symm.trans h⟩

lemma run_append (steps rest : List (Step α)) (x : Outcome α) :
    run (steps ++ rest) x = (run steps x).bind fun y => run rest y := by
  induction rest using List.reverseRecOn with
  | nil => simp [Call.bind_pure]
  | append_singleton rest step ih =>
      rw [← List.append_assoc, run_concat, ih, Call.bind_assoc]
      simp only [run_concat]

lemma run_cons (step : Step α) (rest : List (Step α)) (x : Outcome α) :
    run (step :: rest) x = (step.apply x).bind fun y => run rest y := by
  rw [← List.singleton_append, run_append]
  exact congrArg (fun r : Call (Outcome α) => r.bind fun y => run rest y)
    (Call.pure_bind x fun y => step.apply y)

/-- **Two steps that go on to other outcomes may be taken together**, marks included. -/
lemma run_flatMap_flatMap (f g : α → Call (Outcome α)) (rest : List (Step α)) (x : Outcome α) :
    run (.flatMap f :: .flatMap g :: rest) x =
      run (.flatMap (fun a => (f a).bind (Outcome.flatMap g)) :: rest) x := by
  calc run (.flatMap f :: .flatMap g :: rest) x
      = (x.flatMap f).bind fun y => (y.flatMap g).bind fun z => run rest z := by
        simp only [run_cons, Step.apply]
    _ = ((x.flatMap f).bind (Outcome.flatMap g)).bind fun z => run rest z :=
        (Call.bind_assoc _ _ _).symm
    _ = (x.flatMap fun a => (f a).bind (Outcome.flatMap g)).bind fun z => run rest z := by
        rw [Outcome.flatMap_assoc]
    _ = run (.flatMap (fun a => (f a).bind (Outcome.flatMap g)) :: rest) x := by
        rw [run_cons, Step.apply]

lemma callAt?_eq_some {c : Called α} {place : Nat} :
    callAt? steps x place = some c ↔
      c.place = place ∧ steps[place]? = some c.step ∧ arriving steps x place = .ok c.given ∧
        c.step.attends c.given = true := by
  obtain ⟨p, step, y⟩ := c
  rw [callAt?]
  cases hs : steps[place]? with
  | none => simp
  | some step' =>
      cases ha : arriving steps x place with
      | error f => simp
      | ok y' =>
          dsimp only
          split_ifs with h
          · simp only [Option.some.injEq, Called.mk.injEq, Except.ok.injEq]
            constructor
            · rintro ⟨rfl, rfl, rfl⟩
              exact ⟨rfl, rfl, rfl, h⟩
            · rintro ⟨rfl, rfl, rfl, -⟩
              exact ⟨rfl, rfl, rfl⟩
          · simp only [Option.some.injEq, Except.ok.injEq, false_iff]
            rintro ⟨-, rfl, rfl, h'⟩
            exact h h'

/-- **A function is called where what arrives is what its step is for.** -/
lemma mem_calls {c : Called α} :
    c ∈ calls steps x ↔ steps[c.place]? = some c.step ∧ arriving steps x c.place = .ok c.given ∧
      c.step.attends c.given = true := by
  rw [calls, List.mem_filterMap]
  constructor
  · rintro ⟨place, -, h⟩
    obtain ⟨rfl, hc⟩ := callAt?_eq_some.mp h
    exact hc
  · rintro ⟨hstep, hc⟩
    obtain ⟨hlt, -⟩ := List.getElem?_eq_some_iff.mp hstep
    exact ⟨c.place, List.mem_range.mpr hlt, callAt?_eq_some.mpr ⟨rfl, hstep, hc⟩⟩

/-- No function is called twice, and none before one that stands earlier. -/
lemma pairwise_calls (steps : List (Step α)) (x : Outcome α) :
    (calls steps x).Pairwise fun c d => c.place < d.place := by
  refine List.Pairwise.filterMap _ (fun i j hij c hc d hd => ?_) List.pairwise_lt_range
  rw [(callAt?_eq_some.mp hc).1, (callAt?_eq_some.mp hd).1]
  exact hij

lemma arriving_concat (steps : List (Step α)) (step : Step α) (x : Outcome α) {place : Nat}
    (h : place ≤ steps.length) :
    arriving (steps ++ [step]) x place = arriving steps x place := by
  rw [arriving, List.take_append_of_le_length h, ← arriving]

lemma arriving_length (steps : List (Step α)) (x : Outcome α) :
    arriving steps x steps.length = (run steps x).result := by
  rw [arriving, List.take_length]

/-- A chain with one more step has the calls of the chain, and perhaps one more. -/
lemma calls_concat (steps : List (Step α)) (step : Step α) (x : Outcome α) :
    calls (steps ++ [step]) x = calls steps x ++
      match (run steps x).result with
      | .ok y => if step.attends y then [⟨steps.length, step, y⟩] else []
      | .error _ => [] := by
  -- what arrives at a place depends on the functions in front of it
  have hbefore : ∀ i ∈ List.range steps.length,
      callAt? (steps ++ [step]) x i = callAt? steps x i := by
    intro i hi
    have hlt := List.mem_range.mp hi
    rw [callAt?, callAt?, arriving_concat _ _ _ (Nat.le_of_lt hlt), List.getElem?_append_left hlt]
  rw [calls, List.length_append, List.length_singleton, List.range_succ, List.filterMap_append,
    List.filterMap_congr hbefore, ← calls]
  congr 1
  have hlast : callAt? (steps ++ [step]) x steps.length =
      match (run steps x).result with
      | .ok y => if step.attends y then some ⟨steps.length, step, y⟩ else none
      | .error _ => none := by
    rw [callAt?, arriving_concat _ _ _ (Nat.le_refl _), arriving_length,
      List.getElem?_concat_length]
    cases (run steps x).result <;> rfl
  rw [List.filterMap_cons, hlast]
  cases (run steps x).result with
  | error f => rfl
  | ok y =>
      dsimp only
      split_ifs <;> rfl

/-- **A function that is not called has no say**: a chain with other functions in its place, on the
same tracks, is carried out in the same way. -/
lemma run_congr {others : List (Step α)}
    (hkinds : others.map Step.isForFailures = steps.map Step.isForFailures)
    (hcalls : ∀ c ∈ calls steps x, others[c.place]? = some c.step) :
    run others x = run steps x := by
  -- by induction from the end: whether the last function is called is told by what arrives there
  induction steps using List.reverseRecOn generalizing others with
  | nil => rw [List.map_eq_nil_iff.mp hkinds]
  | append_singleton steps step ih =>
      rw [List.map_append] at hkinds
      obtain ⟨before, last, rfl, hbefore, hlast⟩ := List.map_eq_append_iff.mp hkinds
      obtain ⟨other, rfl, hkind⟩ := List.map_eq_singleton_iff.mp hlast
      have hlength : before.length = steps.length := by simpa using congrArg List.length hbefore
      rw [calls_concat] at hcalls
      obtain ⟨hfirst, hstep⟩ := List.forall_mem_append.mp hcalls
      have hsame : run before x = run steps x := by
        refine ih hbefore fun c hc => ?_
        obtain ⟨hlt, -⟩ := List.getElem?_eq_some_iff.mp (mem_calls.mp hc).1
        have hplace : (before ++ [other])[c.place]? = before[c.place]? :=
          List.getElem?_append_left (by omega)
        exact hplace.symm.trans (hfirst c hc)
      rw [run_concat, run_concat, hsame, Call.bind, Call.bind]
      cases hr : (run steps x).result with
      | error f => rfl
      | ok y =>
          rw [hr] at hstep
          dsimp only at hstep ⊢
          by_cases hattends : step.attends y = true
          · have hcall := hstep ⟨steps.length, step, y⟩ (by simp [hattends])
            rw [← hlength, List.getElem?_concat_length] at hcall
            rw [Option.some.inj hcall]
          · have hquiet := Bool.eq_false_iff.mpr hattends
            have hquiet' : other.attends y = false := by
              rw [Step.attends, hkind]
              exact hquiet
            rw [Step.apply_of_not_attends hquiet, Step.apply_of_not_attends hquiet']

/-! ### Marks and faults -/

/-- **The marks of a chain are those of its calls**, in order. -/
lemma marks_run (steps : List (Step α)) (x : Outcome α) :
    (run steps x).marks = (calls steps x).flatMap fun c => c.step.marks c.given := by
  induction steps using List.reverseRecOn with
  | nil => rfl
  | append_singleton steps step ih =>
      rw [run_concat, calls_concat, List.flatMap_append, ← ih, Call.bind]
      cases (run steps x).result with
      | error f => simp
      | ok y =>
          dsimp only
          rw [(Step.apply_spec y step).1]
          split_ifs with h
          · simp
          · have hquiet := Step.apply_of_not_attends (Bool.eq_false_iff.mpr h)
            rw [← (Step.apply_spec y step).1, hquiet]
            rfl

/-- **A fault ends the chain at its step**, and nothing is called after it. -/
lemma result_of_fault {c : Called α} (hc : c ∈ calls steps x) {f : Fault}
    (hf : c.step.fault? c.given = some f) :
    (run steps x).result = .error f ∧ (calls steps x).getLast? = some c := by
  -- by induction from the end: the last function is called only if no fault came before
  induction steps using List.reverseRecOn with
  | nil => cases hc
  | append_singleton steps step ih =>
      rw [calls_concat] at hc ⊢
      rcases List.mem_append.mp hc with hc | hc
      · obtain ⟨hresult, hlast⟩ := ih hc
        simp [run_concat, Call.bind, hresult, hlast]
      · cases hr : (run steps x).result with
        | error e => simp [hr] at hc
        | ok y =>
            rw [hr] at hc
            dsimp only at hc
            split_ifs at hc with h
            · cases List.mem_singleton.mp hc
              have hfault := (Step.apply_spec y step).2.trans hf
              refine ⟨?_, by simp [h]⟩
              rw [result_concat_of_ok hr]
              rw [Call.fault?] at hfault
              cases hstep : (step.apply y).result with
              | ok z => simp [hstep] at hfault
              | error e =>
                  rw [hstep] at hfault
                  exact congrArg Except.error (Option.some.inj hfault)
            · cases hc

/-- **A chain without a fault has a result.** -/
lemma exists_result (h : ∀ c ∈ calls steps x, c.step.fault? c.given = none) :
    ∃ y, (run steps x).result = .ok y := by
  induction steps using List.reverseRecOn with
  | nil => exact ⟨x, rfl⟩
  | append_singleton steps step ih =>
      rw [calls_concat] at h
      obtain ⟨hbefore, hlast⟩ := List.forall_mem_append.mp h
      obtain ⟨y, hy⟩ := ih hbefore
      rw [hy] at hlast
      rw [result_concat_of_ok hy]
      by_cases hstep : step.attends y = true
      · have hnone := hlast ⟨steps.length, step, y⟩ (by simp [hstep])
        rw [← (Step.apply_spec y step).2, Call.fault?] at hnone
        cases hr : (step.apply y).result with
        | ok z => exact ⟨z, rfl⟩
        | error f => simp [hr] at hnone
      · exact ⟨y, by rw [Step.apply_of_not_attends (Bool.eq_false_iff.mpr hstep)]; rfl⟩

/-! ### The two tracks -/

/-- **Steps that make no new outcome have no say in the result.** -/
lemma result_links (h : (run steps x).result = .ok y) :
    (run (steps.filter Step.isLink) x).result = .ok y := by
  induction steps using List.reverseRecOn generalizing y with
  | nil => exact h
  | append_singleton steps step ih =>
      obtain ⟨z, hz, hy⟩ := exists_of_result_concat h
      rw [List.filter_append]
      cases hstep : step.isLink with
      | true =>
          rw [List.filter_cons_of_pos hstep, List.filter_nil, result_concat_of_ok (ih hz)]
          exact hy
      | false =>
          rw [List.filter_cons_of_neg (by simp [hstep]), List.filter_nil, List.append_nil, ih hz,
            Step.eq_of_not_isLink hstep hy]

/-- The place of a chain from which its end arrives: before it only values do, and what arrives
there is what the steps up to it that make new outcomes lead to. -/
structure Switches (steps : List (Step α)) (x y : Outcome α) (place : Nat) : Prop where
  le : place ≤ steps.length
  before : ∀ i < place, ∃ a, arriving steps x i = .ok (.success a)
  after : ∀ i, place ≤ i → i ≤ steps.length → arriving steps x i = .ok y
  never : y.isSuccess = true → place = steps.length
  links : (run ((steps.take place).filter Step.isLink) x).result = .ok y

/-- **A chain with a result switches its track at one place at most**, and hands the failure on from
there unchanged. -/
lemma exists_switches (h : (run steps x).result = .ok y) : ∃ place, Switches steps x y place := by
  suffices ∃ place ≤ steps.length, (∀ i < place, ∃ a, arriving steps x i = .ok (.success a)) ∧
      (∀ i, place ≤ i → i ≤ steps.length → arriving steps x i = .ok y) ∧
      (y.isSuccess = true → place = steps.length) by
    obtain ⟨place, hle, hbefore, hafter, hnever⟩ := this
    exact ⟨place, hle, hbefore, hafter, hnever, result_links (hafter place (Nat.le_refl _) hle)⟩
  -- by induction on the chain: only a value lets its last step be the place
  induction steps using List.reverseRecOn generalizing y with
  | nil =>
      refine ⟨0, Nat.le_refl _, by simp, fun i _ hi => ?_, by simp⟩
      rw [Nat.le_zero.mp hi]
      exact h
  | append_singleton steps step ih =>
      obtain ⟨z, hz, hy⟩ := exists_of_result_concat h
      obtain ⟨place, hle, hbefore, hafter, hnever⟩ := ih hz
      have hend : arriving (steps ++ [step]) x (steps.length + 1) = .ok y := by
        rw [← h, ← arriving_length, List.length_append, List.length_singleton]
      rw [List.length_append, List.length_singleton]
      cases z with
      | success a =>
          refine ⟨steps.length + 1, Nat.le_refl _, fun i hi => ?_, fun i hi hi' => ?_, fun _ => rfl⟩
          · rw [arriving_concat _ _ _ (Nat.le_of_lt_succ hi)]
            rcases Nat.lt_or_eq_of_le (Nat.le_of_lt_succ hi) with hlt | rfl
            · exact hbefore i (hnever rfl ▸ hlt)
            · exact ⟨a, (arriving_length steps x).trans hz⟩
          · rw [Nat.le_antisymm hi' hi, hend]
      | failure e =>
          cases Step.eq_of_failure hy
          refine ⟨place, Nat.le_succ_of_le hle, fun i hi => ?_, fun i hi hi' => ?_, nofun⟩
          · rw [arriving_concat _ _ _ (by omega)]
            exact hbefore i hi
          · rcases Nat.lt_or_eq_of_le hi' with hlt | rfl
            · rw [arriving_concat _ _ _ (Nat.le_of_lt_succ hlt)]
              exact hafter i hi (Nat.le_of_lt_succ hlt)
            · exact hend

variable {place : Nat}

/-- What arrives at a step is a value exactly before the place of the switch. -/
lemma Switches.isSuccess_eq (h : Switches steps x y place) {i : Nat} (hi : i < steps.length)
    (hz : arriving steps x i = .ok z) : z.isSuccess = decide (i < place) := by
  rcases Nat.lt_or_ge i place with hp | hp
  · obtain ⟨a, ha⟩ := h.before i hp
    cases hz.symm.trans ha
    simp [Outcome.isSuccess, hp]
  · cases hz.symm.trans (h.after i hp (Nat.le_of_lt hi))
    have hfailure : y.isSuccess = false := by
      by_contra hne
      have hend := h.never (by simpa using hne)
      omega
    simp [hfailure, Nat.not_lt.mpr hp]

/-- **Before the switch the functions for values are called, from it on those for failures.** -/
lemma Switches.mem_calls_iff (h : Switches steps x y place) {c : Called α} :
    c ∈ calls steps x ↔ steps[c.place]? = some c.step ∧ arriving steps x c.place = .ok c.given ∧
      c.step.isForFailures = decide (place ≤ c.place) := by
  rw [mem_calls]
  refine and_congr_right fun hstep => and_congr_right fun hgiven => ?_
  obtain ⟨hlt, -⟩ := List.getElem?_eq_some_iff.mp hstep
  rw [Step.attends, h.isSuccess_eq hlt hgiven, bne_iff_ne]
  cases c.step.isForFailures <;> simp

/-! ### Chains and what they call -/

/-- **A chain short-circuits.** Its marks are those of the calls of its functions, each of which
is called once at most and in order: where what arrives is what its step is for. Functions that
are not called might be any others. If none of the calls goes wrong, the chain has a result, and
there is one place before which only values arrive and from which on the end does: this is the
first failure as it was described, or there is no such place within the chain. It is what the
steps that make new outcomes lead to, with or without the steps after that place. Up to the place
the functions for values are called, and from it on those for failures; and of two functions at
the end exactly the one for the result is. A call that goes wrong is the last one, and its fault
is the end of the chain and of all that follows. No value is made of nothing. Two steps that go on
to other outcomes may be taken together, marks included. -/
theorem short_circuits (steps : List (Step α)) (x : Outcome α) :
    (run steps x).marks = ((calls steps x).flatMap fun c => c.step.marks c.given) ∧
      ((calls steps x).Pairwise fun c d => c.place < d.place) ∧
      (∀ c, c ∈ calls steps x ↔ steps[c.place]? = some c.step ∧
        arriving steps x c.place = .ok c.given ∧ c.step.attends c.given = true) ∧
      (∀ others : List (Step α),
        others.map Step.isForFailures = steps.map Step.isForFailures →
        (∀ c ∈ calls steps x, others[c.place]? = some c.step) → run others x = run steps x) ∧
      ((∀ c ∈ calls steps x, c.step.fault? c.given = none) → ∃ y place,
        (run steps x).result = .ok y ∧ Switches steps x y place ∧
        (run (steps.filter Step.isLink) x).result = .ok y ∧
        (∀ c, c ∈ calls steps x ↔ steps[c.place]? = some c.step ∧
          arriving steps x c.place = .ok c.given ∧
          c.step.isForFailures = decide (place ≤ c.place)) ∧
        ∀ (δ : Type) (onSuccess : α → Call δ) (onFailure : Failure → Call δ),
          (run steps x).bind (Outcome.either onSuccess onFailure) =
            match y with
            | .success a => ⟨(run steps x).marks ++ (onSuccess a).marks, (onSuccess a).result⟩
            | .failure e => ⟨(run steps x).marks ++ (onFailure e).marks, (onFailure e).result⟩) ∧
      (∀ c ∈ calls steps x, ∀ f, c.step.fault? c.given = some f →
        (run steps x).result = .error f ∧ (calls steps x).getLast? = some c ∧
        ∀ (δ : Type) (next : Outcome α → Call δ),
          (run steps x).bind next = ⟨(run steps x).marks, .error f⟩) ∧
      (∀ (v : Option α) (y : Outcome α),
        (Outcome.ofValue v).result = .ok y ↔ ∃ a, v = some a ∧ y = .success a) ∧
      ∀ (f g : α → Call (Outcome α)) (rest : List (Step α)),
        run (steps ++ .flatMap f :: .flatMap g :: rest) x =
          run (steps ++ .flatMap (fun a => (f a).bind (Outcome.flatMap g)) :: rest) x := by
  refine ⟨marks_run steps x, pairwise_calls steps x, fun c => mem_calls,
    fun others => run_congr, fun h => ?_, fun c hc f hf => ?_, fun v y => ?_, fun f g rest => ?_⟩
  · -- without a fault there is a result, and a place where the tracks are switched
    obtain ⟨y, hy⟩ := exists_result h
    obtain ⟨place, hplace⟩ := exists_switches hy
    refine ⟨y, place, hy, hplace, result_links hy, fun c => hplace.mem_calls_iff,
      fun δ onSuccess onFailure => ?_⟩
    rw [Call.bind, hy]
    cases y <;> rfl
  · obtain ⟨hresult, hlast⟩ := result_of_fault hc hf
    exact ⟨hresult, hlast, fun δ next => by rw [Call.bind, hresult]⟩
  · cases v with
    | none => simp [Outcome.ofValue, Call.fail]
    | some a => simp [Outcome.ofValue, Call.done, eq_comm]
  · simp only [run_append, run_flatMap_flatMap]

/-- A step that leaves a mark and looks no further. -/
def marking (b : UInt8) : Call Unit :=
  .note (.decoded [b])

/-- The failure of a number that is not small. -/
def tooLarge : Failure where
  code := .parse
  message := "too large"
  fault := some .emptyFailure
  recordedAt := 7

/-- Counts on while the number is small, with marks at every place. -/
def countingSteps : List (Step Int) :=
  [.peek fun _ => marking 1,
   .map fun n => (marking 2).bind fun _ => .done (some (n + 1)),
   .peekFailure fun _ => marking 3,
   .flatMap fun n => (marking 4).bind fun _ =>
     .done (if n < 5 then .success n else .failure tooLarge),
   .peek fun _ => marking 5,
   .peekFailure fun _ => marking 6,
   .map fun n => (marking 7).bind fun _ => .done (if n < 3 then none else some n)]

/-- A large number fails in the middle, where the tracks are switched; a small one gives nothing
at the end, and nothing is done with it. -/
theorem short_circuits_of_countingSteps :
    (∀ c ∈ calls countingSteps (.success 4), c.step.fault? c.given = none) ∧
      (∃ place, (run countingSteps (.success 4)).result = .ok (.failure tooLarge) ∧
        Switches countingSteps (.success 4) (.failure tooLarge) place ∧
        (calls countingSteps (.success 4)).map Called.place = [0, 1, 3, 5] ∧
        ((run countingSteps (.success 4)).bind
          (Outcome.either (fun _ => marking 8) fun _ => marking 9)).marks.filterMap Mark.key? =
            [[1], [2], [4], [6], [9]]) ∧
      (∃ c ∈ calls countingSteps (.success 1), c.step.fault? c.given = some .emptySuccess ∧
        (run countingSteps (.success 1)).result = .error .emptySuccess ∧
        (calls countingSteps (.success 1)).getLast? = some c) := by
  obtain ⟨-, -, -, -, hok, -⟩ := short_circuits countingSteps (.success 4)
  obtain ⟨-, -, -, -, -, hfault, -⟩ := short_circuits countingSteps (.success 1)
  have hnone : ∀ c ∈ calls countingSteps (.success 4), c.step.fault? c.given = none := by
    decide
  obtain ⟨y, place, hy, hplace, -, -, heither⟩ := hok hnone
  have hend : (run countingSteps (.success 4)).result = .ok (.failure tooLarge) := rfl
  cases hend.symm.trans hy
  refine ⟨hnone, ⟨place, hy, hplace, by decide, ?_⟩, ?_⟩
  · rw [heither]
    rfl
  · obtain ⟨c, hc⟩ : ∃ c, (calls countingSteps (.success 1)).getLast? = some c := ⟨_, rfl⟩
    have hmem := List.mem_of_getLast? hc
    have hempty : (calls countingSteps (.success 1)).getLast?.bind
        (fun c => c.step.fault? c.given) = some .emptySuccess := rfl
    rw [hc] at hempty
    obtain ⟨hresult, hlast, -⟩ := hfault c hmem _ hempty
    exact ⟨c, hmem, hempty, hresult, hlast⟩

end Pipeline

end KnownLogs
