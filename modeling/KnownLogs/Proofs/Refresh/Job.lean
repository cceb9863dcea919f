/-
The job that keeps a store fresh:

* `Store.IsIdle.answer_ne_blocked`: only a policy that waits for the first snapshot lets a question
  wait for ever;
* `Refresh.run_job`: a run of the job, by what comes of the question about the state;
* `Refresh.converse_job`: **a run of the job leaves a store as the question does**, but for what it
  tells;
* `Scheduler.run_create`: a schedule is set up whatever comes of its first run;
* `Refresh.job_returns`: **contexts contain every ordinary fault, and so the job returns**.
-/
import KnownLogs.Proofs.Execution.Stack
import KnownLogs.Proofs.Store.Checked
import KnownLogs.Proofs.Store.Journal
import KnownLogs.Refresh.Scheduler

namespace KnownLogs

variable {I : Interface} {α σ : Type}

/-! ### Waiting -/

/-- A question to an idle store is answered or ends in a fault, unless the policy waits for the
first snapshot, which is the one that it is asked for. -/
lemma Store.IsIdle.answer_ne_blocked {s : Store} (hs : s.IsIdle)
    (hverdict : s.snapshot.checkedAt = none → ∀ d, s.verdict d ≠ .blocked) (q : Query) :
    (s.answer q).1 ≠ .blocked := by
  cases hb : s.beginsAt? q with
  | none =>
      obtain ⟨c, he⟩ := answer_of_not_begun hs.isSound.isCoherent hb
      rw [he, hs.unlocked]
      exact nofun
  | some now =>
      cases hf : s.finding with
      | value g =>
          obtain ⟨c, he⟩ := answer_of_value hs.isSound.isCoherent hb hf
          rw [he]
          cases hn : s.news (Attempt.mk now g).snapshot with
          | value u => simp
          | fault f => simp
          | blocked => exact absurd hn (s.news_ne_blocked _)
      | fault f =>
          obtain ⟨c, he⟩ := answer_of_fault hs.isSound.isCoherent hb hf
          simp [he]
      | blocked =>
          obtain ⟨d, hd⟩ := exists_verdict_of_blocked hf
          exact absurd hd (hverdict (checkedAt_of_blocked hf) d)

namespace Refresh

/-! ### One run -/

/-- What a run tells when it starts. -/
def started : Mark :=
  .line { level := 20, operation := "LogListRefresh", news := .started }

/-- What a run tells of a state. -/
def reached (state : StoreState) : List Mark :=
  [.line { level := 20, operation := "LogListRefresh", news := .completed true },
   .event { name := "scheduler.refresh_completed", level := .info,
            fields := [("state", .text state.text)] }]

/-- What a run tells of a fault that is made into a failure: the line of the context, then the
failure with its cause. -/
def failed (f : Fault) : List Mark :=
  [.line { level := 40, operation := "LogListRefresh", news := .failed f.message },
   .event { name := "scheduler.refresh_failed", level := .error,
            fields := [("failure", .text
              ("Execution failed: " ++ f.message ++ ": " ++ f.kind ++ ": " ++ f.message))] }]

lemma line_started : context.line .started = started := rfl

lemma failed_eq (f : Fault) :
    failed f = [context.faultLine f, report (.failure (LoggedContext.failureOf f))] := rfl

lemma run_state (ask : Dialogue I (Option StoreState)) (h : Handler I σ) (s : σ) :
    (state ask).run h s =
      match ask.run h s with
      | (.value (some state), t) => (.value (.success state), t)
      | (.value none, t) => (.fault .emptySuccess, t)
      | (.fault f, t) => (.fault f, t)
      | (.blocked, t) => (.blocked, t) := by
  rw [state, Dialogue.run_bind]
  rcases ask.run h s with ⟨(_ | state) | f | _, t⟩ <;> rfl

/-- **A run of the job**: the question is put once, and what comes of it is told, unless it is a
fault that is not ordinary. -/
theorem run_job (ask : Dialogue I (Option StoreState)) (h : Handler I σ) (s : σ) :
    (job ask).run h s =
      match ask.run h (h.keep started s) with
      | (.value (some state), t) => (.value (), h.keepAll (reached state) t)
      | (.value none, t) => (.value (), h.keepAll (failed .emptySuccess) t)
      | (.fault f, t) =>
        if f.isOrdinary then (.value (), h.keepAll (failed f) t) else (.fault f, t)
      | (.blocked, t) => (.blocked, t) := by
  rw [job, Dialogue.run_bind, execute, LoggedContext.run_around, run_state, line_started]
  rcases ask.run h (h.keep started s) with ⟨(_ | state) | f | _, t⟩
  · rfl
  · rfl
  · cases hf : f.isOrdinary
    · simp [hf]
    · simp [hf, failed_eq, Dialogue.run]
  · rfl

/-! ### The job of a store -/

lemma converse_ofStore (s : Store) :
    s.converse ofStore = ((s.answer .state).1.map some, (s.answer .state).2) := by
  refine (Dialogue.run_pose_bind Store.reader Query.state _ s).trans ?_
  rw [show Store.reader.answer Query.state s = s.answer .state from rfl]
  rcases s.answer .state with ⟨state | f | _, t⟩ <;> rfl

lemma keepAll_remembering (t : Store) (j ms : List Mark) :
    Store.reader.keepAll ms (t.remembering j) = t.remembering (j ++ ms) := by
  induction ms generalizing j with
  | nil => simp
  | cons m ms ih =>
      rw [Handler.keepAll_cons]
      refine (ih (j ++ [m])).trans ?_
      rw [List.append_assoc, List.singleton_append]

/-- When a run has told of its start, the question does what it does without, behind one mark
more. -/
lemma exists_marks_of_started (s : Store) :
    ∃ ms, (s.answer .state).2.journal = s.journal ++ ms ∧
      ofStore.run Store.reader (Store.reader.keep started s) =
        ((s.answer .state).1.map some,
          (s.answer .state).2.remembering (s.journal ++ started :: ms)) := by
  obtain ⟨ms, hj, hany⟩ := s.exists_marks_of_answer .state
  have hstarted : (s.keep started).answer .state =
      ((s.answer .state).1,
        (s.answer .state).2.remembering (s.journal ++ started :: ms)) := by
    rw [List.append_cons]
    exact hany (s.journal ++ [started])
  refine ⟨ms, hj, (converse_ofStore (s.keep started)).trans ?_⟩
  rw [hstarted]

/-- **A run of the job leaves a store as the question does**, but for what the run tells in front of
the marks of the question and behind them. -/
theorem converse_job (s : Store) :
    ∃ ms, (s.answer .state).2.journal = s.journal ++ ms ∧
      s.converse (job ofStore) =
        match s.answer .state with
        | (.value state, t) =>
          (.value (), t.remembering (s.journal ++ started :: (ms ++ reached state)))
        | (.fault f, t) =>
          if f.isOrdinary then
            (.value (), t.remembering (s.journal ++ started :: (ms ++ failed f)))
          else (.fault f, t.remembering (s.journal ++ started :: ms))
        | (.blocked, t) =>
          (.blocked, t.remembering (s.journal ++ started :: ms)) := by
  obtain ⟨ms, hj, hasked⟩ := exists_marks_of_started s
  refine ⟨ms, hj, ?_⟩
  rw [Store.converse, run_job, hasked]
  rcases s.answer .state with ⟨state | f | _, t⟩
  · simp [keepAll_remembering]
  · simp [keepAll_remembering]
  · rfl

/-! ### Returning -/

/-- A run of the job returns unless the question waits for ever or a fault that is not ordinary
ends it. -/
lemma run_job_of_ordinary {ask : Dialogue I (Option StoreState)} {h : Handler I σ} {s : σ}
    (hends : (ask.run h (h.keep started s)).1 ≠ .blocked)
    (hordinary : ∀ f, (ask.run h (h.keep started s)).1 = .fault f →
      f.isOrdinary = true) : ((job ask).run h s).1 = .value () := by
  rw [run_job]
  generalize ask.run h (h.keep started s) = r at hends hordinary ⊢
  rcases r with ⟨(_ | state) | f | _, t⟩
  · rfl
  · rfl
  · simp [hordinary f rfl]
  · exact absurd rfl hends

/-- The job of a store returns unless the question waits for ever or a fault that is not ordinary
ends it. -/
lemma converse_job_of_ordinary {s : Store} (hends : (s.answer .state).1 ≠ .blocked)
    (hordinary : ∀ f, (s.answer .state).1 = .fault f → f.isOrdinary = true) :
    (s.converse (job ofStore)).1 = .value () := by
  obtain ⟨ms, -, hjob⟩ := converse_job s
  rw [hjob]
  generalize s.answer .state = r at hends hordinary ⊢
  rcases r with ⟨state | f | _, t⟩
  · rfl
  · simp [hordinary f rfl]
  · exact absurd rfl hends

end Refresh

/-! ### Schedules -/

/-- **A schedule is set up whatever comes of its first run**, unless the question waits for ever or
a fault that is not ordinary ends it. -/
theorem Scheduler.run_create {cron : String} {trigger : Cron} (hcron : Cron.read cron = .ok trigger)
    (runOnStartup handleSignals : Bool) {ask : Dialogue I (Option StoreState)} {h : Handler I σ}
    (hends : ∀ s, (ask.run h s).1 ≠ .blocked)
    (hordinary : ∀ s f, (ask.run h s).1 = .fault f → f.isOrdinary = true) (s : σ) :
    ((Scheduler.create ask cron runOnStartup handleSignals).run h s).1 =
      .value { trigger, jobs := [refreshJob], signals := handled handleSignals } := by
  rw [create, hcron]
  dsimp only
  cases runOnStartup with
  | false => rfl
  | true =>
      have hstart : ((runAtOnce ask).run h s).1 = .value () :=
        Refresh.run_job_of_ordinary (hends _) (hordinary _)
      rw [if_pos rfl, Dialogue.run_bind]
      generalize (runAtOnce ask).run h s = r at hstart ⊢
      obtain ⟨found, t⟩ := r
      cases hstart
      rfl

namespace Refresh

open Execution in
/-- **Contexts contain every ordinary fault, and so the job returns.** A computation inside
contexts, however many, is carried out once, between their lines. Its outcome is the outcome of
all; an ordinary fault becomes a failure that carries it and is handed on by the contexts further
out; any other fault gets out. What it comes to is the same for any contexts. The job puts its
question once, tells of the state or of the failure, and returns unless the question waits for ever
or a fault that is not ordinary ends it. It leaves a store as one question about the state does, but
for the marks of what it tells. Where no attempt is going on, the question waits for ever only if
the policy does, asked about the first list. -/
theorem job_returns (c : LoggedContext) (cs : List LoggedContext)
    (x : Dialogue I (Outcome α)) (ask : Dialogue I (Option StoreState)) (h : Handler I σ) (u : σ)
    (s : Store) :
    (stack (c :: cs) x).run h u =
        (match x.run h (h.keepAll (openings (c :: cs)) u) with
        | (.value r, t) => (.value r, h.keepAll (closings r.isSuccess (c :: cs)) t)
        | (.fault f, t) =>
          if f.isOrdinary then
            (.value (.failure
                { code := .technical, message := "Execution failed: " ++ f.message,
                  fault := some f }),
              h.keepAll
                (.line { level := 40, operation := c.operation, news := .failed f.message } ::
                  closings false cs) t)
          else (.fault f, t)
        | (.blocked, t) => (.blocked, t)) ∧
      (∀ d ds answer, (stack (c :: cs) x).ending answer = (stack (d :: ds) x).ending answer) ∧
      (job ask).run h u =
        (match ask.run h (h.keep started u) with
        | (.value (some state), t) => (.value (), h.keepAll (reached state) t)
        | (.value none, t) => (.value (), h.keepAll (failed .emptySuccess) t)
        | (.fault f, t) =>
          if f.isOrdinary then (.value (), h.keepAll (failed f) t) else (.fault f, t)
        | (.blocked, t) => (.blocked, t)) ∧
      (∃ ms, (s.answer .state).2.journal = s.journal ++ ms ∧
        s.converse (job ofStore) =
          match s.answer .state with
          | (.value state, t) =>
            (.value (), t.remembering (s.journal ++ started :: (ms ++ reached state)))
          | (.fault f, t) =>
            if f.isOrdinary then
              (.value (), t.remembering (s.journal ++ started :: (ms ++ failed f)))
            else (.fault f, t.remembering (s.journal ++ started :: ms))
          | (.blocked, t) =>
            (.blocked, t.remembering (s.journal ++ started :: ms))) ∧
      ((s.answer .state).1 ≠ .blocked →
        (∀ f, (s.answer .state).1 = .fault f → f.isOrdinary = true) →
        (s.converse (job ofStore)).1 = .value ()) ∧
      (s.IsIdle → (s.snapshot.checkedAt = none → ∀ d, s.verdict d ≠ .blocked) →
        (s.answer .state).1 ≠ .blocked) := by
  refine ⟨run_stack c cs x h u, fun d ds answer => ?_, run_job ask h u, converse_job s,
    converse_job_of_ordinary, fun hs hverdict => hs.answer_ne_blocked hverdict .state⟩
  rw [ending_stack, ending_stack]

/-- The fault of a disk that cannot be read. -/
def diskFault : Fault := .foreign "OSError" [.text "disk gone"]

/-- A world whose source raises the fault of a disk. -/
def brokenWorld : World where
  source := .fail diskFault
  parser := fun _ => .fail .unreadableKey
  policy := fun _ => .done (.bool true)
  sink := Sink.silent
  clock := { pending := [5, 7] }

/-- A world in which there is no list. -/
def emptyWorld : World :=
  { brokenWorld with source := .done (.failure { code := .notFound, message := "no file" }) }

/-- Two contexts make one failure of the fault, which is told of once; the job reports the failure,
returns, and has published nothing. Where there is no list, it reports this state and returns. -/
theorem job_returns_of_brokenWorld :
    ((Execution.stack [{ operation := "inner" }, { operation := "outer", level := 10 }]
        (α := Bytes) (.fail diskFault)).run Store.reader (Store.newIn brokenWorld)).1 =
      .value (.failure
        { code := .technical, message := "Execution failed: disk gone", fault := some diskFault }) ∧
    ((Execution.stack [{ operation := "inner" }, { operation := "outer", level := 10 }]
        (α := Bytes) (.fail diskFault)).run Store.reader
          (Store.newIn brokenWorld)).2.journal.filterMap Mark.line? =
      [⟨10, "outer", .started⟩, ⟨20, "inner", .started⟩, ⟨40, "inner", .failed "disk gone"⟩,
        ⟨10, "outer", .completed false⟩] ∧
    (Store.newIn brokenWorld).IsIdle ∧
    ((Store.newIn brokenWorld).answer .state).1 = .fault diskFault ∧
    ((Store.newIn brokenWorld).converse (job ofStore)).1 = .value () ∧
    ((Store.newIn brokenWorld).converse (job ofStore)).2.journal =
      [.line ⟨20, "LogListRefresh", .started⟩, .read,
        .line ⟨40, "LogListRefresh", .failed "disk gone"⟩,
        .event ⟨"scheduler.refresh_failed", .error,
          [("failure", .text "Execution failed: disk gone: OSError: disk gone")]⟩] ∧
    ((Store.newIn brokenWorld).converse (job ofStore)).2.snapshot = .initial ∧
    ((Store.newIn emptyWorld).converse (job ofStore)).1 = .value () ∧
    ((Store.newIn emptyWorld).converse (job ofStore)).2.journal =
      [.line ⟨20, "LogListRefresh", .started⟩, .read,
        .event ⟨"store.log_list_not_found", .warning, [("error", .text "no file")]⟩,
        .event ⟨"store.state_changed", .info,
          [("previous", .text "UNINITIALIZED"), ("state", .text "NOT_FOUND"), ("logs", .int 0)]⟩,
        .line ⟨20, "LogListRefresh", .completed true⟩,
        .event ⟨"scheduler.refresh_completed", .info, [("state", .text "NOT_FOUND")]⟩] := by
  obtain ⟨hstack, -, -, -, hreturns, hends⟩ := job_returns { operation := "inner" }
    [{ operation := "outer", level := 10 }] (α := Bytes) (.fail diskFault) ofStore Store.reader
    (Store.newIn brokenWorld) (Store.newIn brokenWorld)
  have hidle : (Store.newIn brokenWorld).IsIdle :=
    ⟨(Store.Reachable.newIn brokenWorld).isSound, rfl⟩
  have hfault : ((Store.newIn brokenWorld).answer .state).1 = .fault diskFault := rfl
  have hordinary : ∀ f, ((Store.newIn brokenWorld).answer .state).1 = .fault f →
      f.isOrdinary = true := by
    intro f hf
    cases hfault.symm.trans hf
    rfl
  refine ⟨by rw [hstack]; rfl, by rw [hstack]; rfl, hidle, hfault, ?_, rfl, rfl, rfl, rfl⟩
  exact hreturns (hends hidle fun _ d => nofun) hordinary

end Refresh

end KnownLogs
