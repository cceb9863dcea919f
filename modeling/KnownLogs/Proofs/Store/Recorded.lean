/-
The states that a sink remembers over a run:

* `Snapshot.told?`: what a snapshot has told a sink;
* `changesAfter`: the states of the snapshots that tell something new;
* `Happening.KeepsNoState`, `Store.KeepsNoState`: the list of states is the sink's alone;
* `Store.recorded_after`: what one happening adds to the list;
* `Store.recorded_live`: **the list is that of the changes among the completed attempts**, and
  its last state is that of the store.
-/
import KnownLogs.Proofs.Store.History
import KnownLogs.Store.Basic

namespace KnownLogs

/-! ### Changes -/

/-- What the outcome of an attempt has told: its state and its digest. Before any attempt
nothing has been told. -/
def Snapshot.told? (s : Snapshot) : Option (StoreState × Option Bytes) :=
  s.checkedAt.map fun _ => (s.state, s.digest)

/-- The states of the snapshots that tell something else than the one before, given what has
been told before them. -/
def changesAfter (told : Option (StoreState × Option Bytes)) : List Snapshot → List StoreState
  | [] => []
  | next :: rest =>
    if told = some (next.state, next.digest) then
      changesAfter (some (next.state, next.digest)) rest
    else next.state :: changesAfter (some (next.state, next.digest)) rest

lemma Attempt.told?_snapshot (a : Attempt) :
    a.snapshot.told? = some (a.snapshot.state, a.snapshot.digest) := by
  simp [Snapshot.told?, a.checkedAt_snapshot]

/-- A snapshot is a change when it tells something else than the one before. -/
lemma isChange_iff (previous next : Snapshot) :
    Store.isChange previous next = true ↔ previous.told? ≠ some (next.state, next.digest) := by
  cases hc : previous.checkedAt with
  | none => simp [Store.isChange, Snapshot.told?, hc]
  | some t =>
      simp only [Store.isChange, Snapshot.told?, hc]
      by_cases hs : previous.state = next.state <;> simp [hs]

/-- The state that was told last is that of the last snapshot. -/
lemma getLast?_changesAfter (told : Option (StoreState × Option Bytes)) (xs : List Snapshot) :
    (changesAfter told xs).getLast?.or (told.map (·.1)) =
      (xs.getLast?.map Snapshot.state).or (told.map (·.1)) := by
  induction xs generalizing told with
  | nil => rfl
  | cons x xs ih =>
      have h := ih (some (x.state, x.digest))
      rw [changesAfter]
      split_ifs with ht
      · rw [ht, h]
        cases hl : xs.getLast? <;> simp [List.getLast?_cons, hl]
      · cases hc : (changesAfter (some (x.state, x.digest)) xs).getLast? <;>
          cases hl : xs.getLast? <;> simp [List.getLast?_cons, hc, hl] at h ⊢ <;> exact h

/-! ### Who keeps states -/

namespace Dialogue

variable {I : Interface} {α : Type}

/-- Turning faults into results leaves the same marks. -/
lemma marks_attempt (answer : (q : I.Question) → Ending (I.Answer q)) (x : Dialogue I α) :
    x.attempt.marks answer = x.marks answer := by
  induction x with
  | done a => rfl
  | fail f =>
      rw [attempt]
      split <;> rfl
  | note m rest ih => simp [attempt, marks, ih]
  | ask q rest ih =>
      rw [attempt, marks, marks]
      cases answer q with
      | value a => exact ih (.ok a)
      | fault f => exact ih (.error f)
      | blocked => rfl

lemma marks_ask {answer : (q : I.Question) → Ending (I.Answer q)} {q : I.Question}
    {a : I.Answer q} (rest : Except Fault (I.Answer q) → Dialogue I α) (h : answer q = .value a) :
    (ask q rest).marks answer = (rest (.ok a)).marks answer := by
  rw [marks, h]

lemma ending_ask {answer : (q : I.Question) → Ending (I.Answer q)} {q : I.Question}
    {a : I.Answer q} (rest : Except Fault (I.Answer q) → Dialogue I α) (h : answer q = .value a) :
    (ask q rest).ending answer = (rest (.ok a)).ending answer := by
  rw [ending, h]

end Dialogue

/-- Whether no mark of a policy tells of a state. -/
def CompliancePolicy.KeepsNoState (p : CompliancePolicy) : Prop :=
  ∀ v answer, ∀ m ∈ (p v).marks answer, m.state? = none

/-- Whether no mark of a collaborator that comes in tells of a state. -/
def Happening.KeepsNoState : Happening → Prop
  | .source x => ∀ m ∈ x.marks, m.state? = none
  | .policy p => p.KeepsNoState
  | _ => True

/-- Whether no collaborator but the sink leaves marks that tell of a state: the list of states
is the sink's alone. -/
structure Store.KeepsNoState (s : Store) : Prop where
  source : ∀ m ∈ s.source.marks, m.state? = none
  parser : ∀ raw, ∀ m ∈ (s.parser raw).marks, m.state? = none
  policy : s.policy.KeepsNoState

namespace Store

/-! ### What an attempt records -/

variable {s : Store}

lemma recorded_aged (c : Clock) (ms : List Mark) (s : Store) :
    (s.aged c ms).recorded = s.recorded ++ ms.filterMap Mark.state? := by
  simp [recorded]

/-- Nothing is recorded before a snapshot is published. -/
lemma states_searchMarks (hk : s.KeepsNoState) : s.searchMarks.filterMap Mark.state? = [] := by
  have hv : ∀ v, (verdictMarks v).filterMap Mark.state? = [] := by
    intro v
    cases v with
    | value v => cases v <;> rfl
    | fault f => rfl
    | blocked => rfl
  have hf : ∀ f, (failureWarning f).state? = none := fun _ => rfl
  have hp : ∀ d, ((s.policy ⟨some d⟩).attempt.marks s.snapshot.reply).filterMap Mark.state? = [] :=
    fun d => List.filterMap_eq_nil_iff.mpr (by
      rw [Dialogue.marks_attempt]
      exact hk.policy _ _)
  rw [searchMarks, List.cons_append, List.filterMap_cons_none (by rfl), List.filterMap_append,
    List.filterMap_eq_nil_iff.mpr hk.source, List.nil_append]
  -- the marks of the source, then those of the parser, then those of the policy
  split
  · rfl
  · simp [hf]
  · rename_i raw _
    rw [List.cons_append, List.filterMap_cons_none (by rfl), List.filterMap_append,
      List.filterMap_eq_nil_iff.mpr (hk.parser raw), List.nil_append]
    split
    · rfl
    · simp [hf]
    · rw [List.cons_append, List.filterMap_cons_none (by rfl), List.filterMap_append, hp, hv]
      rfl

/-- The remembering sink is told the state that has just been published. -/
lemma marks_recording (a : Attempt) :
    Sink.recording.attempt.marks a.snapshot.reply = [.recorded a.snapshot.state] := by
  rw [Dialogue.marks_attempt]
  exact Dialogue.marks_ask _ (Snapshot.reply_of_checked a.checkedAt_snapshot .state)

lemma ending_recording (a : Attempt) :
    Sink.recording.attempt.ending a.snapshot.reply = .value (.ok ()) :=
  Dialogue.ending_ask _ (Snapshot.reply_of_checked a.checkedAt_snapshot .state)

/-- A change is recorded once, and nothing else is. -/
lemma states_newsMarks (hsink : s.sink = Sink.recording) (a : Attempt) :
    (s.newsMarks a.snapshot).filterMap Mark.state? =
      changesAfter s.snapshot.told? [a.snapshot] := by
  rw [newsMarks, hsink, marks_recording, ending_recording, changesAfter]
  by_cases hc : isChange s.snapshot a.snapshot = true
  · rw [if_pos hc, if_neg ((isChange_iff _ _).mp hc)]
    rfl
  · rw [if_neg hc, if_pos (not_not.mp fun h => hc ((isChange_iff _ _).mpr h))]
    rfl

/-! ### What a run records -/

/-- No question brings in a collaborator that keeps states. -/
lemma keepsNoState_after (hs : s.snapshot.IsCoherent) (hk : s.KeepsNoState) {e : Happening}
    (he : e.KeepsNoState) : (s.after e).KeepsNoState := by
  cases e with
  | ask q =>
      obtain ⟨c, n, l, j, h⟩ := answer_frame hs q
      rw [after, h]
      exact ⟨hk.source, hk.parser, hk.policy⟩
  | clock c => exact ⟨hk.source, hk.parser, hk.policy⟩
  | source x => exact ⟨he, hk.parser, hk.policy⟩
  | policy p => exact ⟨hk.source, hk.parser, he⟩

lemma keepsNoState_live (hs : s.snapshot.IsCoherent) (hk : s.KeepsNoState)
    {es : List Happening} (he : ∀ e ∈ es, e.KeepsNoState) : (s.live es).KeepsNoState := by
  induction es generalizing s with
  | nil => exact hk
  | cons e es ih =>
      obtain ⟨h, he⟩ := List.forall_mem_cons.mp he
      exact ih (isCoherent_after hs e) (keepsNoState_after hs hk h) he

/-- What one happening adds to the list: the state of its attempt, if that is a change. -/
lemma recorded_after (hs : s.snapshot.IsCoherent) (hk : s.KeepsNoState)
    (hsink : s.sink = Sink.recording) (e : Happening) :
    (s.after e).recorded =
      s.recorded ++
        changesAfter s.snapshot.told? ((s.attemptAt? e).map Attempt.snapshot).toList := by
  cases e with
  | ask q =>
      have hc := course hs q
      rw [after, attemptAt?]
      generalize s.answer q = r at hc ⊢
      cases hc with
      | kept c h => simp [h, recorded_aged, changesAfter]
      | made c a h =>
          have hp : (s.publish a.snapshot).recorded = s.recorded := rfl
          simp [h, recorded_aged, hp, states_searchMarks hk, states_newsMarks hsink]
      | broken c f h _ => simp [h, recorded_aged, states_searchMarks hk, changesAfter]
      | stuck c h _ =>
          have hl : s.lock.recorded = s.recorded := rfl
          simp [h, recorded_aged, hl, states_searchMarks hk, changesAfter]
      | waiting c h _ => simp [h, recorded_aged, changesAfter]
  | clock c => simp [after, attemptAt?, changesAfter, recorded]
  | source x => simp [after, attemptAt?, changesAfter, recorded]
  | policy p => simp [after, attemptAt?, changesAfter, recorded]

/-- **What a run adds to the list**: the states of the attempts that are changes. -/
theorem recorded_eq (hs : s.snapshot.IsCoherent) (hk : s.KeepsNoState)
    (hsink : s.sink = Sink.recording) {es : List Happening} (he : ∀ e ∈ es, e.KeepsNoState) :
    (s.live es).recorded =
      s.recorded ++ changesAfter s.snapshot.told? ((s.attempts es).map Attempt.snapshot) := by
  -- by induction on what happens: what has been told is what the published snapshot tells
  induction es generalizing s with
  | nil => simp [attempts, changesAfter]
  | cons e es ih =>
      obtain ⟨h, he⟩ := List.forall_mem_cons.mp he
      rw [live_cons, ih (isCoherent_after hs e) (keepsNoState_after hs hk h)
        ((fixed_after hs e).2.1.trans hsink) he, recorded_after hs hk hsink e, snapshot_after hs e,
        attempts, List.append_assoc]
      cases ha : s.attemptAt? e with
      | none => simp [changesAfter]
      | some a =>
          simp only [Option.map_some, Option.toList_some, Option.getD_some, a.told?_snapshot,
            List.cons_append, List.nil_append, List.map_cons, changesAfter]
          split_ifs <;> rfl

variable {source : Option (Call (Outcome Bytes))} {parser : Bytes → Call (Outcome Document)}
  {policy : Option CompliancePolicy} {clock : Clock} {interval : Int}

/-- **The states that a sink remembers** are those of the completed attempts that are the first
one or differ in state or digest from the one just before: a question adds nothing without an
attempt, and at most the state of its attempt with one. Once there has been an attempt, the
last state remembered is that of the store. -/
theorem recorded_live
    (h : Store.build source (some parser) policy (some Sink.recording) clock interval = .ok s)
    (hk : s.KeepsNoState) {es : List Happening} (he : ∀ e ∈ es, e.KeepsNoState) :
    (s.live es).recorded = changesAfter none ((s.attempts es).map Attempt.snapshot) ∧
      (∀ q, ∃ new, ((s.live es).answer q).2.recorded = (s.live es).recorded ++ new ∧
        ((s.live es).attempt? q = none → new = []) ∧
        ∀ a, (s.live es).attempt? q = some a → new = [] ∨ new = [a.snapshot.state]) ∧
      (s.attempts es ≠ [] →
        (s.live es).recorded.getLast? = some (s.live es).snapshot.state) := by
  obtain ⟨-, hsink, hi, -, hj⟩ := build_ok h
  have hs := isCoherent_build h
  have hsink : s.sink = Sink.recording := Option.some.inj hsink
  -- what is recorded over the run, from which what one question adds is read off
  have hall : (s.live es).recorded =
      changesAfter none ((s.attempts es).map Attempt.snapshot) := by
    rw [recorded_eq hs hk hsink he, hi, recorded, hj]
    rfl
  refine ⟨hall, fun q => ?_, fun hne => ?_⟩
  · refine ⟨_, recorded_after (isCoherent_live hs es) (keepsNoState_live hs hk he)
      ((fixed_live hs es).2.1.trans hsink) (.ask q), fun ha => ?_, fun a ha => ?_⟩
    · simp [attemptAt?, ha, changesAfter]
    · simp only [attemptAt?, ha, Option.map_some, Option.toList_some, changesAfter]
      split_ifs
      · exact .inl rfl
      · exact .inr rfl
  · have hlast := getLast?_changesAfter none ((s.attempts es).map Attempt.snapshot)
    rw [hall, snapshot_eq hs]
    cases hl : (s.attempts es).getLast? with
    | none => exact absurd (List.getLast?_eq_none_iff.mp hl) hne
    | some a => simpa [hl] using hlast

/-- Other bytes and another verdict are remembered, the same outcome and a source that raises
are not. -/
theorem recorded_live_of_changes :
    ∃ s, Store.build (some ⟨[], .ok (.success [1])⟩)
        (some fun _ => .done (.success { version := "1", timestamp := 5 }))
        (some fun _ => .done (.bool true)) (some Sink.recording) { now := 5, step := 20 } 10 =
          .ok s ∧
      (s.live [.ask .state, .source ⟨[], .ok (.success [2])⟩, .ask .logs,
          .source ⟨[], .error .unreadableKey⟩, .ask .timestamp,
          .source ⟨[], .ok (.success [2])⟩, .ask .state,
          .policy fun _ => .done (.bool false), .ask .state]).recorded =
        [.compliant, .compliant, .nonCompliant] := by
  have h : Store.build (some ⟨[], .ok (.success [1])⟩)
      (some fun _ => .done (.success { version := "1", timestamp := 5 }))
      (some fun _ => .done (.bool true)) (some Sink.recording) { now := 5, step := 20 } 10 =
        .ok _ := rfl
  refine ⟨_, h, (recorded_live h ⟨by simp, by simp [Call.done], ?_⟩ ?_).1.trans ?_⟩
  · intro v answer
    simp [Dialogue.marks]
  · simp [Happening.KeepsNoState, CompliancePolicy.KeepsNoState, Dialogue.marks]
  · decide +kernel

end Store

end KnownLogs
