/-
Stores over time:

* `Happening`, `Store.live`: questions, and changes of the world around a store, in any
  order;
* `Store.attempts`: the attempts that are completed on the way;
* `Store.snapshot_eq`: the published snapshot is that of the last of them;
* `Store.attempts_fit`: each of them found what the parser made of the bytes;
* `Store.snapshot_live`: **the whole snapshot after a run**, given a store that reads log
  lists.
-/
import KnownLogs.Proofs.LogList.Parsing
import KnownLogs.Proofs.Store.Gate

namespace KnownLogs

/-! ### Runs -/

/-- What can happen to a store. -/
inductive Happening where
  /-- A question is put. -/
  | ask (q : Query)
  /-- The clock is set, and goes on in its own way. -/
  | clock (c : Clock)
  /-- The content is replaced or removed: the source gives something else from now on. -/
  | source (x : Call (Outcome Bytes))
  /-- The policy is replaced. -/
  | policy (p : CompliancePolicy)

/-- Whether a finding is what a parser makes of the bytes. -/
def Finding.Fits (parser : Bytes → Call (Outcome Document)) : Finding → Prop
  | .unread _ => True
  | .unparsed raw f => (parser raw).result = .ok (.failure f)
  | .judged raw d _ => (parser raw).result = .ok (.success d)

namespace Store

/-- A store after something has happened. -/
def after (s : Store) : Happening → Store
  | .ask q => (s.answer q).2
  | .clock c => { s with clock := c }
  | .source x => { s with source := x }
  | .policy p => { s with policy := p }

/-- A store after all that has happened to it. -/
def live (s : Store) (es : List Happening) : Store :=
  es.foldl after s

/-- The attempt that is completed when something happens, if one is. -/
def attemptAt? (s : Store) : Happening → Option Attempt
  | .ask q => s.attempt? q
  | _ => none

/-- The attempts that are completed on the way, in order. -/
def attempts (s : Store) : List Happening → List Attempt
  | [] => []
  | e :: rest => (s.attemptAt? e).toList ++ (s.after e).attempts rest

@[simp] lemma live_nil (s : Store) : s.live [] = s := rfl

@[simp] lemma live_cons (s : Store) (e : Happening) (rest : List Happening) :
    s.live (e :: rest) = (s.after e).live rest := rfl

/-! ### One happening -/

variable {s : Store}

/-- The snapshot changes only when an attempt is completed, and is then that of the
attempt. -/
lemma snapshot_after (hs : s.snapshot.IsCoherent) (e : Happening) :
    (s.after e).snapshot = ((s.attemptAt? e).map Attempt.snapshot).getD s.snapshot := by
  cases e with
  | ask q =>
      have hc := course hs q
      rw [after, attemptAt?]
      generalize s.answer q = r at hc ⊢
      cases hc with
      | kept c h => simp [h]
      | made c a h => simp [h, publish]
      | broken c f h _ => simp [h]
      | stuck c h _ => simp [h, lock]
      | waiting c h _ => simp [h]
  | clock c => rfl
  | source x => rfl
  | policy p => rfl

lemma isCoherent_after (hs : s.snapshot.IsCoherent) (e : Happening) :
    (s.after e).snapshot.IsCoherent := by
  rw [snapshot_after hs]
  cases s.attemptAt? e with
  | none => exact hs
  | some a => exact a.isCoherent_snapshot

/-- Nothing that happens replaces the parser, the sink or the interval. -/
lemma fixed_after (hs : s.snapshot.IsCoherent) (e : Happening) :
    (s.after e).parser = s.parser ∧ (s.after e).sink = s.sink ∧
      (s.after e).interval = s.interval := by
  cases e with
  | ask q =>
      obtain ⟨c, n, l, j, h⟩ := answer_frame hs q
      rw [after, h]
      exact ⟨rfl, rfl, rfl⟩
  | clock c => exact ⟨rfl, rfl, rfl⟩
  | source x => exact ⟨rfl, rfl, rfl⟩
  | policy p => exact ⟨rfl, rfl, rfl⟩

/-- What an attempt finds is what the parser makes of the bytes. -/
lemma fits_finding {f : Finding} (h : s.finding = .value f) : f.Fits s.parser := by
  rw [finding] at h
  split at h
  · cases h
  · cases h
    trivial
  · split at h
    · cases h
    · cases h
      assumption
    · rename_i raw _ d hp
      cases hv : s.verdict d with
      | value v =>
          rw [hv] at h
          cases h
          exact hp
      | fault e => simp [hv] at h
      | blocked => simp [hv] at h

lemma finding_of_attempt? {q : Query} {a : Attempt} (h : s.attempt? q = some a) :
    s.finding = .value a.finding := by
  rw [attempt?] at h
  split at h
  · split at h
    · cases h
      assumption
    · cases h
  · cases h

/-! ### Whole runs -/

/-- **The published snapshot is that of the last completed attempt.** -/
theorem snapshot_eq (hs : s.snapshot.IsCoherent) (es : List Happening) :
    (s.live es).snapshot =
      ((s.attempts es).getLast?.map Attempt.snapshot).getD s.snapshot := by
  -- by induction on what happens: what is published at first matters only without an attempt
  induction es generalizing s with
  | nil => rfl
  | cons e es ih =>
      rw [live_cons, ih (isCoherent_after hs e), snapshot_after hs, attempts, List.getLast?_append]
      cases (s.after e).attempts es |>.getLast? with
      | some a => rfl
      | none => cases s.attemptAt? e <;> rfl

lemma isCoherent_live (hs : s.snapshot.IsCoherent) (es : List Happening) :
    (s.live es).snapshot.IsCoherent := by
  rw [snapshot_eq hs]
  cases (s.attempts es).getLast? with
  | none => exact hs
  | some a => exact a.isCoherent_snapshot

lemma fixed_live (hs : s.snapshot.IsCoherent) (es : List Happening) :
    (s.live es).parser = s.parser ∧ (s.live es).sink = s.sink ∧
      (s.live es).interval = s.interval := by
  induction es generalizing s with
  | nil => exact ⟨rfl, rfl, rfl⟩
  | cons e es ih =>
      obtain ⟨hp, hk, hi⟩ := fixed_after hs e
      rw [live_cons, ← hp, ← hk, ← hi]
      exact ih (isCoherent_after hs e)

/-- Every attempt on the way found what the parser makes of the bytes. -/
lemma attempts_fit (hs : s.snapshot.IsCoherent) (es : List Happening) :
    ∀ a ∈ s.attempts es, a.finding.Fits s.parser := by
  induction es generalizing s with
  | nil => simp [attempts]
  | cons e es ih =>
      intro a ha
      rcases List.mem_append.mp ha with h | h
      · cases e with
        | ask q => exact fits_finding (finding_of_attempt? (Option.mem_toList.mp h))
        | clock c => simp [attemptAt?] at h
        | source x => simp [attemptAt?] at h
        | policy p => simp [attemptAt?] at h
      · rw [← (fixed_after hs e).1]
        exact ih (isCoherent_after hs e) a h

/-! ### Stores of log lists -/

section Build

variable {source : Option (Call (Outcome Bytes))} {policy : Option CompliancePolicy}
  {sink : Option MetricsSink} {clock : Clock} {interval : Int}

/-- A store that has just been built has its collaborators, and has published nothing. -/
lemma build_ok {parser : Bytes → Call (Outcome Document)}
    (h : Store.build source (some parser) policy sink clock interval = .ok s) :
    s.parser = parser ∧ some s.sink = sink ∧ s.snapshot = .initial ∧ s.locked = false ∧
      s.journal = [] := by
  cases source with
  | none => cases h
  | some source =>
      cases policy with
      | none => cases h
      | some policy =>
          cases sink with
          | none => cases h
          | some sink =>
              rw [Store.build] at h
              split_ifs at h
              cases h
              exact ⟨rfl, rfl, rfl, rfl, rfl⟩

lemma isCoherent_build {parser : Bytes → Call (Outcome Document)}
    (h : Store.build source (some parser) policy sink clock interval = .ok s) :
    s.snapshot.IsCoherent := by
  obtain ⟨-, -, hi, -, -⟩ := build_ok h
  exact hi ▸ Snapshot.isCoherent_initial

/-- **The snapshot after a run** is the outcome of the last completed attempt, and of nothing
older: its time is the reading on which that attempt was decided, its digest is that of the
bytes that were read, and only a document that the parser made stands in it, whatever the
policy says of it. -/
theorem snapshot_live {decoder : KeyDecoder}
    (h : Store.build source (some (LogList.parse decoder)) policy sink clock interval = .ok s)
    (es : List Happening) :
    (s.live es).snapshot =
      match (s.attempts es).getLast? with
      | none =>
        { state := .uninitialized, document := none, checkedAt := none, digest := none }
      | some ⟨now, .unread f⟩ =>
        { state := if f.code = .notFound then .notFound else .malformed
          document := none
          checkedAt := some now
          digest := none }
      | some ⟨now, .unparsed raw _⟩ =>
        { state := .malformed
          document := none
          checkedAt := some now
          digest := some (Sha256.digest raw) }
      | some ⟨now, .judged raw d (.ok verdict)⟩ =>
        { state := if verdict.affirms then .compliant else .nonCompliant
          document := some d
          checkedAt := some now
          digest := some (Sha256.digest raw) }
      | some ⟨now, .judged raw d (.error _)⟩ =>
        { state := .nonCompliant
          document := some d
          checkedAt := some now
          digest := some (Sha256.digest raw) } := by
  obtain ⟨hp, -, hi, -, -⟩ := build_ok h
  have hs := isCoherent_build h
  have hfit := attempts_fit hs es
  rw [snapshot_eq hs, hi]
  cases hl : (s.attempts es).getLast? with
  | none => rfl
  | some a =>
      obtain ⟨now, f⟩ := a
      have hf := hfit _ (List.mem_of_getLast? hl)
      cases f with
      | unread f => rfl
      | unparsed raw f =>
          -- the parser of log lists has only one category of failures
          have hc : f.code = .parse := LogList.parse_failure (hp ▸ hf)
          simp [Attempt.snapshot, stateAfter, hc]
      | judged raw d v => cases v <;> rfl

/-- The bytes of a log list without operators. -/
def bareList : Bytes :=
  Utf8.encode "\x7b\"version\":\"1\",\"log_list_timestamp\":5,\"operators\":[]\x7d"

/-- A list whose policy failed is loaded at 7 and stays when the clock is put back to 3; then
the content is replaced, and at 30 nothing of the list is left. -/
theorem snapshot_live_of_replaced :
    ∃ s, Store.build (some ⟨[], .ok (.success bareList)⟩)
        (some (LogList.parse fun _ => .ok none)) (some fun _ => .fail .unreadableKey)
        (some (.done ())) { pending := [5, 7] } 10 = .ok s ∧
      (s.live [.ask .state, .clock { pending := [3] }, .ask .logs]).snapshot =
        { state := .nonCompliant
          document := some { version := "1", timestamp := 5 }
          checkedAt := some 7
          digest := some (Sha256.digest bareList) } ∧
      (s.live [.ask .state, .clock { pending := [3] }, .ask .logs,
          .source ⟨[], .ok (.success [0x7b])⟩, .clock { pending := [40, 30] },
          .ask .timestamp]).snapshot =
        { state := .malformed
          checkedAt := some 30
          digest := some (Sha256.digest [0x7b]) } := by
  have h : Store.build (some ⟨[], .ok (.success bareList)⟩)
      (some (LogList.parse fun _ => .ok none)) (some fun _ => .fail .unreadableKey)
      (some (.done ())) { pending := [5, 7] } 10 = .ok _ := rfl
  refine ⟨_, h, ?_, ?_⟩
  · exact (snapshot_live h _).trans (by decide +kernel)
  · exact (snapshot_live h _).trans (by decide +kernel)

end Build

end Store

end KnownLogs
