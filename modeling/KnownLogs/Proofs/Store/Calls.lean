/-
Which calls a store makes of its collaborators:

* `Mark.isCall`: the marks that tell of a call;
* `World.TellsNoCall`: these marks are the store's own;
* `World.tellsNoCall_library`: the collaborators of the library leave none;
* `World.calls`: the calls of one attempt in a world;
* `Store.Completes`, `Store.Unbroken`: no attempt is broken off;
* `Store.calls_visits`: **the calls over visits are those of the completed attempts**;
* `Store.countP_visits`: how many there are of one kind.
-/
import KnownLogs.Files.Source
import KnownLogs.Proofs.LogList.Faults
import KnownLogs.Proofs.Store.Recorded
import KnownLogs.Proofs.Store.Visits
import KnownLogs.Settings.Loading

namespace KnownLogs

/-! ### Marks of calls -/

namespace Mark

/-- Whether a mark tells that the parser is called. -/
def isParsed : Mark → Bool
  | parsed _ => true
  | _ => false

/-- Whether a mark tells that the policy is called. -/
def isJudged : Mark → Bool
  | judged => true
  | _ => false

/-- Whether a mark tells that an attempt calls one of its collaborators. -/
def isCall (m : Mark) : Bool :=
  m.isRead || m.isParsed || m.isJudged

end Mark

namespace World

/-- Whether no collaborator leaves a mark that tells of a call: these marks are the store's
own. -/
structure TellsNoCall (w : World) : Prop where
  source : ∀ m ∈ w.source.marks, m.isCall = false
  parser : ∀ raw, ∀ m ∈ (w.parser raw).marks, m.isCall = false
  policy : ∀ v answer, ∀ m ∈ (w.policy v).marks answer, m.isCall = false
  sink : ∀ answer, ∀ m ∈ w.sink.marks answer, m.isCall = false

/-- The bytes that the source gives. -/
def bytes? (w : World) : Option Bytes :=
  match w.source.result with
  | .ok (.success raw) => some raw
  | _ => none

/-- The document that the parser makes of the bytes. -/
def document? (w : World) : Option Document :=
  w.bytes?.bind fun raw =>
    match (w.parser raw).result with
    | .ok (.success d) => some d
    | _ => none

/-- The calls of one attempt: the source once, the parser once if there are bytes, and the policy
once if there is a document. -/
def calls (w : World) : List Mark :=
  .read :: (w.bytes?.map .parsed).toList ++ (w.document?.map fun _ => .judged).toList

end World

/-! ### The collaborators of the library -/

/-- The marks of one computation after another are those of either. -/
lemma Call.forall_marks_bind {α β : Type} {p : Mark → Prop} {x : Call α} {g : α → Call β}
    (hx : ∀ m ∈ x.marks, p m) (hg : ∀ a, ∀ m ∈ (g a).marks, p m) : ∀ m ∈ (x >>= g).marks, p m := by
  intro m hm
  change m ∈ (x.bind g).marks at hm
  rw [Call.bind] at hm
  split at hm
  · rcases List.mem_append.mp hm with hm | hm
    · exact hx m hm
    · exact hg _ m hm
  · exact hx m hm

/-- The marks of a dialogue that starts with a question are those that follow an answer. -/
lemma Dialogue.forall_marks_pose {α : Type} {p : Mark → Prop} {q : storeQueries.Question}
    {g : storeQueries.Answer q → Dialogue storeQueries α}
    {answer : (q : storeQueries.Question) → Ending (storeQueries.Answer q)}
    (h : ∀ a, ∀ m ∈ (g a).marks answer, p m) : ∀ m ∈ (pose q >>= g).marks answer, p m := by
  intro m hm
  change m ∈ ((pose q).bind g).marks answer at hm
  rw [pose, Dialogue.bind, Dialogue.marks] at hm
  cases ha : answer q with
  | value a =>
      rw [ha] at hm
      exact h a m hm
  | fault f =>
      rw [ha] at hm
      cases hm
  | blocked =>
      rw [ha] at hm
      cases hm

namespace LogList

variable {decoder : KeyDecoder} {p : Mark → Prop}

section Marks

variable (hkey : ∀ key, p (.decoded key))
include hkey

lemma forall_marks_entry (operator : String) (l : Published.Log) :
    ∀ m ∈ (entry decoder operator l).marks, p m := by
  rw [entry]
  split_ifs
  · simp [Call.fail]
  · refine Call.forall_marks_bind (by simp [Call.note, hkey]) fun _ => ?_
    refine Call.forall_marks_bind (by simp [Call.ofExcept]) fun _ => ?_
    exact Call.forall_marks_bind (by simp [Call.ofExcept]) fun _ => by simp [Call.ofExcept]

lemma forall_marks_entries (operator : String) (ls : List Published.Log) :
    ∀ m ∈ (entries decoder operator ls).marks, p m := by
  induction ls with
  | nil => simp [entries, Call.done]
  | cons l ls ih =>
      refine Call.forall_marks_bind (forall_marks_entry hkey operator l) fun _ => ?_
      exact Call.forall_marks_bind ih fun _ => by simp [pure, Call.done]

lemma forall_marks_operators (os : List Published.Operator) :
    ∀ m ∈ (operators decoder os).marks, p m := by
  induction os with
  | nil => simp [operators, Call.done]
  | cons o os ih =>
      refine Call.forall_marks_bind (forall_marks_entries hkey o.name o.logs) fun _ => ?_
      exact Call.forall_marks_bind ih fun _ => by simp [pure, Call.done]

/-- Parsing leaves no marks but events and those of the keys that it decodes. -/
lemma forall_marks_parse (hevent : ∀ level name fields, p (.ofEvent level name fields))
    (raw : Bytes) : ∀ m ∈ (parse decoder raw).marks, p m := by
  have hannounce : ∀ d, ∀ m ∈ (announce d).marks, p m := by
    intro d m hm
    obtain ⟨r, -, rfl⟩ := List.mem_map.mp hm
    exact hevent _ _ _
  have hcompleted : ∀ d, p (completed d) := fun _ => hevent _ _ _
  rw [parse_marks, read]
  split
  · simp [Call.fail]
  · refine Call.forall_marks_bind ?_ fun d => ?_
    · exact Call.forall_marks_bind (forall_marks_operators hkey _) fun _ => hannounce _
    · exact Call.forall_marks_bind (by simp [Call.note, hcompleted]) fun _ => by
        simp [pure, Call.done]

end Marks

end LogList

/-- How a computation that puts no questions leaves its marks in a dialogue. -/
lemma Dialogue.marks_ofCall_bind {I : Interface} {α β : Type} (x : Call α) (g : α → β)
    (answer : (q : I.Question) → Ending (I.Answer q)) :
    ((ofCall x).bind fun a => done (g a)).marks answer = x.marks := by
  obtain ⟨ms, r⟩ := x
  induction ms with
  | nil => cases r <;> rfl
  | cons m ms ih => exact congrArg (m :: ·) ih

/-- Judging leaves no marks but events. -/
lemma Policy.forall_marks_judge {q : Mark → Prop}
    (hevent : ∀ level name fields, q (.ofEvent level name fields)) (p : Policy) (now : Int)
    (v : View) : ∀ m ∈ (p.judge now v).marks, q m := by
  have hlog : ∀ level name fields, ∀ m ∈ (Call.log level name fields).marks, q m := by
    intro level name fields m hm
    cases List.mem_singleton.mp hm
    exact hevent _ _ _
  rw [judge]
  split
  · simp [Call.done]
  · split_ifs
    · exact Call.forall_marks_bind (hlog _ _ _) fun _ => by simp [pure, Call.done]
    · simp [Call.done]
    · exact Call.forall_marks_bind (hlog _ _ _) fun _ => by simp [pure, Call.done]

lemma Files.isCall_report (path : Path) (found : Except Problem Bytes) :
    ∀ m ∈ (report path found).marks, m.isCall = false := by
  intro m hm
  cases found with
  | ok raw =>
      cases List.mem_singleton.mp hm
      rfl
  | error p =>
      cases List.mem_singleton.mp hm
      rfl

/-- **The collaborators of the library** leave no mark that tells of a call. -/
theorem World.tellsNoCall_library (path : Path) (found : Except Files.Problem Bytes)
    (decoder : KeyDecoder) (p : Policy) (now : Int) (clock : Clock) {sink : MetricsSink}
    (hsink : sink = Sink.silent ∨ sink = Sink.recording ∨ sink = Sink.reporting) :
    World.TellsNoCall
      { source := Files.report path found, parser := LogList.parse decoder, policy := p.at now,
        sink, clock } where
  source := Files.isCall_report path found
  parser := LogList.forall_marks_parse (fun _ => rfl) fun _ _ _ => rfl
  policy v answer := by
    show ∀ m ∈ (p.at now v).marks answer, m.isCall = false
    rw [Policy.at, Dialogue.marks_ofCall_bind]
    exact p.forall_marks_judge (fun _ _ _ => rfl) now v
  sink answer := by
    have hevent : ∀ level name fields, Mark.isCall (.ofEvent level name fields) = false :=
      fun _ _ _ => rfl
    rcases hsink with rfl | rfl | rfl
    · simp [Sink.silent, Dialogue.marks]
    · refine Dialogue.forall_marks_pose fun _ m hm => ?_
      cases List.mem_singleton.mp hm
      rfl
    · refine Dialogue.forall_marks_pose fun _ => Dialogue.forall_marks_pose fun _ => ?_
      exact Dialogue.forall_marks_pose fun _ => by simp [Dialogue.log, Dialogue.marks, hevent]

namespace Store

variable {s : Store}

/-- How often the parser has been called. -/
def parseCount (s : Store) : Nat :=
  s.journal.countP Mark.isParsed

/-- How often the policy has been asked. -/
def judgeCount (s : Store) : Nat :=
  s.journal.countP Mark.isJudged

/-- The calls of collaborators so far. -/
def calls (s : Store) : List Mark :=
  s.journal.filter Mark.isCall

/-! ### The calls of one question -/

lemma calls_aged (c : Clock) (ms : List Mark) (s : Store) :
    (s.aged c ms).calls = s.calls ++ ms.filter Mark.isCall := by
  simp [calls]

private lemma filter_isCall {ms : List Mark} (h : ∀ m ∈ ms, m.isCall = false) :
    ms.filter Mark.isCall = [] :=
  List.filter_eq_nil_iff.mpr fun m hm => by simp [h m hm]

/-- The calls of an attempt before it publishes anything are those of its world. -/
lemma calls_searchMarks (hw : s.world.TellsNoCall) :
    s.searchMarks.filter Mark.isCall = s.world.calls := by
  have hread : Mark.isCall .read = true := rfl
  have hparsed : ∀ raw, Mark.isCall (.parsed raw) = true := fun _ => rfl
  have hjudged : Mark.isCall .judged = true := rfl
  have hwarning : ∀ f, (failureWarning f).isCall = false := fun _ => rfl
  have hverdict : ∀ v, (verdictMarks v).filter Mark.isCall = [] := by
    intro v
    cases v with
    | value v => cases v <;> rfl
    | fault f => rfl
    | blocked => rfl
  have hsource := filter_isCall hw.source
  have hparser := fun raw => filter_isCall (hw.parser raw)
  have hpolicy : ∀ d,
      ((s.policy ⟨some d⟩).attempt.marks s.snapshot.reply).filter Mark.isCall = [] := by
    intro d
    rw [Dialogue.marks_attempt]
    exact filter_isCall (hw.policy _ _)
  simp only [world] at hsource hparser
  -- the search ends where the source or the parser gives nothing to go on with
  rw [searchMarks, World.calls, World.document?, World.bytes?]
  simp only [world]
  cases hr : s.source.result with
  | error f => simp [hread, hsource]
  | ok gave =>
      cases gave with
      | failure f => simp [hread, hsource, hwarning]
      | success raw =>
          cases hp : (s.parser raw).result with
          | error f => simp [hp, hread, hsource, hparsed, hparser]
          | ok found =>
              cases found with
              | failure f => simp [hp, hread, hsource, hparsed, hparser, hwarning]
              | success d =>
                  simp [hp, hread, hsource, hparsed, hparser, hjudged, hpolicy, hverdict]

/-- Nobody is called after the snapshot is published but the sink. -/
lemma calls_newsMarks (hw : s.world.TellsNoCall) (next : Snapshot) :
    (s.newsMarks next).filter Mark.isCall = [] := by
  have hsink : (s.sink.attempt.marks next.reply).filter Mark.isCall = [] := by
    rw [Dialogue.marks_attempt]
    exact filter_isCall (hw.sink _)
  have hfailed : ∀ e, (sinkMarks next.state e).filter Mark.isCall = [] := by
    intro e
    cases e with
    | value v => cases v <;> rfl
    | fault f => rfl
    | blocked => rfl
  have hchange : (changeEvent s.snapshot next).isCall = false := rfl
  rw [newsMarks]
  split_ifs
  · simp [hchange, hsink, hfailed]
  · rfl

/-- Whether a visit is not broken off: its question is answered, or its attempt is completed
though the sink ends the question in a fault. -/
def Completes (s : Store) (v : Visit) : Prop :=
  (∃ a, (s.visit v).1 = .value a) ∨ (s.reload? v).isSome

/-- A visit that is not broken off makes the calls of its attempt, if it makes one. -/
lemma calls_visit (hs : s.IsSound) {v : Visit} (hw : v.world.TellsNoCall) (hn : s.Completes v) :
    (s.visit v).2.calls = s.calls ++ (s.reload? v).toList.flatMap fun r => r.1.calls := by
  have hc := course (s := s.inWorld v.world) hs.isCoherent v.question
  rw [Completes] at hn
  simp only [visit, reload?] at hn ⊢
  generalize (s.inWorld v.world).answer v.question = r at hc hn ⊢
  have hw' : (s.inWorld v.world).world.TellsNoCall := hw
  have hcalls : (s.inWorld v.world).calls = s.calls := rfl
  cases hc with
  | kept c h => simp [h, calls_aged, hcalls]
  | made c a h =>
      have hp : ((s.inWorld v.world).publish a.snapshot).calls = s.calls := rfl
      simp [h, calls_aged, hp, calls_searchMarks hw', calls_newsMarks hw']
  | broken c f h _ => simp [h] at hn
  | stuck c h _ => simp [h] at hn
  | waiting c h _ => simp [h] at hn

/-! ### The calls of visits -/

/-- Whether no attempt on the way is broken off. -/
def Unbroken (s : Store) : List Visit → Prop
  | [] => True
  | v :: rest => s.Completes v ∧ (s.visit v).2.Unbroken rest

/-- **The calls over visits** are those of the completed attempts. -/
theorem calls_visits (hs : s.IsSound) {vs : List Visit} (hw : ∀ v ∈ vs, v.world.TellsNoCall)
    (hn : s.Unbroken vs) :
    (s.visits vs).calls = s.calls ++ (s.reloads vs).flatMap fun r => r.1.calls := by
  induction vs generalizing s with
  | nil => simp [reloads]
  | cons v vs ih =>
      obtain ⟨hv, hrest⟩ := List.forall_mem_cons.mp hw
      rw [visits_cons, ih (hs.visit v) hrest hn.2, calls_visit hs hv hn.1, reloads,
        List.flatMap_append, List.append_assoc]

/-- Marks of one kind of call are counted among the calls. -/
lemma countP_calls (s : Store) {p : Mark → Bool} (hp : ∀ m, p m = true → m.isCall = true) :
    s.calls.countP p = s.journal.countP p := by
  rw [calls, List.countP_filter]
  refine List.countP_congr fun m _ => ?_
  simpa using hp m

/-- Counting the calls of attempts, each of which makes at most one of the kind. -/
lemma countP_flatMap_calls {p : Mark → Bool} {f : World → Bool}
    (h : ∀ w : World, w.calls.countP p = if f w then 1 else 0) (rs : List (World × Attempt)) :
    (rs.flatMap fun r => r.1.calls).countP p = rs.countP fun r => f r.1 := by
  induction rs with
  | nil => rfl
  | cons r rs ih =>
      rw [List.flatMap_cons, List.countP_append, h, ih, List.countP_cons]
      omega

/-- Of a kind of call that an attempt makes at most once, there are as many as there are
attempts that make one. -/
lemma countP_visits (hs : s.IsSound) {vs : List Visit} (hw : ∀ v ∈ vs, v.world.TellsNoCall)
    (hn : s.Unbroken vs) {p : Mark → Bool} {f : World → Bool}
    (hp : ∀ m, p m = true → m.isCall = true)
    (hone : ∀ w : World, w.calls.countP p = if f w then 1 else 0) :
    (s.visits vs).journal.countP p = s.journal.countP p + (s.reloads vs).countP fun r => f r.1 := by
  rw [← countP_calls _ hp, ← countP_calls _ hp, calls_visits hs hw hn, List.countP_append,
    countP_flatMap_calls hone]

lemma countP_isRead_calls (w : World) : w.calls.countP Mark.isRead = 1 := by
  cases hb : w.bytes? <;> cases hd : w.document? <;>
    simp [World.calls, hb, hd, Mark.isRead, List.countP_cons]

lemma countP_isParsed_calls (w : World) :
    w.calls.countP Mark.isParsed = if w.bytes?.isSome then 1 else 0 := by
  cases hb : w.bytes? <;> cases hd : w.document? <;>
    simp [World.calls, hb, hd, Mark.isParsed, List.countP_cons]

lemma countP_isJudged_calls (w : World) :
    w.calls.countP Mark.isJudged = if w.document?.isSome then 1 else 0 := by
  cases hb : w.bytes? <;> cases hd : w.document? <;>
    simp [World.calls, hb, hd, Mark.isJudged, List.countP_cons]

/-- The source is read once for every completed attempt. -/
lemma readCount_visits (hs : s.IsSound) {vs : List Visit} (hw : ∀ v ∈ vs, v.world.TellsNoCall)
    (hn : s.Unbroken vs) : (s.visits vs).readCount = s.readCount + (s.reloads vs).length := by
  have h := countP_visits (f := fun _ => true) hs hw hn (p := Mark.isRead)
    (fun m hm => by simp [Mark.isCall, hm]) countP_isRead_calls
  rwa [List.countP_true, List.countP_eq_length_filter, List.countP_eq_length_filter] at h

end Store

end KnownLogs
