/-
Faults of collaborators:

* `Collaborator`, `Collaborator.letsOut`: who can raise a fault in an attempt, and which faults get
  out of it;
* `Store.Raises`: the faults that are raised in an attempt;
* `Store.finding_of_raises`, `Store.exists_finding_of_raises`: what an attempt finds when a fault is
  raised;
* `Store.Concludes`: a question whose attempt is completed, however the sink ends;
* `Store.Aborts`: a question whose attempt a fault ends before anything is published;
* `Store.faults_contained`: **a fault is caught or ends the attempt**, which then leaves the store
  as if there had been none.
-/
import KnownLogs.Files.Source
import KnownLogs.Proofs.LogList.Acceptance
import KnownLogs.Proofs.LogList.Faults
import KnownLogs.Proofs.Store.Alike
import KnownLogs.Proofs.Store.Reentry
import KnownLogs.Proofs.Store.Staleness

namespace KnownLogs

/-! ### Who raises faults -/

/-- Who can raise a fault in an attempt: the collaborators of a store, the read of the file that a
source is about, and the decoder of a parser. -/
inductive Collaborator where
  | source
  | file
  | parser
  | decoder
  | policy
  | sink
deriving DecidableEq

namespace Collaborator

/-- Whether the ordinary faults of a collaborator are caught. -/
def isGuarded : Collaborator → Bool
  | source | parser => false
  | file | decoder | policy | sink => true

/-- Whether a fault of a collaborator gets out of an attempt. -/
def letsOut (c : Collaborator) (f : Fault) : Bool :=
  !(c.isGuarded && f.isOrdinary)

lemma letsOut_of_guarded {c : Collaborator} (hc : c.isGuarded = true) (f : Fault) :
    c.letsOut f = !f.isOrdinary := by
  simp [letsOut, hc]

end Collaborator

namespace Dialogue

variable {I : Interface} {α : Type} {answer : (q : I.Question) → Ending (I.Answer q)}

/-- How a dialogue ends whose ordinary faults are turned into results. -/
lemma ending_attempt (x : Dialogue I α) :
    x.attempt.ending answer =
      match x.ending answer with
      | .value a => .value (.ok a)
      | .fault f => if f.isOrdinary then .value (.error f) else .fault f
      | .blocked => .blocked := by
  induction x with
  | done a => rfl
  | fail f => cases hf : f.isOrdinary <;> simp [attempt, ending, hf]
  | note m rest ih => exact ih
  | ask q rest ih =>
      rw [attempt, ending, ending]
      cases answer q with
      | value a => exact ih (.ok a)
      | fault f => exact ih (.error f)
      | blocked => rfl

/-- The faults that are not ordinary are not turned into results. -/
lemma ending_attempt_eq_fault {x : Dialogue I α} {f : Fault} :
    x.attempt.ending answer = .fault f ↔ x.ending answer = .fault f ∧ f.isOrdinary = false := by
  rw [ending_attempt]
  cases x.ending answer with
  | value a => simp
  | fault e =>
      dsimp only
      split_ifs with he
      · simp only [Ending.fault.injEq, false_iff]
        rintro ⟨rfl, h⟩
        simp [he] at h
      · simp only [Ending.fault.injEq]
        exact ⟨fun h => ⟨h, h ▸ by simpa using he⟩, And.left⟩
  | blocked => simp

/-- An ordinary fault is turned into a result. -/
lemma ending_attempt_of_ordinary {x : Dialogue I α} {f : Fault} (hx : x.ending answer = .fault f)
    (hf : f.isOrdinary = true) : x.attempt.ending answer = .value (.error f) := by
  simp [ending_attempt, hx, hf]

end Dialogue

lemma Ending.map_eq_fault {α β : Type} {g : α → β} {x : Ending α} {f : Fault} :
    x.map g = .fault f ↔ x = .fault f := by
  cases x <;> simp

namespace Files

/-- A file that cannot be read is a failure, and no fault. -/
lemma report_error (path : Path) (p : Problem) :
    (report path (.error p)).result =
      .ok (.failure
        { code := .notFound
          message := "Log list not readable at " ++ path.text
          fault := some (.files p) }) := rfl

lemma report_ok (path : Path) (raw : Bytes) :
    (report path (.ok raw)).result = .ok (.success raw) := rfl

/-- A source that reads a file raises nothing. -/
lemma report_ne_error (path : Path) (found : Except Problem Bytes) (f : Fault) :
    (report path found).result ≠ .error f := by
  cases found with
  | ok raw =>
      rw [report_ok]
      simp
  | error p =>
      rw [report_error]
      simp

end Files

namespace Store

variable {s : Store} {q : Query} {now : Int} {c : Collaborator} {f : Fault}

/-- The faults that are raised in an attempt that is decided at a time: by the collaborators as
they are called in it, by the read of the file of the source, and by the decoder of the parser on
a key that it is given. -/
inductive Raises (s : Store) (now : Int) : Collaborator → Fault → Prop
  | source {f : Fault} : s.source.result = .error f → Raises s now .source f
  | file {path : Path} {p : Files.Problem} :
      s.source = Files.report path (.error p) → Raises s now .file (.files p)
  | parser {raw : Bytes} {f : Fault} :
      s.source.result = .ok (.success raw) → (s.parser raw).result = .error f →
        Raises s now .parser f
  | decoder {decoder : KeyDecoder} {raw key : Bytes} {f : Fault} :
      s.source.result = .ok (.success raw) → s.parser = LogList.parse decoder →
        .decoded key ∈ (s.parser raw).marks → decoder key = .error f → Raises s now .decoder f
  | policy {v : View} {t : Store} {f : Fault} :
      s.behindLock.asked? = some (v, t) → (t.runDuring (t.policy v)).1 = .fault f →
        Raises s now .policy f
  | sink {t : Store} {f : Fault} :
      s.behindLock.told? now = some t → (t.runDuring t.sink).1 = .fault f → Raises s now .sink f

/-! ### The policy and the sink -/

/-- How a dialogue of a collaborator ends while an attempt is going on. -/
lemma runDuring_fst {α : Type} (hs : s.snapshot.IsCoherent) (x : Dialogue storeQueries α) :
    (s.runDuring x).1 = x.ending s.snapshot.reply := by
  obtain ⟨c, h⟩ := runDuring_eq hs x
  rw [h]

/-- The policy is asked about every document, with the snapshot before still published. -/
lemma asked?_of_document {raw : Bytes} {d : Document}
    (hr : s.source.result = .ok (.success raw)) (hp : (s.parser raw).result = .ok (.success d)) :
    s.asked? = some (⟨some d⟩, s.aged s.clock
      (.read :: s.source.marks ++ .parsed raw :: (s.parser raw).marks ++ [.judged])) := by
  rw [asked?, read_of_success hr, hp]
  simp [Ending.ofExcept, keep_eq]

/-- The policy raises what its dialogue ends with. -/
lemma raises_policy (hs : s.snapshot.IsCoherent) :
    s.Raises now .policy f ↔
      ∃ raw d, s.source.result = .ok (.success raw) ∧ (s.parser raw).result = .ok (.success d) ∧
        (s.policy ⟨some d⟩).ending s.snapshot.reply = .fault f := by
  constructor
  · intro h
    cases h with
    | policy hasked hrun =>
        obtain ⟨raw, d, ms, hr, hp, rfl, rfl⟩ := asked?_eq_some hasked
        rw [runDuring_fst (by exact hs)] at hrun
        exact ⟨raw, d, hr, hp, hrun⟩
  · rintro ⟨raw, d, hr, hp, hrun⟩
    refine .policy (asked?_of_document (s := s.behindLock) hr hp) ?_
    rw [runDuring_fst (by exact hs)]
    exact hrun

/-- The sink is told of every change. -/
lemma told?_of_value (hs : s.snapshot.IsCoherent) {g : Finding} (hf : s.finding = .value g)
    (hc : isChange s.snapshot (Attempt.mk now g).snapshot = true) :
    ∃ c ms, s.told? now = some ((s.publish (Attempt.mk now g).snapshot).aged c ms) := by
  obtain ⟨c, he⟩ := examine_eq hs now
  rw [told?, he, hf]
  refine ⟨c, s.searchMarks ++ [changeEvent s.snapshot (Attempt.mk now g).snapshot], ?_⟩
  rw [Ending.map_value]
  simp [hc, keep_eq]

/-- The sink raises what its dialogue about the new snapshot ends with. -/
lemma raises_sink (hs : s.snapshot.IsCoherent) {g : Finding} (hf : s.finding = .value g) :
    s.Raises now .sink f ↔
      isChange s.snapshot (Attempt.mk now g).snapshot = true ∧
        s.sink.ending (Attempt.mk now g).snapshot.reply = .fault f := by
  constructor
  · intro h
    cases h with
    | sink htold hrun =>
        obtain ⟨g', c, hf', hc, rfl⟩ := told?_eq_some (s := s.behindLock) hs htold
        cases hf.symm.trans hf'
        rw [runDuring_fst (Attempt.mk now g).isCoherent_snapshot] at hrun
        exact ⟨hc, hrun⟩
  · rintro ⟨hc, hrun⟩
    obtain ⟨c, ms, htold⟩ := told?_of_value (s := s.behindLock) hs hf hc
    refine .sink htold ?_
    rw [runDuring_fst (Attempt.mk now g).isCoherent_snapshot]
    exact hrun

/-- Telling of the snapshot of an attempt ends in the faults of the sink that are not ordinary. -/
lemma news_eq_fault (hs : s.snapshot.IsCoherent) {g : Finding} (hf : s.finding = .value g) :
    s.news (Attempt.mk now g).snapshot = .fault f ↔
      s.Raises now .sink f ∧ f.isOrdinary = false := by
  rw [raises_sink hs hf, news]
  split_ifs with hc
  · rw [Ending.map_eq_fault, Dialogue.ending_attempt_eq_fault]
    simp [hc]
  · simp [hc]

/-! ### What an attempt finds -/

lemma finding_of_read_fault {e : Fault} (hr : s.source.result = .error e) :
    s.finding = .fault e := by
  simp [finding, hr]

lemma finding_of_parse_fault {raw : Bytes} {e : Fault}
    (hr : s.source.result = .ok (.success raw)) (hp : (s.parser raw).result = .error e) :
    s.finding = .fault e := by
  simp [finding, hr, hp]

lemma finding_of_parse_failure {raw : Bytes} {e : Failure}
    (hr : s.source.result = .ok (.success raw)) (hp : (s.parser raw).result = .ok (.failure e)) :
    s.finding = .value (.unparsed raw e) := by
  simp [finding, hr, hp]

/-- **A fault that gets out before anything is published** ends the search of the attempt. -/
lemma finding_of_raises (hs : s.snapshot.IsCoherent) (h : s.Raises now c f)
    (hout : c.letsOut f = true) (hc : c ≠ .sink) : s.finding = .fault f := by
  have hpolicy : s.Raises now .policy f ↔ _ := raises_policy hs
  cases h with
  | source hr => exact finding_of_read_fault hr
  | file _ => simp [Collaborator.letsOut, Collaborator.isGuarded, Fault.isOrdinary] at hout
  | parser hr hp => exact finding_of_parse_fault hr hp
  | decoder hr hparser hk hd =>
      rw [Collaborator.letsOut_of_guarded rfl, Bool.not_eq_true'] at hout
      rw [hparser] at hk
      refine finding_of_parse_fault hr ?_
      rw [hparser]
      exact LogList.parse_eq_error.mpr ⟨hout, _, hk, hd⟩
  | policy hasked hrun =>
      rw [Collaborator.letsOut_of_guarded rfl, Bool.not_eq_true'] at hout
      obtain ⟨raw, d, hr, hp, hending⟩ := hpolicy.mp (.policy hasked hrun)
      rw [finding_of_document hr hp, verdict, Ending.map_eq_fault,
        Dialogue.ending_attempt_eq_fault]
      exact ⟨hending, hout⟩
  | sink _ _ => exact absurd rfl hc

/-- What ends the search of an attempt is a fault that gets out. -/
lemma exists_raises_of_finding (hs : s.snapshot.IsCoherent) (h : s.finding = .fault f) (now : Int) :
    ∃ c, s.Raises now c f ∧ c.letsOut f = true := by
  cases hr : s.source.result with
  | error e =>
      cases h.symm.trans (finding_of_read_fault hr)
      exact ⟨.source, .source hr, rfl⟩
  | ok gave =>
      cases gave with
      | failure e => simp [finding, hr] at h
      | success raw =>
          cases hp : (s.parser raw).result with
          | error e =>
              cases h.symm.trans (finding_of_parse_fault hr hp)
              exact ⟨.parser, .parser hr hp, rfl⟩
          | ok found =>
              cases found with
              | failure e => simp [finding, hr, hp] at h
              | success d =>
                  rw [finding_of_document hr hp, verdict, Ending.map_eq_fault,
                    Dialogue.ending_attempt_eq_fault] at h
                  refine ⟨.policy, (raises_policy hs).mpr ⟨raw, d, hr, hp, h.1⟩, ?_⟩
                  simp [Collaborator.letsOut, h.2]

/-- **A fault that is caught, and any fault of the sink**, leaves the attempt something to
publish. -/
lemma exists_finding_of_raises (hs : s.snapshot.IsCoherent) (h : s.Raises now c f)
    (hc : c.letsOut f = false ∨ c = .sink) : ∃ g, s.finding = .value g := by
  have hpolicy : s.Raises now .policy f ↔ _ := raises_policy hs
  have hordinary : c.isGuarded = true → c ≠ .sink → f.isOrdinary = true := fun hg hne => by
    simpa [Collaborator.letsOut_of_guarded hg] using hc.resolve_right hne
  cases h with
  | source _ => simp [Collaborator.letsOut, Collaborator.isGuarded] at hc
  | file hr =>
      have hresult := congrArg Call.result hr
      rw [Files.report_error] at hresult
      exact ⟨_, by rw [finding, hresult]⟩
  | parser _ _ => simp [Collaborator.letsOut, Collaborator.isGuarded] at hc
  | decoder hr hparser hk hd =>
      rw [hparser] at hk
      have hp := LogList.parse_of_decoder_fault hk hd (hordinary rfl (by simp))
      exact ⟨_, finding_of_parse_failure hr (by rw [hparser]; exact hp)⟩
  | policy hasked hrun =>
      obtain ⟨raw, d, hr, hp, hending⟩ := hpolicy.mp (.policy hasked hrun)
      rw [finding_of_document hr hp, verdict,
        Dialogue.ending_attempt_of_ordinary hending (hordinary rfl (by simp))]
      exact ⟨_, rfl⟩
  | sink htold _ =>
      obtain ⟨g, _, hf, -, -⟩ := told?_eq_some (s := s.behindLock) hs htold
      exact ⟨g, hf⟩

/-- A parser of log lists raises only what its decoder does, and nothing ordinary. -/
lemma raises_decoder_of_parse {decoder : KeyDecoder} (hparser : s.parser = LogList.parse decoder)
    (h : s.Raises now .parser f) : s.Raises now .decoder f ∧ f.isOrdinary = false := by
  cases h with
  | parser hr hp =>
      have hp' := hp
      rw [hparser] at hp'
      obtain ⟨ho, key, hk, hd⟩ := LogList.parse_eq_error.mp hp'
      exact ⟨.decoder hr hparser (by rwa [hparser]) hd, ho⟩

/-! ### Completed attempts -/

/-- A question whose attempt is completed: its snapshot is published and the lock given back,
whatever the sink raises; the question is answered from this snapshot unless the sink raises a
fault that is not ordinary, which then ends the question. -/
structure Concludes (s : Store) (q : Query) (a : Attempt) : Prop where
  attempt : s.attempt? q = some a
  snapshot : (s.answer q).2.snapshot = a.snapshot
  unlocked : (s.answer q).2.locked = false
  answered : (∀ f, s.Raises a.now .sink f → f.isOrdinary = true) →
    (s.answer q).1 = .value (q.answer a.snapshot)
  faulted : ∀ f, s.Raises a.now .sink f → f.isOrdinary = false → (s.answer q).1 = .fault f

/-- An attempt that finds something is completed. -/
lemma concludes_of_finding (hs : s.snapshot.IsCoherent) (hb : s.beginsAt? q = some now)
    {g : Finding} (hf : s.finding = .value g) : s.Concludes q ⟨now, g⟩ := by
  obtain ⟨-, hl, -⟩ := beginsAt?_eq_some.mp hb
  obtain ⟨c, he⟩ := answer_of_value hs hb hf
  have hnews : ∀ f, s.news (Attempt.mk now g).snapshot = .fault f ↔ _ := fun f =>
    news_eq_fault hs hf
  refine ⟨attempt?_eq_some.mpr ⟨hb, hf⟩, by rw [he]; rfl, by rw [he]; exact hl, fun h => ?_,
    fun f h ho => ?_⟩
  · rw [he]
    cases hn : s.news (Attempt.mk now g).snapshot with
    | value u => rfl
    | fault e =>
        obtain ⟨hraised, ho⟩ := (hnews e).mp hn
        simp [h e hraised] at ho
    | blocked => exact absurd hn (s.news_ne_blocked _)
  · rw [he, (hnews f).mpr ⟨h, ho⟩]
    rfl

/-- The sink raises one fault at most. -/
lemma raises_sink_unique (hs : s.snapshot.IsCoherent) {g : Finding} (hf : s.finding = .value g)
    {e : Fault} (h : s.Raises now .sink f) (h' : s.Raises now .sink e) : f = e := by
  obtain ⟨-, hrun⟩ := (raises_sink hs hf).mp h
  obtain ⟨-, hrun'⟩ := (raises_sink hs hf).mp h'
  exact Ending.fault.inj (hrun.symm.trans hrun')

/-! ### Aborted attempts -/

/-- A question whose attempt a fault ends before anything is published: the fault reaches the
reader; the snapshot, the lock and the states that the sink has kept are as before, and the sink
is not asked for anything; an attempt is begun and made afresh whenever one is due by the snapshot
from before; and the store goes on as if it had not been asked. -/
structure Aborts (s : Store) (q : Query) (f : Fault) : Prop where
  ending : (s.answer q).1 = .fault f
  snapshot : (s.answer q).2.snapshot = s.snapshot
  unlocked : (s.answer q).2.locked = false
  recorded : s.KeepsNoState → (s.answer q).2.recorded = s.recorded
  untold : ∀ sink, ((s.inWorld { s.world with sink }).answer q).2.journal = (s.answer q).2.journal
  afresh : ∀ w r now, r.isGated = true → (s.inWorld w).decides = some now →
    ((s.answer q).2.inWorld w).beginsAt? r = some now ∧
      (s.answer q).2.readCount < (((s.answer q).2.inWorld w).answer r).2.readCount
  later : (s.answer q).2.GoesOnAs s

/-- An attempt whose search a fault ends is aborted. -/
lemma aborts_of_finding (hs : s.IsSound) (hb : s.beginsAt? q = some now)
    (hf : s.finding = .fault f) : s.Aborts q f := by
  obtain ⟨-, hl, -⟩ := beginsAt?_eq_some.mp hb
  obtain ⟨c, he⟩ := answer_of_fault hs.isCoherent hb hf
  refine ⟨by rw [he], by rw [he]; rfl, by rw [he]; exact hl, fun hk => ?_, fun sink => ?_,
    fun w r n hr hd => ?_, ?_⟩
  · rw [he, recorded_aged, states_searchMarks hk, List.append_nil]
  · obtain ⟨c', he'⟩ :=
      answer_of_fault (s := s.inWorld { s.world with sink }) hs.isCoherent hb hf
    rw [he, he']
    rfl
  · have hbegun : ((s.answer q).2.inWorld w).beginsAt? r = some n := by
      rw [he]
      exact beginsAt?_eq_some.mpr ⟨hr, hl, hd⟩
    exact ⟨hbegun, readCount_lt_of_begun (s := (s.answer q).2.inWorld w)
      (hs.answer q).isCoherent hbegun⟩
  · rw [he]
    exact Alike.goesOnAs ⟨rfl, rfl, rfl⟩

/-! ### Containment -/

/-- A fault leaves a question only out of an attempt. -/
lemma exists_begun_of_fault (hs : s.snapshot.IsCoherent) (h : (s.answer q).1 = .fault f) :
    ∃ now, s.beginsAt? q = some now := by
  cases hb : s.beginsAt? q with
  | some now => exact ⟨now, rfl⟩
  | none =>
      -- the answer is then the one of a snapshot, or does not come
      obtain ⟨c, he⟩ := answer_of_not_begun hs hb
      rw [he] at h
      dsimp only at h
      split_ifs at h
      rw [Snapshot.reply] at h
      split_ifs at h

/-- **A fault of a collaborator is caught or ends the attempt.** Only a fault that gets out reaches
the reader. One that is caught leaves the attempt completed; one that gets out before anything is
published aborts it; one of the sink that gets out comes when the snapshot has been published. A
parser of log lists raises only what its decoder does, and nothing ordinary, and a source that
reads a file raises nothing. -/
theorem faults_contained (hr : s.Reachable) (q : Query) :
    (∀ f, (s.answer q).1 = .fault f →
      ∃ now c, s.beginsAt? q = some now ∧ s.Raises now c f ∧ c.letsOut f = true) ∧
    (∀ now c f, s.beginsAt? q = some now → s.Raises now c f →
      (c.letsOut f = false → ∃ a, a.now = now ∧ s.Concludes q a ∧
        (c = .sink → (s.answer q).1 = .value (q.answer a.snapshot))) ∧
      (c.letsOut f = true → c ≠ .sink → s.Aborts q f) ∧
      (c.letsOut f = true → c = .sink → ∃ a, a.now = now ∧ s.Concludes q a ∧
        (s.answer q).1 = .fault f)) ∧
    (∀ decoder, s.parser = LogList.parse decoder → ∀ now f, s.Raises now .parser f →
      s.Raises now .decoder f ∧ f.isOrdinary = false) ∧
    (∀ path found, s.source = Files.report path found → ∀ now f, ¬ s.Raises now .source f) := by
  have hs := hr.isSound
  refine ⟨fun f h => ?_, fun now c f hb h => ⟨fun hout => ?_, fun hout hc => ?_, ?_⟩,
    fun decoder hparser now f h => raises_decoder_of_parse hparser h, fun path found hsource => ?_⟩
  · -- a fault gets out of attempts only: from the sink, or from the search
    obtain ⟨now, hb⟩ := exists_begun_of_fault hs.isCoherent h
    cases hf : s.finding with
    | value g =>
        obtain ⟨c, he⟩ := answer_of_value hs.isCoherent hb hf
        rw [he, Ending.map_eq_fault, news_eq_fault hs.isCoherent hf] at h
        exact ⟨now, .sink, hb, h.1, by simp [Collaborator.letsOut, h.2]⟩
    | fault e =>
        cases h.symm.trans (aborts_of_finding hs hb hf).ending
        obtain ⟨c, hraised, hout⟩ := exists_raises_of_finding hs.isCoherent hf now
        exact ⟨now, c, hb, hraised, hout⟩
    | blocked =>
        obtain ⟨c, he⟩ := answer_of_blocked hs.isCoherent hb hf
        rw [he] at h
        cases h
  · -- a fault that is contained leaves a finding
    obtain ⟨g, hf⟩ := exists_finding_of_raises hs.isCoherent h (.inl hout)
    have hdone := concludes_of_finding hs.isCoherent hb hf
    refine ⟨_, rfl, hdone, ?_⟩
    rintro rfl
    refine hdone.answered fun e he => ?_
    rw [← raises_sink_unique hs.isCoherent hf h he]
    simpa [Collaborator.letsOut, Collaborator.isGuarded] using hout
  · exact aborts_of_finding hs hb (finding_of_raises hs.isCoherent h hout hc)
  · -- a fault of the sink comes when the snapshot is published
    rintro hout rfl
    obtain ⟨g, hf⟩ := exists_finding_of_raises hs.isCoherent h (.inr rfl)
    have hdone := concludes_of_finding hs.isCoherent hb hf
    refine ⟨_, rfl, hdone, hdone.faulted f h ?_⟩
    simpa [Collaborator.letsOut, Collaborator.isGuarded] using hout
  · intro now f h
    cases h with
    | source hread =>
        rw [hsource] at hread
        exact Files.report_ne_error path found f hread

/-- A world whose source gives a log list, whose decoder is interrupted, and whose clock makes an
attempt due whenever it is read. -/
def interruptedWorld : World where
  source := .done (.success (LogList.looseList "null"))
  parser := LogList.parse fun _ => .error (.interrupt [])
  policy := fun _ => .done (.bool true)
  sink := Sink.silent
  clock := { now := 20, step := 20 }

/-- A world whose policy raises an ordinary fault and whose sink asks to exit. -/
def exitingWorld : World where
  source := .done (.success [1])
  parser := fun _ => .done (.success { version := "1", timestamp := 5 })
  policy := fun _ => .fail (.foreign "ValueError" [])
  sink := .fail (.exit [])
  clock := { pending := [5, 7] }

/-- The decoder is interrupted in a later attempt, which leaves nothing behind; in a first attempt
the fault of the policy is caught, and the request to exit comes when the snapshot is published. -/
theorem faults_contained_of_interruptedWorld :
    (∃ s : Store, s.Reachable ∧ s.beginsAt? .state = some 40 ∧
      s.Raises 40 .decoder (.interrupt []) ∧ s.Aborts .state (.interrupt []) ∧
      s.snapshot.checkedAt = some 7) ∧
    ∃ s : Store, s.Reachable ∧ s.beginsAt? .state = some 7 ∧
      s.Raises 7 .policy (.foreign "ValueError" []) ∧ s.Raises 7 .sink (.exit []) ∧
      (s.answer .state).1 = .fault (.exit []) ∧ (s.answer .state).2.locked = false ∧
      ∃ a : Attempt, a.now = 7 ∧ (s.answer .state).2.snapshot = a.snapshot ∧
        a.snapshot.state = .nonCompliant := by
  constructor
  · have hr : (((newIn quietWorld).answer .state).2.inWorld interruptedWorld).Reachable :=
      .moved _ (.asked .state (.newIn _))
    have hb : (((newIn quietWorld).answer .state).2.inWorld interruptedWorld).beginsAt? .state =
        some 40 := by
      decide +kernel
    have hkeys : (interruptedWorld.parser (LogList.looseList "null")).marks.filterMap Mark.key? =
        [[1]] := by
      decide +kernel
    have hchecked : ((newIn quietWorld).answer .state).2.snapshot.checkedAt = some 7 := by
      decide +kernel
    obtain ⟨m, hm, hkey⟩ := List.mem_filterMap.mp (hkeys ▸ List.mem_singleton_self [1])
    have hgiven : m = .decoded [1] := by
      cases m with
      | decoded key => exact congrArg _ (Option.some.inj hkey)
      | _ => cases hkey
    have hraised : (((newIn quietWorld).answer .state).2.inWorld interruptedWorld).Raises 40
        .decoder (.interrupt []) :=
      .decoder rfl rfl (hgiven ▸ hm) rfl
    have haborts := ((faults_contained hr .state).2.1 40 _ _ hb hraised).2.1 rfl (by decide)
    exact ⟨_, hr, hb, hraised, haborts, hchecked⟩
  · have hb : (newIn exitingWorld).beginsAt? .state = some 7 := rfl
    have hpolicy : (newIn exitingWorld).Raises 7 .policy (.foreign "ValueError" []) :=
      (raises_policy Snapshot.isCoherent_initial).mpr ⟨_, _, rfl, rfl, rfl⟩
    have hsink : (newIn exitingWorld).Raises 7 .sink (.exit []) :=
      (raises_sink Snapshot.isCoherent_initial rfl).mpr ⟨rfl, rfl⟩
    obtain ⟨-, hcontained, -⟩ := faults_contained (.newIn exitingWorld) .state
    obtain ⟨a, ha, hdone, -⟩ := (hcontained 7 _ _ hb hpolicy).1 rfl
    obtain ⟨-, -, -, hfault⟩ := (hcontained 7 _ _ hb hsink).2.2 rfl rfl
    have hfound : a.finding = .judged [1] { version := "1", timestamp := 5 }
        (.error (.foreign "ValueError" [])) :=
      (Ending.value.inj (attempt?_eq_some.mp hdone.attempt).2).symm
    have hstate : a.snapshot.state = .nonCompliant := by
      rw [Attempt.snapshot, hfound]
      rfl
    exact ⟨_, .newIn _, hb, hpolicy, hsink, hfault, hdone.unlocked, a, ha, hdone.snapshot, hstate⟩

end Store

end KnownLogs
