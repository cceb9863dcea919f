/-
Questions that a collaborator puts while an attempt is going on:

* `Exchange`, `Dialogue.exchanges`: the questions of a dialogue, each of which passes the gate,
  with the store before and after it;
* `Exchange.IsFrom`: a question that is answered from a snapshot, without any work;
* `Store.converse_of_locked`: while the lock is held, passing the gate is being answered as in an
  attempt;
* `Store.exchanges_of_locked`: **then every question is answered from the published snapshot**;
* `Store.asked?`, `Store.told?`: the store as the policy is asked and as the sink is told in an
  attempt;
* `Snapshot.report`: the event that describes a snapshot;
* `Store.exchanges_whole`: **in every attempt** the policy is answered from the snapshot before
  and the sink from the one after, and the list that was judged is the one that is served.
-/
import KnownLogs.Proofs.Store.Recorded
import KnownLogs.Proofs.Store.Visits

namespace KnownLogs

/-! ### Exchanges -/

/-- A question that is put to a store: the store then, the question, what came of it, and the
store after it. -/
structure Exchange where
  before : Store
  question : Query
  ending : Ending question.Answer
  after : Store

/-- The questions that a dialogue puts to a store, each of which passes the gate. -/
def Dialogue.exchanges {α : Type} : Dialogue storeQueries α → Store → List Exchange
  | done _, _ | fail _, _ => []
  | note m rest, s => rest.exchanges (s.keep m)
  | ask q rest, s =>
    { before := s, question := q, ending := (s.answer q).1, after := (s.answer q).2 } ::
      match s.answer q with
      | (.value a, t) => (rest (.ok a)).exchanges t
      | (.fault f, t) => (rest (.error f)).exchanges t
      | (.blocked, _) => []

/-- Whether a question is answered from a snapshot, which is published then, and nothing but the
clock goes on: it does not wait, no collaborator is called, and no mark is left. -/
structure Exchange.IsFrom (n : Snapshot) (e : Exchange) : Prop where
  published : e.before.snapshot = n
  ending_eq : e.ending = .value (e.question.answer n)
  after_eq : ∃ c, e.after = e.before.aged c []

namespace Store

variable {α : Type} {s : Store}

/-! ### While the lock is held -/

/-- While the lock is held, a question that passes the gate is answered as in an attempt. -/
lemma answer_of_locked (hl : s.locked = true) (q : Query) : s.answer q = s.answerDuring q := by
  rw [answer, answerDuring, current, if_pos hl]

/-- While the lock is held, a dialogue that passes the gate is carried out as in an attempt. -/
theorem converse_of_locked (hl : s.locked = true) (hs : s.snapshot.IsCoherent)
    (x : Dialogue storeQueries α) : s.converse x = s.runDuring x := by
  -- by induction on the dialogue: no question gives the lock back
  induction x generalizing s with
  | done a => rfl
  | fail f => rfl
  | note m rest ih => exact ih (s := s.keep m) hl hs
  | ask q rest ih =>
      obtain ⟨c, hd⟩ := answerDuring_eq hs q
      have ha : reader.answer q s = (s.snapshot.reply q, s.aged c []) :=
        (answer_of_locked hl q).trans hd
      have ha' : during.answer q s = (s.snapshot.reply q, s.aged c []) := hd
      rw [converse, runDuring, Dialogue.run, Dialogue.run, ha, ha']
      cases s.snapshot.reply q with
      | value a => exact ih (.ok a) (s := s.aged c []) hl hs
      | fault f => exact ih (.error f) (s := s.aged c []) hl hs
      | blocked => rfl

/-- **While the lock is held, every question is answered from the published snapshot**, if there
has been an attempt. -/
theorem exchanges_of_locked (hl : s.locked = true) (hs : s.snapshot.IsCoherent) {n : Snapshot}
    (hn : s.snapshot = n) {t : Int} (ht : n.checkedAt = some t) (x : Dialogue storeQueries α) :
    ∀ e ∈ x.exchanges s, e.IsFrom n := by
  -- by induction on the dialogue: the snapshot that answers is the same after each question
  induction x generalizing s with
  | done a => simp [Dialogue.exchanges]
  | fail f => simp [Dialogue.exchanges]
  | note m rest ih => exact ih (s := s.keep m) hl hs hn
  | ask q rest ih =>
      obtain ⟨c, hd⟩ := answerDuring_eq hs q
      have hreply : s.snapshot.reply q = .value (Query.answer n q) := by
        rw [hn, Snapshot.reply_of_checked ht]
      have ha : s.answer q = (.value (Query.answer n q), s.aged c []) :=
        (answer_of_locked hl q).trans (hd.trans (congrArg (·, s.aged c []) hreply))
      intro e he
      rw [Dialogue.exchanges, ha] at he
      rcases List.mem_cons.mp he with rfl | he
      · exact ⟨hn, rfl, c, rfl⟩
      · exact ih (.ok _) (s := s.aged c []) hl hs hn e he

/-! ### The collaborators of an attempt -/

/-- The store behind the lock, as an attempt begins: the gate has read the clock twice. -/
def behindLock (s : Store) : Store :=
  s.readClock.2.lock.readClock.2

/-- The log list on which the policy is asked in an attempt, and the store then. -/
def asked? (s : Store) : Option (View × Store) :=
  match s.read with
  | (.value ⟨_, .success d⟩, t) => some (⟨some d⟩, t.keep .judged)
  | _ => none

/-- The store as the sink is told in an attempt that is decided at a time. -/
def told? (now : Int) (s : Store) : Option Store :=
  match s.examine now with
  | (.value next, t) =>
    if isChange t.snapshot next then
      some ((t.publish next).keep (changeEvent t.snapshot next))
    else none
  | _ => none

lemma behindLock_eq (s : Store) :
    s.behindLock = s.lock.aged s.clock.read.2.read.2 [] := by
  simp [behindLock, readClock, lock, aged]

/-- An attempt is made on the store behind the lock, and the lock is given back after it. -/
lemma current_of_begun {q : Query} {now : Int} (hb : s.beginsAt? q = some now) :
    s.current =
      match s.behindLock.reload now with
      | (.blocked, t) => (.blocked, t)
      | (found, t) => (found, t.unlock) := by
  obtain ⟨-, hl, hd⟩ := beginsAt?_eq_some.mp hb
  have h : s.isDue s.clock.read.1 = true ∧ s.isDue s.clock.read.2.read.1 = true ∧
      s.clock.read.2.read.1 = now := by
    simpa [decides, and_assoc] using hd
  obtain ⟨hfirst, hsecond, rfl⟩ := h
  have hgate : s.current = (s.aged s.clock.read.2 []).lock.currentLocked := by
    rw [current_eq hl, if_pos hfirst]
  have hlocked := currentLocked_eq s s.clock.read.2 []
  rw [if_pos hsecond] at hlocked
  rw [behindLock_eq]
  exact hgate.trans hlocked

/-- The policy is asked about a document that the parser has made of the bytes, with the snapshot
before still published. -/
lemma asked?_eq_some {v : View} {t : Store} (h : s.asked? = some (v, t)) :
    ∃ raw d ms, s.source.result = .ok (.success raw) ∧ (s.parser raw).result = .ok (.success d) ∧
      v = ⟨some d⟩ ∧ t = s.aged s.clock ms := by
  rw [asked?] at h
  cases hr : s.source.result with
  | error f =>
      rw [read_of_fault hr] at h
      cases h
  | ok gave =>
      cases gave with
      | failure f =>
          rw [read_of_failure hr] at h
          cases h
      | success raw =>
          rw [read_of_success hr] at h
          cases hp : (s.parser raw).result with
          | error f =>
              rw [hp] at h
              cases h
          | ok found =>
              rw [hp] at h
              cases found with
              | failure f => cases h
              | success d =>
                  obtain ⟨rfl, rfl⟩ := Prod.mk.inj (Option.some.inj h)
                  exact ⟨raw, d, _, rfl, hp, rfl, by rw [keep_eq, aged_aged, clock_aged]⟩

/-- The sink is told of the snapshot of the attempt, which has just been published and is a
change. -/
lemma told?_eq_some (hs : s.snapshot.IsCoherent) {now : Int} {t : Store}
    (h : s.told? now = some t) :
    ∃ f c, s.finding = .value f ∧ isChange s.snapshot (Attempt.mk now f).snapshot = true ∧
      t = (s.publish (Attempt.mk now f).snapshot).aged c
        (s.searchMarks ++ [changeEvent s.snapshot (Attempt.mk now f).snapshot]) := by
  obtain ⟨c, he⟩ := examine_eq hs now
  rw [told?, he] at h
  cases hf : s.finding with
  | value f =>
      rw [hf] at h
      dsimp only [Ending.map_value] at h
      split_ifs at h with hc
      cases h
      exact ⟨f, c, rfl, hc, by rw [keep_eq, publish_aged, aged_aged]; rfl⟩
  | fault f =>
      rw [hf] at h
      cases h
  | blocked =>
      rw [hf] at h
      cases h

/-- What an attempt finds about a document is what the policy says of it. -/
lemma finding_of_document {raw : Bytes} {d : Document} (hr : s.source.result = .ok (.success raw))
    (hp : (s.parser raw).result = .ok (.success d)) :
    s.finding = (s.verdict d).map (.judged raw d) := by
  simp [finding, hr, hp]

/-- An attempt that finds something about the list on which the policy was asked publishes this
list. -/
lemma view_of_asked? {v : View} {t : Store} (h : s.asked? = some (v, t)) {f : Finding}
    (hf : s.finding = .value f) (now : Int) : (Attempt.mk now f).snapshot.view = v := by
  obtain ⟨raw, d, ms, hr, hp, rfl, -⟩ := asked?_eq_some h
  rw [finding_of_document hr hp] at hf
  cases hv : s.verdict d with
  | value w =>
      rw [hv] at hf
      cases hf
      rfl
  | fault e =>
      rw [hv] at hf
      cases hf
  | blocked =>
      rw [hv] at hf
      cases hf

end Store

/-! ### What sinks report -/

/-- The event that describes a snapshot: its state, the number of its logs and the time of its
list. -/
def Snapshot.report (n : Snapshot) : Mark :=
  .ofEvent .info "metrics.log_list_state_changed"
    [("state", .text n.state.text), ("logs", .int n.view.logs.length),
     ("log_list_timestamp", match n.view.timestamp with | some t => .int t | none => .null)]

/-- The reporting sink describes the snapshot that has just been published. -/
lemma marks_reporting (a : Attempt) :
    Sink.reporting.attempt.marks a.snapshot.reply = [a.snapshot.report] := by
  have hreply := Snapshot.reply_of_checked a.checkedAt_snapshot
  rw [Dialogue.marks_attempt]
  calc Sink.reporting.marks a.snapshot.reply
      = _ := Dialogue.marks_ask _ (hreply .state)
    _ = _ := Dialogue.marks_ask _ (hreply .logs)
    _ = _ := Dialogue.marks_ask _ (hreply .timestamp)
    _ = [a.snapshot.report] := rfl

lemma ending_reporting (a : Attempt) :
    Sink.reporting.attempt.ending a.snapshot.reply = .value (.ok ()) := by
  have hreply := Snapshot.reply_of_checked a.checkedAt_snapshot
  calc Sink.reporting.attempt.ending a.snapshot.reply
      = _ := Dialogue.ending_ask _ (hreply .state)
    _ = _ := Dialogue.ending_ask _ (hreply .logs)
    _ = _ := Dialogue.ending_ask _ (hreply .timestamp)
    _ = .value (.ok ()) := rfl

/-! ### What is served -/

/-- What a log list answers to the questions that can be asked of it. -/
def View.answer? (v : View) : (q : Query) → Option q.Answer
  | .find id => some (v.find? id)
  | .logs => some v.logs
  | .timestamp => some v.timestamp
  | .state | .lastChecked => none

lemma View.answer?_eq_some {n : Snapshot} {q : Query} {b : q.Answer}
    (h : n.view.answer? q = some b) : q.answer n = b := by
  cases q with
  | state => cases h
  | find id => exact Option.some.inj h
  | logs => exact Option.some.inj h
  | timestamp => exact Option.some.inj h
  | lastChecked => cases h

namespace Store

variable {s : Store}

/-- Whether a store answers as a log list does, from now until the next attempt is completed:
from outside, in any world, and to the collaborators of an attempt that has published nothing
yet. -/
def Serves (s : Store) (v : View) : Prop :=
  ∀ (vs : List Visit) (x : Visit) (b : x.question.Answer), s.reloads vs = [] →
    v.answer? x.question = some b →
      ((s.visits vs).reload? x = none →
        ∀ b', ((s.visits vs).visit x).1 = .value b' → b' = b) ∧
      (((s.visits vs).inWorld x.world).answerDuring x.question).1 = .value b

/-- A store that has published a list answers as this list does. -/
lemma serves_of_checked (hs : s.IsSound) {t : Int} (ht : s.snapshot.checkedAt = some t) :
    s.Serves s.snapshot.view := by
  intro vs x b hn hb
  have hu := hs.visits vs
  have hsame := snapshot_visits_of_no_reload hs hn
  have hanswer : x.question.answer s.snapshot = b := View.answer?_eq_some hb
  refine ⟨fun hx b' hb' => ?_, ?_⟩
  · have hpublished := snapshot_visit hu x
    rw [hx, Option.map_none, Option.getD_none, hsame] at hpublished
    have hvalue := answer_value (s := (s.visits vs).inWorld x.world) hu.isCoherent hb'
    exact hvalue.trans ((congrArg x.question.answer hpublished).trans hanswer)
  · obtain ⟨c, hd⟩ := answerDuring_eq (s := (s.visits vs).inWorld x.world) hu.isCoherent x.question
    have hreply : (s.visits vs).snapshot.reply x.question = .value b := by
      rw [hsame]
      exact (Snapshot.reply_of_checked ht x.question).trans (congrArg _ hanswer)
    exact (congrArg Prod.fst hd).trans hreply

/-! ### Attempts of questions -/

variable {q : Query} {now : Int}

/-- As the sink is told, the lock is held, and the snapshot of the attempt is the one that the
question leaves behind; the question leaves the marks of the sink behind what was there. -/
lemma told?_of_begun (hs : s.IsSound) (hb : s.beginsAt? q = some now) {t : Store}
    (h : s.behindLock.told? now = some t) :
    t.locked = true ∧ t.snapshot = (s.answer q).2.snapshot ∧
      ∃ a : Attempt, t.snapshot = a.snapshot ∧ a.now = now ∧
        (s.answer q).2.journal =
          t.journal ++ (s.sink.attempt.marks a.snapshot.reply ++
            sinkMarks a.snapshot.state (s.sink.attempt.ending a.snapshot.reply)) := by
  obtain ⟨f, c, hf, hc, rfl⟩ := told?_eq_some (s := s.behindLock) hs.isCoherent h
  obtain ⟨c', ha⟩ := answer_of_value hs.isCoherent hb hf
  rw [ha]
  refine ⟨rfl, rfl, ⟨now, f⟩, rfl, rfl, ?_⟩
  have hnews : s.newsMarks (Attempt.mk now f).snapshot =
      changeEvent s.snapshot (Attempt.mk now f).snapshot ::
        (s.sink.attempt.marks (Attempt.mk now f).snapshot.reply ++
          sinkMarks (Attempt.mk now f).snapshot.state
            (s.sink.attempt.ending (Attempt.mk now f).snapshot.reply)) :=
    if_pos hc
  have hbefore : ((s.behindLock.publish (Attempt.mk now f).snapshot).aged c
      (s.behindLock.searchMarks ++
        [changeEvent s.behindLock.snapshot (Attempt.mk now f).snapshot])).journal =
      s.journal ++ (s.searchMarks ++ [changeEvent s.snapshot (Attempt.mk now f).snapshot]) := rfl
  have hafter : ((s.publish (Attempt.mk now f).snapshot).aged c'
      (s.searchMarks ++ s.newsMarks (Attempt.mk now f).snapshot)).journal =
      s.journal ++ (s.searchMarks ++ s.newsMarks (Attempt.mk now f).snapshot) := rfl
  rw [hbefore, hafter, hnews]
  simp only [List.append_assoc, List.cons_append, List.nil_append]

/-- As the policy is asked, the lock is held, and the snapshot before is still published. -/
lemma asked?_of_begun {v : View} {t : Store} (h : s.behindLock.asked? = some (v, t)) :
    t.locked = true ∧ t.snapshot = s.snapshot := by
  obtain ⟨raw, d, ms, -, -, -, rfl⟩ := asked?_eq_some h
  exact ⟨rfl, rfl⟩

/-- A question that begins an attempt has the outcome of the attempt behind the lock. -/
lemma answer_of_begun (hb : s.beginsAt? q = some now) :
    (s.answer q).1 = (s.behindLock.reload now).1.map (fun n => q.answer n) ∧
      (s.answer q).2.snapshot = (s.behindLock.reload now).2.snapshot := by
  obtain ⟨hq, -, -⟩ := beginsAt?_eq_some.mp hb
  have hc := current_of_begun hb
  generalize s.behindLock.reload now = r at hc ⊢
  obtain ⟨found, t⟩ := r
  cases found with
  | value n => exact ⟨by rw [answer_of_current hq hc], by rw [answer_of_current hq hc]; rfl⟩
  | fault f => exact ⟨by rw [answer_of_current hq hc], by rw [answer_of_current hq hc]; rfl⟩
  | blocked => exact ⟨by rw [answer_of_current hq hc], by rw [answer_of_current hq hc]⟩

/-- **In every attempt** the collaborators pass the gate without beginning another one, whatever
the clock tells. The sink is answered from the snapshot that the attempt has just published, and
what it reports or remembers describes this snapshot; the policy is answered from the snapshot
before, once there has been one; and the log list on which the policy was asked is what the store
serves from then on until the next attempt is completed. -/
theorem exchanges_whole (hr : s.Reachable) (hb : s.beginsAt? q = some now) :
    ((s.answer q).1 = (s.behindLock.reload now).1.map (fun n => q.answer n) ∧
      (s.answer q).2.snapshot = (s.behindLock.reload now).2.snapshot) ∧
    (∀ t, s.behindLock.told? now = some t →
      t.snapshot = (s.answer q).2.snapshot ∧ t.snapshot.checkedAt = some now ∧
      t.runDuring t.sink.attempt = t.converse t.sink.attempt ∧
      (∀ e ∈ t.sink.attempt.exchanges t, e.IsFrom (s.answer q).2.snapshot) ∧
      (s.sink = Sink.reporting →
        (s.answer q).2.journal = t.journal ++ [(s.answer q).2.snapshot.report]) ∧
      (s.sink = Sink.recording →
        (s.answer q).2.journal = t.journal ++ [.recorded (s.answer q).2.snapshot.state])) ∧
    (∀ v t, s.behindLock.asked? = some (v, t) →
      t.snapshot = s.snapshot ∧
      t.runDuring (t.policy v).attempt = t.converse (t.policy v).attempt ∧
      (s.snapshot.checkedAt ≠ none →
        ∀ e ∈ (t.policy v).attempt.exchanges t, e.IsFrom s.snapshot) ∧
      ((s.attempt? q).isSome → (s.answer q).2.snapshot.view = v ∧ (s.answer q).2.Serves v)) := by
  have hs := hr.isSound
  refine ⟨answer_of_begun hb, fun t h => ?_, fun v t h => ?_⟩
  · -- the sink is called when the snapshot is published, behind the lock
    obtain ⟨hl, hpublished, a, ha, rfl, hj⟩ := told?_of_begun hs hb h
    have hcoherent : t.snapshot.IsCoherent := ha ▸ a.isCoherent_snapshot
    have hchecked : t.snapshot.checkedAt = some a.now := ha ▸ a.checkedAt_snapshot
    rw [← hpublished]
    refine ⟨rfl, hchecked, (converse_of_locked hl hcoherent _).symm,
      exchanges_of_locked hl hcoherent rfl hchecked _, fun hsink => ?_, fun hsink => ?_⟩
    · rw [hj, hsink, marks_reporting, ending_reporting, ha]
      rfl
    · rw [hj, hsink, marks_recording, ending_recording, ha]
      rfl
  · -- the policy is called behind the lock, while the snapshot before is still published
    obtain ⟨hl, hsame⟩ := asked?_of_begun h
    have hcoherent : t.snapshot.IsCoherent := hsame ▸ hs.isCoherent
    refine ⟨hsame, (converse_of_locked hl hcoherent _).symm, fun hne => ?_, fun hsome => ?_⟩
    · obtain ⟨checked, hchecked⟩ := Option.ne_none_iff_exists'.mp hne
      exact exchanges_of_locked hl hcoherent hsame hchecked _
    · obtain ⟨a, ha⟩ := Option.isSome_iff_exists.mp hsome
      obtain ⟨-, hf⟩ := attempt?_eq_some.mp ha
      obtain ⟨c, he⟩ := answer_of_value hs.isCoherent hb hf
      have hview : (s.answer q).2.snapshot.view = v := by
        rw [he]
        exact view_of_asked? h hf now
      have hchecked : (s.answer q).2.snapshot.checkedAt = some now := by
        rw [he]
        exact Attempt.checkedAt_snapshot _
      exact ⟨hview, hview ▸ serves_of_checked (hs.answer q) hchecked⟩

/-- A world whose policy says yes without a question. -/
def quietWorld : World where
  source := .done (.success [1])
  parser := fun _ => .done (.success { version := "1", timestamp := 5 })
  policy := fun _ => .done (.bool true)
  sink := Sink.silent
  clock := { pending := [5, 7] }

/-- A world whose policy asks for the state before it says no, whose sink asks three questions, and
whose clock makes an attempt due whenever it is read. -/
def curiousWorld : World where
  source := .done (.success [1])
  parser := fun _ => .done (.success { version := "2", timestamp := 6 })
  policy := fun _ => do
    let _ ← Dialogue.pose (I := storeQueries) .state
    .done (.bool false)
  sink := Sink.reporting
  clock := { now := 20, step := 20 }

/-- In the second attempt of a store the policy puts one question and the sink three. Due as
they are, they are answered from the snapshot before and the one after. -/
theorem exchanges_whole_of_curiousWorld :
    ∃ s : Store, s.Reachable ∧ s.beginsAt? .state = some 40 ∧
      (∃ v t, s.behindLock.asked? = some (v, t) ∧ ((t.policy v).attempt.exchanges t).length = 1 ∧
        (∀ e ∈ (t.policy v).attempt.exchanges t, e.IsFrom s.snapshot) ∧
        (s.answer .state).2.snapshot.view = v ∧ (s.answer .state).2.Serves v) ∧
      ∃ t, s.behindLock.told? 40 = some t ∧ (t.sink.attempt.exchanges t).length = 3 ∧
        (∀ e ∈ t.sink.attempt.exchanges t, e.IsFrom (s.answer .state).2.snapshot) ∧
        (s.answer .state).2.journal = t.journal ++ [(s.answer .state).2.snapshot.report] := by
  have hr : (((newIn quietWorld).answer .state).2.inWorld curiousWorld).Reachable :=
    .moved _ (.asked .state (.newIn _))
  have hb : (((newIn quietWorld).answer .state).2.inWorld curiousWorld).beginsAt? .state =
      some 40 := by
    decide +kernel
  refine ⟨_, hr, hb, ?_⟩
  generalize hs : ((newIn quietWorld).answer .state).2.inWorld curiousWorld = s at hr hb ⊢
  obtain ⟨-, hsink, hpolicy⟩ := exchanges_whole hr hb
  have hasked : s.behindLock.asked?.map (fun x => ((x.2.policy x.1).attempt.exchanges x.2).length) =
      some 1 := by
    rw [← hs]
    decide +kernel
  have htold : (s.behindLock.told? 40).map (fun t => (t.sink.attempt.exchanges t).length) =
      some 3 := by
    rw [← hs]
    decide +kernel
  obtain ⟨⟨v, t⟩, ht, hone⟩ := Option.map_eq_some_iff.mp hasked
  obtain ⟨u, hu, hthree⟩ := Option.map_eq_some_iff.mp htold
  obtain ⟨-, -, hfrom, hserved⟩ := hpolicy v t ht
  obtain ⟨-, -, -, hfrom', hreport, -⟩ := hsink u hu
  have hchecked : s.snapshot.checkedAt ≠ none := by
    rw [← hs]
    decide +kernel
  have hattempt : (s.attempt? .state).isSome := by
    rw [← hs]
    decide +kernel
  obtain ⟨hview, hserves⟩ := hserved hattempt
  exact ⟨⟨v, t, ht, hone, hfrom hchecked, hview, hserves⟩,
    u, hu, hthree, hfrom', hreport (by rw [← hs]; rfl)⟩

end Store

end KnownLogs
