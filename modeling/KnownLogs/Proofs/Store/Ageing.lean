/-
A list that is never republished:

* `Publication`, `Look`: a list as it is published once and for all, and a question about it at
  some time of day;
* `Store.judgedTimes`: the times of day at which the policy is asked for its verdict;
* `Publication.Stage`: what the store can have published and recorded;
* `Stage.failed`, `Stage.accepted`, `Stage.rejected`: **an attempt leads from stage to stage**,
  since a refused list is refused from then on;
* `Store.follows_visits`: and so does a run;
* `Store.ages_once`: **the list goes from compliant to non-compliant at most once**, and is served
  unchanged before and after.
-/
import KnownLogs.Proofs.LogList.Acceptance
import KnownLogs.Proofs.LogList.Truncation
import KnownLogs.Proofs.Policy.Freshness

namespace KnownLogs

/-! ### Questions about one list -/

/-- A list as it is published once and for all, with the decoder that reads its keys and the policy
that judges it. -/
structure Publication where
  raw : Bytes
  decoder : KeyDecoder
  policy : Policy

/-- A question that is put at a time of day. -/
structure Look where
  now : Int
  /-- The marks that reading the source leaves. -/
  marks : List Mark
  /-- What the clock of the store will tell. -/
  clock : Clock
  question : Query

/-- Whether reading the source leaves no mark that tells of a state. -/
def Look.IsQuiet (l : Look) : Prop :=
  ∀ m ∈ l.marks, m.state? = none

/-- Whether the policy has been asked for its verdict. -/
def Finding.isJudged : Finding → Bool
  | judged .. => true
  | _ => false

namespace Publication

/-- A question that is put while the source gives the list. -/
def visit (P : Publication) (l : Look) : Visit where
  world :=
    { source := ⟨l.marks, .ok (.success P.raw)⟩
      parser := LogList.parse P.decoder
      policy := P.policy.at l.now
      sink := Sink.recording
      clock := l.clock }
  question := l.question

/-- What the parser makes of the list. -/
def parsed (P : Publication) : Except Fault (Outcome Document) :=
  (LogList.parse P.decoder P.raw).result

/-- What an attempt finds at a time of day. -/
def finding (P : Publication) (now : Int) : Ending Finding :=
  match P.parsed with
  | .error f => .fault f
  | .ok (.failure f) => .value (.unparsed P.raw f)
  | .ok (.success d) =>
    .value (.judged P.raw d (.ok (.bool (P.policy.accepts now ⟨some d⟩))))

/-- The snapshot of a document that has been judged. -/
def served (P : Publication) (d : Document) (state : StoreState) (checked : Int) : Snapshot where
  state
  document := some d
  checkedAt := some checked
  digest := some (Sha256.digest P.raw)

/-- What a store can have published, and which states its sink can have recorded, while the policy
is to be asked at the times `ts`: a list that has been refused will be refused at all of them. -/
inductive Stage (P : Publication) (ts : List Int) : Snapshot → List StoreState → Prop
  | unread : P.Stage ts .initial []
  | malformed {f : Failure} (checked : Int) : P.parsed = .ok (.failure f) →
      P.Stage ts
        { state := .malformed, checkedAt := some checked, digest := some (Sha256.digest P.raw) }
        [.malformed]
  | compliant {d : Document} (checked : Int) : P.parsed = .ok (.success d) →
      P.Stage ts (P.served d .compliant checked) [.compliant]
  | refused {d : Document} {earlier : List StoreState} (checked : Int) :
      P.parsed = .ok (.success d) →
      (∀ t ∈ ts, P.policy.accepts t ⟨some d⟩ = false) →
      earlier = [] ∨ earlier = [.compliant] →
      P.Stage ts (P.served d .nonCompliant checked) (earlier ++ [.nonCompliant])

end Publication

namespace Store

variable {P : Publication} {l : Look} {s : Store} {ts : List Int}

/-- The time of day at which a question has the policy asked, if it completes an attempt that
does. -/
def judgedAt? (s : Store) (P : Publication) (l : Look) : Option Int :=
  (s.reload? (P.visit l)).bind fun r => if r.2.finding.isJudged then some l.now else none

/-- The times of day at which the policy is asked for its verdict, in order. -/
def judgedTimes (s : Store) (P : Publication) : List Look → List Int
  | [] => []
  | l :: rest => (s.judgedAt? P l).toList ++ (s.visit (P.visit l)).2.judgedTimes P rest

lemma finding_visit (s : Store) (P : Publication) (l : Look) :
    (s.inWorld (P.visit l).world).finding = P.finding l.now := by
  rw [Publication.finding]
  cases hp : P.parsed with
  | error f => exact finding_of_parse_fault rfl hp
  | ok found =>
      cases found with
      | failure f => exact finding_of_parse_failure rfl hp
      | success d =>
          have hverdict : (s.inWorld (P.visit l).world).verdict d =
              .value (.ok (.bool (P.policy.accepts l.now ⟨some d⟩))) :=
            P.policy.ending_at l.now _ _
          rw [finding_of_document rfl hp, hverdict, Ending.map_value]

end Store

/-! ### Stages -/

namespace Publication

variable {P : Publication} {ts : List Int} {n : Snapshot} {states : List StoreState}

lemma snapshot_judged (P : Publication) (d : Document) (accepted : Bool) (checked : Int) :
    (Attempt.mk checked (.judged P.raw d (.ok (.bool accepted)))).snapshot =
      P.served d (if accepted then .compliant else .nonCompliant) checked := by
  cases accepted <;> rfl

/-- The same state on the same bytes is no change. -/
lemma changesAfter_of_told {n next : Snapshot} (h : n.told? = some (next.state, next.digest)) :
    changesAfter n.told? [next] = [] := by
  rw [changesAfter, if_pos h, changesAfter]

namespace Stage

/-- An attempt that makes no document of the list leads to no other stage. -/
lemma failed (h : P.Stage ts n states) {f : Failure} (hp : P.parsed = .ok (.failure f))
    (checked : Int) :
    P.Stage ts (Attempt.mk checked (.unparsed P.raw f)).snapshot
      (states ++ changesAfter n.told? [(Attempt.mk checked (.unparsed P.raw f)).snapshot]) := by
  rw [Store.snapshot_unparsed (LogList.parse_failure hp)]
  cases h with
  | unread => exact .malformed checked hp
  | malformed =>
      rw [changesAfter_of_told rfl]
      exact .malformed checked hp
  | compliant _ hd => cases hp.symm.trans hd
  | refused _ hd => cases hp.symm.trans hd

/-- An attempt at which the policy accepts the list leads to no other stage but from the first. -/
lemma accepted {now : Int} (h : P.Stage (now :: ts) n states) {d : Document}
    (hp : P.parsed = .ok (.success d)) (ha : P.policy.accepts now ⟨some d⟩ = true)
    (checked : Int) :
    P.Stage ts (P.served d .compliant checked)
      (states ++ changesAfter n.told? [P.served d .compliant checked]) := by
  cases h with
  | unread => exact .compliant checked hp
  | malformed _ hf => cases hp.symm.trans hf
  | compliant =>
      rw [changesAfter_of_told rfl]
      exact .compliant checked hp
  | refused _ hd hrefused =>
      cases hp.symm.trans hd
      exact absurd (ha.symm.trans (hrefused now List.mem_cons_self)) (by simp)

/-- An attempt at which the policy refuses the list leads to the last stage: the list will be
refused whenever the policy is asked later. -/
lemma rejected {now : Int} (h : P.Stage (now :: ts) n states) (hlater : ∀ t ∈ ts, now ≤ t)
    {d : Document} (hp : P.parsed = .ok (.success d))
    (ha : P.policy.accepts now ⟨some d⟩ = false) (checked : Int) :
    P.Stage ts (P.served d .nonCompliant checked)
      (states ++ changesAfter n.told? [P.served d .nonCompliant checked]) := by
  have hstays : ∀ t ∈ ts, P.policy.accepts t ⟨some d⟩ = false := by
    intro t ht
    rw [← Bool.not_eq_true] at ha ⊢
    exact mt (Policy.accepts_of_le (hlater t ht)) ha
  cases h with
  | unread => exact .refused checked hp hstays (.inl rfl)
  | malformed _ hf => cases hp.symm.trans hf
  | compliant => exact .refused checked hp hstays (.inr rfl)
  | refused _ _ _ hearlier =>
      rw [changesAfter_of_told rfl, List.append_nil]
      exact .refused checked hp hstays hearlier

/-! ### What a stage tells -/

/-- A store that has told of anything is at one of four stages. -/
lemma states_mem (h : P.Stage ts n states) (hn : n.checkedAt ≠ none) :
    states ∈ [[.malformed], [.nonCompliant], [.compliant], [.compliant, .nonCompliant]] := by
  cases h with
  | unread => exact absurd rfl hn
  | malformed => simp
  | compliant => simp
  | refused _ _ _ hearlier => rcases hearlier with rfl | rfl <;> simp

lemma mem_states_iff (h : P.Stage ts n states) :
    .nonCompliant ∈ states ↔ n.state = .nonCompliant := by
  cases h with
  | unread => simp [Snapshot.initial]
  | malformed => simp
  | compliant => simp [served]
  | refused => simp [served]

/-- In both states in which there is a list it is the one that is published. -/
lemma document_eq (h : P.Stage ts n states)
    (hn : n.state = .compliant ∨ n.state = .nonCompliant) :
    ∃ d, P.parsed = .ok (.success d) ∧ n.document = some d := by
  cases h with
  | unread => simp [Snapshot.initial] at hn
  | malformed => simp at hn
  | compliant _ hd => exact ⟨_, hd, rfl⟩
  | refused _ hd => exact ⟨_, hd, rfl⟩

end Stage

end Publication

/-! ### Runs -/

namespace Store

variable {P : Publication} {l : Look} {s : Store} {ts : List Int}

/-- A store that has only met this list, and will have the policy asked at the times `ts`. -/
structure Follows (s : Store) (P : Publication) (ts : List Int) : Prop where
  isSound : s.IsSound
  unlocked : s.locked = false
  stage : P.Stage ts s.snapshot s.recorded

/-- What a question adds to the recorded states is the change of its attempt. -/
lemma recorded_visit (hs : s.IsSound) (hl : l.IsQuiet) :
    (s.visit (P.visit l)).2.recorded =
      s.recorded ++ changesAfter s.snapshot.told?
        ((s.reload? (P.visit l)).map fun r => r.2.snapshot).toList := by
  have hk : (s.inWorld (P.visit l).world).KeepsNoState :=
    ⟨hl, LogList.forall_marks_parse (fun _ => rfl) fun _ _ _ => rfl,
      P.policy.keepsNoState_at l.now⟩
  have h := recorded_after (s := s.inWorld (P.visit l).world) hs.isCoherent hk rfl
    (.ask (P.visit l).question)
  rw [reload?, Option.map_map]
  exact h

/-- No question about the list waits for ever. -/
lemma unlocked_visit (hs : s.IsSound) (hl : s.locked = false) (P : Publication) (l : Look) :
    (s.visit (P.visit l)).2.locked = false := by
  have hc := course (s := s.inWorld (P.visit l).world) hs.isCoherent (P.visit l).question
  rw [visit]
  generalize (s.inWorld (P.visit l).world).answer (P.visit l).question = r at hc ⊢
  cases hc with
  | kept c h => exact hl
  | made c a h => exact hl
  | broken c f h _ => exact hl
  | stuck c h hf =>
      rw [finding_visit, Publication.finding] at hf
      split at hf <;> cases hf
  | waiting c h _ => exact hl

/-- A question about a list that can be read is answered from the snapshot that is published
then. -/
lemma answer_visit (hs : s.IsSound) (hl : s.locked = false) {d : Document}
    (hp : P.parsed = .ok (.success d)) (l : Look) :
    (s.visit (P.visit l)).1 = .value (l.question.answer (s.visit (P.visit l)).2.snapshot) := by
  have hc := course (s := s.inWorld (P.visit l).world) hs.isCoherent (P.visit l).question
  have hfinding := finding_visit s P l
  rw [Publication.finding, hp] at hfinding
  rw [visit]
  generalize (s.inWorld (P.visit l).world).answer (P.visit l).question = r at hc ⊢
  cases hc with
  | kept c h => rfl
  | made c a h =>
      have hnews : (s.inWorld (P.visit l).world).news a.snapshot = .value () := by
        rw [news, show (s.inWorld (P.visit l).world).sink = Sink.recording from rfl,
          ending_recording]
        split_ifs <;> rfl
      rw [hnews]
      rfl
  | broken c f h hf => cases hfinding.symm.trans hf
  | stuck c h hf => cases hfinding.symm.trans hf
  | waiting c h hlocked => exact absurd (hl.symm.trans hlocked) (by simp)

/-- **Every question leads from stage to stage**, the time of day not going back. -/
lemma Follows.visit (h : s.Follows P ((s.judgedAt? P l).toList ++ ts)) (hl : l.IsQuiet)
    (hlater : ∀ now, s.judgedAt? P l = some now → ∀ t ∈ ts, now ≤ t) :
    (s.visit (P.visit l)).2.Follows P ts := by
  refine ⟨h.isSound.visit _, unlocked_visit h.isSound h.unlocked P l, ?_⟩
  have hstage := h.stage
  rw [recorded_visit h.isSound hl, snapshot_visit h.isSound]
  rw [judgedAt?] at hstage hlater
  cases hr : s.reload? (P.visit l) with
  | none =>
      rw [hr] at hstage
      simpa [changesAfter] using hstage
  | some r =>
      obtain ⟨w, checked, g⟩ := r
      obtain ⟨a, ha, hwa⟩ := Option.map_eq_some_iff.mp hr
      cases hwa
      have hg : P.finding l.now = .value g :=
        (finding_visit s P l).symm.trans (attempt?_eq_some.mp ha).2
      rw [hr, Option.bind_some] at hstage hlater
      simp only [Option.map_some, Option.getD_some, Option.toList_some]
      -- the bytes are always the same: only the verdict can be another one
      rw [Publication.finding] at hg
      split at hg
      · cases hg
      · rename_i f hp
        cases hg
        exact Publication.Stage.failed hstage hp checked
      · rename_i d hp
        cases hg
        have hnow : ∀ t ∈ ts, l.now ≤ t := hlater l.now rfl
        rw [Publication.snapshot_judged]
        cases ha : P.policy.accepts l.now ⟨some d⟩ with
        | true => exact Publication.Stage.accepted hstage hp ha checked
        | false => exact Publication.Stage.rejected hstage hnow hp ha checked

lemma judgedTimes_cons (s : Store) (P : Publication) (l : Look) (rest : List Look) :
    s.judgedTimes P (l :: rest) =
      (s.judgedAt? P l).toList ++ (s.visit (P.visit l)).2.judgedTimes P rest := rfl

/-- **Every run leads from stage to stage.** -/
lemma follows_visits {before after : List Look}
    (h : s.Follows P (s.judgedTimes P (before ++ after)))
    (htimes : (s.judgedTimes P (before ++ after)).Pairwise (· ≤ ·))
    (hl : ∀ l ∈ before, l.IsQuiet) :
    (s.visits (before.map P.visit)).Follows P
      ((s.visits (before.map P.visit)).judgedTimes P after) := by
  -- by induction on the questions that have been put: the times that are left stay in order
  induction before generalizing s with
  | nil => exact h
  | cons l before ih =>
      obtain ⟨hquiet, hrest⟩ := List.forall_mem_cons.mp hl
      rw [List.cons_append, judgedTimes_cons] at h htimes
      obtain ⟨-, hsorted, hbetween⟩ := List.pairwise_append.mp htimes
      refine ih (h.visit hquiet fun now hnow => ?_) hsorted hrest
      exact hbetween now (by simp [hnow])

/-- No question takes anything back from what is recorded. -/
lemma recorded_visits_grows (hs : s.IsSound) {ls : List Look} (hl : ∀ l ∈ ls, l.IsQuiet) :
    s.recorded <+: (s.visits (ls.map P.visit)).recorded := by
  induction ls generalizing s with
  | nil => exact List.prefix_rfl
  | cons l ls ih =>
      obtain ⟨hquiet, hrest⟩ := List.forall_mem_cons.mp hl
      have hone : s.recorded <+: (s.visit (P.visit l)).2.recorded := by
        rw [recorded_visit hs hquiet]
        exact List.prefix_append _ _
      exact hone.trans (ih (hs.visit _) hrest)

/-- Once an attempt is completed there is a time of the last one. -/
lemma checkedAt_visits_ne_none (hs : s.IsSound) {vs : List Visit} (hn : s.reloads vs ≠ []) :
    (s.visits vs).snapshot.checkedAt ≠ none := by
  rw [snapshot_visits hs]
  cases hlast : (s.reloads vs).getLast? with
  | none => exact absurd (List.getLast?_eq_none_iff.mp hlast) hn
  | some r =>
      rw [Option.map_some, Option.getD_some, Attempt.checkedAt_snapshot]
      simp

section Build

variable {source : Option (Call (Outcome Bytes))}
  {parser : Option (Bytes → Call (Outcome Document))} {policy : Option CompliancePolicy}
  {sink : Option MetricsSink} {clock : Clock} {interval : Int}

/-- A store that has just been built is at the first stage. -/
lemma follows_build (h : Store.build source parser policy sink clock interval = .ok s)
    (P : Publication) (ts : List Int) : s.Follows P ts := by
  obtain ⟨hi, hl, hj, -⟩ := build_fresh h
  have hr : s.recorded = [] := by rw [recorded, hj]; rfl
  refine ⟨(Reachable.built h).isSound, hl, ?_⟩
  rw [hi, hr]
  exact .unread

/-- **A list that is never republished goes from compliant to non-compliant at most once**, whatever
the parameters of the policy are and whatever the clock of the store tells, if the time of day does
not go back from one verdict to the next: one of four lists of states is recorded once an attempt is
completed, a store that is not compliant is so for good, and in both states in which there is a list
every question about it is answered as this list answers it. -/
theorem ages_once (h : Store.build source parser policy sink clock interval = .ok s)
    (P : Publication) (ls : List Look) (hl : ∀ l ∈ ls, l.IsQuiet)
    (htimes : (s.judgedTimes P ls).IsChain (· ≤ ·)) :
    (s.reloads (ls.map P.visit) ≠ [] →
      (s.visits (ls.map P.visit)).recorded ∈
        [[.malformed], [.nonCompliant], [.compliant], [.compliant, .nonCompliant]]) ∧
      (∀ before between after, ls = before ++ between ++ after →
        (s.visits (before.map P.visit)).snapshot.state = .nonCompliant →
          (s.visits ((before ++ between).map P.visit)).snapshot.state = .nonCompliant) ∧
      ∀ before l after, ls = before ++ l :: after →
        (s.visits ((before ++ [l]).map P.visit)).snapshot.state = .compliant ∨
          (s.visits ((before ++ [l]).map P.visit)).snapshot.state = .nonCompliant →
        ∃ d, (LogList.parse P.decoder P.raw).result = .ok (.success d) ∧
          (s.visits ((before ++ [l]).map P.visit)).snapshot.document = some d ∧
          ∀ b, (View.mk (some d)).answer? l.question = some b →
            ((s.visits (before.map P.visit)).visit (P.visit l)).1 = .value b := by
  have hsorted : (s.judgedTimes P ls).Pairwise (· ≤ ·) := List.isChain_iff_pairwise.mp htimes
  -- up to any look the store is at a stage that the times still to come allow
  have hfollows : ∀ before after, ls = before ++ after →
      (s.visits (before.map P.visit)).Follows P
        ((s.visits (before.map P.visit)).judgedTimes P after) := by
    rintro before after rfl
    exact follows_visits (follows_build h P _) hsorted fun l hmem =>
      hl l (List.mem_append_left _ hmem)
  refine ⟨fun hn => ?_, fun before between after hls hstate => ?_,
    fun before l after hls hstate => ?_⟩
  · have hend := hfollows ls [] (by simp)
    exact hend.stage.states_mem (checkedAt_visits_ne_none (follows_build h P []).isSound hn)
  · -- what has been recorded is not taken back, and tells of the state
    have hfirst := hfollows before (between ++ after) (by simp [hls])
    have hsecond := hfollows (before ++ between) after hls
    have hquiet : ∀ l ∈ between, l.IsQuiet := fun l hmem => hl l (by simp [hls, hmem])
    have hgrows := recorded_visits_grows (P := P) hfirst.isSound hquiet
    rw [← hsecond.stage.mem_states_iff]
    rw [List.map_append, visits_append]
    exact hgrows.subset (hfirst.stage.mem_states_iff.mpr hstate)
  · have hfirst := hfollows before (l :: after) hls
    have hsecond := hfollows (before ++ [l]) after (by simp [hls])
    obtain ⟨d, hp, hd⟩ := hsecond.stage.document_eq hstate
    have hlast : s.visits ((before ++ [l]).map P.visit) =
        ((s.visits (before.map P.visit)).visit (P.visit l)).2 := by
      rw [List.map_append, visits_append]
      rfl
    rw [hlast] at hd ⊢
    refine ⟨d, hp, hd, fun b hb => ?_⟩
    rw [answer_visit hfirst.isSound hfirst.unlocked hp]
    exact congrArg _ (View.answer?_eq_some (by rw [Snapshot.view, hd]; exact hb))

end Build

/-- The bytes of a list whose only log retires at 50. -/
def fadingList : Bytes :=
  ["\x7b\"version\":\"1\",\"log_list_timestamp\":5,\"operators\":[\x7b\"name\":\"a\",\"email\":[],",
    "\"logs\":[\x7b\"description\":\"d\",\"url\":\"u\",\"mmd\":1,\"key\":\"AQ==\",",
    "\"log_id\":\"S/USLzRFVMU73i67jNK349FgCtYxw4Wl18ziPHeFRZo=\",",
    "\"state\":\x7b\"retired\":\x7b\"timestamp\":50\x7d\x7d\x7d]\x7d]\x7d"].flatMap Utf8.encode

/-- The list with a decoder that accepts every key and the standard policy. -/
def fadingPublication : Publication where
  raw := fadingList
  decoder := LogList.easyDecoder
  policy := (Policy.build {}).toOption.get rfl

/-- The list is loaded when the time of day is 10; that time goes back while no attempt is due. -/
def fadingLooks : List Look :=
  [⟨10, [], { pending := [5, 7] }, .state⟩, ⟨3, [], { pending := [16] }, .logs⟩]

/-- Another attempt, when the log has retired. -/
def lateLook : Look := ⟨60, [], { pending := [17, 18] }, .timestamp⟩

/-- A store that stood around this list when it was built. -/
def fadingStore : Store :=
  newIn (fadingPublication.visit lateLook).world

/-- The store ends up non-compliant, and still tells the time of the list. -/
theorem ages_once_of_fadingLooks :
    (∀ l ∈ fadingLooks ++ [lateLook], l.IsQuiet) ∧
      fadingStore.judgedTimes fadingPublication (fadingLooks ++ [lateLook]) = [10, 60] ∧
      (fadingStore.visits
        ((fadingLooks ++ [lateLook]).map fadingPublication.visit)).snapshot.state =
          .nonCompliant ∧
      (fadingStore.visits ((fadingLooks ++ [lateLook]).map fadingPublication.visit)).recorded ∈
        [[.malformed], [.nonCompliant], [.compliant], [.compliant, .nonCompliant]] ∧
      ∃ d, (LogList.parse LogList.easyDecoder fadingList).result = .ok (.success d) ∧
        ((fadingStore.visits (fadingLooks.map fadingPublication.visit)).visit
          (fadingPublication.visit lateLook)).1 = .value (some d.timestamp) := by
  have hbuild : Store.build _ _ _ _ _ briefInterval = .ok fadingStore := build_newIn _
  have hl : ∀ l ∈ fadingLooks ++ [lateLook], l.IsQuiet := by
    simp [fadingLooks, lateLook, Look.IsQuiet]
  obtain ⟨htimes, hstate, hn⟩ :
      fadingStore.judgedTimes fadingPublication (fadingLooks ++ [lateLook]) = [10, 60] ∧
      (fadingStore.visits
        ((fadingLooks ++ [lateLook]).map fadingPublication.visit)).snapshot.state =
          .nonCompliant ∧
      (fadingStore.reloads
        ((fadingLooks ++ [lateLook]).map fadingPublication.visit)).isEmpty = false := by
    decide +kernel
  obtain ⟨hrecorded, -, hserves⟩ :=
    ages_once hbuild fadingPublication (fadingLooks ++ [lateLook]) hl (by rw [htimes]; decide)
  obtain ⟨d, hd, -, hanswer⟩ := hserves fadingLooks lateLook [] rfl (.inr hstate)
  have hne : fadingStore.reloads ((fadingLooks ++ [lateLook]).map fadingPublication.visit) ≠ [] :=
    List.isEmpty_eq_false_iff.mp hn
  exact ⟨hl, htimes, hstate, hrecorded hne, d, hd, hanswer (some d.timestamp) rfl⟩

end Store

end KnownLogs
