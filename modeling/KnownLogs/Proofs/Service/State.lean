/-
What the service tells of the state of a store:

* `Store.moving`: a store whose world is another at every question;
* `Endpoint.exists_answer_of_ok`: an answer with the status 200 comes when no question of the
  endpoint ends in a fault;
* `Endpoint.pieced`: the answer put together from three snapshots;
* `Service.state_pieced`: **each part of the answer is from the last attempt that was completed when
  its question was answered**, so that it is from one attempt if none is completed in between;
* `Service.state_torn`: otherwise there need not be any attempt that it describes.
-/
import KnownLogs.Proofs.Store.Spacing
import KnownLogs.Proofs.Store.Staleness
import KnownLogs.Service.Lifespan

namespace KnownLogs

variable {source : Option (Call (Outcome Bytes))}
  {parser : Option (Bytes → Call (Outcome Document))} {policy : Option CompliancePolicy}
  {sink : Option MetricsSink} {clock : Clock} {interval : Int} {s : Store}

/-- Answers each question in the next of some worlds. -/
def Store.moving : Handler storeQueries ((Nat → World) × Store) where
  keep m r := (r.1, r.2.keep m)
  answer q r :=
    let (a, s) := r.2.visit ⟨r.1 0, q⟩
    (a, fun k => r.1 (k + 1), s)

/-- A question that passes the gate is answered from the last attempt that is completed by then. -/
lemma Store.answer_of_last_reload
    (h : Store.build source parser policy sink clock interval = .ok s) (vs : List Visit) {v : Visit}
    (hq : v.question.isGated = true) {a : v.question.Answer}
    (ha : ((s.visits vs).visit v).1 = .value a) :
    ∃ r, (s.reloads (vs ++ [v])).getLast? = some r ∧ a = v.question.answer r.2.snapshot ∧
      (s.visits (vs ++ [v])).snapshot = r.2.snapshot := by
  have hs := (Reachable.built h).isSound
  have hu := hs.visits vs
  have ht : ((s.visits vs).inWorld v.world).IsSound := ⟨hu.isCoherent, hu.unchecked⟩
  have hvalue := answer_value ht.isCoherent ha
  obtain ⟨⟨n, checked, -, hchecked, -⟩, -⟩ := age_of_value ht hq (ht.unlocked_of_value hq ha) ha
  have hlast := snapshot_visits hs (vs ++ [v])
  have hvisits : s.visits (vs ++ [v]) = ((s.visits vs).visit v).2 := visits_append s vs [v]
  cases hr : (s.reloads (vs ++ [v])).getLast? with
  | none =>
      -- a store without an attempt has no time of one
      rw [hr, (build_fresh h).1, hvisits] at hlast
      cases (congrArg Snapshot.checkedAt hlast).symm.trans hchecked
  | some r =>
      rw [hr, Option.map_some, Option.getD_some] at hlast
      rw [hvisits] at hlast ⊢
      exact ⟨r, rfl, hvalue.trans (congrArg v.question.answer hlast), hlast⟩

namespace Endpoint

open Dialogue (pose)

/-- The state of one snapshot, the number of logs of another, and the times of a third. -/
def pieced (i : Installed) (first second third : Snapshot) : Response :=
  .record 200
    [("state", .text first.state.text),
     ("logs", .int second.view.logs.length),
     ("log_list_timestamp", intOrNull third.view.timestamp),
     ("last_checked_millis", intOrNull third.checkedAt),
     ("reload_interval_millis", .int i.interval)]

/-- An endpoint that answers with the status 200 has had an answer to its question. -/
lemma exists_answer_of_ok {σ : Type} {h : Handler storeQueries σ} {q : storeQueries.Question}
    {g : storeQueries.Answer q → Endpoint} {s : σ} {r : Response}
    (hrun : ((guarded ((pose q).bind g)).run h s).1 = .value r) (hr : r.status = 200) :
    ∃ a, (h.answer q s).1 = .value a ∧
      ((guarded (g a)).run h (h.answer q s).2).1 = .value r := by
  simp only [guarded, pose, Dialogue.bind, Dialogue.attempt, Dialogue.run] at hrun
  rcases hq : h.answer q s with ⟨a | f | _, t⟩
  · rw [hq] at hrun
    exact ⟨a, rfl, hrun⟩
  · -- a fault is no answer: it gets out, or is answered with another status
    cases hf : f.isOrdinary with
    | true =>
        simp only [hq, Dialogue.bind, hf, if_true, Dialogue.run] at hrun
        cases hrun
        cases hr
    | false => simp [hq, Dialogue.bind, hf, Dialogue.run] at hrun
  · simp [hq] at hrun

end Endpoint

namespace Service

lemma respond_state (svc : Service) (i : Installed) (host : String) :
    svc.respond (some i) "GET" "/state" host = (Endpoint.state i).guarded := by
  have hroute : Route.ofPath? "/state" = some .state := by decide
  rw [respond, hroute]
  rfl

/-- **Each part of the state that is told is from the last attempt that was completed when its
question was answered**, though everything around the store may change between two questions: the
state is from the first of three attempts, the number of logs from the second, and both times are
from the third. If no attempt is completed after the question about the state, all of it is from one
attempt. -/
theorem state_pieced (h : Store.build source parser policy sink clock interval = .ok s)
    (vs : List Visit) (svc : Service) (i : Installed) (host : String) (ws : Nat → World)
    {r : Response}
    (hrun : ((svc.respond (some i) "GET" "/state" host).run Store.moving (ws, s.visits vs)).1 =
      .value r)
    (hr : r.status = 200) :
    ∃ a b c : World × Attempt,
      (s.reloads (vs ++ [⟨ws 0, .state⟩])).getLast? = some a ∧
      (s.reloads (vs ++ [⟨ws 0, .state⟩, ⟨ws 1, .logs⟩])).getLast? = some b ∧
      (s.reloads (vs ++ [⟨ws 0, .state⟩, ⟨ws 1, .logs⟩, ⟨ws 2, .timestamp⟩])).getLast? = some c ∧
      r = Endpoint.pieced i a.2.snapshot b.2.snapshot c.2.snapshot ∧
      ((s.visits (vs ++ [⟨ws 0, .state⟩])).reloads [⟨ws 1, .logs⟩, ⟨ws 2, .timestamp⟩] = [] →
        r = Endpoint.pieced i a.2.snapshot a.2.snapshot a.2.snapshot) := by
  rw [respond_state] at hrun
  obtain ⟨state, hstate, hrun⟩ := Endpoint.exists_answer_of_ok hrun hr
  obtain ⟨logs, hlogs, hrun⟩ := Endpoint.exists_answer_of_ok hrun hr
  obtain ⟨timestamp, htimestamp, hrun⟩ := Endpoint.exists_answer_of_ok hrun hr
  obtain ⟨checked, hchecked, hrun⟩ := Endpoint.exists_answer_of_ok hrun hr
  -- the stores that answer the second and the third question
  have hfirst : s.visits (vs ++ [⟨ws 0, .state⟩]) = ((s.visits vs).visit ⟨ws 0, .state⟩).2 :=
    Store.visits_append s vs _
  have hsecond : s.visits (vs ++ [⟨ws 0, .state⟩] ++ [⟨ws 1, .logs⟩]) =
      (((s.visits vs).visit ⟨ws 0, .state⟩).2.visit ⟨ws 1, .logs⟩).2 := by
    rw [Store.visits_append, hfirst]
    rfl
  -- each answer is that of the last attempt completed up to its question
  obtain ⟨a, ha, rfl, -⟩ := Store.answer_of_last_reload h vs (v := ⟨ws 0, .state⟩) rfl hstate
  obtain ⟨b, hb, rfl, -⟩ := Store.answer_of_last_reload h (vs ++ [⟨ws 0, .state⟩])
    (v := ⟨ws 1, .logs⟩) rfl (by rw [hfirst]; exact hlogs)
  obtain ⟨c, hc, rfl, hpublished⟩ := Store.answer_of_last_reload h
    (vs ++ [⟨ws 0, .state⟩] ++ [⟨ws 1, .logs⟩]) (v := ⟨ws 2, .timestamp⟩) rfl
    (by rw [hsecond]; exact htimestamp)
  have htimes : checked = c.2.snapshot.checkedAt := by
    rw [← hpublished, Store.visits_append, hsecond]
    exact (Ending.value.inj hchecked).symm
  have hpieced : r = Endpoint.pieced i a.2.snapshot b.2.snapshot c.2.snapshot := by
    rw [htimes] at hrun
    exact (Ending.value.inj hrun).symm
  rw [List.append_assoc (vs ++ _)] at hc
  refine ⟨a, b, c, ha, by simpa using hb, by simpa using hc, hpieced, fun hn => ?_⟩
  -- without an attempt after the first question the three attempts are one
  have hafter : s.reloads (vs ++ [⟨ws 0, .state⟩] ++ ([⟨ws 1, .logs⟩] ++ [⟨ws 2, .timestamp⟩])) =
      s.reloads (vs ++ [⟨ws 0, .state⟩]) := by
    rw [Store.reloads_append, List.singleton_append, hn, List.append_nil]
  have hbetween : s.reloads (vs ++ [⟨ws 0, .state⟩] ++ [⟨ws 1, .logs⟩]) =
      s.reloads (vs ++ [⟨ws 0, .state⟩]) := by
    have hboth := (Store.reloads_append _ [⟨ws 1, .logs⟩] [⟨ws 2, .timestamp⟩]).symm.trans hn
    rw [Store.reloads_append, (List.append_eq_nil_iff.mp hboth).1, List.append_nil]
  rw [hbetween, ha] at hb
  rw [hafter, ha] at hc
  cases hb
  cases hc
  exact hpieced

/-- What the endpoints know of a store with a brief interval. -/
def briefly : Installed where
  interval := Store.briefInterval
  recorded := .error Sink.silentName

/-- Worlds with a list, one millisecond after another from 7 on. -/
def passingWorlds (k : Nat) : World :=
  Store.hourlyWorld (.success [1]) [7 + k, 7 + k]

/-- A list is loaded for the first question, and no attempt is due for the other ones: the answer is
from the attempt at 7. -/
theorem state_pieced_of_passingWorlds :
    (∃ source parser policy sink clock,
      Store.build source parser policy sink clock Store.briefInterval = .ok Store.hourlyStore) ∧
      ∃ r, ((respond {} (some briefly) "GET" "/state").run Store.moving
          (passingWorlds, Store.hourlyStore.visits [])).1 = .value r ∧
        r.status = 200 ∧ ∃ a : World × Attempt, a.2.now = 7 ∧
          r = Endpoint.pieced briefly a.2.snapshot a.2.snapshot a.2.snapshot := by
  have hbuild : Store.build _ _ _ _ _ Store.briefInterval = .ok Store.hourlyStore :=
    Store.build_newIn _
  obtain ⟨r, hrun, hr⟩ : ∃ r, ((respond {} (some briefly) "GET" "/state").run Store.moving
      (passingWorlds, Store.hourlyStore.visits [])).1 = .value r ∧ r.status = 200 := ⟨_, rfl, rfl⟩
  obtain ⟨a, -, -, ha, -, -, -, hone⟩ := state_pieced hbuild [] {} briefly _ _ hrun hr
  have hnow : (Store.hourlyStore.reloads ([] ++ [⟨passingWorlds 0, .state⟩])).getLast?.map
      (·.2.now) = some 7 := rfl
  rw [ha] at hnow
  exact ⟨⟨_, _, _, _, _, hbuild⟩, r, hrun, hr, a, Option.some.inj hnow, hone rfl⟩

/-! ### Parts of two attempts -/

/-- What is told as compliant goes with a list, which has a time. -/
lemma timestamp_of_compliant {a : Attempt} (ha : a.snapshot.state.text = "COMPLIANT") :
    ∃ t, a.snapshot.view.timestamp = some t := by
  obtain ⟨now, finding⟩ := a
  have hfailed : ∀ f, (Store.stateAfter f).text ≠ "COMPLIANT" := by
    intro f
    rw [Store.stateAfter]
    split_ifs <;> decide
  cases finding with
  | unread f => exact absurd ha (hfailed f)
  | unparsed raw f => exact absurd ha (hfailed f)
  | judged raw d verdict => exact ⟨d.timestamp, rfl⟩

/-- Worlds in which the list is gone, one millisecond after another from 16 on. -/
def vanishedWorlds (k : Nat) : World :=
  Store.hourlyWorld (.failure { code := .notFound, message := "no file" }) [16 + k, 16 + k]

/-- A state without the list that it was given for. -/
def tornAnswer : Response :=
  .record 200
    [("state", .text "COMPLIANT"), ("logs", .int 0), ("log_list_timestamp", .null),
     ("last_checked_millis", .int 17), ("reload_interval_millis", .int 10)]

/-- **An answer that describes no attempt.** A list is loaded at 7 and removed; the state is asked
for at 16, when no attempt is due, and the logs at 17, when one is. What is told is the state that
the first attempt led to, with the time of the second and nothing of the list. -/
theorem state_torn :
    (∃ source parser policy sink clock,
      Store.build source parser policy sink clock Store.briefInterval = .ok Store.hourlyStore) ∧
      ((respond {} (some briefly) "GET" "/state").run Store.moving (vanishedWorlds,
        Store.hourlyStore.visits
          [⟨Store.hourlyWorld (.success [1]) [5, 7], .state⟩])).1 = .value tornAnswer ∧
      tornAnswer.status = 200 ∧
      ∀ a : Attempt, tornAnswer ≠ Endpoint.pieced briefly a.snapshot a.snapshot a.snapshot := by
  refine ⟨⟨_, _, _, _, _, Store.build_newIn _⟩, rfl, rfl, fun a h => ?_⟩
  simp only [tornAnswer, Endpoint.pieced, Response.record, Response.mk.injEq,
    Response.Body.json.injEq, Json.record.injEq, List.cons.injEq, Prod.mk.injEq, Json.text.injEq,
    true_and] at h
  obtain ⟨⟨hstate, -, htimestamp, -⟩, -⟩ := h
  obtain ⟨t, ht⟩ := timestamp_of_compliant hstate.symm
  rw [ht] at htimestamp
  cases htimestamp

end Service

end KnownLogs
