/-
When the service tells that it is ready:

* `Request`, `Arrival`: a request, and all that can come to an installed store;
* `Route.passesGate`, `Request.passesGate`, `Arrival.passesGate`: what passes the gate;
* `Request.isPassive_dialogue`, `Request.exists_gated`: a request that does not pass the gate is
  answered by a passive dialogue, and one that does by a dialogue with a question that passes it;
* `Store.receive`, `Store.received`, `Store.answers`: what arrives one after another, and the
  answers;
* `Arrival.IsPassive`, `Padded`: arrivals that do not pass the gate, put in at any places;
* `Store.AnswersReady`: the status that tells whether the service is ready;
* `Service.readiness`: **the service is ready exactly if something has passed the gate**, stays
  ready, and a probe changes no other answer.
-/
import KnownLogs.Proofs.Service.State
import KnownLogs.Proofs.Store.Checked

namespace KnownLogs

/-! ### Requests -/

/-- A request to a program that has started without a problem. -/
structure Request where
  service : Service
  /-- The name of the sink, if it keeps no states. -/
  forgetful : Option String := none
  method : String := "GET"
  path : String
  /-- The host that the request came to. -/
  host : String := "http://localhost"
  started : service.problem? = none

/-- What the endpoints know of a store besides its answers. -/
def Store.installed (forgetful : Option String) (s : Store) : Installed where
  interval := s.interval
  recorded :=
    match forgetful with
    | none => .ok s.recorded
    | some sink => .error sink

/-- Whether an endpoint puts a question that passes the gate. -/
def Route.passesGate : Route → Bool
  | state | logs => true
  | log hex =>
    match Hex.decode? hex.toList with
    | some (_ :: _) => true
    | _ => false
  | _ => false

namespace Endpoint

open Dialogue (done pose)

/-- Without a problem, the service is ready when the store has been checked. -/
lemma ready_eq {svc : Service} (hs : svc.problem? = none) (i : Installed) :
    ready svc (some i) = (pose (I := storeQueries) .lastChecked).bind fun checked : Option Int =>
      done (if checked.isNone then starting svc
        else .record 200 [("status", .text "ready")]) := by
  simp only [ready, hs]

/-- An endpoint that puts no question that passes the gate is passive, unless there is a problem to
tell. -/
lemma isPassive_ofRoute {svc : Service} (hs : svc.problem? = none) (i : Installed) {route : Route}
    (h : route.passesGate = false) : (ofRoute svc (some i) route).IsPassive := by
  cases route with
  | health =>
      rw [ofRoute, health, hs]
      dsimp only
      split_ifs <;> trivial
  | ready =>
      rw [ofRoute, ready_eq hs]
      exact (Dialogue.isPassive_pose rfl).bind fun _ => trivial
  | info => trivial
  | state => cases h
  | logs => cases h
  | log hex =>
      rw [Route.passesGate] at h
      rw [show ofRoute svc (some i) (.log hex) = log hex from rfl, log]
      -- only an id of one byte or more is looked up behind the gate
      rcases hd : Hex.decode? hex.toList with _ | _ | ⟨b, id⟩
      · trivial
      · exact (Dialogue.isPassive_pose rfl).bind fun found => by cases found <;> trivial
      · simp [hd] at h
  | metrics =>
      rw [ofRoute, metrics]
      cases i.recorded <;> trivial
  | description path => trivial

lemma isPassive_guarded {e : Endpoint} (he : e.IsPassive) : e.guarded.IsPassive :=
  he.attempt.bind fun r => by cases r <;> trivial

/-- An endpoint that passes the gate puts a question that does. -/
lemma exists_gated {svc : Service} {i : Installed} {route : Route} (h : route.passesGate = true)
    (s : Store) :
    ∃ e ∈ (ofRoute svc (some i) route).guarded.exchanges s, e.question.isGated = true := by
  cases route with
  | state => exact Dialogue.exists_gated_of_ask (q := Query.state) rfl _ s
  | logs => exact Dialogue.exists_gated_of_ask (q := Query.logs) rfl _ s
  | log hex =>
      rw [Route.passesGate] at h
      rcases hd : Hex.decode? hex.toList with _ | _ | ⟨b, id⟩
      · simp [hd] at h
      · simp [hd] at h
      · rw [show ofRoute svc (some i) (.log hex) = log hex from rfl, log, hd]
        exact Dialogue.exists_gated_of_ask (q := Query.find (some (b :: id))) rfl _ s
  | health => cases h
  | ready => cases h
  | info => cases h
  | metrics => cases h
  | description path => cases h

end Endpoint

namespace Request

/-- The dialogue that answers a request. -/
def dialogue (r : Request) (s : Store) : Endpoint :=
  r.service.respond (some (s.installed r.forgetful)) r.method r.path r.host

/-- Whether a request is for an endpoint that passes the gate, in a way that it is reached. -/
def passesGate (r : Request) : Bool :=
  match Route.ofPath? r.path with
  | some route => route.methods.contains r.method && route.passesGate
  | none => false

/-- **A request that does not pass the gate is answered by a passive dialogue.** -/
lemma isPassive_dialogue {r : Request} (h : r.passesGate = false) (s : Store) :
    (r.dialogue s).IsPassive := by
  rw [passesGate] at h
  rw [dialogue, Service.respond]
  cases hroute : Route.ofPath? r.path with
  | none =>
      dsimp only
      split
      · split_ifs <;> trivial
      · trivial
  | some route =>
      rw [hroute] at h
      dsimp only
      split_ifs with hmethod
      · have hgate : route.passesGate = false := by
          dsimp only at h
          rwa [hmethod, Bool.true_and] at h
        exact Endpoint.isPassive_guarded (Endpoint.isPassive_ofRoute r.started _ hgate)
      · trivial

/-- A request that passes the gate is answered by a dialogue with a question that does. -/
lemma exists_gated {r : Request} (h : r.passesGate = true) (s : Store) :
    ∃ e ∈ (r.dialogue s).exchanges s, e.question.isGated = true := by
  rw [passesGate] at h
  rw [dialogue, Service.respond]
  cases hroute : Route.ofPath? r.path with
  | none => simp [hroute] at h
  | some route =>
      rw [hroute] at h
      obtain ⟨hmethod, hgate⟩ := Bool.and_eq_true_iff.mp h
      dsimp only
      rw [if_pos hmethod]
      exact Endpoint.exists_gated hgate s

end Request

/-! ### Arrivals -/

/-- What comes to an installed store from outside. -/
inductive Arrival where
  | request (r : Request)
  /-- A question that is put to the store directly. -/
  | question (q : Query)
  /-- All that stands around the store becomes something else. -/
  | change (w : World)

namespace Arrival

/-- What an arrival is answered with. -/
def Answer : Arrival → Type
  | request _ => Response
  | question q => q.Answer
  | change _ => Unit

/-- Whether an arrival passes the gate. -/
def passesGate : Arrival → Bool
  | request r => r.passesGate
  | question q => q.isGated
  | change _ => false

/-- Whether an arrival is a request or a question that does not pass the gate. -/
def IsPassive : Arrival → Prop
  | request r => r.passesGate = false
  | question q => q.isGated = false
  | change _ => False

end Arrival

namespace Store

/-- What an arrival comes to. -/
def receive (s : Store) : (a : Arrival) → Ending a.Answer × Store
  | .request r => s.converse (r.dialogue s)
  | .question q => s.answer q
  | .change w => (.value (), s.inWorld w)

/-- The questions that are put on an arrival. -/
def exchangesOn (s : Store) : Arrival → List Exchange
  | .request r => (r.dialogue s).exchanges s
  | .question q => [⟨s, q, (s.answer q).1, (s.answer q).2⟩]
  | .change _ => []

/-- A store after arrivals one after another. -/
def received (s : Store) (as : List Arrival) : Store :=
  as.foldl (fun s a => (s.receive a).2) s

/-- Arrivals one after another, each with the answer to it. -/
def answers (s : Store) : List Arrival → List ((a : Arrival) × Ending a.Answer)
  | [] => []
  | a :: as => ⟨a, (s.receive a).1⟩ :: (s.receive a).2.answers as

/-- The questions that are put over arrivals. -/
def exchangesOver (s : Store) : List Arrival → List Exchange
  | [] => []
  | a :: as => s.exchangesOn a ++ (s.receive a).2.exchangesOver as

variable {s : Store}

@[simp] lemma received_nil (s : Store) : s.received [] = s := rfl

@[simp] lemma received_cons (s : Store) (a : Arrival) (as : List Arrival) :
    s.received (a :: as) = (s.receive a).2.received as := rfl

lemma received_append (s : Store) (as bs : List Arrival) :
    s.received (as ++ bs) = (s.received as).received bs :=
  List.foldl_append

/-! ### One arrival -/

/-- **A passive arrival leaves the store as it is**, the clock included. -/
lemma receive_of_isPassive {a : Arrival} (ha : a.IsPassive) (s : Store) : (s.receive a).2 = s := by
  cases a with
  | request r => exact (converse_of_isPassive (Request.isPassive_dialogue ha s) s).1
  | question q => rw [receive, answer_of_not_gated ha]
  | change w => exact ha.elim

lemma IsSound.receive (hs : s.IsSound) (a : Arrival) : (s.receive a).2.IsSound := by
  cases a with
  | request r => exact hs.converse _
  | question q => exact hs.answer q
  | change w => exact hs.inWorld w

lemma IsChecked.receive (h : s.IsChecked) (hs : s.IsSound) (a : Arrival) :
    (s.receive a).2.IsChecked := by
  cases a with
  | request r => exact h.converse hs _
  | question q => exact h.answer hs q
  | change w => exact h

/-- Without an aborted attempt an arrival checks a store exactly if it passes the gate. -/
lemma IsIdle.receive (hs : s.IsIdle) {a : Arrival} (ha : ∀ e ∈ s.exchangesOn a, ¬ e.IsAborted) :
    (s.receive a).2.IsIdle ∧
      ((s.receive a).2.IsChecked ↔ s.IsChecked ∨ a.passesGate = true) := by
  cases a with
  | request r =>
      obtain ⟨hidle, hchecked⟩ := hs.converse ha
      refine ⟨hidle, hchecked.trans (or_congr_right ?_)⟩
      cases hr : r.passesGate with
      | true => exact iff_of_true (Request.exists_gated hr s) hr
      | false =>
          have hnone := (converse_of_isPassive (Request.isPassive_dialogue hr s) s).2
          refine iff_of_false ?_ (by simp [Arrival.passesGate, hr])
          rintro ⟨e, he, hgated⟩
          simp [hnone e he] at hgated
  | question q => exact hs.answer (ha _ List.mem_cons_self)
  | change w =>
      exact ⟨⟨hs.isSound.inWorld w, hs.unlocked⟩,
        by simp [Store.receive, Arrival.passesGate, IsChecked]⟩

/-! ### Arrivals one after another -/

lemma IsSound.received (hs : s.IsSound) (as : List Arrival) : (s.received as).IsSound := by
  induction as generalizing s with
  | nil => exact hs
  | cons a as ih => exact ih (hs.receive a)

/-- **Once there has been an attempt, there always has**, whatever comes of the next ones. -/
lemma IsChecked.received (h : s.IsChecked) (hs : s.IsSound) (as : List Arrival) :
    (s.received as).IsChecked := by
  induction as generalizing s with
  | nil => exact h
  | cons a as ih => exact ih (h.receive hs a) (hs.receive a)

/-- **Without an aborted attempt a store has been checked exactly if something has passed the
gate.** -/
lemma IsIdle.isChecked_received (hs : s.IsIdle) {as : List Arrival}
    (has : ∀ e ∈ s.exchangesOver as, ¬ e.IsAborted) :
    (s.received as).IsChecked ↔ s.IsChecked ∨ ∃ a ∈ as, a.passesGate = true := by
  induction as generalizing s with
  | nil => simp
  | cons a as ih =>
      obtain ⟨hfirst, hrest⟩ := List.forall_mem_append.mp has
      obtain ⟨hidle, hchecked⟩ := hs.receive hfirst
      rw [received_cons, ih hidle hrest, hchecked, or_assoc, List.exists_mem_cons_iff]

end Store

/-! ### Arrivals put in -/

/-- Whether a list is another one with elements of one kind put in at any places. -/
inductive Padded {α : Type} (kind : α → Prop) : List α → List α → Prop
  | nil : Padded kind [] []
  | keep {xs ys : List α} (x : α) : Padded kind xs ys → Padded kind (x :: xs) (x :: ys)
  | insert {xs ys : List α} {y : α} : kind y → Padded kind xs ys → Padded kind xs (y :: ys)

namespace Padded

variable {α : Type} {kind : α → Prop}

/-- Nothing need be put in. -/
lemma refl : (xs : List α) → Padded kind xs xs
  | [] => .nil
  | x :: xs => .keep x (refl xs)

/-- What stands in front does not matter. -/
lemma append_left {xs ys : List α} (h : Padded kind xs ys) :
    (front : List α) → Padded kind (front ++ xs) (front ++ ys)
  | [] => h
  | x :: front => .keep x (h.append_left front)

end Padded

/-- **Passive arrivals change no other answer**, and leave the same store behind. -/
lemma Store.answers_of_padded {as bs : List Arrival} (h : Padded Arrival.IsPassive as bs)
    (s : Store) :
    s.received bs = s.received as ∧
      Padded (fun e => e.1.IsPassive) (s.answers as) (s.answers bs) := by
  induction h generalizing s with
  | nil => exact ⟨rfl, .nil⟩
  | keep a _ ih =>
      obtain ⟨hstore, hanswers⟩ := ih (s.receive a).2
      exact ⟨hstore, .keep _ hanswers⟩
  | @insert as bs b hb _ ih =>
      obtain ⟨hstore, hanswers⟩ := ih s
      rw [received_cons, answers, receive_of_isPassive hb s]
      exact ⟨hstore, .insert hb hanswers⟩

/-! ### Readiness -/

/-- Whether a store makes the service answer `GET /ready` with a status, and stays as it is. -/
def Store.AnswersReady (s : Store) (status : Nat) : Prop :=
  ∀ r : Request, r.method = "GET" → r.path = "/ready" →
    ∃ a : Response, s.receive (.request r) = (.value a, s) ∧ a.status = status

/-- A request for whether the service is ready is answered by whether there has been an attempt. -/
lemma Store.receive_ready (s : Store) {r : Request} (hm : r.method = "GET")
    (hp : r.path = "/ready") :
    s.receive (.request r) =
      (.value (if s.snapshot.checkedAt.isNone then Endpoint.starting r.service
        else .record 200 [("status", .text "ready")]), s) := by
  have hroute : Route.ofPath? "/ready" = some .ready := by decide
  have hallowed : Route.ready.methods.contains "GET" = true := by decide
  have hdialogue : r.dialogue s =
      (Endpoint.ready r.service (some (s.installed r.forgetful))).guarded := by
    rw [Request.dialogue, Service.respond, hp, hm, hroute]
    exact if_pos hallowed
  rw [receive, hdialogue, Endpoint.ready_eq r.started]
  rfl

/-- The service is ready exactly if there has been an attempt, and is starting otherwise. -/
lemma Store.answersReady_iff (s : Store) :
    (s.AnswersReady 200 ↔ s.IsChecked) ∧ (s.AnswersReady 202 ↔ ¬ s.IsChecked) := by
  have hstatus (svc : Service) : (if s.snapshot.checkedAt.isNone then Endpoint.starting svc
      else .record 200 [("status", .text "ready")]).status =
        if s.snapshot.checkedAt.isNone then 202 else 200 := by
    rw [apply_ite Response.status]
    rfl
  have hiff (status : Nat) :
      s.AnswersReady status ↔ status = if s.snapshot.checkedAt.isNone then 202 else 200 := by
    constructor
    · intro h
      obtain ⟨a, ha, rfl⟩ := h { service := {}, path := "/ready", started := rfl } rfl rfl
      rw [s.receive_ready rfl rfl] at ha
      rw [← Ending.value.inj (Prod.mk.inj ha).1]
      exact hstatus {}
    · rintro rfl r hm hp
      exact ⟨_, s.receive_ready hm hp, hstatus r.service⟩
  rw [hiff, hiff, IsChecked]
  cases s.snapshot.checkedAt <;> simp

/-- The paths of the probes do not pass the gate. -/
lemma Request.passesGate_of_probe {r : Request}
    (hr : r.path ∈ ["/ready", "/health", "/info", "/metrics"]) : r.passesGate = false := by
  have hpaths : ∀ p ∈ ["/ready", "/health", "/info", "/metrics"],
      (Route.ofPath? p).map Route.passesGate = some false := by
    decide
  obtain ⟨route, hroute, hgate⟩ := Option.map_eq_some_iff.mp (hpaths _ hr)
  rw [passesGate, hroute]
  simp [hgate]

namespace Service

variable {source : Option (Call (Outcome Bytes))}
  {parser : Option (Bytes → Call (Outcome Document))} {policy : Option CompliancePolicy}
  {sink : Option MetricsSink} {clock : Clock} {interval : Int} {s : Store}

/-- **The service is ready exactly if something has passed the gate.** Whatever has arrived at a
store since it was built, `GET /ready` is answered with 200 if the state that is published is not
the one before any attempt, and with 202 if it is. If no attempt has been aborted, it is answered
with 200 exactly if a request or a question has passed the gate. Once it is, it always is,
whatever arrives later. Passive arrivals, put in at any places, leave the same store behind and
change no other answer, and such are all requests for the probes: to no store do they change
anything, the clock and the kept states included. -/
theorem readiness (h : Store.build source parser policy sink clock interval = .ok s)
    (as : List Arrival) :
    ((s.received as).AnswersReady 200 ↔ (s.received as).snapshot.state ≠ .uninitialized) ∧
      ((s.received as).AnswersReady 202 ↔ (s.received as).snapshot.state = .uninitialized) ∧
      ((∀ e ∈ s.exchangesOver as, ¬ e.IsAborted) →
        ((s.received as).AnswersReady 200 ↔ ∃ a ∈ as, a.passesGate = true) ∧
        ((s.received as).AnswersReady 202 ↔ ∀ a ∈ as, a.passesGate = false)) ∧
      ((s.received as).AnswersReady 200 → ∀ bs, (s.received (as ++ bs)).AnswersReady 200) ∧
      (∀ bs, Padded Arrival.IsPassive as bs → s.received bs = s.received as ∧
        Padded (fun e => e.1.IsPassive) (s.answers as) (s.answers bs)) ∧
      ∀ r : Request, r.path ∈ ["/ready", "/health", "/info", "/metrics"] →
        (Arrival.request r).IsPassive ∧ ∀ t : Store, (t.receive (.request r)).2 = t := by
  obtain ⟨hinitial, hl, -, -⟩ := Store.build_fresh h
  have hs : s.IsSound := (Store.Reachable.built h).isSound
  have hu := hs.received as
  -- an answer of 200 or 202 tells whether an attempt has been completed
  obtain ⟨hready, hstarting⟩ := (s.received as).answersReady_iff
  refine ⟨hready.trans hu.isChecked_iff,
    hstarting.trans ((not_congr hu.isChecked_iff).trans not_ne_iff),
    fun hn => ?_, fun h200 bs => ?_, fun bs hbs => Store.answers_of_padded hbs s,
    fun r hr => ?_⟩
  · have hfresh : ¬ s.IsChecked := by simp [Store.IsChecked, hinitial, Snapshot.initial]
    have hiff : (s.received as).IsChecked ↔ ∃ a ∈ as, a.passesGate = true := by
      simpa [hfresh] using Store.IsIdle.isChecked_received ⟨hs, hl⟩ hn
    exact ⟨hready.trans hiff, hstarting.trans ((not_congr hiff).trans (by simp))⟩
  · rw [Store.received_append]
    exact (Store.answersReady_iff _).1.mpr ((hready.mp h200).received hu bs)
  · have hpassive : (Arrival.request r).IsPassive := Request.passesGate_of_probe hr
    exact ⟨hpassive, Store.receive_of_isPassive hpassive⟩

/-- A world whose clock goes on with every reading. -/
def tickingWorld (given : Outcome Bytes) (now : Int) : World :=
  { Store.hourlyWorld given [] with clock := { now, step := 1 } }

/-- A store that stood in such a world when it was built. -/
def tickingStore : Store :=
  Store.newIn (tickingWorld (.success [1]) 5)

/-- A request with nothing to tell of the program. -/
def requestFor (path : String) : Arrival :=
  .request { service := {}, path, started := rfl }

/-- Nothing of this passes the gate: the second path has no digits of an id. -/
def earlyArrivals : List Arrival :=
  [requestFor "/ready", requestFor "/logs/ ", .question .lastChecked, .question (.find (some []))]

/-- The list is loaded for the state, and is gone when it is loaded the next time. -/
def lateArrivals : List Arrival :=
  [requestFor "/state",
   .change (tickingWorld (.failure { code := .notFound, message := "no file" }) 17),
   .question .logs]

/-- The service is starting after the early arrivals, and ready after the late ones, though their
second attempt finds no list; to ask after its health in between makes no difference. -/
theorem readiness_of_tickingStore :
    (∃ source parser policy sink clock,
      Store.build source parser policy sink clock Store.briefInterval = .ok tickingStore) ∧
      (tickingStore.received earlyArrivals).AnswersReady 202 ∧
      (∀ e ∈ tickingStore.exchangesOver (earlyArrivals ++ lateArrivals), ¬ e.IsAborted) ∧
      (tickingStore.received (earlyArrivals ++ lateArrivals)).AnswersReady 200 ∧
      (tickingStore.received (earlyArrivals ++ lateArrivals)).snapshot.state = .notFound ∧
      tickingStore.received (earlyArrivals ++ requestFor "/health" :: lateArrivals) =
        tickingStore.received (earlyArrivals ++ lateArrivals) := by
  have hbuild : Store.build _ _ _ _ _ Store.briefInterval = .ok tickingStore :=
    Store.build_newIn _
  have hearly : ∀ e ∈ tickingStore.exchangesOver earlyArrivals, ¬ e.IsAborted := by
    decide +kernel
  have hall : ∀ e ∈ tickingStore.exchangesOver (earlyArrivals ++ lateArrivals), ¬ e.IsAborted := by
    decide +kernel
  have hpassing : ∃ a ∈ earlyArrivals ++ lateArrivals, a.passesGate = true :=
    ⟨requestFor "/state", by simp [lateArrivals], by decide⟩
  have hpadded : Padded Arrival.IsPassive (earlyArrivals ++ lateArrivals)
      (earlyArrivals ++ requestFor "/health" :: lateArrivals) := by
    have hlate : Padded Arrival.IsPassive lateArrivals (requestFor "/health" :: lateArrivals) :=
      .insert (show Request.passesGate _ = false from rfl) (.refl lateArrivals)
    exact hlate.append_left earlyArrivals
  obtain ⟨-, -, hexact, -, hsame, -⟩ := readiness hbuild (earlyArrivals ++ lateArrivals)
  refine ⟨⟨_, _, _, _, _, hbuild⟩, ?_, hall, (hexact hall).1.mpr hpassing, by decide +kernel,
    (hsame _ hpadded).1⟩
  exact ((readiness hbuild earlyArrivals).2.2.1 hearly).2.mpr (by decide +kernel)

end Service

end KnownLogs
