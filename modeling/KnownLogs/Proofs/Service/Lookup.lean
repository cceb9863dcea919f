/-
What the service lists, and what it tells of one log:

* `Store.answer_of_checked`: without an attempt a store answers from what it has published;
* `Route.ofPath?_log`: every name without a slash is the name of a log;
* `Route.name_of_digits`: the digits of an id are the name of a log;
* `Endpoint.Tells`: what is told of one log where some logs are listed;
* `Service.tells_of_checked`: **what is told of one log** without an attempt;
* `Service.lookup_of_listing`: **listing and looking up agree**, whatever the letters of the digits,
  as long as no list is loaded in between.
-/
import KnownLogs.Proofs.Bytes.Base64
import KnownLogs.Proofs.Bytes.Hex
import KnownLogs.Proofs.Service.State
import KnownLogs.Proofs.Store.Authenticity

namespace KnownLogs

/-! ### Stores without an attempt -/

namespace Store

variable {s : Store}

/-- Where no attempt is begun for the logs, none is begun for any question. -/
lemma beginsAt?_eq_none (h : s.beginsAt? .logs = none) (q : Query) : s.beginsAt? q = none := by
  by_contra hne
  obtain ⟨now, hnow⟩ := Option.ne_none_iff_exists'.mp hne
  obtain ⟨-, hl, hd⟩ := beginsAt?_eq_some.mp hnow
  cases h.symm.trans (beginsAt?_eq_some.mpr ⟨rfl, hl, hd⟩)

/-- **Without an attempt a store answers from what it has published**, also while its lock is
held. -/
lemma answer_of_checked (hs : s.IsSound) {now : Int} (hc : s.snapshot.checkedAt = some now)
    {q : Query} (hb : s.beginsAt? q = none) : (s.answer q).1 = .value (q.answer s.snapshot) := by
  obtain ⟨c, h⟩ := answer_of_not_begun hs.isCoherent hb
  rw [h]
  split_ifs
  · exact Snapshot.reply_of_checked hc q
  · rfl

/-- A store that is not locked answers, unless a fault or a wait ends an attempt. -/
lemma exists_answer (hs : s.IsSound) (hl : s.locked = false) {q : Query}
    (hf : ∀ now, s.beginsAt? q = some now →
      ∃ f u, s.finding = .value f ∧ s.news (Attempt.mk now f).snapshot = .value u) :
    ∃ a, (s.answer q).1 = .value a := by
  cases hb : s.beginsAt? q with
  | none =>
      obtain ⟨c, h⟩ := answer_of_not_begun hs.isCoherent hb
      rw [h, hl]
      exact ⟨_, rfl⟩
  | some now =>
      obtain ⟨f, u, hfinding, hnews⟩ := hf now hb
      obtain ⟨c, h⟩ := answer_of_value hs.isCoherent hb hfinding
      rw [h, hnews]
      exact ⟨_, rfl⟩

end Store

/-! ### Routes -/

namespace Route

/-- No path without a parameter goes on as the path of a log does. -/
lemma not_prefix_of_plain : ∀ p ∈ plain, ¬ "/logs/".toList <+: p.1.toList := by
  decide

/-- **Every name without a slash is the name of a log.** -/
lemma ofPath?_log {hex : String} (hne : hex ≠ "") (hslash : '/' ∉ hex.toList) :
    ofPath? ("/logs/" ++ hex) = some (.log hex) := by
  have hpath : ("/logs/" ++ hex).toList = "/logs/".toList ++ hex.toList := String.toList_append
  have hchars : hex.toList ≠ [] := by simpa using hne
  have hbreak : "/logs/".toList <+: withoutBreak ("/logs/" ++ hex).toList := by
    rw [withoutBreak, hpath]
    split_ifs
    · rw [List.dropLast_append_of_ne_nil hchars]
      exact List.prefix_append _ _
    · exact List.prefix_append _ _
  have hplain : (plain.find? fun p => p.1 == "/logs/" ++ hex ||
      p.1.toList == withoutBreak ("/logs/" ++ hex).toList) = none := by
    refine List.find?_eq_none.mpr fun p hp h => not_prefix_of_plain p hp ?_
    rcases Bool.or_eq_true_iff.mp h with h | h
    · rw [eq_of_beq h, hpath]
      exact List.prefix_append _ _
    · rwa [eq_of_beq h]
  have hlog : ofLogPath? ("/logs/".toList ++ hex.toList) =
      if hex.toList.isEmpty || hex.toList.contains '/' then none
      else some (log (String.ofList hex.toList)) := rfl
  rw [ofPath?, hplain, hpath, hlog, if_neg (by simp [hne, hslash]), String.ofList_toList]

/-- The digits of an id, in letters of either case, are the name of a log. -/
lemma name_of_digits {e : Entry} {hex : String} (h : hex.map Char.toLower = Hex.encode e.logId) :
    hex ≠ "" ∧ '/' ∉ hex.toList := by
  refine ⟨?_, fun hmem => ?_⟩
  · rintro rfl
    have hid : some [] = some e.logId := Hex.decode?_of_map_toLower h
    have hlength := e.length_logId
    rw [← Option.some.inj hid] at hlength
    cases hlength
  · have hsmall : '/' ∈ Hex.encodeChars e.logId := by
      have hlower : Char.toLower '/' ∈ hex.toList.map Char.toLower := List.mem_map_of_mem hmem
      rwa [← String.toList_map, h, Hex.encode, String.toList_ofList] at hlower
    have hdigit : ∀ n < 16, '/' ≠ Hex.digit n := by decide
    obtain ⟨n, hn, heq⟩ := Hex.exists_digit_of_mem hsmall
    exact hdigit n hn heq

end Route

/-! ### Endpoints -/

namespace Endpoint

open Dialogue (pose)

/-- An endpoint goes on with the answer to its question. -/
lemma converse_of_answer {q : storeQueries.Question} {g : storeQueries.Answer q → Endpoint}
    {s : Store} {a : storeQueries.Answer q} (h : (s.answer q).1 = .value a) :
    s.converse (guarded ((pose q).bind g)) = (s.answer q).2.converse (guarded (g a)) := by
  have ha : Store.reader.answer q s = (.value a, (s.answer q).2) := Prod.ext h rfl
  simp only [Store.converse, guarded, pose, Dialogue.bind, Dialogue.attempt, Dialogue.run, ha]

/-- Both texts of an id in what is told of a log are read as this id. -/
lemma exists_ids_of_summary (e : Entry) :
    ∃ letters digits, Json.lastMember? "log_id" (summary e) = some (.text letters) ∧
      Json.lastMember? "log_id_hex" (summary e) = some (.text digits) ∧
      Published.base64 (.text letters) = .valid e.logId ∧
      Hex.decode? digits.toList = some e.logId := by
  refine ⟨Base64.encode e.logId, Hex.encode e.logId, rfl, rfl, ?_, ?_⟩
  · rw [Published.base64, Base64.decode_encode]
  · rw [Hex.encode, String.toList_ofList, Hex.decode?_encodeChars]

/-- What is told of one log, by the digits of its id, where some logs are listed. -/
structure Tells (es : List Entry) (ask : String → Ending Response) : Prop where
  /-- Each listed log is told of in the same way, in whatever letters its digits are. -/
  listed : ∀ e ∈ es, ∀ hex : String, hex.map Char.toLower = Hex.encode e.logId →
    ask hex = .value (.record 200 (summary e))
  /-- Every name is answered: one that writes no bytes is refused, one that writes the id of a
  listed log is told what is told of this log, and any other one is unknown and given back in small
  letters. -/
  named : ∀ hex : String, hex ≠ "" → '/' ∉ hex.toList → ∃ r, ask hex = .value r ∧
    (r.status = 400 ↔ Hex.decode? hex.toList = none) ∧
    (r.status = 200 ↔ ∃ e ∈ es, Hex.decode? hex.toList = some e.logId) ∧
    (∀ e ∈ es, Hex.decode? hex.toList = some e.logId → r = .record 200 (summary e)) ∧
    (r.status ≠ 400 → r.status ≠ 200 →
      r = { status := 404, body := .json (.record
        [("status", .text "unknown"), ("log_id_hex", .text (hex.map Char.toLower))]) })

end Endpoint

namespace Service

variable {s : Store}

lemma respond_logs (svc : Service) (i : Installed) (host : String) :
    svc.respond (some i) "GET" "/logs" host = Endpoint.logs.guarded := by
  have hroute : Route.ofPath? "/logs" = some .logs := by decide
  rw [respond, hroute]
  rfl

lemma respond_log (svc : Service) (i : Installed) (host : String) {hex : String} (hne : hex ≠ "")
    (hslash : '/' ∉ hex.toList) :
    svc.respond (some i) "GET" ("/logs/" ++ hex) host = (Endpoint.log hex).guarded := by
  rw [respond, Route.ofPath?_log hne hslash]
  rfl

/-- What is listed where the store answers. -/
lemma logs_of_answer {es : List Entry} (h : (s.answer .logs).1 = .value es) :
    s.converse Endpoint.logs.guarded =
      (.value (.record 200 [("logs", .list (es.map fun e => .record (Endpoint.summary e)))]),
        (s.answer .logs).2) :=
  Endpoint.converse_of_answer (q := Query.logs) (g := fun es : List Entry => .done (.record 200
    [("logs", .list (es.map fun e => .record (Endpoint.summary e)))])) h

/-- What is told of the digits of an id where the store answers from what it has published. -/
lemma log_of_answer {hex : String} {id : Bytes} (hd : Hex.decode? hex.toList = some id)
    (ha : (s.answer (.find (some id))).1 = .value (s.snapshot.view.find? (some id))) :
    (s.converse (Endpoint.log hex).guarded).1 = .value
      (match s.snapshot.view.find? (some id) with
        | some e => .record 200 (Endpoint.summary e)
        | none => Endpoint.unknown hex) := by
  rw [Endpoint.log, hd]
  refine (congrArg Prod.fst (Endpoint.converse_of_answer (q := Query.find (some id)) ha)).trans ?_
  cases s.snapshot.view.find? (some id) with
  | some e => rfl
  | none => rfl

/-- **What is told of one log** by a store that has published something and begins no attempt. -/
theorem tells_of_checked (hs : s.IsSound) {now : Int} (hc : s.snapshot.checkedAt = some now)
    (hb : s.beginsAt? .logs = none) (svc : Service) (i : Installed) (host : String) :
    Endpoint.Tells s.snapshot.view.logs fun hex =>
      (s.converse (svc.respond (some i) "GET" ("/logs/" ++ hex) host)).1 where
  listed e he hex hhex := by
    have hd : Hex.decode? hex.toList = some e.logId := Hex.decode?_of_map_toLower hhex
    have hfind : s.snapshot.view.find? (some e.logId) = some e := View.find?_eq_some.mpr ⟨he, rfl⟩
    obtain ⟨hne, hslash⟩ := Route.name_of_digits hhex
    have hlog := log_of_answer hd
      (Store.answer_of_checked hs hc (Store.beginsAt?_eq_none hb (.find (some e.logId))))
    rw [respond_log svc i host hne hslash, hlog, hfind]
  named hex hne hslash := by
    rw [respond_log svc i host hne hslash]
    -- a name is no bytes, or an id that is listed or not
    cases hd : Hex.decode? hex.toList with
    | none =>
        exact ⟨Endpoint.notHex, by rw [Endpoint.log, hd]; rfl, iff_of_true rfl rfl,
          iff_of_false (by decide) (by simp), by simp, fun h => absurd rfl h⟩
    | some id =>
        have hlog := log_of_answer hd
          (Store.answer_of_checked hs hc (Store.beginsAt?_eq_none hb (.find (some id))))
        cases hf : s.snapshot.view.find? (some id) with
        | some e =>
            rw [hf] at hlog
            obtain ⟨he, hid⟩ := View.find?_eq_some.mp hf
            cases hid
            refine ⟨_, hlog, iff_of_false (show ¬ 200 = 400 by decide) (by simp),
              iff_of_true rfl ⟨e, he, rfl⟩, fun e' he' hid => ?_, fun _ h => absurd rfl h⟩
            cases hf.symm.trans (View.find?_eq_some.mpr ⟨he', hid⟩)
            rfl
        | none =>
            rw [hf] at hlog
            have hno : ¬ ∃ e ∈ s.snapshot.view.logs, some id = some e.logId := by
              rintro ⟨e, he, hid⟩
              cases hf.symm.trans (View.find?_eq_some.mpr ⟨he, hid⟩)
            exact ⟨_, hlog, iff_of_false (show ¬ 404 = 400 by decide) (by simp),
              iff_of_false (show ¬ 404 = 200 by decide) hno,
              fun e he hid => absurd ⟨e, he, hid⟩ hno, fun _ _ => rfl⟩

/-- **Listing and looking up agree.** A store that can come about lists what it has published: the
entries of the index in order, one for each id. Both texts of an id that it lists are read as this
id. As long as no attempt is completed after that and none is begun, each listed log is found under
its digits, in letters of either case; of all names, those that write no bytes are refused, those
that write the id of a listed log are found, and the others are unknown and given back in small
letters. -/
theorem lookup_of_listing (hr : s.Reachable) (svc : Service) (i : Installed) (host : String) :
    (s.locked = false → (∀ now, s.beginsAt? .logs = some now → ∃ f u,
        s.finding = .value f ∧ s.news (Attempt.mk now f).snapshot = .value u) →
      ∃ r, (s.converse (svc.respond (some i) "GET" "/logs" host)).1 = .value r ∧
        r.status = 200) ∧
    ∀ r t, s.converse (svc.respond (some i) "GET" "/logs" host) = (.value r, t) → r.status = 200 →
      r = .record 200
          [("logs", .list (t.snapshot.view.logs.map fun e => .record (Endpoint.summary e)))] ∧
        (t.snapshot.view.logs.map Entry.logId).Nodup ∧
        (∀ e ∈ t.snapshot.view.logs, ∃ letters digits,
          Json.lastMember? "log_id" (Endpoint.summary e) = some (.text letters) ∧
          Json.lastMember? "log_id_hex" (Endpoint.summary e) = some (.text digits) ∧
          Published.base64 (.text letters) = .valid e.logId ∧
          Hex.decode? digits.toList = some e.logId) ∧
        ∀ vs, t.reloads vs = [] → ∀ w, ((t.visits vs).inWorld w).beginsAt? .logs = none →
          ∀ (svc' : Service) (i' : Installed) (host' : String),
            Endpoint.Tells t.snapshot.view.logs fun hex =>
              (((t.visits vs).inWorld w).converse
                (svc'.respond (some i') "GET" ("/logs/" ++ hex) host')).1 := by
  have hs := hr.isSound
  rw [respond_logs]
  refine ⟨fun hl hf => ?_, fun r t hrun hstatus => ?_⟩
  · obtain ⟨es, hes⟩ := Store.exists_answer hs hl hf
    exact ⟨_, congrArg Prod.fst (logs_of_answer hes), rfl⟩
  · obtain ⟨es, hes, -⟩ := Endpoint.exists_answer_of_ok (congrArg Prod.fst hrun) hstatus
    -- the store that answers has published what it lists
    obtain ⟨⟨n, checked, -, hchecked, -⟩, -⟩ :=
      Store.age_of_value hs rfl (hs.unlocked_of_value rfl hes) hes
    cases Store.answer_value hs.isCoherent hes
    cases hrun.symm.trans (logs_of_answer hes)
    refine ⟨rfl, View.nodup_logs _, fun e _ => Endpoint.exists_ids_of_summary e, ?_⟩
    intro vs hvs w hb svc' i' host'
    have hsnapshot := Store.snapshot_visits_of_no_reload (hs.answer .logs) hvs
    have hu := (hs.answer .logs).visits vs
    have htells := tells_of_checked (s := ((s.answer .logs).2.visits vs).inWorld w)
      ⟨hu.isCoherent, hu.unchecked⟩ (by rw [Store.snapshot_inWorld, hsnapshot]; exact hchecked)
      hb svc' i' host'
    rwa [Store.snapshot_inWorld, hsnapshot] at htells

/-- A log with an id of equal bytes and one text for all of its names. -/
def evenEntry (b : UInt8) (name : String) (hn : name ≠ "") : Entry where
  logId := List.replicate 32 b
  keyBytes := [b]
  publicKey := ⟨"key"⟩
  description := name
  url := name
  operator := name
  status := .usable
  since := 5
  interval := .unbounded
  mergeDelay := b.toNat
  keyBytes_ne_nil := List.cons_ne_nil b []
  length_logId := List.length_replicate
  description_ne_empty := hn
  url_ne_empty := hn
  operator_ne_empty := hn
  mergeDelay_nonneg := Int.natCast_nonneg b.toNat

/-- A log as it is listed first. -/
def firstEntry : Entry := evenEntry 0xab "first" (by decide)

/-- The same log as it is listed last. -/
def lastEntry : Entry := evenEntry 0xab "last" (by decide)

/-- Another log. -/
def otherEntry : Entry := evenEntry 0x12 "other" (by decide)

/-- A world with a list in which one log is listed twice, with another one in between. -/
def twiceWorld (readings : List Int) : World where
  source := .done (.success [1])
  parser := fun _ => .done (.success
    { version := "1", timestamp := 5,
      operators := [{ name := "o", logs := [firstEntry, otherEntry, lastEntry] }] })
  policy := fun _ => .done (.bool true)
  sink := Sink.silent
  clock := { pending := readings }

/-- The list is loaded at 7 for the listing, which shows the log as it is listed last, in its first
place. At 9 this log is found under capitals; `CD` with a blank behind it is an id that no log has,
and `zz` is none. -/
theorem lookup_of_listing_of_twiceWorld :
    (Store.newIn (twiceWorld [5, 7])).Reachable ∧ ∃ r t,
      (Store.newIn (twiceWorld [5, 7])).converse
        (respond {} (some briefly) "GET" "/logs" "http://localhost") = (.value r, t) ∧
      r = .record 200 [("logs", .list
        [.record (Endpoint.summary lastEntry), .record (Endpoint.summary otherEntry)])] ∧
      ((t.inWorld (twiceWorld [9])).converse (respond {} (some briefly) "GET"
        ("/logs/" ++ (Hex.encode lastEntry.logId).map Char.toUpper) "http://127.0.0.1")).1 =
          .value (.record 200 (Endpoint.summary lastEntry)) ∧
      ((t.inWorld (twiceWorld [9])).converse (respond {} (some briefly) "GET"
        ("/logs/" ++ "CD ") "http://127.0.0.1")).1 = .value
          { status := 404, body := .json (.record
            [("status", .text "unknown"), ("log_id_hex", .text "cd ")]) } ∧
      ∃ r', ((t.inWorld (twiceWorld [9])).converse (respond {} (some briefly) "GET"
        ("/logs/" ++ "zz") "http://127.0.0.1")).1 = .value r' ∧ r'.status = 400 := by
  have hr : (Store.newIn (twiceWorld [5, 7])).Reachable := .newIn _
  obtain ⟨hok, hagree⟩ := lookup_of_listing hr {} briefly "http://localhost"
  obtain ⟨r, hr1, hr200⟩ := hok rfl fun now _ => ⟨_, _, rfl, rfl⟩
  obtain ⟨hlist, -, -, htells⟩ := hagree r _ (Prod.ext hr1 rfl) hr200
  have hlogs : ((Store.newIn (twiceWorld [5, 7])).converse
      (respond {} (some briefly) "GET" "/logs" "http://localhost")).2.snapshot.view.logs =
        [lastEntry, otherEntry] := by
    rw [respond_logs]
    decide +kernel
  have hnone : (((Store.newIn (twiceWorld [5, 7])).converse
      (respond {} (some briefly) "GET" "/logs" "http://localhost")).2.inWorld
        (twiceWorld [9])).beginsAt? .logs = none := by
    rw [respond_logs]
    decide +kernel
  have hlater := htells [] rfl (twiceWorld [9]) hnone {} briefly "http://127.0.0.1"
  rw [hlogs] at hlist hlater
  obtain ⟨other, hother, hother400, hother200, -, hunknown⟩ :=
    hlater.named "CD " (by decide) (by decide)
  obtain ⟨letters, hletters, hletters400, -⟩ := hlater.named "zz" (by decide) (by decide)
  have hsmall : "CD ".map Char.toLower = "cd " := by decide +kernel
  have hfound := hunknown (hother400.not.mpr (by decide)) (hother200.not.mpr (by decide))
  rw [hsmall] at hfound
  refine ⟨hr, r, _, Prod.ext hr1 rfl, hlist, hlater.listed lastEntry (by simp) _ ?_,
    hother.trans (congrArg Ending.value hfound), letters, hletters, hletters400.mpr rfl⟩
  decide +kernel

end Service

end KnownLogs
