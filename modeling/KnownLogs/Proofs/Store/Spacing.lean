/-
How far apart attempts are:

* `Store.checkTimes`: the times that the last attempt takes, one after another;
* `Store.isChain_reloads`: completed attempts are an interval apart, whatever came of them;
* `Store.reloads_spaced`: **attempts are never closer than the interval**, and every call belongs
  to one of them.
-/
import KnownLogs.Proofs.Store.Calls

namespace KnownLogs

namespace Store

variable {s : Store}

/-! ### The times of attempts -/

/-- The times that the last attempt has had over visits: one for each visit that changes it. -/
def checkTimes (s : Store) : List Visit → List Int
  | [] => []
  | v :: rest =>
    (if (s.visit v).2.snapshot.checkedAt = s.snapshot.checkedAt then []
      else (s.visit v).2.snapshot.checkedAt.toList) ++ (s.visit v).2.checkTimes rest

/-- An attempt is decided an interval after the last one. -/
lemma interval_le_of_reload? {v : Visit} {r : World × Attempt} (hv : s.reload? v = some r)
    {t : Int} (ht : s.snapshot.checkedAt = some t) : s.interval ≤ r.2.now - t := by
  obtain ⟨a, ha, rfl⟩ := Option.map_eq_some_iff.mp hv
  have hdue := isDue_of_beginsAt? (attempt?_eq_some.mp ha).1
  rw [isDue, Snapshot.isDue, snapshot_inWorld, ht] at hdue
  exact of_decide_eq_true hdue

/-- A completed attempt always changes the time of the last one, since the interval is positive. -/
lemma checkedAt_ne_of_reload? {v : Visit} {r : World × Attempt} (hv : s.reload? v = some r) :
    s.snapshot.checkedAt ≠ some r.2.now := by
  intro ht
  have hle := interval_le_of_reload? hv ht
  have hpos := s.interval_pos
  omega

/-- The times of the last attempt are those on which the completed attempts were decided. -/
lemma checkTimes_eq (hs : s.IsSound) (vs : List Visit) :
    s.checkTimes vs = (s.reloads vs).map fun r => r.2.now := by
  induction vs generalizing s with
  | nil => rfl
  | cons v vs ih =>
      rw [checkTimes, ih (hs.visit v), reloads, List.map_append, snapshot_visit hs v]
      cases hv : s.reload? v with
      | none => simp
      | some r =>
          have hne : ¬ some r.2.now = s.snapshot.checkedAt := fun h =>
            checkedAt_ne_of_reload? hv h.symm
          simp [r.2.checkedAt_snapshot, hne]

/-- **Completed attempts are an interval apart**, whatever came of them. -/
theorem isChain_reloads (hs : s.IsSound) (vs : List Visit) :
    (s.snapshot.checkedAt.toList ++ (s.reloads vs).map fun r => r.2.now).IsChain
      fun t u => s.interval ≤ u - t := by
  -- by induction on the visits: the time of the last attempt stands in front of the times to come
  induction vs generalizing s with
  | nil => cases s.snapshot.checkedAt <;> simp [reloads]
  | cons v vs ih =>
      have hrest := ih (hs.visit v)
      rw [interval_visit hs v, snapshot_visit hs v] at hrest
      rw [reloads]
      cases hv : s.reload? v with
      | none => simpa [hv] using hrest
      | some r =>
          rw [hv, Option.map_some, Option.getD_some, r.2.checkedAt_snapshot] at hrest
          cases hc : s.snapshot.checkedAt with
          | none => exact hrest
          | some t => exact List.isChain_cons_cons.mpr ⟨interval_le_of_reload? hv hc, hrest⟩

/-- Times that are an interval apart take that long together. -/
lemma length_mul_le {i t u : Int} {ts : List Int}
    (h : (t :: ts).IsChain fun t u => i ≤ u - t) (hu : (t :: ts).getLast? = some u) :
    (ts.length : Int) * i ≤ u - t := by
  induction ts generalizing t with
  | nil =>
      have : t = u := by simpa using hu
      simp [this]
  | cons v vs ih =>
      obtain ⟨hv, hrest⟩ := List.isChain_cons_cons.mp h
      have hsum : (vs.length : Int) * i ≤ u - v := ih hrest (by simpa using hu)
      calc ((v :: vs).length : Int) * i
          = vs.length * i + i := by
            rw [List.length_cons, Int.natCast_succ, Int.add_mul, Int.one_mul]
        _ ≤ (u - v) + (v - t) := by omega
        _ = u - t := by omega

variable {source : Option (Call (Outcome Bytes))}
  {parser : Option (Bytes → Call (Outcome Document))} {policy : Option CompliancePolicy}
  {sink : Option MetricsSink} {clock : Clock} {interval : Int}

/-- **Attempts are never closer than the interval**, whatever the clock tells and whatever came
of the one before: the times that the last attempt takes are those of the completed attempts and
an interval apart, so `k` of them take `k - 1` intervals. If no attempt is broken off, the source is
read once for each of them, the parser called once for each that has bytes, and the policy asked
once for each that has a document. -/
theorem reloads_spaced
    (h : Store.build source parser policy sink clock interval = .ok s) (vs : List Visit) :
    (s.checkTimes vs).IsChain (fun t u => interval ≤ u - t) ∧
      (∀ t u, (s.checkTimes vs).head? = some t → (s.checkTimes vs).getLast? = some u →
        (((s.checkTimes vs).length : Int) - 1) * interval ≤ u - t) ∧
      s.checkTimes vs = (s.reloads vs).map (fun r => r.2.now) ∧
      (s.Unbroken vs → (∀ v ∈ vs, v.world.TellsNoCall) →
        (s.visits vs).readCount = (s.checkTimes vs).length ∧
          (s.visits vs).parseCount = (s.reloads vs).countP (fun r => r.1.bytes?.isSome) ∧
          (s.visits vs).parseCount ≤ (s.checkTimes vs).length ∧
          (s.visits vs).judgeCount = (s.reloads vs).countP fun r => r.1.document?.isSome) := by
  obtain ⟨hi, -, hj, rfl⟩ := build_fresh h
  have hs : s.IsSound := (Reachable.built h).isSound
  have htimes := checkTimes_eq hs vs
  have hlength : (s.checkTimes vs).length = (s.reloads vs).length := by
    rw [htimes, List.length_map]
  -- the check times are those of the attempts, which are spaced
  have hchain : (s.checkTimes vs).IsChain fun t u => s.interval ≤ u - t := by
    have hc := isChain_reloads hs vs
    rw [hi] at hc
    rw [htimes]
    exact hc
  refine ⟨hchain, fun t u ht hu => ?_, htimes, fun hn hw => ?_⟩
  · obtain ⟨ts, hts⟩ := List.head?_eq_some_iff.mp ht
    rw [hts] at hchain hu ⊢
    have hspan := length_mul_le hchain hu
    rw [List.length_cons]
    simpa using hspan
  · -- the calls are counted by their marks, attempt by attempt
    have hparses : (s.visits vs).parseCount =
        (s.reloads vs).countP fun r => r.1.bytes?.isSome := by
      rw [parseCount, countP_visits hs hw hn (fun m hm => by simp [Mark.isCall, hm])
        countP_isParsed_calls, hj, List.countP_nil, Nat.zero_add]
    refine ⟨?_, hparses, ?_, ?_⟩
    · rw [readCount_visits hs hw hn, readCount, hj, hlength, List.filter_nil, List.length_nil,
        Nat.zero_add]
    · rw [hparses, hlength]
      exact List.countP_le_length
    · rw [judgeCount, countP_visits hs hw hn (fun m hm => by simp [Mark.isCall, hm])
        countP_isJudged_calls, hj, List.countP_nil, Nat.zero_add]

/-- A world whose source gives something, whose parser makes a document of one byte string only,
and whose clock gives some readings. -/
def hourlyWorld (given : Outcome Bytes) (readings : List Int) : World where
  source := .done given
  parser := fun raw =>
    .done (if raw = [1] then .success { version := "1", timestamp := 5 }
      else .failure { code := .parse, message := "no list" })
  policy := fun _ => .done (.bool true)
  sink := Sink.silent
  clock := { pending := readings }

/-- A store that stood in such a world when it was built. -/
def hourlyStore : Store :=
  newIn (hourlyWorld (.success [1]) [])

/-- A list is loaded at 7; at 16 nothing is due, at 17 the source fails; the clock is put back,
then falls between its two readings; at 27 the bytes are no list, and at 40 they are one again. -/
def hourlyVisits : List Visit :=
  [⟨hourlyWorld (.success [1]) [5, 7], .state⟩, ⟨hourlyWorld (.success [1]) [16], .logs⟩,
   ⟨hourlyWorld (.failure { code := .notFound, message := "no file" }) [17, 17], .timestamp⟩,
   ⟨hourlyWorld (.success [1]) [3], .state⟩, ⟨hourlyWorld (.success [2]) [30, 26], .state⟩,
   ⟨hourlyWorld (.success [2]) [30, 27], .find (some [0])⟩,
   ⟨hourlyWorld (.success [1]) [38, 40], .lastChecked⟩,
   ⟨hourlyWorld (.success [1]) [38, 40], .state⟩]

/-- Of these visits four make an attempt, and three of the attempts call the parser. -/
theorem reloads_spaced_of_hourlyVisits :
    (∃ source parser policy sink clock,
      Store.build source parser policy sink clock briefInterval = .ok hourlyStore) ∧
      (∀ v ∈ hourlyVisits, v.world.TellsNoCall) ∧ hourlyStore.Unbroken hourlyVisits ∧
      hourlyStore.checkTimes hourlyVisits = [7, 17, 27, 40] ∧
      (hourlyStore.visits hourlyVisits).readCount = 4 ∧
      (hourlyStore.visits hourlyVisits).parseCount = 3 ∧
      (hourlyStore.visits hourlyVisits).judgeCount = 2 ∧ 3 * briefInterval ≤ 40 - 7 := by
  have h : Store.build _ _ _ _ _ briefInterval = .ok hourlyStore := build_newIn _
  have hsilent : ∀ given readings, (hourlyWorld given readings).TellsNoCall := fun _ _ =>
    ⟨by simp [hourlyWorld, Call.done], by simp [hourlyWorld, Call.done],
      by simp [hourlyWorld, Dialogue.marks], by simp [hourlyWorld, Sink.silent, Dialogue.marks]⟩
  have hw : ∀ v ∈ hourlyVisits, v.world.TellsNoCall := by
    simp [hourlyVisits, hsilent]
  have hn : hourlyStore.Unbroken hourlyVisits :=
    ⟨.inl ⟨_, rfl⟩, .inl ⟨_, rfl⟩, .inl ⟨_, rfl⟩, .inl ⟨_, rfl⟩, .inl ⟨_, rfl⟩, .inl ⟨_, rfl⟩,
      .inl ⟨_, rfl⟩, .inl ⟨_, rfl⟩, trivial⟩
  obtain ⟨-, hspan, htimes, hcounts⟩ := reloads_spaced h hourlyVisits
  obtain ⟨hreads, hparses, -, hjudged⟩ := hcounts hn hw
  have hfour : hourlyStore.checkTimes hourlyVisits = [7, 17, 27, 40] :=
    htimes.trans (by decide +kernel)
  rw [hfour] at hspan hreads
  exact ⟨⟨_, _, _, _, _, h⟩, hw, hn, hfour, hreads, hparses.trans (by decide +kernel),
    hjudged.trans (by decide +kernel), hspan 7 40 rfl rfl⟩

end Store

end KnownLogs
