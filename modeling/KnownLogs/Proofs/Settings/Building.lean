/-
What can be built from settings that have been accepted:

* `PolicySettings.build_eq`: of the checks of a policy, the settings leave one open: the limit of a
  short life may be too many days;
* `LocationSettings.millis_pos`: the interval of a store is positive;
* `Settings.createStore_eq`: a store built from settings;
* `Launch.ending_of_unloaded`, `Launch.ending_of_unbuilt`, `Launch.begins_of_built`: what the
  program does with settings that cannot be loaded, that nothing can be built from, and all
  others;
* `Settings.createStore_accepted`: **a store can be built from accepted settings exactly if the
  limit of a short life is a length of time**;
* `Settings.createStore_refused`: settings that are accepted though it is none.
-/
import KnownLogs.Launch
import KnownLogs.Proofs.Policy.Lifetime
import KnownLogs.Proofs.Store.Consultation

namespace KnownLogs

/-! ### Policies and stores -/

namespace PolicySettings

/-- A limit of a short life that is accepted is not too many days into the past. -/
lemma neg_mostDays_le (s : PolicySettings) : -Policy.mostDays ≤ s.shortLifeDays := by
  have hmost : 0 ≤ Policy.mostDays := by decide
  have hone := s.one_le_shortLifeDays
  omega

/-- The policy of settings whose limit of a short life is a length of time. -/
def policy (s : PolicySettings) (h : s.shortLifeDays ≤ Policy.mostDays) : Policy :=
  { s.toParameters with
    one_le_maxAgeDays := s.one_le_maxAgeDays
    one_le_minOperators := s.one_le_minOperators
    neg_mostDays_le := s.neg_mostDays_le
    le_mostDays := h }

/-- **Of the checks of a policy, accepted settings fail at most the one of the limit of a short
life.** -/
lemma build_eq (s : PolicySettings) :
    Policy.build s.toParameters =
      if h : s.shortLifeDays ≤ Policy.mostDays then .ok (s.policy h)
      else .error (.lifeTooLong s.shortLifeDays) := by
  split_ifs with h
  · exact Policy.build_ok.mpr rfl
  · have hage : ¬ s.maxAgeDays < 1 := Int.not_lt.mpr s.one_le_maxAgeDays
    have hoperators : ¬ s.minOperators < 1 := Int.not_lt.mpr s.one_le_minOperators
    rw [Policy.build, dif_neg hage, dif_neg hoperators, dif_neg fun hdays => h hdays.2]

end PolicySettings

/-- The interval that settings give a store is positive. -/
lemma LocationSettings.millis_pos (s : LocationSettings) : 0 < s.millis := by
  have hone := s.one_le_seconds
  rw [LocationSettings.millis]
  omega

namespace Settings

/-- The store that accepted settings describe. -/
def store (s : Settings) (p : Policy) (around : Surroundings) (sink : Option MetricsSink) :
    Store where
  source := around.source
  parser := LogList.parse KeyDecoder.standard
  policy := p.at around.now
  sink := sink.getD Sink.reporting
  clock := around.clock
  interval := s.location.millis
  interval_pos := s.location.millis_pos

/-- What is built from settings is the store that they describe, unless their policy is refused. -/
lemma createStore_eq (s : Settings) (around : Surroundings) (sink : Option MetricsSink) :
    s.createStore around sink =
      if h : s.policy.shortLifeDays ≤ Policy.mostDays then
        .ok (s.store (s.policy.policy h) around sink)
      else .error (.policy (.lifeTooLong s.policy.shortLifeDays)) := by
  rw [createStore, buildPolicy, PolicySettings.build_eq]
  split_ifs with h
  · exact dif_pos s.location.millis_pos
  · rfl

end Settings

/-! ### The start of the program -/

namespace Dialogue

variable {I : Interface} {α : Type} {answer : (q : I.Question) → Ending (I.Answer q)}
  {q : I.Question} {a : I.Answer q}

/-- A dialogue goes on with the answer to its question. -/
lemma ending_pose_bind (h : answer q = .value a) (g : I.Answer q → Dialogue I α) :
    ((pose q).bind g).ending answer = (g a).ending answer := by
  simp [pose, bind, ending, h]

/-- The marks of a dialogue that starts with a question are those that follow the answer. -/
lemma marks_pose_bind (h : answer q = .value a) (g : I.Answer q → Dialogue I α) :
    ((pose q).bind g).marks answer = (g a).marks answer := by
  simp [pose, bind, marks, h]

end Dialogue

namespace Launch

variable {answer : (q : launchSteps.Question) → Ending (launchSteps.Answer q)}
  {around : Settings.Surroundings}

/-- Settings that cannot be loaded end the program with a number that tells of a fault, before it
tells of its start. -/
lemma ending_of_unloaded {f : Fault}
    (hcomplain : answer (.complain (complaint ++ f.message)) = .value ()) :
    (program (.error f) around).ending answer = .fault (.exit [.int 1]) ∧
      (program (.error f) around).marks answer = [] :=
  ⟨Dialogue.ending_pose_bind hcomplain _, Dialogue.marks_pose_bind hcomplain _⟩

/-- Settings that no store can be built from end the program with the fault of building it, when it
has told of its start. -/
lemma ending_of_unbuilt {s : Settings} {f : Fault} (h : s.createStore around none = .error f)
    (hshow : answer (.showFrom s.logLevel) = .value ()) :
    (program (.ok s) around).ending answer = .fault f ∧
      (program (.ok s) around).marks answer = [starting s] := by
  have hrest : program (.ok s) around =
      (Dialogue.pose (I := launchSteps) (.showFrom s.logLevel)).bind fun _ =>
        .note (starting s) (.fail f) := by
    rw [program, serve, h]
    rfl
  rw [hrest]
  exact ⟨Dialogue.ending_pose_bind hshow _, Dialogue.marks_pose_bind hshow _⟩

end Launch

/-! ### Accepted settings -/

namespace Settings

/-- **A store can be built from accepted settings exactly if the limit of a short life is a length
of time**; it reads the list, judges it and waits between attempts as the settings say. Any other
limit is refused only when the policy is built, by which time the program has told of its start.
Settings that cannot be loaded end it before, with a number that tells of a fault. -/
theorem createStore_accepted (s : Settings) (around : Surroundings) (sink : Option MetricsSink) :
    (s.policy.shortLifeDays ≤ Policy.mostDays →
      ∃ (p : Policy) (store : Store), s.createStore around sink = .ok store ∧
        p.toParameters = s.policy.toParameters ∧ store.policy = p.at around.now ∧
        store.source = around.source ∧ store.parser = LogList.parse KeyDecoder.standard ∧
        store.sink = sink.getD Sink.reporting ∧ store.clock = around.clock ∧
        store.interval = s.location.millis ∧ store.snapshot = .initial) ∧
    (Policy.mostDays < s.policy.shortLifeDays →
      s.createStore around sink = .error (.policy (.lifeTooLong s.policy.shortLifeDays)) ∧
      ∀ answer : (q : launchSteps.Question) → Ending (launchSteps.Answer q),
        answer (.showFrom s.logLevel) = .value () →
        (Launch.program (.ok s) around).ending answer =
            .fault (.policy (.lifeTooLong s.policy.shortLifeDays)) ∧
          (Launch.program (.ok s) around).marks answer = [Launch.starting s]) ∧
    ∀ (f : Fault) (answer : (q : launchSteps.Question) → Ending (launchSteps.Answer q)),
      answer (.complain (Launch.complaint ++ f.message)) = .value () →
      (Launch.program (.error f) around).ending answer = .fault (.exit [.int 1]) ∧
        (Launch.program (.error f) around).marks answer = [] := by
  -- the policy is the only part that can be refused
  refine ⟨fun hdays => ?_, fun hdays => ?_, fun f answer hcomplain =>
    Launch.ending_of_unloaded hcomplain⟩
  · refine ⟨s.policy.policy hdays, s.store (s.policy.policy hdays) around sink, ?_,
      rfl, rfl, rfl, rfl, rfl, rfl, rfl, rfl⟩
    rw [createStore_eq, dif_pos hdays]
  · have hrefused : ∀ sink, s.createStore around sink =
        .error (.policy (.lifeTooLong s.policy.shortLifeDays)) := fun sink => by
      rw [createStore_eq, dif_neg (Int.not_le.mpr hdays)]
    exact ⟨hrefused sink, fun answer hshow => Launch.ending_of_unbuilt (hrefused none) hshow⟩

/-- An answer to every step of the start. -/
def obliging (_ : launchSteps.Question) : Ending Unit := .value ()

/-- Surroundings without a list. -/
def bareSurroundings : Surroundings where
  source := .done (.failure { code := .notFound, message := "no file" })
  now := 7
  clock := {}

/-- With the longest length of time as a limit a store is built. With one day more its policy is
refused, and so the program ends; settings that lack the place of the list end it as well, before it
has told of its start. -/
theorem createStore_accepted_of_limits :
    (∃ longest : Settings, longest.policy.shortLifeDays = 999999999 ∧
      longest.policy.shortLifeDays ≤ Policy.mostDays ∧
      ∃ (p : Policy) (store : Store), longest.createStore bareSurroundings none = .ok store ∧
        p.shortLifeDays = 999999999 ∧ store.policy = p.at 7 ∧ store.interval = 600000) ∧
      (∃ tooLong : Settings, Policy.mostDays < tooLong.policy.shortLifeDays ∧
        tooLong.createStore bareSurroundings (some Sink.recording) =
          .error (.policy (.lifeTooLong 1000000000)) ∧
        obliging (.showFrom tooLong.logLevel) = .value () ∧
        (Launch.program (.ok tooLong) bareSurroundings).ending obliging =
          .fault (.policy (.lifeTooLong 1000000000))) ∧
      (Launch.program (.error (.form "settings" [⟨.missing, [.member "log_list"]⟩]))
        bareSurroundings).ending obliging = .fault (.exit [.int 1]) := by
  obtain ⟨longest, hdays, hmillis⟩ :
      ∃ s : Settings, s.policy.shortLifeDays = 999999999 ∧ s.location.millis = 600000 :=
    ⟨{ location := { path := Path.ofText "x" }, policy := { shortLifeDays := 999999999 } },
      rfl, rfl⟩
  obtain ⟨tooLong, hlong⟩ : ∃ s : Settings, s.policy.shortLifeDays = 1000000000 :=
    ⟨{ location := { path := Path.ofText "x" }, policy := { shortLifeDays := 1000000000 } }, rfl⟩
  have hmost : longest.policy.shortLifeDays ≤ Policy.mostDays := by
    rw [hdays]
    decide
  have hmore : Policy.mostDays < tooLong.policy.shortLifeDays := by
    rw [hlong]
    decide
  obtain ⟨hbuilt, -, -⟩ := createStore_accepted longest bareSurroundings none
  obtain ⟨-, hrefused, hunloaded⟩ :=
    createStore_accepted tooLong bareSurroundings (some Sink.recording)
  obtain ⟨p, store, hstore, hp, hpolicy, -, -, -, -, hinterval, -⟩ := hbuilt hmost
  obtain ⟨hfault, hending⟩ := hrefused hmore
  rw [hlong] at hfault hending
  exact ⟨⟨longest, hdays, hmost, p, store, hstore,
      (congrArg Policy.Parameters.shortLifeDays hp).trans hdays, hpolicy,
      hinterval.trans hmillis⟩,
    ⟨tooLong, hmore, hfault, rfl, (hending obliging rfl).1⟩, (hunloaded _ obliging rfl).1⟩

/-- Variables with a limit of a short life that is no length of time. -/
def vastEnvironment : List (String × String) :=
  [("LOG_LIST__PATH", "x"), ("POLICY__SHORT_LIVED_MAX_DAYS", "1000000000")]

/-- **Settings that are accepted though no store can be built from them.** A limit of a thousand
million days passes every check of the settings; then the policy is refused, and the program, which
has told of its start, ends with this fault. -/
theorem createStore_refused :
    ∃ s, load (.ofEnvironment vastEnvironment) [] = .ok s ∧
      (∀ around sink store, s.createStore around sink ≠ .ok store) ∧
      ∀ around, (Launch.program (load (.ofEnvironment vastEnvironment) []) around).ending obliging =
          .fault (.policy (.lifeTooLong 1000000000)) ∧
        (Launch.program (load (.ofEnvironment vastEnvironment) []) around).marks obliging =
          [Launch.starting s] := by
  obtain ⟨s, hloaded, hdays⟩ : ∃ s, load (.ofEnvironment vastEnvironment) [] = .ok s ∧
      s.policy.shortLifeDays = 1000000000 := by
    have hread : (load (.ofEnvironment vastEnvironment) []).toOption.map
        (·.policy.shortLifeDays) = some 1000000000 := by decide +kernel
    cases h : load (.ofEnvironment vastEnvironment) [] with
    | ok s =>
        rw [h] at hread
        exact ⟨s, rfl, Option.some.inj hread⟩
    | error f =>
        rw [h] at hread
        cases hread
  have hlong : ¬ s.policy.shortLifeDays ≤ Policy.mostDays := by
    rw [hdays]
    decide
  -- the length of a short life is checked nowhere but in the policy
  have hrefused : ∀ around sink, s.createStore around sink =
      .error (.policy (.lifeTooLong 1000000000)) := fun around sink => by
    rw [createStore_eq, dif_neg hlong, hdays]
  refine ⟨s, hloaded, fun around sink store h => ?_, fun around => ?_⟩
  · cases (hrefused around sink).symm.trans h
  · rw [hloaded]
    exact Launch.ending_of_unbuilt (hrefused around none) rfl

end Settings

end KnownLogs
