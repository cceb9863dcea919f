/-
The settings of the program:

* `LocationSettings`: where the log list lies and how often it may be read;
* `PolicySettings`: the parameters of the policy, with their bounds;
* `ScheduleSettings`: when the list is refreshed;
* `Settings`: all of them;
* `Settings.read`: settings from the members of a record.
-/
import KnownLogs.Cron
import KnownLogs.Files.Source
import KnownLogs.Policy.Parameters
import KnownLogs.Schema.Field

namespace KnownLogs

open Schema

/-! ### Sections -/

/-- Where the log list lies and how often it may be read. -/
structure LocationSettings where
  path : Path
  /-- The least time between two reads, in seconds. -/
  seconds : Int := 600
  one_le_seconds : 1 ≤ seconds := by decide
deriving DecidableEq

/-- The parameters of the policy. A certificate of longer life never needs fewer
timestamps than one of short life. -/
structure PolicySettings extends Policy.Parameters where
  one_le_maxAgeDays : 1 ≤ maxAgeDays := by decide
  one_le_minOperators : 1 ≤ minOperators := by decide
  one_le_shortLifeDays : 1 ≤ shortLifeDays := by decide
  one_le_shortLifeCount : 1 ≤ shortLifeCount := by decide
  one_le_longLifeCount : 1 ≤ longLifeCount := by decide
  shortLifeCount_le : shortLifeCount ≤ longLifeCount := by decide

/-- Settings with the same parameters are the same. -/
theorem PolicySettings.eq_of_parameters {a b : PolicySettings}
    (h : a.toParameters = b.toParameters) : a = b := by
  cases a
  cases b
  cases h
  rfl

instance : DecidableEq PolicySettings := fun a b =>
  decidable_of_iff (a.toParameters = b.toParameters)
    ⟨PolicySettings.eq_of_parameters, congrArg _⟩

/-- When the list is refreshed: the text of a schedule of five fields. -/
structure ScheduleSettings where
  cron : String := "*/10 * * * *"
deriving DecidableEq, Repr

/-- The settings of the program. -/
structure Settings where
  location : LocationSettings
  policy : PolicySettings := {}
  schedule : ScheduleSettings := {}
  runOnStartup : Bool := true
  /-- The name of the level from which on events are shown. -/
  logLevel : String := "INFO"
deriving DecidableEq

/-- The least time between two reads, in milliseconds. -/
def LocationSettings.millis (s : LocationSettings) : Int :=
  s.seconds * 1000

/-! ### Reading sections -/

/-- A path. -/
def Schema.path : Json → Validated Path
  | .text s => .valid (Path.ofText s)
  | .halved t => .valid (Path.ofText t.string)
  | _ => .issue .pathExpected

/-- The words for yes. -/
def Schema.yesWords : List String := ["1", "true", "t", "yes", "y", "on"]

/-- The words for no. -/
def Schema.noWords : List String := ["0", "false", "f", "no", "n", "off"]

/-- A yes or a no, as a truth value or a word in any case. -/
def Schema.yesOrNo : Json → Validated Bool
  | .bool b => .valid b
  | .text s =>
    let word := s.map Char.toLower
    if Schema.yesWords.contains word then .valid true
    else if Schema.noWords.contains word then .valid false
    else .issue .booleanUnreadable
  | .halved _ => .issue .textHalved
  | _ => .issue .booleanUnreadable

/-- The location by its members. -/
def LocationSettings.read (members : List (String × Json)) : Validated LocationSettings :=
  (required "path" Schema.path members).both
    (fun path (seconds : { i : Int // 1 ≤ i }) =>
      { path, seconds := seconds.val, one_le_seconds := seconds.property })
    (optional "reload_interval_seconds" (integerAtLeast 1) ⟨600, by decide⟩ members)

/-- Parameters that are all positive, or the rule about the counts of timestamps that
they break. -/
def PolicySettings.check (maxAgeDays minOperators shortLifeDays shortLifeCount
    longLifeCount : { i : Int // 1 ≤ i }) : Validated PolicySettings :=
  if h : shortLifeCount.val ≤ longLifeCount.val then
    .valid
      { maxAgeDays := maxAgeDays.val
        minOperators := minOperators.val
        shortLifeDays := shortLifeDays.val
        shortLifeCount := shortLifeCount.val
        longLifeCount := longLifeCount.val
        one_le_maxAgeDays := maxAgeDays.property
        one_le_minOperators := minOperators.property
        one_le_shortLifeDays := shortLifeDays.property
        one_le_shortLifeCount := shortLifeCount.property
        one_le_longLifeCount := longLifeCount.property
        shortLifeCount_le := h }
  else
    .issue <| .rule <|
      s!"long_lived_min_scts must be >= short_lived_min_scts ({longLifeCount.val} < {shortLifeCount.val})"

/-- The parameters of the policy by their members. -/
def PolicySettings.read (members : List (String × Json)) : Validated PolicySettings :=
  let checks :=
    PolicySettings.check
      <$> optional "max_log_list_age_days" (integerAtLeast 1) ⟨70, by decide⟩ members
      <*> optional "min_distinct_operators" (integerAtLeast 1) ⟨2, by decide⟩ members
      <*> optional "short_lived_max_days" (integerAtLeast 1) ⟨180, by decide⟩ members
      <*> optional "short_lived_min_scts" (integerAtLeast 1) ⟨2, by decide⟩ members
      <*> optional "long_lived_min_scts" (integerAtLeast 1) ⟨3, by decide⟩ members
  checks.andThen id

/-- The text of a schedule: five words. A refusal shows the text in quotes. -/
def Schema.fiveWords (s quoted : String) : Validated String :=
  match Cron.trimmed s with
  | .ok s => .valid s
  | .error count =>
    .issue <| .rule <|
      s!"Cron expression must have exactly 5 fields (minute hour dom month dow), got {count}: "
        ++ quoted

/-- The text of a schedule. -/
def Schema.schedule : Json → Validated String
  | .text s => fiveWords s (Text.quoted s)
  | .halved t => fiveWords t.string t.quoted
  | _ => .issue .textExpected

/-- The schedule by its members. -/
def ScheduleSettings.read (members : List (String × Json)) : Validated ScheduleSettings :=
  (optional "cron" Schema.schedule ({} : ScheduleSettings).cron members).map ScheduleSettings.mk

/-! ### Reading all settings -/

/-- Settings from the members of a record; members of other names are passed over. -/
def Settings.read (members : List (String × Json)) : Validated Settings :=
  Settings.mk
    <$> required "log_list" (record LocationSettings.read) members
    <*> optional "policy" (record PolicySettings.read) {} members
    <*> optional "scheduler" (record ScheduleSettings.read) {} members
    <*> optional "run_on_startup" Schema.yesOrNo true members
    <*> optional "log_level" text "INFO" members

end KnownLogs
