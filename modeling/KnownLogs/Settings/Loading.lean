/-
Loading the settings:

* `Settings.load`: the variables of the environment are laid over those of a file;
* `Settings.policyFor`, `Settings.createStore`: a policy and a store built from
  settings.
-/
import KnownLogs.LogList.Reading
import KnownLogs.Policy.Freshness
import KnownLogs.Settings.Basic
import KnownLogs.Settings.Variables
import KnownLogs.Store.Basic

namespace KnownLogs

/-- Where variables of the environment come from. -/
def environmentSource : String := "EnvSettingsSource"

/-- Where variables of a file come from. -/
def fileSource : String := "DotEnvSettingsSource"

/-- The policy as a store asks it, when the time of day is `now`. -/
def Policy.at (p : Policy) (now : Int) : CompliancePolicy := fun view =>
  (Dialogue.ofCall (p.judge now view)).bind fun verdict => .done (.bool verdict)

/-- The fault of a section whose text is of no use. -/
def Fault.ofSection : SectionProblem → Fault
  | .unreadable field source => .unreadableSection field source
  | .tooDeep container => .nestedTooDeep container

namespace Settings

/-- The settings that the environment and a file describe, the environment first. -/
def load (environment file : Variables) : Except Fault Settings := do
  let upper ← (environment.layer environmentSource).mapError Fault.ofSection
  let lower ← (file.layer fileSource).mapError Fault.ofSection
  match read (overlay upper lower) with
  | .valid s => return s
  | .invalid issues => throw (.form "settings" issues)

/-- The policy with the parameters of the settings. -/
def buildPolicy (s : Settings) : Except Fault Policy :=
  (Policy.build s.policy.toParameters).mapError .policy

/-- What a store reads from the world around it. -/
structure Surroundings where
  /-- What reading the file gives now. -/
  source : Call (Outcome Bytes)
  /-- The time of day, in milliseconds. -/
  now : Int
  clock : Clock

/-- The store that the settings describe. Without a sink of its own it reports every
state. -/
def createStore (s : Settings) (around : Surroundings) (sink : Option MetricsSink) :
    Except Fault Store := do
  let policy ← s.buildPolicy
  Store.build (some around.source) (some (LogList.parse KeyDecoder.standard))
    (some (policy.at around.now)) (some (sink.getD Sink.reporting)) around.clock
    s.location.millis

end Settings

end KnownLogs
