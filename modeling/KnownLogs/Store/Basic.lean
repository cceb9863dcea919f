/-
The store of known logs:

* `Clock`: readings that are fixed beforehand, and steady ones after them;
* `Sink.recording`, `Sink.reporting`, `Sink.silent`: sinks, which are told about each change
  of state;
* `Store`: the collaborators, the published snapshot, the lock of the gate and the
  marks left so far;
* `Store.build`: a store over its collaborators, all of which must be there;
* `Store.readClock`, `Store.isDue`: whether an attempt to load the list is due;
* `Store.currentDuring`, `Store.runDuring`: the gate, and whole dialogues, while an
  attempt is going on.
-/
import KnownLogs.Outcome.Basic
import KnownLogs.Store.Query

namespace KnownLogs

/-! ### Collaborators -/

/-- A clock: the readings fixed beforehand, then a time that grows by `step` with
every reading. -/
structure Clock where
  pending : List Int := []
  now : Int := 0
  step : Int := 0
deriving DecidableEq, Repr

/-- One reading. The last of the fixed readings stays. -/
def Clock.read (c : Clock) : Int × Clock :=
  match c.pending with
  | t :: rest => (t, { c with pending := rest, now := if rest = [] then t else c.now })
  | [] => (c.now, { c with now := c.now + c.step })

/-- Asked about a new log list before it is published; may put questions to the store.
Its verdict may be any value, and counts as a yes or a no. -/
abbrev CompliancePolicy := View → Dialogue storeQueries Json

/-- Told about each change of state after it is published; may put questions to the
store. -/
abbrev MetricsSink := Dialogue storeQueries Unit

namespace Sink

/-- Remembers the state. -/
def recording : MetricsSink := do
  let state ← Dialogue.pose (I := storeQueries) .state
  .note (.recorded state) (.done ())

/-- Reports the state, the number of logs and the time of the list. -/
def reporting : MetricsSink := do
  let state ← Dialogue.pose (I := storeQueries) .state
  let logs ← Dialogue.pose (I := storeQueries) .logs
  let timestamp ← Dialogue.pose (I := storeQueries) .timestamp
  Dialogue.log .info "metrics.log_list_state_changed"
    [("state", .text (StoreState.text state)), ("logs", .int (List.length logs)),
     ("log_list_timestamp", match timestamp with | some t => .int t | none => .null)]

/-- What the sink that reports every state is called. -/
def reportingName : String := "StructlogMetricsSink"

/-- What the sink that does nothing is called. -/
def silentName : String := "NoOpMetricsSink"

/-- Does nothing. -/
def silent : MetricsSink := .done ()

end Sink

/-! ### The store -/

/-- The store of known logs. -/
structure Store where
  /-- What reading the source gives now. -/
  source : Call (Outcome Bytes)
  parser : Bytes → Call (Outcome Document)
  policy : CompliancePolicy
  sink : MetricsSink
  clock : Clock
  /-- The least time between two attempts, in milliseconds. -/
  interval : Int
  snapshot : Snapshot := .initial
  /-- Whether an attempt is going on. -/
  locked : Bool := false
  /-- The marks left so far. -/
  journal : List Mark := []
  interval_pos : 0 < interval

namespace Store

/-! ### Building -/

/-- Ten minutes. -/
def standardInterval : Int := 10 * 60 * 1000

/-- A store over its collaborators. -/
def build (source : Option (Call (Outcome Bytes)))
    (parser : Option (Bytes → Call (Outcome Document))) (policy : Option CompliancePolicy)
    (sink : Option MetricsSink) (clock : Clock) (interval : Int := standardInterval) :
    Except Fault Store :=
  match source, parser, policy, sink with
  | none, _, _, _ => .error (.lacking "source")
  | _, none, _, _ => .error (.lacking "parser")
  | _, _, none, _ => .error (.lacking "policy")
  | _, _, _, none => .error (.lacking "metrics")
  | some source, some parser, some policy, some sink =>
    if h : 0 < interval then
      .ok { source, parser, policy, sink, clock, interval, interval_pos := h }
    else .error (.intervalNotPositive interval)

/-! ### Small steps -/

/-- Keeps a mark. -/
def keep (m : Mark) (s : Store) : Store :=
  { s with journal := s.journal ++ [m] }

/-- Keeps the marks of a computation. -/
def keepAll (ms : List Mark) (s : Store) : Store :=
  { s with journal := s.journal ++ ms }

/-- Keeps an event. -/
def log (s : Store) (level : Level) (name : String) (fields : List (String × Json)) : Store :=
  s.keep (.ofEvent level name fields)

/-- The states that a sink has kept. -/
def recorded (s : Store) : List StoreState :=
  s.journal.filterMap Mark.state?

/-- How often the source has been read. -/
def readCount (s : Store) : Nat :=
  (s.journal.filter Mark.isRead).length

/-- The events so far. -/
def events (s : Store) : List Event :=
  s.journal.filterMap Mark.event?

/-- Takes a reading of the clock. -/
def readClock (s : Store) : Int × Store :=
  (s.clock.read.1, { s with clock := s.clock.read.2 })

/-- Whether an attempt is due at a time. -/
def isDue (s : Store) (now : Int) : Bool :=
  s.snapshot.isDue s.interval now

/-! ### While an attempt is going on -/

/-- The gate while an attempt is going on: a question is answered from the published
snapshot, due or not, and waits only where nothing has been published yet. -/
def currentDuring (s : Store) : Ending Snapshot × Store :=
  let (now, s) := s.readClock
  if s.isDue now && s.snapshot.state == .uninitialized then (.blocked, s)
  else (.value s.snapshot, s)

/-- The answer to a question while an attempt is going on. -/
def answerDuring (q : Query) (s : Store) : Ending q.Answer × Store :=
  if q.isGated then
    let (found, s) := s.currentDuring
    (found.map fun snapshot => q.answer snapshot, s)
  else (.value (q.answer s.snapshot), s)

/-- Who answers while an attempt is going on. -/
def during : Handler storeQueries Store where
  keep := keep
  answer := answerDuring

/-- Carries out a dialogue of a collaborator while an attempt is going on. -/
def runDuring {α : Type} (x : Dialogue storeQueries α) (s : Store) : Ending α × Store :=
  x.run during s

end Store

end KnownLogs
