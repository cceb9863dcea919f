/-
The expiry dates that a log accepts:

* `Interval`: a half-open range of milliseconds, either end open, never empty;
* `Interval.build`: refuses two bounds between which there is nothing;
* `Interval.contains`: membership.
-/
import KnownLogs.Value

namespace KnownLogs

/-- A non-empty range of milliseconds: the start belongs to it, the stop does not,
and a bound that is absent leaves that end open. -/
structure Interval where
  start : Option Int := none
  stop : Option Int := none
  /-- There is something between the bounds. -/
  start_lt_stop : ∀ s ∈ start, ∀ e ∈ stop, s < e := by simp
deriving DecidableEq

namespace Interval

/-- Two bounds between which there is nothing. -/
structure Problem where
  start : Int
  stop : Int
deriving DecidableEq, Repr

/-- The wording of the refusal. -/
def Problem.message (p : Problem) : String :=
  s!"temporal interval is empty: start {p.start} >= end {p.stop}"

/-- The range without bounds. -/
def unbounded : Interval := {}

instance : Inhabited Interval := ⟨unbounded⟩

/-- The range between two bounds. -/
def build : Option Int → Option Int → Except Problem Interval
  | some s, some e => if h : s < e then .ok ⟨some s, some e, by simpa using h⟩ else .error ⟨s, e⟩
  | some s, none => .ok ⟨some s, none, by simp⟩
  | none, some e => .ok ⟨none, some e, by simp⟩
  | none, none => .ok unbounded

/-- Whether an instant belongs to the range. -/
def contains (i : Interval) (millis : Int) : Bool :=
  (i.start.all fun s => s ≤ millis) && (i.stop.all fun e => millis < e)

/-- A range as it is written inside other text. -/
def written (i : Interval) : String :=
  "TemporalInterval(start_inclusive=" ++ (Value.ofInt? i.start).written ++
    ", end_exclusive=" ++ (Value.ofInt? i.stop).written ++ ")"

end Interval

end KnownLogs
