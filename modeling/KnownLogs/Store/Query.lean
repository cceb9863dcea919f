/-
The questions that a store answers:

* `Snapshot`: the outcome of one attempt to load the log list;
* `Snapshot.isDue`: whether the next attempt is due;
* `Query`: the questions, with the kind of answer of each;
* `Query.isGated`: whether a question may cause an attempt;
* `Query.answer`: the answer that a snapshot gives.
-/
import KnownLogs.Dialogue
import KnownLogs.Log.Document

namespace KnownLogs

/-- The outcome of one attempt to load the log list. -/
structure Snapshot where
  state : StoreState
  document : Option Document := none
  /-- The clock reading on which the attempt was decided. -/
  checkedAt : Option Int := none
  /-- The digest of the bytes that were read. -/
  digest : Option Bytes := none
deriving DecidableEq

namespace Snapshot

/-- Before any attempt. -/
def initial : Snapshot := { state := .uninitialized }

/-- The log list of a snapshot, for its readers. -/
def view (s : Snapshot) : View := ⟨s.document⟩

/-- Whether an attempt is due at a time: there has been none, or the interval has passed
since the last one. -/
def isDue (interval now : Int) (s : Snapshot) : Bool :=
  match s.checkedAt with
  | none => true
  | some t => decide (interval ≤ now - t)

end Snapshot

/-- The questions that a store answers. -/
inductive Query where
  | state
  | find (id : Option Bytes)
  | logs
  | timestamp
  | lastChecked
deriving DecidableEq, Repr

namespace Query

/-- The kind of answer to a question. -/
def Answer : Query → Type
  | state => StoreState
  | find _ => Option Entry
  | logs => List Entry
  | timestamp => Option Int
  | lastChecked => Option Int

/-- Whether a question passes the gate, where it may cause an attempt. The time of the
last attempt is told as it is, and an absent or empty id has no entry whatever the list
says. -/
def isGated : Query → Bool
  | find none | find (some []) | lastChecked => false
  | _ => true

/-- The answer that a snapshot gives. -/
def answer (s : Snapshot) : (q : Query) → q.Answer
  | state => s.state
  | find id => s.view.find? id
  | logs => s.view.logs
  | timestamp => s.view.timestamp
  | lastChecked => s.checkedAt

end Query

/-- The questions that a store answers, as an interface. -/
def storeQueries : Interface where
  Question := Query
  Answer := Query.Answer

end KnownLogs
