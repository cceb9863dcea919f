/-
A log list:

* `Operator`: an organisation and the logs it runs;
* `Document`: a version, a time and the operators in order;
* `Document.index`: one entry for each id, in the place where the id first stands,
  and of several entries with one id the last;
* `Document.find?`, `Document.logs`, `Document.count`: the index as it is asked;
* `Document.repeats`: every entry whose id stood before, with its operator;
* `View`: a document or none, and the questions of its readers.
-/
import KnownLogs.Log.Entry

namespace KnownLogs

/-- An organisation and the logs it runs. -/
structure Operator where
  name : String
  emails : List String := []
  logs : List Entry := []
deriving DecidableEq

/-- A log list. -/
structure Document where
  version : String
  /-- When the list was published, in milliseconds. -/
  timestamp : Int
  operators : List Operator := []
deriving DecidableEq

namespace Document

/-! ### The entries in order -/

/-- The entries in order, each with the name of the operator that lists it. -/
def listings (d : Document) : List (String × Entry) :=
  d.operators.flatMap fun o => o.logs.map fun e => (o.name, e)

/-- Puts an entry in the place of the one with its id, or at the end. -/
def place (e : Entry) : List Entry → List Entry
  | [] => [e]
  | f :: rest => if f.logId = e.logId then e :: rest else f :: place e rest

/-! ### The index -/

/-- One entry for each id, in the place where the id first stands: of several
entries with one id the last. -/
def index (d : Document) : List Entry :=
  d.listings.foldl (fun ix l => place l.2 ix) []

/-- The entry with an id. -/
def find? (d : Document) (id : Bytes) : Option Entry :=
  d.index.find? fun e => e.logId == id

/-- The entries that can be found. -/
def logs (d : Document) : List Entry :=
  d.index

/-- The number of ids. -/
def count (d : Document) : Nat :=
  d.index.length

/-- The entries whose id stands in `before` or earlier among them, each with the
name that goes with it. -/
def repeatsAfter (before : List Bytes) : List (String × Entry) → List (String × Entry)
  | [] => []
  | l :: rest =>
    if before.contains l.2.logId then l :: repeatsAfter before rest
    else repeatsAfter (l.2.logId :: before) rest

/-- Every entry whose id stood before, with the operator that lists it. -/
def repeats (d : Document) : List (String × Entry) :=
  repeatsAfter [] d.listings

end Document

/-! ### Readers -/

/-- A log list as a reader sees it: without a document it has no logs. -/
structure View where
  document : Option Document
deriving DecidableEq

namespace View

/-- The entry with an id; an absent or empty id has none. -/
def find? (v : View) : Option Bytes → Option Entry
  | none | some [] => none
  | some id => v.document.bind fun d => d.find? id

/-- The entries that can be found, in order. -/
def logs (v : View) : List Entry :=
  (v.document.map Document.logs).getD []

/-- When the list was published. -/
def timestamp (v : View) : Option Int :=
  v.document.map Document.timestamp

end View

end KnownLogs
