/-
The file that holds the log list:

* `Path`: a root and the names below it;
* `Path.ofText`: a path without empty names and without names for the same
  directory; the name for the parent stays;
* `Path.text`: a path as it is shown;
* `Files.report`: what a read of the file gave, as an outcome and with an event;
* `Files.readLogList`: the read of a file in a tree.
-/
import KnownLogs.Files.Tree
import KnownLogs.Outcome.Basic

namespace KnownLogs

/-! ### Paths -/

/-- A root, empty for a relative path, and the names below it. -/
structure Path where
  root : String
  names : List String
deriving DecidableEq, Repr, Inhabited

namespace Path

/-- The root that slashes at the front of a text name: two slashes are a root of
their own, any other number is one. -/
def rootOf : List Char → String
  | '/' :: '/' :: '/' :: _ => "/"
  | '/' :: '/' :: _ => "//"
  | '/' :: _ => "/"
  | _ => ""

/-- The path that a text names. -/
def ofText (s : String) : Path :=
  { root := rootOf s.toList
    names := (Text.splitAt '/' s).filter fun n => n ≠ "" ∧ n ≠ "." }

/-- A path as it is shown. -/
def text (p : Path) : String :=
  if p.root = "" ∧ p.names = [] then "." else p.root ++ Text.join "/" p.names

end Path

/-! ### Reading the list -/

namespace Files

/-- What a read of the whole file at a path gave. -/
def report (path : Path) (found : Except Problem Bytes) : Call (Outcome Bytes) := do
  let found ← Outcome.capture .notFound ("Log list not readable at " ++ path.text)
    (.ofExcept .files (some <$> found))
  let found ← found.peek fun raw =>
    .log .debug "source.read" [("path", .text path.text), ("size_bytes", .int raw.length)]
  found.peekFailure fun f =>
    .log .warning "source.unreadable" [("path", .text path.text), ("error", .text f.cause)]

/-- Reads the whole file at a path of a tree. -/
def readLogList (path : Path) (t : Tree) : Call (Outcome Bytes) :=
  report path (t.read path.text)

end Files

end KnownLogs
