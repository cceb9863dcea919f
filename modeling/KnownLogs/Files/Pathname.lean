/-
Paths as they are written, which the system follows name by name:

* `Pathname`: where a path starts, its names, and whether a slash stands behind them;
* `Pathname.ofText`, `Pathname.steps`: the names of a text, and the names to follow;
* `Pathname.cut`: a path cut in front of its last name, as far as programs do.
-/
import KnownLogs.Bytes.Utf8
import KnownLogs.Files.Problem
import KnownLogs.Text.Basic

namespace KnownLogs

open Files

/-- A path as it is written. Empty names do not count, while the names for the same
directory and for the one around it do. -/
structure Pathname where
  /-- Whether the path starts at the root. -/
  absolute : Bool
  names : List String
  /-- Whether a slash stands behind the last name, which must be a directory then. -/
  closed : Bool
deriving DecidableEq, Repr

namespace Pathname

/-- The longest name, in bytes. -/
def longestName : Nat := 255

/-- The longest path, in bytes. -/
def longest : Nat := 4095

/-- The path that a text names. -/
def ofText (s : String) : Pathname :=
  { absolute := s.toList.head? = some '/'
    names := (Text.splitAt '/' s).filter (· ≠ "")
    closed := s.toList.getLast? = some '/' }

/-- The names to follow. What stands in front of a slash is a directory, so that the
name for the same directory may be added. -/
def steps (p : Pathname) : List String :=
  if p.closed then p.names ++ ["."] else p.names

/-- Whether a name is too long. -/
def isTooLong (name : String) : Bool :=
  longestName < (Utf8.encode name).length

/-- What is wrong with the text of a path itself. -/
def textCause? (s : String) : Option Cause :=
  if s.toList.contains '\x00' then some .nulInPath
  else if s = "" then some .notFound
  else if longest < (Utf8.encode s).length then some .nameTooLong
  else none

/-- A text without the slashes at its end, unless there is nothing else. -/
def withoutSlashes (cs : List Char) : List Char :=
  match (cs.reverse.dropWhile (· == '/')).reverse with
  | [] => cs
  | kept => kept

/-- A text cut behind its last slash, its first part without slashes at the end. -/
def cutOnce (cs : List Char) : List Char × List Char :=
  let last := (cs.reverse.takeWhile (· != '/')).reverse
  (withoutSlashes (cs.take (cs.length - last.length)), last)

/-- The directory of a path and the last name in it. -/
def cut (s : String) : String × String :=
  let (head, last) := cutOnce s.toList
  let (head, last) := if last.isEmpty then cutOnce head else (head, last)
  (String.ofList head, String.ofList last)

end Pathname

end KnownLogs
