/-
Why files cannot be read or changed:

* `Files.Cause`: a cause, with the system's number and wording;
* `Files.Problem`: a cause with the paths it is about, and its wording.
-/
import KnownLogs.Text.Quoted

namespace KnownLogs.Files

/-- Why a file cannot be read or changed. -/
inductive Cause where
  | notFound
  | permissionDenied
  | alreadyThere
  | notDirectory
  | isDirectory
  | nameTooLong
  | tooManyLinks
  /-- The path holds a NUL character. -/
  | nulInPath
  /-- Any other cause, by its number and its wording. -/
  | other (number : Nat) (reason : String)
deriving DecidableEq, Repr

/-- The system's number of a cause. -/
def Cause.number? : Cause → Option Nat
  | notFound => some 2
  | permissionDenied => some 13
  | alreadyThere => some 17
  | notDirectory => some 20
  | isDirectory => some 21
  | nameTooLong => some 36
  | tooManyLinks => some 40
  | nulInPath => none
  | other n _ => some n

/-- The wording of a cause. -/
def Cause.reason : Cause → String
  | notFound => "No such file or directory"
  | permissionDenied => "Permission denied"
  | alreadyThere => "File exists"
  | notDirectory => "Not a directory"
  | isDirectory => "Is a directory"
  | nameTooLong => "File name too long"
  | tooManyLinks => "Too many levels of symbolic links"
  | nulInPath => "embedded null byte"
  | other _ reason => reason

/-- A cause and the paths it is about. -/
structure Problem where
  cause : Cause
  path : String
  /-- The second path, where two are involved. -/
  second : Option String := none
deriving DecidableEq, Repr

/-- The wording of a problem. -/
def Problem.message (p : Problem) : String :=
  match p.cause.number? with
  | none => p.cause.reason
  | some n =>
    let more := match p.second with
      | some s => " -> " ++ Text.quoted s
      | none => ""
    s!"[Errno {n}] " ++ p.cause.reason ++ ": " ++ Text.quoted p.path ++ more

end KnownLogs.Files
