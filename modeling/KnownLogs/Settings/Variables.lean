/-
Variables that hold settings:

* `Variables`: names without case, each with one text or none;
* `Variables.ofEnvironment`, `Variables.ofFile`: the variables of an environment and of
  a file;
* `Variables.nested`: the record that variables with a common beginning describe;
* `overlay`: one record laid over another;
* `Variables.layer`: the settings that variables describe.
-/
import KnownLogs.Json.Reader
import KnownLogs.Settings.VariableFile

namespace KnownLogs

/-- Names in small letters, each with its text, if it has one. -/
abbrev Variables := List VariableFile.Binding

/-- What is wrong with the text of a section. -/
inductive SectionProblem where
  /-- The text is no JSON; the source is where the variables come from. -/
  | unreadable (name source : String)
  /-- A container is nested too deep. -/
  | tooDeep (container : String)
deriving DecidableEq, Repr

/-! ### Records -/

/-- The members of a record, each name once, in the place where it first stands and
with its last value. -/
def uniqueMembers (members : List (String × Json)) : List (String × Json) :=
  members.foldl (fun ms m => Json.setMember m.1 m.2 ms) []

mutual

/-- A value laid over another: records are laid over each other member by member, and
anything else takes the place of what was there. -/
def overlayValue : Json → Option Json → Json
  | .record upper, some (.record lower) => .record (overlay upper lower)
  | v, _ => v

/-- Members laid over the members of another record. -/
def overlay : List (String × Json) → List (String × Json) → List (String × Json)
  | [], lower => lower
  | (name, v) :: upper, lower =>
    overlay upper (Json.setMember name (overlayValue v (Json.lastMember? name lower)) lower)

end

namespace Variables

/-! ### Making variables -/

/-- Variables from names with texts; the case of a name does not count, and of several
for one name the last stays. -/
def ofBindings (bindings : List VariableFile.Binding) : Variables :=
  bindings.foldl (fun vs b => VariableFile.set (b.1.map Char.toLower, b.2) vs) []

/-- The variables of an environment. -/
def ofEnvironment (pairs : List (String × String)) : Variables :=
  ofBindings (pairs.map fun p => (p.1, some p.2))

/-- The variables of a file, whose lines may name those of the environment. -/
def ofFile (environment : List (String × String)) (s : String) : Variables :=
  ofBindings (VariableFile.read environment s)

/-- The text of a variable. -/
def text? (vs : Variables) (name : String) : Option String :=
  (vs.lookup name).join

/-! ### From variables to records -/

/-- The pieces of a name between double low lines. -/
def pieces : List Char → List Char → List String
  | piece, [] => [String.ofList piece.reverse]
  | piece, '_' :: '_' :: rest => String.ofList piece.reverse :: pieces [] rest
  | piece, c :: rest => pieces (c :: piece) rest

/-- Puts a value at the end of a way of names, unless something that is no record stands
in the way. -/
def plant (v : Json) : List String → List (String × Json) → List (String × Json)
  | [], members => members
  | [name], members => Json.setMember name v members
  | name :: way, members =>
    match Json.lastMember? name members with
    | none => Json.setMember name (.record (plant v way [])) members
    | some (.record inner) => Json.setMember name (.record (plant v way inner)) members
    | some _ => members

/-- The way of names that a variable describes inside a section, if it belongs to it. -/
def way? (section_ : String) (name : String) : Option (List String) :=
  let start := (section_ ++ "__").toList
  if start.isPrefixOf name.toList then some (pieces [] (name.toList.drop start.length)) else none

/-- The record that the variables of a section describe. A variable without a text is
null there. -/
def nested (vs : Variables) (section_ : String) : List (String × Json) :=
  vs.foldl (fun members v =>
    match way? section_ v.1 with
    | some way => plant (v.2.elim .null .text) way members
    | none => members) []

/-- What the text of a section may be. -/
def sectionLimits : Json.Limits := { depth := 970, digits := 4300, lenient := true }

/-- What a container is called. -/
def containerName : Json.Open → String
  | .list _ => "array"
  | .record _ => "object"

/-- Names that differ from a known one by case alone, as the known one. -/
def knownNames (known : List String) (members : List (String × Json)) : List (String × Json) :=
  uniqueMembers <| members.map fun m =>
    let small := m.1.map Char.toLower
    (if known.contains small then small else m.1, m.2)

/-- A section: the text of its own variable is JSON, over which the variables of its
members are laid. Null counts as absent, and a value that is no record stays alone. -/
def sectionValue (vs : Variables) (source section_ : String) (known : List String) :
    Except SectionProblem (Option Json) :=
  match vs.text? section_ with
  | none =>
    match vs.nested section_ with
    | [] => .ok none
    | members => .ok (some (.record (knownNames known members)))
  | some s =>
    match Json.excess? sectionLimits s.toList, Json.read? sectionLimits s.toList with
    | some container, _ => .error (.tooDeep (containerName container))
    | none, none => .error (.unreadable section_ source)
    | none, some .null => .ok none
    | none, some (.record members) =>
      .ok (some (.record (knownNames known (overlay (vs.nested section_) (uniqueMembers members)))))
    | none, some v => .ok (some v)

/-- The sections of the settings, with the names of their members. -/
def sections : List (String × List String) :=
  [("log_list", ["path", "reload_interval_seconds"]),
   ("policy", ["max_log_list_age_days", "min_distinct_operators", "short_lived_max_days",
     "short_lived_min_scts", "long_lived_min_scts"]),
   ("scheduler", ["cron"])]

/-- The members of the settings that are no sections. -/
def plainMembers : List String := ["run_on_startup", "log_level"]

/-- The settings that variables describe. -/
def layer (vs : Variables) (source : String) :
    Except SectionProblem (List (String × Json)) := do
  let found ← sections.filterMapM fun s => do
    return (← vs.sectionValue source s.1 s.2).map fun v => (s.1, v)
  let plain := plainMembers.filterMap fun name => (vs.text? name).map fun s => (name, Json.text s)
  return found ++ plain

end Variables

end KnownLogs
