/-
A directory with files, directories and links in it:

* `Place`: a place seen from the working directory;
* `Tree`: what stands where;
* `Tree.walk`, `Tree.resolve`: follow a path through links, forty of them at most;
* `Tree.read`: the content of a file;
* `Tree.write`, `Tree.makeDirectories`, `Tree.link`, `Tree.remove`: the changes of a
  tree, and `Change`, which tells what a change leaves where it fails.
-/
import KnownLogs.Files.Pathname

namespace KnownLogs

open Files

/-! ### Places -/

/-- A place seen from the working directory: how many directories up, and the names
down from there, the last one first. -/
structure Place where
  up : Nat := 0
  names : List String := []
deriving DecidableEq, Repr

namespace Place

/-- The root: above every directory that a relative path reaches. -/
def root : Place := { up := 4096 }

/-- The place of a name inside a directory. -/
def child (p : Place) (name : String) : Place :=
  { p with names := name :: p.names }

/-- The directory around a place; the root is around itself. -/
def parent (p : Place) : Place :=
  match p.names with
  | [] => if p = root then root else { p with up := p.up + 1 }
  | _ :: rest => { p with names := rest }

/-- Whether a place is `top` or lies below it. -/
def isBelow (p top : Place) : Bool :=
  p.up == top.up && top.names.isSuffixOf p.names

end Place

/-! ### Trees -/

/-- What can stand at a place. -/
inductive Item where
  | file (content : Bytes)
  | directory
  | link (target : String)
deriving DecidableEq, Repr

/-- What stands where. The working directory and those above it are directories and
not among the items. -/
structure Tree where
  items : List (Place × Item) := []
deriving DecidableEq, Repr

namespace Tree

/-- What stands at a place. -/
def item? (t : Tree) (p : Place) : Option Item :=
  if p.names = [] then some .directory
  else (t.items.find? fun i => i.1 == p).map (·.2)

/-- Puts an item at a place. -/
def put (t : Tree) (p : Place) (item : Item) : Tree :=
  { items := (t.items.filter fun i => i.1 != p) ++ [(p, item)] }

/-- Takes a place away, with everything below it. -/
def clear (t : Tree) (p : Place) : Tree :=
  { items := t.items.filter fun i => !i.1.isBelow p }

/-- Takes everything below a place away, but not the place. -/
def empty (t : Tree) (p : Place) : Tree :=
  { items := t.items.filter fun i => i.1 == p || !i.1.isBelow p }

/-! ### Following paths -/

/-- The most links that a path may lead through. -/
def mostLinks : Nat := 40

/-- Where the names of a path start. -/
def startOf (path : Pathname) (here : Place) : Place :=
  if path.absolute then .root else here

/-- Follows names from a place on, through links as well; the place where they lead, and
how many more links may be followed. -/
def walk (t : Tree) (links : Nat) (here : Place) (names : List String) :
    Except Cause (Place × Nat) :=
  match names with
  | [] => .ok (here, links)
  | name :: rest =>
    if t.item? here ≠ some .directory then .error .notDirectory
    else if name = "." then walk t links here rest
    else if name = ".." then walk t links here.parent rest
    else if Pathname.isTooLong name then .error .nameTooLong
    else
      match t.item? (here.child name) with
      | none => .error .notFound
      | some (.link target) =>
        match links with
        | 0 => .error .tooManyLinks
        | links + 1 =>
          let path := Pathname.ofText target
          walk t links (startOf path here) (path.steps ++ rest)
      | some _ => walk t links (here.child name) rest
termination_by (links, names.length)

/-- The place that a path leads to. -/
def resolve (t : Tree) (text : String) : Except Cause Place :=
  match Pathname.textCause? text with
  | some cause => .error cause
  | none =>
    let path := Pathname.ofText text
    (t.walk mostLinks (startOf path {}) path.steps).map (·.1)

/-- The end of a path: the name of a directory that is there anyway, or a name in a
directory, which is not followed. -/
inductive Ending where
  /-- No name at all. -/
  | root
  /-- The name for the same directory. -/
  | same
  /-- The name for the directory around it. -/
  | around
  | name (directory : Place) (name : String)
deriving DecidableEq, Repr

/-- The end of a path that starts at a place, and how many more links may be
followed. -/
def endOf (t : Tree) (links : Nat) (here : Place) (path : Pathname) : Except Cause (Ending × Nat) :=
  match path.names.getLast? with
  | none => .ok (.root, links)
  | some last =>
    match t.walk links (startOf path here) path.names.dropLast with
    | .error cause => .error cause
    | .ok (directory, links) =>
      if t.item? directory ≠ some .directory then .error .notDirectory
      else if last = "." then .ok (.same, links)
      else if last = ".." then .ok (.around, links)
      else .ok (.name directory last, links)

/-- The end of the path that a text names. -/
def locate (t : Tree) (text : String) : Except Cause Ending :=
  match Pathname.textCause? text with
  | some cause => .error cause
  | none => (t.endOf mostLinks {} (Pathname.ofText text)).map (·.1)

/-- Whether anything stands where a path leads. -/
def holds (t : Tree) (text : String) : Bool :=
  (t.resolve text).toBool

/-- Whether a path leads to a directory. -/
def isDirectory (t : Tree) (text : String) : Bool :=
  match t.resolve text with
  | .ok place => t.item? place == some .directory
  | .error _ => false

/-- Whether a path names a link. A slash behind the name of a link follows it. -/
def isLink (t : Tree) (text : String) : Bool :=
  match t.locate text with
  | .ok (.name directory name) =>
    match t.item? (directory.child name) with
    | some (.link _) => !(Pathname.ofText text).closed
    | _ => false
  | _ => false

/-! ### Reading -/

/-- The content of a file. -/
def read (t : Tree) (text : String) : Except Problem Bytes :=
  Except.mapError (fun cause => { cause, path := text }) <|
    match t.resolve text with
    | .error cause => .error cause
    | .ok place =>
      match t.item? place with
      | some (.file content) => .ok content
      | some .directory => .error .isDirectory
      | _ => .error .notFound

/-! ### Changes -/

/-- What a change of a tree leaves, and the problem that ended it, if any did. What was
done before the problem stays. -/
structure Change where
  tree : Tree
  problem : Option Problem := none

/-- A change that is made as a whole or not at all. -/
def changeTo (t : Tree) (text : String) : Except Cause Tree → Change
  | .ok next => { tree := next }
  | .error cause => { tree := t, problem := some { cause, path := text } }

/-- The place where a path makes a file or finds one. A link at its end is followed. -/
def fileAt (t : Tree) (links : Nat) (here : Place) (path : Pathname) : Except Cause Place :=
  match t.endOf links here path with
  | .error cause => .error cause
  | .ok (.name directory name, left) =>
    if path.closed then .error .isDirectory
    else if Pathname.isTooLong name then .error .nameTooLong
    else
      match t.item? (directory.child name) with
      | some .directory => .error .isDirectory
      | some (.link target) =>
        if _h : left - 1 < links ∧ 0 < left then
          fileAt t (left - 1) directory (Pathname.ofText target)
        else .error .tooManyLinks
      | _ => .ok (directory.child name)
  | .ok _ => .error .isDirectory
termination_by links

/-- Makes a file or gives one a new content. -/
def write (t : Tree) (text : String) (content : Bytes) : Change :=
  t.changeTo text <|
    match Pathname.textCause? text with
    | some cause => .error cause
    | none =>
      (t.fileAt mostLinks {} (Pathname.ofText text)).map fun place => t.put place (.file content)

/-- The place of a name that nothing has yet. -/
def freeAt (t : Tree) (text : String) : Except Cause Place :=
  match t.locate text with
  | .error cause => .error cause
  | .ok (.name directory name) =>
    if Pathname.isTooLong name then .error .nameTooLong
    else if (t.item? (directory.child name)).isSome then .error .alreadyThere
    else .ok (directory.child name)
  | .ok _ => .error .alreadyThere

/-- Makes one directory, where nothing stands yet. -/
def makeDirectory (t : Tree) (text : String) : Change :=
  t.changeTo text ((t.freeAt text).map fun place => t.put place .directory)

/-- Makes the directories around the one of a path that are not there yet, and then the
one itself. That one of those around is there meanwhile does no harm. -/
def makeDirectories (t : Tree) (text : String) : Change :=
  let cut := Pathname.cut text
  if _h : cut.1.length < text.length then
    if cut.1 = "" ∨ cut.2 = "" ∨ t.holds cut.1 then t.makeDirectory text
    else
      let made := t.makeDirectories cut.1
      if made.problem.any fun p => p.cause ≠ .alreadyThere then made
      else if cut.2 = "." then { tree := made.tree }
      else made.tree.makeDirectory text
  else t.makeDirectory text
termination_by text.length
decreasing_by exact _h

/-- Takes a name away from its directory, if it is not one of a directory. -/
def unlink (t : Tree) (text : String) : Change :=
  t.changeTo text <|
    match t.locate text with
    | .error cause => .error cause
    | .ok (.name directory name) =>
      let place := directory.child name
      if Pathname.isTooLong name then .error .nameTooLong
      else
        match t.item? place with
        | none => .error .notFound
        | some .directory => .error .isDirectory
        | some _ =>
          if (Pathname.ofText text).closed then .error .notDirectory else .ok (t.clear place)
    | .ok _ => .error .isDirectory

/-- Takes a directory away that is empty. -/
def removeDirectory (t : Tree) (text : String) : Change :=
  t.changeTo text <|
    match t.locate text with
    | .error cause => .error cause
    | .ok .root => .error (.other 16 "Device or resource busy")
    | .ok .same => .error (.other 22 "Invalid argument")
    | .ok .around => .error (.other 39 "Directory not empty")
    | .ok (.name directory name) =>
      let place := directory.child name
      match t.item? place with
      | none => .error .notFound
      | some .directory => .ok (t.clear place)
      | some _ => .error .notDirectory

/-- Takes away what a path names: a file, a link, or a directory with everything in
it. -/
def remove (t : Tree) (text : String) : Change :=
  match t.resolve text with
  | .ok place =>
    if t.item? place = some .directory ∧ ¬ t.isLink text then
      (t.empty place).removeDirectory text
    else t.unlink text
  | .error _ => t.unlink text

/-- What is wrong with the texts of a link. -/
def linkCause? (text target : String) : Option Cause :=
  if Pathname.textCause? text = some .nulInPath then some .nulInPath
  else Pathname.textCause? target

/-- The tree with a link, where nothing stands yet. -/
def linkAt (t : Tree) (text target : String) : Except Cause Tree :=
  match linkCause? text target with
  | some cause => .error cause
  | none =>
    match t.freeAt text with
    | .error cause => .error cause
    | .ok place =>
      if (Pathname.ofText text).closed then .error .notFound else .ok (t.put place (.link target))

/-- Makes a link, in the place of another link if one stands there. -/
def link (t : Tree) (text target : String) : Change :=
  let cleared := if t.isLink text then (t.unlink text).tree else t
  match cleared.linkAt text target with
  | .ok next => { tree := next }
  | .error cause =>
    { tree := cleared, problem := some { cause, path := target, second := some text } }

end Tree

end KnownLogs
