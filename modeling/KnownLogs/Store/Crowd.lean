/-
Readers who put questions to one store at the same time:

* `Progress`: how far a reader has come on the way through the gate;
* `Store.advance`: the next step on that way, into which no other reader can break;
* `Crowd`: a store and its readers;
* `Crowd.run`: steps of all readers in any order, with changes in the world around the
  store between them.

The steps of a reader on its own are those of `Store.current`, in the same order.
-/
import KnownLogs.Store.Gate

namespace KnownLogs

/-! ### One reader -/

/-- How far a reader has come on the way through the gate. -/
inductive Progress where
  /-- It has not set out. -/
  | idle
  /-- It has looked at the published snapshot. -/
  | looked (seen : Snapshot)
  /-- It has found that an attempt is due, and stands at the lock. -/
  | atLock (seen : Snapshot)
  /-- It holds the lock. -/
  | inside
  /-- It has looked once more, behind the lock. -/
  | lookedInside (seen : Snapshot)
  /-- It has decided on an attempt. -/
  | attempting (previous : Snapshot) (now : Int)
  /-- It knows the snapshot that the attempt leads to. -/
  | publishing (previous next : Snapshot)
  /-- It has published that snapshot. -/
  | announcing (previous next : Snapshot)
  /-- It is about to give the lock back. -/
  | leaving (found : Ending Snapshot)
  /-- It has its snapshot to answer from, or the fault that ended its attempt. -/
  | served (found : Ending Snapshot)
  /-- A collaborator waits in its attempt for the lock that the reader itself holds. -/
  | stuck

namespace Progress

/-- Whether a reader on this part of the way holds the lock. -/
def holdsLock : Progress → Bool
  | inside | lookedInside _ | attempting _ _ | publishing _ _ | announcing _ _ | leaving _
  | stuck => true
  | idle | looked _ | atLock _ | served _ => false

end Progress

/-- The next step of a reader, none if it has to wait. At the lock it waits only where
nothing has been published yet; otherwise it goes away with the snapshot that it saw. A reader
that is stuck waits for ever. -/
def Store.advance (s : Store) : Progress → Option (Progress × Store)
  | .idle | .served _ => some (.looked s.snapshot, s)
  | .looked seen =>
    let (now, s) := s.readClock
    some (if seen.isDue s.interval now then .atLock seen else .served (.value seen), s)
  | .atLock seen =>
    if !s.locked then some (.inside, s.lock)
    else if seen.state == .uninitialized then none
    else some (.served (.value seen), s)
  | .inside => some (.lookedInside s.snapshot, s)
  | .lookedInside seen =>
    let (now, s) := s.readClock
    some (if seen.isDue s.interval now then .attempting seen now else .leaving (.value seen), s)
  | .attempting previous now =>
    match s.examine now with
    | (.value next, s) => some (.publishing previous next, s)
    | (.fault f, s) => some (.leaving (.fault f), s)
    | (.blocked, s) => some (.stuck, s)
  | .publishing previous next => some (.announcing previous next, s.publish next)
  | .announcing previous next =>
    match s.announce previous next with
    | (.blocked, s) => some (.stuck, s)
    | (told, s) => some (.leaving (told.map fun _ => next), s)
  | .leaving found => some (.served found, s.unlock)
  | .stuck => none

/-! ### Many readers -/

/-- A store and its readers, each known by a number. -/
structure Crowd where
  store : Store
  progress : Nat → Progress := fun _ => .idle

namespace Crowd

/-- What can happen next. -/
inductive Move where
  /-- A reader takes its next step. -/
  | step (reader : Nat)
  /-- The world around the store changes. -/
  | change (source : Call (Outcome Bytes)) (parser : Bytes → Call (Outcome Document))
      (policy : CompliancePolicy) (sink : MetricsSink) (clock : Clock)

/-- A move. A reader that has to wait stays where it is. -/
def move (c : Crowd) : Move → Crowd
  | .step i =>
    match c.store.advance (c.progress i) with
    | some (p, s) => { store := s, progress := fun j => if j = i then p else c.progress j }
    | none => c
  | .change source parser policy sink clock =>
    { c with store := { c.store with source, parser, policy, sink, clock } }

/-- Moves one after another. -/
def run (c : Crowd) (moves : List Move) : Crowd :=
  moves.foldl move c

end Crowd

end KnownLogs
