/-
The gate that every question about the log list passes:

* `Store.current`: the snapshot to answer from, after an attempt to load the list if
  one is due;
* `Store.answer`: the answer to a question;
* `Store.converse`: a whole dialogue with the store.
-/
import KnownLogs.Store.Reload

namespace KnownLogs.Store

/-- Takes the lock of the gate. -/
def lock (s : Store) : Store :=
  { s with locked := true }

/-- Gives the lock of the gate back. -/
def unlock (s : Store) : Store :=
  { s with locked := false }

/-- Behind the lock the clock is read once more, and an attempt is made if one is still
due. The lock is given back however the attempt ends. -/
def currentLocked (s : Store) : Ending Snapshot × Store :=
  let (now, s) := s.readClock
  if s.isDue now then
    match s.reload now with
    | (.blocked, s) => (.blocked, s)
    | (found, s) => (found, s.unlock)
  else (.value s.snapshot, s.unlock)

/-- The snapshot to answer from. -/
def current (s : Store) : Ending Snapshot × Store :=
  if s.locked then s.currentDuring
  else
    let (now, s) := s.readClock
    if s.isDue now then s.lock.currentLocked else (.value s.snapshot, s)

/-- The answer to a question. -/
def answer (q : Query) (s : Store) : Ending q.Answer × Store :=
  if q.isGated then
    let (found, s) := s.current
    (found.map fun snapshot => q.answer snapshot, s)
  else (.value (q.answer s.snapshot), s)

/-- Who answers the questions of a reader. -/
def reader : Handler storeQueries Store where
  keep := keep
  answer := answer

/-- Carries out a dialogue with the store. -/
def converse {α : Type} (x : Dialogue storeQueries α) (s : Store) : Ending α × Store :=
  x.run reader s

end KnownLogs.Store
