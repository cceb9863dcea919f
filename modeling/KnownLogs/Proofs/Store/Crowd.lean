/-
Readers who put questions to one store at the same time:

* `Store.crowd`: readers none of whom has set out;
* `Taken`, `Crowd.trace`: the steps that readers have taken;
* `Crowd.Turn`: what can come of a move;
* `Crowd.IsSound`: every reader fits the store, and the lock is held by exactly one of them if it
  is taken, and by nobody otherwise;
* `Crowd.IsSound.turn`, `Crowd.IsSound.run`: **whatever happens, a crowd stays sound**;
* `Crowd.IsSound.step_of_mem_trace`, `Crowd.IsSound.exists_taken`: each reader has come where it is
  by its steps;
* `Crowd.IsSound.canServe`: **no reader waits in vain**, unless one waits for itself before anything
  has been published;
* `Crowd.reaches_current`: **a reader on its own** is served as by `Store.current`.
-/
import KnownLogs.Proofs.Store.Reader

namespace KnownLogs

/-- A store and its readers, none of whom has set out. -/
def Store.crowd (s : Store) : Crowd := { store := s }

/-- A step that a reader has taken: the store before it, and where the reader was before it and
after it. -/
structure Taken where
  store : Store
  before : Progress
  after : Progress

namespace Crowd

variable {c : Crowd} {i j : Nat} {p q : Progress} {t : Store}

/-! ### Moves -/

/-- A crowd after a step of one reader. -/
def moved (c : Crowd) (i : Nat) (q : Progress) (t : Store) : Crowd :=
  { store := t, progress := fun j => if j = i then q else c.progress j }

@[simp] lemma store_moved : (c.moved i q t).store = t := rfl

@[simp] lemma progress_moved_self : (c.moved i q t).progress i = q := if_pos rfl

lemma progress_moved_of_ne (h : j ≠ i) : (c.moved i q t).progress j = c.progress j := if_neg h

lemma move_of_some (h : c.store.advance (c.progress i) = some (q, t)) :
    c.move (.step i) = c.moved i q t := by
  rw [move, h]
  rfl

lemma move_of_none (h : c.store.advance (c.progress i) = none) : c.move (.step i) = c := by
  rw [move, h]

/-- The step that a move is, if it is one. -/
def taken? (c : Crowd) : Move → Option Taken
  | .step i => (c.store.advance (c.progress i)).map fun r => ⟨c.store, c.progress i, r.1⟩
  | .change .. => none

/-- The world that a move brings, unless it is a step. -/
def Move.world? : Move → Option World
  | .step _ => none
  | .change source parser policy sink clock => some { source, parser, policy, sink, clock }

/-- What can come of a move: the step that is taken, if one is, and the crowd after it. -/
inductive Turn (c : Crowd) : Move → Option Taken → Crowd → Prop
  | stepped (i : Nat) (q : Progress) (t : Store) : c.store.Step (c.progress i) q t →
      Turn c (.step i) (some ⟨c.store, c.progress i, q⟩) (c.moved i q t)
  /-- The reader has to wait. -/
  | waited (i : Nat) : Turn c (.step i) none c
  | changed (m : Move) (w : World) : m.world? = some w →
      Turn c m none { c with store := c.store.inWorld w }

/-- The steps that readers take over moves. -/
def trace (c : Crowd) : List Move → List Taken
  | [] => []
  | m :: rest => (c.taken? m).toList ++ (c.move m).trace rest

@[simp] lemma run_nil (c : Crowd) : c.run [] = c := rfl

@[simp] lemma run_cons (c : Crowd) (m : Move) (rest : List Move) :
    c.run (m :: rest) = (c.move m).run rest := rfl

lemma run_append (c : Crowd) (ms rest : List Move) : c.run (ms ++ rest) = (c.run ms).run rest :=
  List.foldl_append

lemma trace_append (c : Crowd) (ms rest : List Move) :
    c.trace (ms ++ rest) = c.trace ms ++ (c.run ms).trace rest := by
  induction ms generalizing c with
  | nil => rfl
  | cons m ms ih => rw [List.cons_append, trace, trace, ih, List.append_assoc, run_cons]

/-! ### What holds of every crowd -/

/-- What holds of a crowd at any time. -/
structure IsSound (c : Crowd) : Prop where
  isCoherent : c.store.snapshot.IsCoherent
  fits : ∀ i, (c.progress i).Fits c.store
  /-- The lock is taken if a reader holds it, and only then. -/
  locked_iff : c.store.locked = true ↔ ∃ i, (c.progress i).holdsLock = true
  exclusive : ∀ i j, (c.progress i).holdsLock = true → (c.progress j).holdsLock = true → i = j

/-- The readers of a store that nobody has asked yet. -/
lemma isSound_crowd {s : Store} (hs : s.snapshot.IsCoherent) (hl : s.locked = false) :
    s.crowd.IsSound where
  isCoherent := hs
  fits i := trivial
  locked_iff := by simp [Store.crowd, hl, Progress.holdsLock]
  exclusive i j hi := absurd hi (by simp [Store.crowd, Progress.holdsLock])

namespace IsSound

variable (hc : c.IsSound)
include hc

/-- What a reader does next is one of the steps. -/
lemma step (h : c.store.advance (c.progress i) = some (q, t)) :
    c.store.Step (c.progress i) q t :=
  Store.step_of_advance hc.isCoherent (hc.fits i) h

/-- Two readers who hold the lock are one. -/
lemma not_holdsLock (hi : (c.progress i).holdsLock = true) (hj : j ≠ i) :
    (c.progress j).holdsLock = false := by
  by_contra hn
  exact hj (hc.exclusive j i (by simpa using hn) hi)

/-- While a reader takes a step, what holds of the others goes on to hold: the published snapshot
changes only behind the lock. -/
lemma fits_moved (h : c.store.Step (c.progress i) q t) (hj : j ≠ i) : (c.progress j).Fits t := by
  cases hl : (c.progress j).holdsLock with
  | false => exact (hc.fits j).of_not_holdsLock hl
  | true =>
      refine (hc.fits j).congr ?_ h.interval
      have hi := hc.not_holdsLock hl hj.symm
      rw [h.snapshot]
      cases hp : c.progress i with
      | publishing previous next =>
          rw [hp] at hi
          cases hi
      | _ => rfl

/-- A step of one reader keeps a crowd sound. -/
lemma moved (h : c.store.Step (c.progress i) q t) : (c.moved i q t).IsSound where
  isCoherent := h.isCoherent hc.isCoherent (hc.fits i)
  fits j := by
    by_cases hj : j = i
    · subst hj
      rw [progress_moved_self]
      exact h.fits hc.isCoherent (hc.fits j)
    · rw [progress_moved_of_ne hj]
      exact hc.fits_moved h hj
  locked_iff := by
    rw [store_moved]
    rcases h.lock with ⟨hq, hl⟩ | ⟨-, hq, hl⟩ | ⟨hp, hq, hl⟩
    · -- the same readers hold the lock as before
      have hsame : ∀ j, ((c.moved i q t).progress j).holdsLock = (c.progress j).holdsLock := by
        intro j
        by_cases hj : j = i
        · rw [hj, progress_moved_self, hq]
        · rw [progress_moved_of_ne hj]
      rw [hl, hc.locked_iff]
      simp only [hsame]
    · exact iff_of_true hl ⟨i, by rwa [progress_moved_self]⟩
    · -- whoever else held the lock would be the reader that gives it back
      refine iff_of_false (by simp [hl]) ?_
      rintro ⟨j, hj⟩
      by_cases hji : j = i
      · rw [hji, progress_moved_self, hq] at hj
        cases hj
      · rw [progress_moved_of_ne hji, hc.not_holdsLock hp hji] at hj
        cases hj
  exclusive := by
    -- a reader that did not move and holds the lock leaves none to the one that did
    have hother : ∀ k, k ≠ i → (c.progress k).holdsLock = true → q.holdsLock = false := by
      intro k hk hheld
      have hi := hc.not_holdsLock hheld hk.symm
      rcases h.lock with ⟨hq, -⟩ | ⟨hl, -, -⟩ | ⟨-, hq, -⟩
      · rw [hq, hi]
      · rw [hc.locked_iff.mpr ⟨k, hheld⟩] at hl
        cases hl
      · exact hq
    intro j k hj hk
    by_cases hji : j = i
    · by_cases hki : k = i
      · rw [hji, hki]
      · rw [progress_moved_of_ne hki] at hk
        rw [hji, progress_moved_self, hother k hki hk] at hj
        cases hj
    · rw [progress_moved_of_ne hji] at hj
      by_cases hki : k = i
      · rw [hki, progress_moved_self, hother j hji hj] at hk
        cases hk
      · rw [progress_moved_of_ne hki] at hk
        exact hc.exclusive j k hj hk

/-- **Every move is one of these.** -/
theorem turn (m : Move) : c.Turn m (c.taken? m) (c.move m) := by
  cases m with
  | step i =>
      cases h : c.store.advance (c.progress i) with
      | none =>
          rw [taken?, h, move_of_none h]
          exact .waited i
      | some r =>
          rw [taken?, h, move_of_some h]
          exact .stepped i r.1 r.2 (hc.step h)
  | change source parser policy sink clock =>
      exact .changed (.change source parser policy sink clock) _ rfl

/-- A move keeps a crowd sound. -/
lemma move (m : Move) : (c.move m).IsSound := by
  have h := hc.turn m
  generalize c.taken? m = taken, c.move m = d at h ⊢
  cases h with
  | stepped i q t hstep => exact hc.moved hstep
  | waited i => exact hc
  | changed _ w _ =>
      exact ⟨hc.isCoherent, fun i => (hc.fits i).congr rfl rfl, hc.locked_iff, hc.exclusive⟩

/-- **Whatever happens, a crowd stays sound.** -/
theorem run (moves : List Move) : (c.run moves).IsSound := by
  induction moves generalizing c with
  | nil => exact hc
  | cons m rest ih => exact ih (hc.move m)

lemma interval_move (m : Move) : (c.move m).store.interval = c.store.interval := by
  have h := hc.turn m
  generalize c.taken? m = taken, c.move m = d at h ⊢
  cases h with
  | stepped i q t hstep => exact hstep.interval
  | waited i => rfl
  | changed _ w _ => rfl

/-! ### Steps that have been taken -/

/-- Every step that has been taken is one that a reader can take. -/
lemma step_of_mem_trace {moves : List Move} {x : Taken} (hx : x ∈ c.trace moves) :
    ∃ t, x.store.Step x.before x.after t := by
  induction moves generalizing c with
  | nil => cases hx
  | cons m rest ih =>
      rcases List.mem_append.mp hx with hx | hx
      · have h := hc.turn m
        rw [Option.mem_toList] at hx
        rw [hx] at h
        generalize c.move m = d at h
        cases h with
        | stepped i q t hstep => exact ⟨t, hstep⟩
      · exact ih (hc.move m) hx

/-- A reader is where it was before a move, or has come where it is by the step. -/
lemma progress_move (m : Move) (i : Nat) :
    (c.move m).progress i = c.progress i ∨
      ∃ x, c.taken? m = some x ∧ x.after = (c.move m).progress i := by
  have h := hc.turn m
  generalize c.taken? m = taken, c.move m = d at h ⊢
  cases h with
  | stepped j q t _ =>
      by_cases hij : i = j
      · exact .inr ⟨_, rfl, by rw [hij, progress_moved_self]⟩
      · exact .inl (progress_moved_of_ne hij)
  | waited j => exact .inl rfl
  | changed _ w _ => exact .inl rfl

/-- A reader is where it was before the moves, or has come where it is by one of the steps. -/
lemma exists_taken (moves : List Move) (i : Nat) :
    (c.run moves).progress i = c.progress i ∨
      ∃ x ∈ c.trace moves, x.after = (c.run moves).progress i := by
  induction moves generalizing c with
  | nil => exact .inl rfl
  | cons m rest ih =>
      rcases ih (hc.move m) with h | ⟨x, hx, h⟩
      · refine (hc.progress_move m i).imp h.trans fun ⟨x, hx, hi⟩ => ⟨x, ?_, hi.trans h.symm⟩
        exact List.mem_append_left _ (Option.mem_toList.mpr hx)
      · exact .inr ⟨x, List.mem_append_right _ hx, h⟩

/-- Each step starts where a reader was before the moves, or where another of the steps ended. -/
lemma exists_taken_before {moves : List Move} {x : Taken} (hx : x ∈ c.trace moves) :
    (∃ i, x.before = c.progress i) ∨ ∃ y ∈ c.trace moves, y.after = x.before := by
  induction moves generalizing c with
  | nil => cases hx
  | cons m rest ih =>
      rcases List.mem_append.mp hx with hx | hx
      · have h := hc.turn m
        rw [Option.mem_toList] at hx
        rw [hx] at h
        generalize c.move m = d at h
        cases h with
        | stepped i q t _ => exact .inl ⟨i, rfl⟩
      · rcases ih (hc.move m) hx with ⟨i, h⟩ | ⟨y, hy, h⟩
        · refine (hc.progress_move m i).imp (fun hi => ⟨i, h.trans hi⟩) fun ⟨y, hy, hi⟩ =>
            ⟨y, ?_, hi.trans h.symm⟩
          exact List.mem_append_left _ (Option.mem_toList.mpr hy)
        · exact .inr ⟨y, List.mem_append_right _ hy, h⟩

end IsSound

/-! ### Nobody waits in vain -/

lemma run_map_append (c : Crowd) (steps rest : List Nat) :
    c.run ((steps ++ rest).map .step) = (c.run (steps.map .step)).run (rest.map .step) := by
  rw [List.map_append, run_append]

/-- Whether some steps of the readers lead to one being served, or to a reader that waits for itself
before anything has been published. -/
def CanServe (c : Crowd) (i : Nat) : Prop :=
  ∃ steps : List Nat, (∃ found, (c.run (steps.map .step)).progress i = .served found) ∨
    (c.run (steps.map .step)).store.snapshot.checkedAt = none ∧
      ∃ j, (c.run (steps.map .step)).progress j = .stuck

lemma CanServe.of_run (steps : List Nat) (h : (c.run (steps.map .step)).CanServe i) :
    c.CanServe i := by
  obtain ⟨rest, h⟩ := h
  rw [← run_map_append] at h
  exact ⟨steps ++ rest, h⟩

namespace IsSound

variable (hc : c.IsSound)
include hc

lemma canServe_of_stuck (hj : (c.progress j).holdsLock = true)
    (ha : c.store.advance (c.progress j) = none) : c.CanServe i := by
  rcases Store.advance_eq_none.mp ha with hs | ⟨-, seen, hs, -⟩
  · have hf := hc.fits j
    rw [hs] at hf
    exact ⟨[], .inr ⟨hf, j, hs⟩⟩
  · rw [hs] at hj
    cases hj

/-- A reader that holds the lock is served after some steps of its own, and the lock is free
then. -/
lemma exists_released (hj : (c.progress j).holdsLock = true) :
    c.CanServe i ∨ ∃ steps : List Nat, (c.run (steps.map .step)).store.locked = false ∧
      (∃ found, (c.run (steps.map .step)).progress j = .served found) ∧
      ∀ k ≠ j, (c.run (steps.map .step)).progress k = c.progress k := by
  -- by induction on the steps that the holder has left
  induction hn : (c.progress j).left using Nat.strongRecOn generalizing c with
  | ind n ih =>
    cases ha : c.store.advance (c.progress j) with
    | none => exact .inl (hc.canServe_of_stuck hj ha)
    | some r =>
        obtain ⟨q, t⟩ := r
        have hstep := hc.step ha
        have hmoved := hc.moved hstep
        have hrun : c.run ([j].map .step) = c.moved j q t := move_of_some ha
        cases hq : q.holdsLock with
        | true =>
            have hheld : ((c.moved j q t).progress j).holdsLock = true := by
              rwa [progress_moved_self]
            have hleft : ((c.moved j q t).progress j).left < n := by
              rw [progress_moved_self, ← hn]
              exact hstep.left_lt (Progress.isUnderWay_of_holdsLock hj)
            rcases ih _ hleft hmoved hheld rfl with h | ⟨steps, hfree, hserved, hothers⟩
            · exact .inl (.of_run [j] (hrun ▸ h))
            · refine .inr ⟨[j] ++ steps, ?_⟩
              rw [run_map_append, hrun]
              exact ⟨hfree, hserved, fun k hk => (hothers k hk).trans (progress_moved_of_ne hk)⟩
        | false =>
            obtain ⟨found, rfl⟩ := hstep.served_of_released hj hq
            refine .inr ⟨[j], ?_⟩
            rw [hrun]
            refine ⟨?_, ⟨found, progress_moved_self⟩, fun k hk => progress_moved_of_ne hk⟩
            rcases hstep.lock with ⟨hsame, -⟩ | ⟨-, hheld, -⟩ | ⟨-, -, hfree⟩
            · rw [hj] at hsame
              cases hsame
            · cases hheld
            · exact hfree

/-- A reader that holds the lock can be served. -/
lemma canServe_of_holdsLock (hi : (c.progress i).holdsLock = true) : c.CanServe i := by
  rcases hc.exists_released (i := i) hi with h | ⟨steps, -, hserved, -⟩
  · exact h
  · exact ⟨steps, .inl hserved⟩

/-- A reader that stands at the lock can be served if the lock is free. -/
lemma canServe_of_unlocked {seen : Snapshot} (hi : c.progress i = .atLock seen)
    (hl : c.store.locked = false) : c.CanServe i := by
  have ha : c.store.advance (c.progress i) = some (.inside, c.store.lock) := by
    rw [hi, Store.advance, hl]
    rfl
  have hrun : c.run ([i].map .step) = c.moved i .inside c.store.lock := move_of_some ha
  refine .of_run [i] ?_
  rw [hrun]
  exact (hc.moved (hc.step ha)).canServe_of_holdsLock (by rw [progress_moved_self]; rfl)

/-- A reader that stands at the lock can be served, if need be after the one that holds it. -/
lemma canServe_of_atLock {seen : Snapshot} (hi : c.progress i = .atLock seen) :
    c.CanServe i := by
  cases hl : c.store.locked with
  | false => exact hc.canServe_of_unlocked hi hl
  | true =>
      obtain ⟨j, hj⟩ := hc.locked_iff.mp hl
      rcases hc.exists_released (i := i) hj with h | ⟨steps, hfree, -, hothers⟩
      · exact h
      · have hij : i ≠ j := by
          rintro rfl
          rw [hi] at hj
          cases hj
        exact .of_run steps ((hc.run _).canServe_of_unlocked ((hothers i hij).trans hi) hfree)

/-- **No reader waits in vain**: steps of the readers lead from anywhere to an answer, unless one
waits for itself before anything has been published. -/
theorem canServe (hi : (c.progress i).isUnderWay = true) : c.CanServe i := by
  cases hp : c.progress i with
  | idle =>
      rw [hp] at hi
      cases hi
  | served found =>
      rw [hp] at hi
      cases hi
  | looked seen =>
      -- the next look leads to an answer or to the lock
      obtain ⟨q, t, ha, hq⟩ : ∃ q t, c.store.advance (c.progress i) = some (q, t) ∧
          (q = .atLock seen ∨ q = .served (.value seen)) := by
        rw [hp]
        refine ⟨_, _, rfl, ?_⟩
        split_ifs
        · exact .inl rfl
        · exact .inr rfl
      have hrun : c.run ([i].map .step) = c.moved i q t := move_of_some ha
      refine .of_run [i] ?_
      rw [hrun]
      rcases hq with rfl | rfl
      · exact (hc.moved (hc.step ha)).canServe_of_atLock progress_moved_self
      · exact ⟨[], .inl ⟨_, progress_moved_self⟩⟩
  | atLock seen => exact hc.canServe_of_atLock hp
  | _ => exact hc.canServe_of_holdsLock (by rw [hp]; rfl)

end IsSound

/-! ### A reader on its own -/

/-- Where the ending of a question leaves its reader. -/
def ofEnding : Ending Snapshot → Progress
  | .blocked => .stuck
  | found => .served found

/-- Whether a reader comes to some point of the way, with some store, while nobody else moves. -/
def Reaches (c : Crowd) (i : Nat) (p : Progress) (s : Store) : Prop :=
  ∃ n, c.run (List.replicate n (.step i)) = c.moved i p s

lemma Reaches.refl (c : Crowd) (i : Nat) : c.Reaches i (c.progress i) c.store := by
  refine ⟨0, ?_⟩
  have hsame : (fun j => if j = i then c.progress i else c.progress j) = c.progress := by
    funext j
    split_ifs with h
    · rw [h]
    · rfl
  rw [moved, hsame]
  rfl

lemma Reaches.advance {s : Store} (h : c.Reaches i p s) (ha : s.advance p = some (q, t)) :
    c.Reaches i q t := by
  obtain ⟨n, hn⟩ := h
  have hadvance : (c.moved i p s).store.advance ((c.moved i p s).progress i) = some (q, t) := by
    rwa [progress_moved_self]
  have hmoved : (c.moved i p s).moved i q t = c.moved i q t := by
    rw [moved, moved, moved]
    congr 1
    funext j
    dsimp only
    split_ifs
    · rfl
    · rfl
  refine ⟨n + 1, ?_⟩
  rw [List.replicate_succ', run_append, hn, run_cons, run_nil, move_of_some hadvance, hmoved]

/-- A reader that has decided on an attempt comes on its own to the end of the attempt, where it
gives the lock back unless it waits for itself. -/
lemma Reaches.reload {s : Store} (hs : s.snapshot.IsCoherent) {now : Int}
    (h : c.Reaches i (.attempting s.snapshot now) s) :
    c.Reaches i (ofEnding (s.reload now).1)
      (match s.reload now with
        | (.blocked, t) => t
        | (_, t) => t.unlock) := by
  obtain ⟨clock, he⟩ := Store.examine_eq hs now
  -- a search that ends in a fault or not at all is one step; another one is published and told of
  cases hf : s.finding with
  | fault f =>
      rw [hf, Ending.map_fault] at he
      have hr : s.reload now = (.fault f, s.aged clock s.searchMarks) := by rw [Store.reload, he]
      have hleave := h.advance (by rw [Store.advance, he])
      rw [hr]
      exact hleave.advance rfl
  | blocked =>
      rw [hf, Ending.map_blocked] at he
      have hr : s.reload now = (.blocked, s.aged clock s.searchMarks) := by rw [Store.reload, he]
      have hhang := h.advance (by rw [Store.advance, he])
      rw [hr]
      exact hhang
  | value f =>
      rw [hf, Ending.map_value] at he
      -- nothing is published between the look behind the lock and the end of the search
      have hr : s.reload now =
          ((((s.aged clock s.searchMarks).publish (Attempt.mk now f).snapshot).announce s.snapshot
              (Attempt.mk now f).snapshot).1.map fun _ => (Attempt.mk now f).snapshot,
            (((s.aged clock s.searchMarks).publish (Attempt.mk now f).snapshot).announce s.snapshot
              (Attempt.mk now f).snapshot).2) := by
        rw [Store.reload, he]
        rfl
      have hfound := h.advance (by rw [Store.advance, he])
      have hpublished := hfound.advance rfl
      rw [hr]
      cases ha : ((s.aged clock s.searchMarks).publish (Attempt.mk now f).snapshot).announce
        s.snapshot (Attempt.mk now f).snapshot with
      | mk told t =>
          cases told with
          | value u =>
              have hleave := hpublished.advance (by rw [Store.advance, ha])
              exact hleave.advance rfl
          | fault e =>
              have hleave := hpublished.advance (by rw [Store.advance, ha])
              exact hleave.advance rfl
          | blocked =>
              have hhang := hpublished.advance (by rw [Store.advance, ha])
              exact hhang

/-- **A reader on its own** is answered as a question is that nobody else disturbs. -/
theorem reaches_current (hc : c.IsSound) (hl : c.store.locked = false)
    (hi : (c.progress i).isUnderWay = false) :
    c.Reaches i (ofEnding c.store.current.1) c.store.current.2 := by
  have hlook := (Reaches.refl c i).advance (c.store.advance_of_free hi)
  have hread : c.Reaches i
      (if c.store.isDue c.store.clock.read.1 then .atLock c.store.snapshot
        else .served (.value c.store.snapshot)) (c.store.aged c.store.clock.read.2 []) :=
    hlook.advance (Store.advance_looked _ _)
  rw [Store.current_eq hl, Store.currentLocked_eq]
  -- the look in front of the lock, then the one behind it, then the attempt
  by_cases hdue : c.store.isDue c.store.clock.read.1 = true
  · rw [if_pos hdue] at hread ⊢
    have hinside := hread.advance (by rw [Store.advance, Store.locked_aged, hl]; rfl)
    have hreadInside : c.Reaches i
        (if c.store.isDue c.store.clock.read.2.read.1 then
          .attempting c.store.snapshot c.store.clock.read.2.read.1
          else .leaving (.value c.store.snapshot))
        (c.store.lock.aged c.store.clock.read.2.read.2 []) := by
      have hlock : ((c.store.aged c.store.clock.read.2 []).lock.aged
          c.store.clock.read.2.read.2 []) = c.store.lock.aged c.store.clock.read.2.read.2 [] := by
        simp [Store.lock, Store.aged]
      have h := (hinside.advance rfl).advance (Store.advance_lookedInside _ _)
      rw [← hlock]
      exact h
    by_cases hstill : c.store.isDue c.store.clock.read.2.read.1 = true
    · rw [if_pos hstill] at hreadInside ⊢
      have hended := Reaches.reload (s := c.store.lock.aged c.store.clock.read.2.read.2 [])
        hc.isCoherent hreadInside
      generalize Store.reload _ _ = r at hended ⊢
      obtain ⟨found, t⟩ := r
      cases found with
      | value n => exact hended
      | fault f => exact hended
      | blocked => exact hended
    · rw [if_neg hstill] at hreadInside ⊢
      exact hreadInside.advance rfl
  · rw [if_neg hdue] at hread ⊢
    exact hread

end Crowd

end KnownLogs
