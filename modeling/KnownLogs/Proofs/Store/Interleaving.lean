/-
What readers are told who put questions at the same time:

* `Crowd.history`: the snapshots that are published, one after another;
* `Crowd.readings`, `Crowd.searches`: the readings of the gate's clock, and those on which attempts
  were made;
* `Crowd.Unbroken`: no attempt is broken off;
* `Crowd.isChain_history`: **published snapshots are an interval apart**;
* `Crowd.isChain_searches`: so are attempts, if none is broken off;
* `Crowd.Asks`: a question of a reader, from where it sets out to where it is served;
* `Crowd.Asks.exists_published`, `Crowd.Asks.idxOf_le`: what it is told was published on the way,
  and no later question is told of something older;
* `Crowd.race`: readers who race for the first snapshot share one attempt;
* `Crowd.readCount_run`: the source is read once in each attempt;
* `Store.readers_interleaved`: **readers of one store** share its attempts, and none is told of
  something that was not there.
-/
import KnownLogs.Proofs.Store.Crowd
import KnownLogs.Proofs.Store.Spacing
import Mathlib.Data.List.Chain
import Mathlib.Data.List.Nodup

namespace KnownLogs

/-- Whether a snapshot may be published after another: it is that of an attempt, and the interval
has passed since the attempt before. -/
def Snapshot.Precedes (interval : Int) (a b : Snapshot) : Prop :=
  ∃ u, b.checkedAt = some u ∧ ∀ t, a.checkedAt = some t → interval ≤ u - t

/-- Where nothing may follow anything, there is at most one. -/
lemma length_le_one_of_isChain {α : Type} {r : α → α → Prop} {l : List α} (h : l.IsChain r)
    (hn : ∀ a ∈ l, ∀ b ∈ l, ¬ r a b) : l.length ≤ 1 := by
  cases h with
  | nil => simp
  | singleton a => simp
  | cons_cons hab _ => exact absurd hab (hn _ (by simp) _ (by simp))

namespace Taken

/-- The snapshot that a step publishes. -/
def published? (x : Taken) : Option Snapshot :=
  x.before.next?

/-- The reading of the clock that the gate takes in a step. -/
def reading? (x : Taken) : Option Int :=
  match x.before with
  | .looked _ | .lookedInside _ => some x.store.clock.read.1
  | _ => none

/-- The reading on which an attempt was decided that searches for a list in a step. -/
def search? (x : Taken) : Option Int :=
  x.before.attempt?

/-- The fault that breaks an attempt off in a step: in the search, or as the sink is told. -/
def abort? (x : Taken) : Option Fault :=
  match x.before, x.after with
  | .attempting _ _, .leaving (.fault f) | .announcing _ _, .leaving (.fault f) => some f
  | _, _ => none

lemma not_fault_of_abort? {x : Taken} {now : Int} (hx : x.before.attempt? = some now)
    (h : x.abort? = none) (f : Fault) : x.after ≠ .leaving (.fault f) := by
  intro hafter
  cases hb : x.before with
  | attempting previous decided => simp [abort?, hb, hafter] at h
  | _ => simp [hb, Progress.attempt?] at hx

end Taken

namespace Crowd

variable {c : Crowd} {i j : Nat} {moves : List Move}

/-! ### What is told of the steps -/

/-- The snapshots that are published over moves. -/
def publications (c : Crowd) (moves : List Move) : List Snapshot :=
  (c.trace moves).filterMap Taken.published?

/-- The snapshot that is published before moves, and those that are published over them. -/
def history (c : Crowd) (moves : List Move) : List Snapshot :=
  c.store.snapshot :: c.publications moves

/-- The readings that the gate takes of the clock over moves. -/
def readings (c : Crowd) (moves : List Move) : List Int :=
  (c.trace moves).filterMap Taken.reading?

/-- The attempts that are made over moves, by the readings on which they were decided. -/
def searches (c : Crowd) (moves : List Move) : List Int :=
  (c.trace moves).filterMap Taken.search?

/-- Whether no attempt is broken off. -/
def Unbroken (c : Crowd) (moves : List Move) : Prop :=
  ∀ x ∈ c.trace moves, x.abort? = none

lemma Unbroken.take (h : c.Unbroken moves) (k : Nat) : c.Unbroken (moves.take k) := by
  intro x hx
  refine h x ?_
  rw [← List.take_append_drop k moves, trace_append]
  exact List.mem_append_left _ hx

lemma filterMap_trace_cons {α : Type} (f : Taken → Option α) (c : Crowd) (m : Move)
    (rest : List Move) :
    (c.trace (m :: rest)).filterMap f =
      ((c.taken? m).bind f).toList ++ ((c.move m).trace rest).filterMap f := by
  rw [trace, List.filterMap_append]
  cases c.taken? m with
  | none => rfl
  | some x => cases hx : f x <;> simp [hx]

lemma publications_append (c : Crowd) (ms rest : List Move) :
    c.publications (ms ++ rest) = c.publications ms ++ (c.run ms).publications rest := by
  rw [publications, trace_append, List.filterMap_append]
  rfl

lemma run_take_succ {m : Move} {k : Nat} (h : moves[k]? = some m) :
    c.run (moves.take (k + 1)) = (c.run (moves.take k)).move m := by
  rw [List.take_add_one, h, run_append]
  rfl

/-! ### Publications -/

namespace IsSound

variable (hc : c.IsSound)
include hc

/-- A move publishes what its step does. -/
lemma snapshot_move (m : Move) :
    (c.move m).store.snapshot = ((c.taken? m).bind Taken.published?).getD c.store.snapshot := by
  have h := hc.turn m
  generalize c.taken? m = taken, c.move m = d at h ⊢
  cases h with
  | stepped i q t hstep => exact hstep.snapshot
  | waited i => rfl
  | changed _ w _ => rfl

/-- What a move publishes may be published then. -/
lemma precedes_of_published {m : Move} {n : Snapshot}
    (hn : (c.taken? m).bind Taken.published? = some n) :
    c.store.snapshot.Precedes c.store.interval n := by
  have h := hc.turn m
  generalize c.taken? m = taken, c.move m = d at h hn
  cases h with
  | stepped i q t _ =>
      obtain ⟨a, rfl, hdue⟩ := (hc.fits i).exists_attempt_of_next? hn
      refine ⟨a.now, a.checkedAt_snapshot, fun u hu => ?_⟩
      rw [Store.isDue, Snapshot.isDue, hu] at hdue
      exact of_decide_eq_true hdue
  | waited i => cases hn
  | changed _ w _ => cases hn

/-- **Published snapshots are an interval apart**, whatever came of the attempts and whatever the
clock tells. -/
theorem isChain_history (moves : List Move) :
    (c.history moves).IsChain (Snapshot.Precedes c.store.interval) := by
  induction moves generalizing c with
  | nil => exact List.isChain_singleton _
  | cons m rest ih =>
      have hrest := ih (hc.move m)
      rw [history, hc.snapshot_move m, hc.interval_move m] at hrest
      rw [history, publications, filterMap_trace_cons]
      cases hn : (c.taken? m).bind Taken.published? with
      | none =>
          rw [hn] at hrest
          exact hrest
      | some n =>
          rw [hn] at hrest
          exact List.isChain_cons_cons.mpr ⟨hc.precedes_of_published hn, hrest⟩

/-- The snapshot that is there after moves is the last that was published. -/
lemma getLast?_history (moves : List Move) :
    (c.history moves).getLast? = some (c.run moves).store.snapshot := by
  induction moves generalizing c with
  | nil => rfl
  | cons m rest ih =>
      have hrest := ih (hc.move m)
      rw [history, hc.snapshot_move m] at hrest
      rw [history, publications, filterMap_trace_cons, run_cons, ← hrest]
      cases (c.taken? m).bind Taken.published? with
      | none => rfl
      | some n => exact List.getLast?_cons_cons

/-- No snapshot is published twice. -/
lemma nodup_history (moves : List Move) : (c.history moves).Nodup := by
  have hpos := c.store.interval_pos
  have htrans : Trans (Snapshot.Precedes c.store.interval)
      (Snapshot.Precedes c.store.interval) (Snapshot.Precedes c.store.interval) := by
    constructor
    rintro a b d ⟨u, hu, hua⟩ ⟨v, hv, hvb⟩
    refine ⟨v, hv, fun t ht => ?_⟩
    have hfirst := hua t ht
    have hsecond := hvb u hu
    omega
  refine (List.isChain_iff_pairwise.mp (hc.isChain_history moves)).imp ?_
  rintro a b ⟨u, hu, hle⟩ rfl
  have hself := hle u hu
  omega

/-- The snapshot that is there at some point is the one in its place of the history. -/
lemma history_getElem? (moves : List Move) (k : Nat) :
    (c.history moves)[(c.publications (moves.take k)).length]? =
      some (c.run (moves.take k)).store.snapshot := by
  have hsplit : c.history moves =
      c.history (moves.take k) ++ (c.run (moves.take k)).publications (moves.drop k) := by
    rw [history, history, List.cons_append, ← publications_append, List.take_append_drop]
  have hlast := hc.getLast?_history (moves.take k)
  rw [List.getLast?_eq_getElem?, history, List.length_cons, Nat.add_sub_cancel] at hlast
  rw [hsplit, List.getElem?_append_left (by simp [history])]
  exact hlast

/-- How many snapshots have been published at some point tells the place of the one that is
there. -/
lemma idxOf_snapshot (moves : List Move) (k : Nat) :
    (c.history moves).idxOf (c.run (moves.take k)).store.snapshot =
      (c.publications (moves.take k)).length := by
  obtain ⟨hk, hget⟩ := List.getElem?_eq_some_iff.mp (hc.history_getElem? moves k)
  rw [← hget]
  exact (hc.nodup_history moves).idxOf_getElem _ hk

/-- The later the point, the later the snapshot that is there was published. -/
lemma idxOf_snapshot_le {k l : Nat} (h : k ≤ l) (moves : List Move) :
    (c.history moves).idxOf (c.run (moves.take k)).store.snapshot ≤
      (c.history moves).idxOf (c.run (moves.take l)).store.snapshot := by
  obtain ⟨rest, hrest⟩ := List.take_prefix_take_left h
  rw [hc.idxOf_snapshot, hc.idxOf_snapshot, ← hrest, publications_append, List.length_append]
  omega

end IsSound

/-! ### Attempts -/

/-- Whether the last attempt was decided on some reading, if there has been one: it is the one
whose snapshot is published, unless its reader has not published anything yet. -/
structure Follows (c : Crowd) (last : Option Int) : Prop where
  pending : ∀ i n, (c.progress i).next? = some n → n.checkedAt = last
  settled : c.store.snapshot.checkedAt = last ∨ ∃ i, (c.progress i).isPending = true

/-- A step that makes no attempt leaves the last attempt what it is. -/
lemma Follows.moved {last : Option Int} (hf : c.Follows last) {q : Progress} {t : Store}
    (h : c.store.Step (c.progress i) q t) (hp : (c.progress i).attempt? = none) :
    (c.moved i q t).Follows last where
  pending j n hn := by
    by_cases hj : j = i
    · rw [hj, progress_moved_self] at hn
      obtain ⟨a, ha, -⟩ := h.next hn
      rw [hp] at ha
      cases ha
    · rw [progress_moved_of_ne hj] at hn
      exact hf.pending j n hn
  settled := by
    rw [store_moved]
    -- a snapshot waits to be published by the reader that moved or by another one
    rcases hf.settled with hs | ⟨j, hj⟩
    · rw [h.snapshot]
      cases hnext : (c.progress i).next? with
      | some n => exact .inl (hf.pending i n hnext)
      | none => exact .inl hs
    · by_cases hji : j = i
      · rw [hji] at hj
        exact .inl (hf.pending i _ (h.next_of_isPending hj))
      · exact .inr ⟨j, by rwa [progress_moved_of_ne hji]⟩

namespace IsSound

variable (hc : c.IsSound)
include hc

/-- An attempt is made behind the lock, an interval after the last one, and is the last one then
unless it is broken off. -/
lemma follows_searched {last : Option Int} (hf : c.Follows last) {q : Progress} {t : Store}
    {now : Int} (h : c.store.Step (c.progress i) q t) (hp : (c.progress i).attempt? = some now)
    (hq : ∀ f, q ≠ .leaving (.fault f)) :
    (∀ u, last = some u → c.store.interval ≤ now - u) ∧ (c.moved i q t).Follows (some now) := by
  have hheld := Progress.holdsLock_of_attempt? hp
  refine ⟨fun u hu => ?_, fun j n hn => ?_, .inr ⟨i, ?_⟩⟩
  · -- whoever else had an attempt pending would hold the lock, too
    have hlast : c.store.snapshot.checkedAt = last := by
      refine hf.settled.resolve_right fun ⟨j, hj⟩ => ?_
      obtain rfl := hc.exclusive j i (Progress.holdsLock_of_isPending hj) hheld
      cases hs : c.progress j with
      | attempting previous now =>
          rw [hs] at hj
          cases hj
      | _ =>
          rw [hs] at hp
          cases hp
    have hdue := (hc.fits i).isDue_of_attempt? hp
    rw [Store.isDue, Snapshot.isDue, hlast, hu] at hdue
    exact of_decide_eq_true hdue
  · by_cases hj : j = i
    · rw [hj, progress_moved_self] at hn
      obtain ⟨a, ha, rfl⟩ := h.next hn
      rw [a.checkedAt_snapshot, ← ha, hp]
    · rw [progress_moved_of_ne hj] at hn
      have hother := hc.not_holdsLock hheld hj
      rw [Progress.holdsLock_of_next? hn] at hother
      cases hother
  · rw [progress_moved_self]
    exact h.isPending_of_attempt? hp hq

/-- **Attempts are an interval apart**, if none is broken off. -/
theorem isChain_searches {last : Option Int} (hf : c.Follows last) (hn : c.Unbroken moves) :
    (last.toList ++ c.searches moves).IsChain fun t u => c.store.interval ≤ u - t := by
  -- by induction on the moves: the last attempt stands in front of those to come
  induction moves generalizing c last with
  | nil => cases last <;> simp [searches, trace]
  | cons m rest ih =>
      have hrest : (c.move m).Unbroken rest := fun x hx => hn x (List.mem_append_right _ hx)
      have hfirst : ∀ x, c.taken? m = some x → x.abort? = none := fun x hx =>
        hn x (List.mem_append_left _ (Option.mem_toList.mpr hx))
      have hlater : ∀ last', (c.move m).Follows last' →
          (last'.toList ++ (c.move m).searches rest).IsChain
            fun t u => c.store.interval ≤ u - t := by
        intro last' hf'
        have h := ih (hc.move m) hf' hrest
        rwa [hc.interval_move m] at h
      rw [searches, filterMap_trace_cons, ← searches]
      have h := hc.turn m
      generalize c.taken? m = taken, c.move m = d at h hfirst hlater ⊢
      cases h with
      | waited i => exact hlater last hf
      | changed _ w _ => exact hlater last ⟨hf.pending, hf.settled⟩
      | stepped i q t hstep =>
          rw [Option.bind_some, Taken.search?]
          cases hp : (c.progress i).attempt? with
          | none => exact hlater last (hf.moved hstep hp)
          | some now =>
              obtain ⟨hspaced, hf'⟩ := hc.follows_searched hf hstep hp
                (Taken.not_fault_of_abort? hp (hfirst _ rfl))
              cases last with
              | none => exact hlater _ hf'
              | some u => exact List.isChain_cons_cons.mpr ⟨hspaced u rfl, hlater _ hf'⟩

end IsSound

/-! ### Questions -/

/-- A question that a reader puts over moves: it sets out with the move at `a`, and is served before
the move at `b`. -/
structure Asks (c : Crowd) (moves : List Move) (i a b : Nat) (found : Ending Snapshot) : Prop where
  lt : a < b
  /-- The reader has no question open. -/
  free : ((c.run (moves.take a)).progress i).isUnderWay = false
  /-- It puts one. -/
  setsOut : moves[a]? = some (.step i)
  /-- It has no answer before the end. -/
  isUnderWay : ∀ k < b, a < k → ((c.run (moves.take k)).progress i).isUnderWay = true
  served : (c.run (moves.take b)).progress i = .served found

/-- The snapshot that a reader has in hand after a move is the one that it had in hand, or the one
that is published then. -/
lemma IsSound.seen_move (hc : c.IsSound) {m : Move} {n : Snapshot}
    (hn : ((c.move m).progress i).seen? = some n) :
    (c.progress i).seen? = some n ∨ (c.move m).store.snapshot = n := by
  have h := hc.turn m
  generalize c.taken? m = taken, c.move m = d at h hn ⊢
  cases h with
  | waited j => exact .inl hn
  | changed _ w _ => exact .inl hn
  | stepped j q t hstep =>
      by_cases hij : i = j
      · subst hij
        rw [progress_moved_self] at hn
        exact hstep.seen (hc.fits i) hn
      · rw [progress_moved_of_ne hij] at hn
        exact .inl hn

namespace Asks

variable {a b : Nat} {found : Ending Snapshot} (h : c.Asks moves i a b found)
include h

/-- A question ends with the moves or before. -/
lemma le_length : b ≤ moves.length := by
  have ha : a < moves.length := (List.getElem?_eq_some_iff.mp h.setsOut).1
  by_contra hb
  have hway := h.isUnderWay moves.length (by omega) ha
  have hserved := h.served
  rw [List.take_of_length_le (by omega)] at hserved
  rw [List.take_length, hserved] at hway
  cases hway

/-- What a reader has in hand on its way was published since it set out. -/
lemma exists_published_of_seen (hc : c.IsSound) {k : Nat} (hk : a < k) (hkb : k ≤ moves.length)
    {n : Snapshot} (hn : ((c.run (moves.take k)).progress i).seen? = some n) :
    ∃ l, a < l ∧ l ≤ k ∧ (c.run (moves.take l)).store.snapshot = n := by
  induction k, hk using Nat.le_induction with
  | base =>
      have hlook := Store.advance_of_free (c.run (moves.take a)).store h.free
      rw [run_take_succ h.setsOut, move_of_some hlook, progress_moved_self] at hn
      refine ⟨a + 1, by omega, le_refl _, ?_⟩
      rw [run_take_succ h.setsOut, move_of_some hlook]
      exact Option.some.inj hn
  | succ k hk ih =>
      obtain ⟨m, hm⟩ : ∃ m, moves[k]? = some m := ⟨moves[k], List.getElem?_eq_getElem hkb⟩
      have hlast := run_take_succ (c := c) hm
      rw [hlast] at hn
      rcases (hc.run (moves.take k)).seen_move hn with hn | hn
      · obtain ⟨l, hal, hlk, hl⟩ := ih (by omega) hn
        exact ⟨l, hal, by omega, hl⟩
      · exact ⟨k + 1, by omega, le_refl _, by rw [hlast, hn]⟩

/-- **What a reader is told was published while it was on its way**, and is the outcome of an
attempt. -/
theorem exists_published (hc : c.IsSound) {n : Snapshot} (hn : found = .value n) :
    n.state ≠ .uninitialized ∧
      ∃ k, a < k ∧ k ≤ b ∧ (c.run (moves.take k)).store.snapshot = n := by
  have hserved := h.served
  rw [hn] at hserved
  have hfits := (hc.run (moves.take b)).fits i
  rw [hserved] at hfits
  exact ⟨hfits, h.exists_published_of_seen hc h.lt h.le_length (by rw [hserved]; rfl)⟩

/-- What a reader is told is in the history. -/
lemma mem_history (hc : c.IsSound) {n : Snapshot} (hn : found = .value n) :
    n ∈ c.history moves := by
  obtain ⟨-, k, -, -, rfl⟩ := h.exists_published hc hn
  exact List.mem_of_getElem? (hc.history_getElem? moves k)

/-- **Who asks later is not told less**: of two questions, one of which is put when the other has
been answered, the later one is answered from the same publication or from a later one. -/
theorem idxOf_le (hc : c.IsSound) {n n' : Snapshot} (hn : found = .value n) {a' b' : Nat}
    {found' : Ending Snapshot} (h' : c.Asks moves j a' b' found') (hn' : found' = .value n')
    (hba : b ≤ a') : (c.history moves).idxOf n ≤ (c.history moves).idxOf n' := by
  obtain ⟨-, k, -, hkb, rfl⟩ := h.exists_published hc hn
  obtain ⟨-, l, hal, -, rfl⟩ := h'.exists_published hc hn'
  exact hc.idxOf_snapshot_le (by omega) moves

end Asks

/-! ### Readers of a new store -/

section Fresh

variable {s : Store} (hs : s.snapshot = .initial)
include hs

lemma follows_fresh : s.crowd.Follows none where
  pending _ _ hi := nomatch hi
  settled := .inl (congrArg Snapshot.checkedAt hs)

variable (hl : s.locked = false)
include hl

lemma isSound_fresh : s.crowd.IsSound :=
  isSound_crowd (hs ▸ Snapshot.isCoherent_initial) hl

/-- Where a step starts, another one has ended, unless its reader sets out for the first time. -/
lemma exists_step_before {x : Taken} (hx : x ∈ s.crowd.trace moves) (hidle : x.before ≠ .idle) :
    ∃ y ∈ s.crowd.trace moves, y.after = x.before ∧ ∃ t, y.store.Step y.before x.before t := by
  rcases (isSound_fresh hs hl).exists_taken_before hx with ⟨i, h⟩ | ⟨y, hy, h⟩
  · exact absurd h hidle
  · obtain ⟨t, hstep⟩ := (isSound_fresh hs hl).step_of_mem_trace hy
    exact ⟨y, hy, h, t, h ▸ hstep⟩

/-- An attempt was decided on a reading that the gate took. -/
lemma mem_readings_of_mem_searches {now : Int} (hnow : now ∈ s.crowd.searches moves) :
    now ∈ s.crowd.readings moves := by
  obtain ⟨x, hx, hsearch⟩ := List.mem_filterMap.mp hnow
  have hidle : x.before ≠ .idle := by
    intro h
    rw [Taken.search?, h] at hsearch
    cases hsearch
  obtain ⟨y, hy, -, t, hstep⟩ := exists_step_before hs hl hx hidle
  obtain ⟨n, hlooked, hread⟩ := hstep.reading hsearch
  exact List.mem_filterMap.mpr ⟨y, hy, by rw [Taken.reading?, hlooked, ← hread]⟩

/-- Each publication is that of an attempt. -/
lemma exists_search_of_mem_publications {n : Snapshot} (hn : n ∈ s.crowd.publications moves) :
    ∃ now ∈ s.crowd.searches moves, n.checkedAt = some now := by
  obtain ⟨x, hx, hnext⟩ := List.mem_filterMap.mp hn
  have hidle : x.before ≠ .idle := by
    intro h
    rw [Taken.published?, h] at hnext
    cases hnext
  obtain ⟨y, hy, -, t, hstep⟩ := exists_step_before hs hl hx hidle
  obtain ⟨a, ha, rfl⟩ := hstep.next hnext
  exact ⟨a.now, List.mem_filterMap.mpr ⟨y, hy, ha⟩, a.checkedAt_snapshot⟩

/-- A question does not end in a fault, unless an attempt is broken off. -/
lemma served_ne_fault (hn : s.crowd.Unbroken moves) (f : Fault) :
    (s.crowd.run moves).progress i ≠ .served (.fault f) := by
  intro h
  rcases (isSound_fresh hs hl).exists_taken moves i with hi | ⟨x, hx, hi⟩
  · rw [h] at hi
    cases hi
  obtain ⟨t, hstep⟩ := (isSound_fresh hs hl).step_of_mem_trace hx
  rw [hi, h] at hstep
  -- the fault has come up the way from the step that broke the attempt off
  have hleaving : x.before = .leaving (.fault f) := hstep.leaving_of_fault
  obtain ⟨y, hy, hafter, u, hbroken⟩ :=
    exists_step_before hs hl hx (by rw [hleaving]; simp)
  rw [hleaving] at hafter hbroken
  have hnone := hn y hy
  rcases hbroken.attempting_of_fault with ⟨previous, now, hb⟩ | ⟨previous, next, hb⟩
  · simp [Taken.abort?, hb, hafter] at hnone
  · simp [Taken.abort?, hb, hafter] at hnone

/-- A question is answered, unless an attempt is broken off. -/
lemma Asks.exists_value {a b : Nat} {found : Ending Snapshot}
    (h : s.crowd.Asks moves i a b found) (hn : s.crowd.Unbroken moves) :
    ∃ n, found = .value n := by
  have hserved := h.served
  have hfits := ((isSound_fresh hs hl).run (moves.take b)).fits i
  rw [hserved] at hfits
  cases found with
  | value n => exact ⟨n, rfl⟩
  | fault f => exact absurd hserved (served_ne_fault hs hl (hn.take b) f)
  | blocked => cases hfits

/-- If no two readings of the gate are an interval apart, at most one attempt is made. -/
lemma length_searches_le_one (hn : s.crowd.Unbroken moves)
    (hclose : ∀ t ∈ s.crowd.readings moves, ∀ u ∈ s.crowd.readings moves, u - t < s.interval) :
    (s.crowd.searches moves).length ≤ 1 := by
  have hc := isSound_fresh hs hl
  refine length_le_one_of_isChain (hc.isChain_searches (follows_fresh hs) hn) ?_
  intro t ht u hu
  have hnear := hclose t (mem_readings_of_mem_searches hs hl ht) u
    (mem_readings_of_mem_searches hs hl hu)
  exact Int.not_le.mpr hnear

/-- If no two readings of the gate are an interval apart, at most one snapshot is published. -/
lemma length_publications_le_one
    (hclose : ∀ t ∈ s.crowd.readings moves, ∀ u ∈ s.crowd.readings moves, u - t < s.interval) :
    (s.crowd.publications moves).length ≤ 1 := by
  have hc := isSound_fresh hs hl
  refine length_le_one_of_isChain (hc.isChain_history moves).tail ?_
  rintro m hm n hn ⟨v, hv, hapart⟩
  obtain ⟨t, ht, hmt⟩ := exists_search_of_mem_publications hs hl hm
  obtain ⟨u, hu, hnu⟩ := exists_search_of_mem_publications hs hl hn
  obtain rfl : u = v := Option.some.inj (hnu.symm.trans hv)
  have hnear := hclose t (mem_readings_of_mem_searches hs hl ht) u
    (mem_readings_of_mem_searches hs hl hu)
  exact absurd (hapart t hmt) (Int.not_le.mpr hnear)

/-- **Readers who race for the first snapshot share one attempt**: if no two readings of the gate
are an interval apart, the outcome of an attempt is the only one. -/
theorem race (hn : s.crowd.Unbroken moves)
    (hclose : ∀ t ∈ s.crowd.readings moves, ∀ u ∈ s.crowd.readings moves, u - t < s.interval)
    {n : Snapshot} (hmem : n ∈ s.crowd.history moves) (hstate : n.state ≠ .uninitialized) :
    (s.crowd.searches moves).length = 1 ∧ s.crowd.history moves = [.initial, n] := by
  have hinitial : s.crowd.store.snapshot = .initial := hs
  -- it has been published by an attempt; a second one would have to be an interval away
  have hpublished : n ∈ s.crowd.publications moves := by
    rw [history, hinitial] at hmem
    refine (List.mem_cons.mp hmem).resolve_left ?_
    rintro rfl
    exact hstate rfl
  obtain ⟨t, ht, -⟩ := exists_search_of_mem_publications hs hl hpublished
  have hsome := List.length_pos_of_mem ht
  have hone := length_searches_le_one hs hl hn hclose
  have hall : s.crowd.publications moves = [n] := by
    have hlength := length_publications_le_one hs hl hclose
    have hpos := List.length_pos_of_mem hpublished
    obtain ⟨m, hm⟩ := List.length_eq_one_iff.mp
      (show (s.crowd.publications moves).length = 1 by omega)
    rw [hm] at hpublished ⊢
    rw [List.mem_singleton.mp hpublished]
  exact ⟨by omega, by rw [history, hinitial, hall]⟩

end Fresh

/-- **The source is read once in each attempt**, and not otherwise. -/
theorem readCount_run (hc : c.IsSound) (hw : c.store.world.TellsNoCall)
    (hm : ∀ m ∈ moves, ∀ w, m.world? = some w → w.TellsNoCall) :
    (c.run moves).store.readCount = c.store.readCount + (c.searches moves).length := by
  induction moves generalizing c with
  | nil => rfl
  | cons m rest ih =>
      obtain ⟨hfirst, hrest⟩ := List.forall_mem_cons.mp hm
      have hlater := fun hw' => ih (hc.move m) hw' hrest
      rw [run_cons, searches, filterMap_trace_cons, List.length_append, ← searches]
      have h := hc.turn m
      generalize c.taken? m = taken, c.move m = d at h hlater ⊢
      cases h with
      | waited i =>
          rw [hlater hw]
          simp
      | changed _ w hw' =>
          rw [hlater (hfirst w hw')]
          simp [Store.readCount]
      | stepped i q t hstep =>
          rw [hlater (hstep.tellsNoCall hw), store_moved, hstep.readCount hw, Nat.add_assoc]
          rfl

end Crowd

namespace Store

variable {s : Store} {source : Option (Call (Outcome Bytes))}
  {parser : Option (Bytes → Call (Outcome Document))} {policy : Option CompliancePolicy}
  {sink : Option MetricsSink} {clock : Clock} {interval : Int}

/-- **Readers of one store**, whose steps are taken in any order while the clock tells anything and
no attempt is broken off: at most one of them is behind the lock; the snapshots are published an
interval apart; whoever is on the way can be served, unless a reader waits for itself before
anything has been published; whoever is served is told of a snapshot that is the outcome of an
attempt and was published on the way; who asks later is not told of an earlier publication; if no
two readings of the clock are an interval apart, all share one attempt; and the source is read once
in each attempt. -/
theorem readers_interleaved (h : Store.build source parser policy sink clock interval = .ok s)
    {moves : List Crowd.Move} (hn : s.crowd.Unbroken moves) :
    (∀ i j, ((s.crowd.run moves).progress i).holdsLock = true →
      ((s.crowd.run moves).progress j).holdsLock = true → i = j) ∧
    ((s.crowd.history moves).getLast? = some (s.crowd.run moves).store.snapshot ∧
      (s.crowd.history moves).IsChain (Snapshot.Precedes interval) ∧
      (s.crowd.history moves).Nodup) ∧
    (∀ i, ((s.crowd.run moves).progress i).isUnderWay = true → (s.crowd.run moves).CanServe i) ∧
    (∀ i a b found, s.crowd.Asks moves i a b found →
      ∃ n, found = .value n ∧ n.state ≠ .uninitialized ∧
        ∃ k, a < k ∧ k ≤ b ∧ (s.crowd.run (moves.take k)).store.snapshot = n) ∧
    (∀ i j a b a' b' n n', s.crowd.Asks moves i a b (.value n) →
      s.crowd.Asks moves j a' b' (.value n') → b ≤ a' →
        (s.crowd.history moves).idxOf n ≤ (s.crowd.history moves).idxOf n') ∧
    ((∀ t ∈ s.crowd.readings moves, ∀ u ∈ s.crowd.readings moves, u - t < interval) →
      (s.crowd.searches moves).length ≤ 1 ∧
        ∀ i a b n, s.crowd.Asks moves i a b (.value n) →
          (s.crowd.searches moves).length = 1 ∧ s.crowd.history moves = [.initial, n]) ∧
    (s.world.TellsNoCall → (∀ m ∈ moves, ∀ w, m.world? = some w → w.TellsNoCall) →
      (s.crowd.run moves).store.readCount = (s.crowd.searches moves).length) := by
  obtain ⟨hs, hl, hj, rfl⟩ := build_fresh h
  have hc := Crowd.isSound_fresh hs hl
  -- each part is a property of sound crowds, kept by every move
  refine ⟨(hc.run moves).exclusive,
    ⟨hc.getLast?_history moves, hc.isChain_history moves, hc.nodup_history moves⟩,
    fun i hi => (hc.run moves).canServe hi, fun i a b found hasks => ?_, ?_, fun hclose => ?_, ?_⟩
  · obtain ⟨n, hfound⟩ := hasks.exists_value hs hl hn
    exact ⟨n, hfound, hasks.exists_published hc hfound⟩
  · intro i j a b a' b' n n' hasks hasks' hba
    exact hasks.idxOf_le hc rfl hasks' rfl hba
  · refine ⟨Crowd.length_searches_le_one hs hl hn hclose, fun i a b n hasks => ?_⟩
    exact Crowd.race hs hl hn hclose (hasks.mem_history hc rfl) (hasks.exists_published hc rfl).1
  · intro hw hm
    have hzero : s.crowd.store.readCount = 0 := by
      rw [readCount, crowd, hj]
      rfl
    rw [Crowd.readCount_run hc hw hm, hzero, Nat.zero_add]

/-- A new store whose clock tells these readings, not always forward. -/
def rushedStore : Store :=
  newIn (hourlyWorld (.success [1]) [5, 8, 7, 6, 9, 4])

/-- Three readers find that nothing has been published. The first makes an attempt while the two
others wait at the lock; then the second finds nothing due any more, the first asks once more, and
the third takes the lock. -/
def rush : List Crowd.Move :=
  [0, 1, 2, 0, 1, 2, 0, 1, 0, 0, 0, 2, 0, 0, 0, 1, 1, 1, 1, 0, 0, 2].map .step

/-- The snapshot of the one attempt. -/
def rushedSnapshot : Snapshot :=
  (Attempt.mk 6 (.judged [1] { version := "1", timestamp := 5 } (.ok (.bool true)))).snapshot

/-- In this rush one attempt is made, all three questions are answered from its snapshot, which was
published while each of them was on its way, and the third reader can be served, too. -/
theorem readers_interleaved_of_rush :
    (∃ source parser policy sink clock,
      Store.build source parser policy sink clock briefInterval = .ok rushedStore) ∧
      rushedStore.crowd.Unbroken rush ∧
      rushedStore.crowd.Asks rush 0 0 15 (.value rushedSnapshot) ∧
      rushedStore.crowd.Asks rush 1 1 19 (.value rushedSnapshot) ∧
      rushedStore.crowd.Asks rush 0 19 21 (.value rushedSnapshot) ∧
      rushedStore.crowd.readings rush = [5, 8, 7, 6, 9, 4] ∧
      (∃ k, 1 < k ∧ k ≤ 19 ∧
        (rushedStore.crowd.run (rush.take k)).store.snapshot = rushedSnapshot) ∧
      rushedSnapshot.state ≠ .uninitialized ∧
      rushedStore.crowd.history rush = [.initial, rushedSnapshot] ∧
      (rushedStore.crowd.searches rush).length = 1 ∧
      (rushedStore.crowd.run rush).store.readCount = 1 ∧
      (∀ j, ((rushedStore.crowd.run rush).progress j).holdsLock = true → 2 = j) ∧
      (rushedStore.crowd.run rush).CanServe 2 := by
  have h : Store.build _ _ _ _ _ briefInterval = .ok rushedStore := build_newIn _
  have hn : rushedStore.crowd.Unbroken rush := by
    show ∀ x ∈ rushedStore.crowd.trace rush, x.abort? = none
    decide +kernel
  have hfirst : rushedStore.crowd.Asks rush 0 0 15 (.value rushedSnapshot) :=
    ⟨by decide, by decide +kernel, rfl, by decide +kernel, rfl⟩
  have hsecond : rushedStore.crowd.Asks rush 1 1 19 (.value rushedSnapshot) :=
    ⟨by decide, by decide +kernel, rfl, by decide +kernel, rfl⟩
  have hagain : rushedStore.crowd.Asks rush 0 19 21 (.value rushedSnapshot) :=
    ⟨by decide, by decide +kernel, rfl, by decide +kernel, rfl⟩
  have hreadings : rushedStore.crowd.readings rush = [5, 8, 7, 6, 9, 4] := by decide +kernel
  have hw : rushedStore.world.TellsNoCall :=
    ⟨by simp [rushedStore, newIn, world, hourlyWorld, Call.done],
      by simp [rushedStore, newIn, world, hourlyWorld, Call.done],
      by simp [rushedStore, newIn, world, hourlyWorld, Dialogue.marks],
      by simp [rushedStore, newIn, world, hourlyWorld, Sink.silent, Dialogue.marks]⟩
  have hm : ∀ m ∈ rush, ∀ w, m.world? = some w → w.TellsNoCall := by
    intro m hm w hw
    obtain ⟨i, -, rfl⟩ := List.mem_map.mp hm
    cases hw
  obtain ⟨hexclusive, -, hservable, hserved, -, hrace, hcount⟩ := readers_interleaved h hn
  obtain ⟨n, hvalue, hstate, hwindow⟩ := hserved 1 1 19 _ hsecond
  obtain rfl : rushedSnapshot = n := Ending.value.inj hvalue
  obtain ⟨-, hshared⟩ := hrace (by rw [hreadings]; decide)
  obtain ⟨hone, hhistory⟩ := hshared 0 0 15 _ hfirst
  exact ⟨⟨_, _, _, _, _, h⟩, hn, hfirst, hsecond, hagain, hreadings, hwindow, hstate, hhistory,
    hone, (hcount hw hm).trans hone, fun j hj => hexclusive 2 j (by decide +kernel) hj,
    hservable 2 (by decide +kernel)⟩

end Store

end KnownLogs
