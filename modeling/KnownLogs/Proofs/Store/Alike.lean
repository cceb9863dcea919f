/-
Stores that go on alike:

* `Store.Alike`: the same snapshot, the same lock and the same interval;
* `Store.Alike.visit`, `Store.Alike.visits`: in the same worlds stores that are alike leave the same
  marks and stay alike;
* `Store.GoesOnAs`: a store that goes on as another one, whatever it is asked in whatever world;
* `Store.Alike.goesOnAs`: **stores that are alike go on alike**.
-/
import KnownLogs.Proofs.Store.Journal
import KnownLogs.Proofs.Store.Visits

namespace KnownLogs.Store

variable {s t : Store}

/-- Whether two stores have published the same snapshot and have the same lock and interval. -/
structure Alike (s t : Store) : Prop where
  snapshot : s.snapshot = t.snapshot
  locked : s.locked = t.locked
  interval : s.interval = t.interval

/-- In a world of its own, a store differs from one that is like it in nothing but its marks. -/
lemma Alike.inWorld (h : Alike s t) (w : World) :
    t.inWorld w = (s.inWorld w).remembering t.journal := by
  obtain ⟨hn, hl, hi⟩ := h
  cases s
  cases t
  simp_all [Store.inWorld, remembering]

/-- Stores that are alike answer a visit alike, leave the same marks and stay alike. -/
lemma Alike.visit (h : Alike s t) (v : Visit) :
    (t.visit v).1 = (s.visit v).1 ∧ t.reload? v = s.reload? v ∧
      Alike (s.visit v).2 (t.visit v).2 ∧
      ∃ ms, (s.visit v).2.journal = s.journal ++ ms ∧ (t.visit v).2.journal = t.journal ++ ms := by
  obtain ⟨ms, hj, hany⟩ := exists_marks_of_answer (s.inWorld v.world) v.question
  have ht := hany t.journal
  rw [← h.inWorld] at ht
  rw [Store.visit, Store.visit, reload?, reload?, ht, h.inWorld]
  exact ⟨rfl, rfl, ⟨rfl, rfl, rfl⟩, ms, hj, rfl⟩

/-- **Stores that are alike** make the same attempts over the same visits, leave the same marks
and stay alike. -/
theorem Alike.visits (h : Alike s t) (vs : List Visit) :
    t.reloads vs = s.reloads vs ∧ Alike (s.visits vs) (t.visits vs) ∧
      ∃ ms, (s.visits vs).journal = s.journal ++ ms ∧
        (t.visits vs).journal = t.journal ++ ms := by
  -- by induction on the visits: the stores are alike after each of them
  induction vs generalizing s t with
  | nil => exact ⟨rfl, h, [], by simp, by simp⟩
  | cons v vs ih =>
      obtain ⟨-, hreload, hv, ms, hms, hms'⟩ := h.visit v
      obtain ⟨hreloads, hvs, ns, hns, hns'⟩ := ih hv
      refine ⟨by rw [reloads, reloads, hreload, hreloads], hvs, ms ++ ns, ?_, ?_⟩
      · rw [visits_cons, hns, hms, List.append_assoc]
      · rw [visits_cons, hns', hms', List.append_assoc]

/-- Whether a store goes on as another one, whatever it is asked in whatever world: it gives the
same answers, makes the same attempts, publishes the same snapshots and leaves the same marks. -/
structure GoesOnAs (t s : Store) : Prop where
  answers : ∀ vs x, ((t.visits vs).visit x).1 = ((s.visits vs).visit x).1
  reloads : ∀ vs, t.reloads vs = s.reloads vs
  snapshots : ∀ vs, (t.visits vs).snapshot = (s.visits vs).snapshot
  marks : ∀ vs, ∃ ms, (s.visits vs).journal = s.journal ++ ms ∧
    (t.visits vs).journal = t.journal ++ ms

/-- **Stores that are alike go on alike.** -/
theorem Alike.goesOnAs (h : Alike s t) : t.GoesOnAs s where
  answers vs x := ((h.visits vs).2.1.visit x).1
  reloads vs := (h.visits vs).1
  snapshots vs := (h.visits vs).2.1.snapshot.symm
  marks vs := (h.visits vs).2.2

end KnownLogs.Store
