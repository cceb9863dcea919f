/-
The index of a log list:

* `Document.nodup_logs`: the ids of the entries that can be found are different;
* `Document.mem_listings_of_mem_logs`: each of these entries is listed;
* `Document.find?_eq_some`: **an entry is found under an id** when it is the one of these
  entries that has the id.
-/
import Mathlib.Data.List.Nodup
import Mathlib.Tactic.Common
import KnownLogs.Log.Document

namespace KnownLogs.Document

/-! ### Placing an entry -/

variable {e f : Entry} {ix : List Entry}

/-- Placing an entry replaces the one with its id, or comes last. -/
lemma map_logId_place (e : Entry) (ix : List Entry) :
    (place e ix).map Entry.logId =
      if e.logId ∈ ix.map Entry.logId then ix.map Entry.logId
      else ix.map Entry.logId ++ [e.logId] := by
  induction ix with
  | nil => rfl
  | cons g rest ih =>
      rw [place]
      by_cases h : g.logId = e.logId
      · simp [h]
      · have hmem : e.logId ∈ (g :: rest).map Entry.logId ↔ e.logId ∈ rest.map Entry.logId := by
          simp [Ne.symm h]
        rw [if_neg h, List.map_cons, ih]
        by_cases hr : e.logId ∈ rest.map Entry.logId
        · rw [if_pos hr, if_pos (hmem.mpr hr), List.map_cons]
        · rw [if_neg hr, if_neg (hmem.not.mpr hr), List.map_cons, List.cons_append]

lemma nodup_place (h : (ix.map Entry.logId).Nodup) : ((place e ix).map Entry.logId).Nodup := by
  rw [map_logId_place]
  split_ifs with he
  · exact h
  · rw [List.nodup_append]
    refine ⟨h, List.nodup_singleton _, ?_⟩
    rintro id hid _ hlast rfl
    exact he (List.mem_singleton.mp hlast ▸ hid)

lemma mem_of_mem_place (h : f ∈ place e ix) : f = e ∨ f ∈ ix := by
  induction ix with
  | nil => exact .inl (List.mem_singleton.mp h)
  | cons g rest ih =>
      rw [place] at h
      split_ifs at h
      · rcases List.mem_cons.mp h with rfl | h
        · exact .inl rfl
        · exact .inr (List.mem_cons_of_mem _ h)
      · rcases List.mem_cons.mp h with rfl | h
        · exact .inr List.mem_cons_self
        · exact (ih h).imp id (List.mem_cons_of_mem _)

/-! ### The whole index -/

/-- The ids of the entries that can be found are different. -/
lemma nodup_logs (d : Document) : (d.logs.map Entry.logId).Nodup := by
  rw [logs, index]
  exact List.foldlRecOn (motive := fun ix : List Entry => (ix.map Entry.logId).Nodup) d.listings _
    List.nodup_nil fun _ h _ _ => nodup_place h

/-- Each entry that can be found is listed. -/
lemma mem_listings_of_mem_logs {d : Document} (h : e ∈ d.logs) :
    ∃ name, (name, e) ∈ d.listings := by
  have hall : ∀ f ∈ d.index, ∃ name, (name, f) ∈ d.listings := by
    rw [index]
    refine List.foldlRecOn
      (motive := fun ix : List Entry => ∀ f ∈ ix, ∃ name, (name, f) ∈ d.listings)
      d.listings _ (by simp) ?_
    intro ix hix l hl f hf
    rcases mem_of_mem_place hf with rfl | hf
    · exact ⟨l.1, hl⟩
    · exact hix f hf
  exact hall e h

lemma mem_listings {d : Document} {l : String × Entry} :
    l ∈ d.listings ↔ ∃ o ∈ d.operators, l.2 ∈ o.logs ∧ l.1 = o.name := by
  rw [listings, List.mem_flatMap]
  constructor
  · rintro ⟨o, ho, hl⟩
    obtain ⟨e, he, rfl⟩ := List.mem_map.mp hl
    exact ⟨o, ho, he, rfl⟩
  · rintro ⟨o, ho, he, hn⟩
    exact ⟨o, ho, List.mem_map.mpr ⟨l.2, he, by rw [← hn]⟩⟩

/-- **An entry is found under an id** when it is the one of the entries with this id. -/
theorem find?_eq_some {d : Document} {id : Bytes} :
    d.find? id = some e ↔ e ∈ d.logs ∧ e.logId = id := by
  constructor
  · intro h
    exact ⟨List.mem_of_find?_eq_some h, by simpa using List.find?_some h⟩
  · rintro ⟨he, rfl⟩
    have hsome : (d.find? e.logId).isSome = true :=
      List.find?_isSome.mpr ⟨e, he, by simp⟩
    obtain ⟨f, hf⟩ := Option.isSome_iff_exists.mp hsome
    have hid : f.logId = e.logId := by simpa using List.find?_some hf
    rw [hf, List.inj_on_of_nodup_map d.nodup_logs (List.mem_of_find?_eq_some hf) he hid]

end KnownLogs.Document
