/-
Log lists in which ids are repeated:

* `Document.entries`, `Document.ids`: the entries of a list in order, and their ids;
* `Document.find?_indexOf`: an id is looked up from the end of the list;
* `Document.pairwise_indexOf`: the ids of the index keep the order in which they first stand;
* `Document.repeatsAfter_eq`: the entries that are warned of are those whose id stood before;
* `Document.last_wins_in_first_place`: **of the entries with one id the last is found, in the place
  of the first**, and every entry but the first is warned of.

All of it is by induction on the list from its end, where one more entry is placed.
-/
import Mathlib.Data.Finset.Card
import KnownLogs.LogList.Reading
import KnownLogs.Proofs.Log.Index

namespace KnownLogs.Document

/-! ### The entries of a list -/

/-- The entries of a list: its operators in order, and the logs of each in order. -/
def entries (d : Document) : List Entry :=
  d.operators.flatMap Operator.logs

/-- The ids of the entries, in the same order. -/
def ids (d : Document) : List Bytes :=
  d.entries.map Entry.logId

/-- The ids that are listed. -/
def listedIds (ls : List (String × Entry)) : List Bytes :=
  ls.map fun l => l.2.logId

/-- The index of what is listed. -/
def indexOf (ls : List (String × Entry)) : List Entry :=
  ls.foldl (fun ix l => place l.2 ix) []

variable {e : Entry} {ix : List Entry} {ls : List (String × Entry)} {l : String × Entry}

lemma map_snd_listings (d : Document) : d.listings.map Prod.snd = d.entries := by
  simp [listings, entries, List.map_flatMap, Function.comp_def]

lemma listedIds_listings (d : Document) : listedIds d.listings = d.ids := by
  rw [ids, ← map_snd_listings, List.map_map]
  rfl

lemma indexOf_concat (ls : List (String × Entry)) (l : String × Entry) :
    indexOf (ls ++ [l]) = place l.2 (indexOf ls) := by
  simp [indexOf]

lemma listedIds_concat (ls : List (String × Entry)) (l : String × Entry) :
    listedIds (ls ++ [l]) = listedIds ls ++ [l.2.logId] := by
  simp [listedIds]

/-! ### Looking an id up -/

/-- A placed entry is found under its id, and hides no other id. -/
lemma find?_place (e : Entry) (ix : List Entry) (id : Bytes) :
    (place e ix).find? (fun f => f.logId == id) =
      if e.logId = id then some e else ix.find? fun f => f.logId == id := by
  induction ix with
  | nil =>
      by_cases he : e.logId = id
      · simp [place, he]
      · simp [place, he]
  | cons g rest ih =>
      rw [place]
      split_ifs with hg he he
      · simp [he]
      · simp [hg, he]
      · have hid : g.logId ≠ id := fun hid => hg (hid.trans he.symm)
        simp [hid, ih, he]
      · rw [List.find?_cons, List.find?_cons, ih, if_neg he]

/-- An id is looked up from the end of the list. -/
lemma find?_indexOf (ls : List (String × Entry)) (id : Bytes) :
    (indexOf ls).find? (fun e => e.logId == id) =
      (ls.map Prod.snd).reverse.find? fun e => e.logId == id := by
  induction ls using List.reverseRecOn with
  | nil => rfl
  | append_singleton ls l ih =>
      rw [indexOf_concat, find?_place, ih, List.map_append, List.reverse_append]
      by_cases h : l.2.logId = id
      · simp [h]
      · simp [h]

/-! ### The order of the index -/

/-- The index has the ids that are listed. -/
lemma mem_map_logId_indexOf (ls : List (String × Entry)) {id : Bytes} :
    id ∈ (indexOf ls).map Entry.logId ↔ id ∈ listedIds ls := by
  induction ls using List.reverseRecOn with
  | nil => rfl
  | append_singleton ls l ih =>
      rw [indexOf_concat, map_logId_place, listedIds_concat, List.mem_append, ← ih]
      split_ifs with h
      · rw [List.mem_singleton, or_iff_left_of_imp]
        rintro rfl
        exact h
      · rw [List.mem_append]

/-- One more entry leaves the ids of the index as they are, or its id comes last. -/
lemma map_logId_indexOf_concat (ls : List (String × Entry)) (l : String × Entry) :
    (indexOf (ls ++ [l])).map Entry.logId =
      if l.2.logId ∈ listedIds ls then (indexOf ls).map Entry.logId
      else (indexOf ls).map Entry.logId ++ [l.2.logId] := by
  rw [indexOf_concat, map_logId_place]
  simp only [mem_map_logId_indexOf]

/-- **The ids of the index keep the order in which they first stand**, and each stands there
once. -/
lemma pairwise_indexOf (ls : List (String × Entry)) :
    ((indexOf ls).map Entry.logId).Pairwise fun a b =>
      (listedIds ls).idxOf a < (listedIds ls).idxOf b := by
  induction ls using List.reverseRecOn with
  | nil => exact List.Pairwise.nil
  | append_singleton ls l ih =>
      have hplace : ∀ id ∈ (indexOf ls).map Entry.logId,
          (listedIds (ls ++ [l])).idxOf id = (listedIds ls).idxOf id := fun id hid => by
        rw [listedIds_concat, List.idxOf_append_of_mem ((mem_map_logId_indexOf ls).mp hid)]
      have hrest := ih.imp_of_mem (S := fun a b =>
          (listedIds (ls ++ [l])).idxOf a < (listedIds (ls ++ [l])).idxOf b)
        fun ha hb hab => by rwa [hplace _ ha, hplace _ hb]
      rw [map_logId_indexOf_concat]
      split_ifs with h
      · exact hrest
      · rw [List.pairwise_append]
        refine ⟨hrest, List.pairwise_singleton _ _, fun a ha b hb => ?_⟩
        cases List.mem_singleton.mp hb
        -- a new id first stands behind all ids that were listed before
        calc (listedIds (ls ++ [l])).idxOf a
            = (listedIds ls).idxOf a := hplace a ha
          _ < (listedIds ls).length :=
              List.idxOf_lt_length_iff.mpr ((mem_map_logId_indexOf ls).mp ha)
          _ = (listedIds (ls ++ [l])).idxOf l.2.logId := by
              simp [listedIds_concat, List.idxOf_append_of_notMem h]

/-! ### Repeated ids -/

/-- One more entry is a repeated one if its id stands in front of it. -/
lemma repeatsAfter_concat (before : List Bytes) (ls : List (String × Entry))
    (l : String × Entry) :
    repeatsAfter before (ls ++ [l]) =
      repeatsAfter before ls ++
        if l.2.logId ∈ before ∨ l.2.logId ∈ listedIds ls then [l] else [] := by
  induction ls generalizing before with
  | nil => simp [repeatsAfter, listedIds]
  | cons m rest ih =>
      have hids : l.2.logId ∈ listedIds (m :: rest) ↔
          l.2.logId = m.2.logId ∨ l.2.logId ∈ listedIds rest := List.mem_cons
      rw [List.cons_append, repeatsAfter, repeatsAfter]
      -- an entry that is repeated itself adds no id to those in front
      by_cases hm : m.2.logId ∈ before
      · have hbefore : l.2.logId = m.2.logId → l.2.logId ∈ before := fun h => h ▸ hm
        have hiff : l.2.logId ∈ before ∨ l.2.logId ∈ listedIds (m :: rest) ↔
            l.2.logId ∈ before ∨ l.2.logId ∈ listedIds rest := by
          rw [hids, ← or_assoc, or_iff_left_of_imp hbefore]
        rw [if_pos (by simpa using hm), if_pos (by simpa using hm), ih, List.cons_append]
        simp only [hiff]
      · have hiff : l.2.logId ∈ before ∨ l.2.logId ∈ listedIds (m :: rest) ↔
            l.2.logId ∈ m.2.logId :: before ∨ l.2.logId ∈ listedIds rest := by
          rw [hids, List.mem_cons, or_assoc, or_left_comm]
        rw [if_neg (by simpa using hm), if_neg (by simpa using hm), ih]
        simp only [hiff]

/-- **The entries that are warned of** are those whose id stands in front of them, in order. -/
lemma repeatsAfter_eq (ls : List (String × Entry)) :
    repeatsAfter [] ls =
      (ls.zipIdx.filter fun l => l.1.2.logId ∈ (listedIds ls).take l.2).map Prod.fst := by
  -- by induction from the end, where one more entry changes nothing in front of it
  induction ls using List.reverseRecOn with
  | nil => rfl
  | append_singleton ls l ih =>
      have hfront : ls.zipIdx.filter (fun m => m.1.2.logId ∈ (listedIds (ls ++ [l])).take m.2) =
          ls.zipIdx.filter fun m => m.1.2.logId ∈ (listedIds ls).take m.2 := by
        refine List.filter_congr fun m hm => ?_
        have hlt : m.2 < ls.length := by simpa using List.snd_lt_of_mem_zipIdx hm
        have hle : m.2 ≤ (listedIds ls).length := by simpa [listedIds] using hlt.le
        rw [listedIds_concat, List.take_append_of_le_length hle]
      have hall : (listedIds (ls ++ [l])).take ls.length = listedIds ls := by
        rw [listedIds_concat]
        simp [listedIds]
      rw [repeatsAfter_concat, List.zipIdx_append, List.filter_append, hfront, List.map_append, ih]
      by_cases h : l.2.logId ∈ listedIds ls
      · simp [h, hall]
      · simp [h, hall]

/-- Every entry is the first with its id, for which the index has a place, or is warned of. -/
lemma length_repeatsAfter_add (ls : List (String × Entry)) :
    (repeatsAfter [] ls).length + (indexOf ls).length = ls.length := by
  induction ls using List.reverseRecOn with
  | nil => rfl
  | append_singleton ls l ih =>
      have hindex := congrArg List.length (map_logId_indexOf_concat ls l)
      rw [List.length_map] at hindex
      rw [repeatsAfter_concat, hindex, List.length_append, List.length_append]
      by_cases h : l.2.logId ∈ listedIds ls
      · simp [h]
        omega
      · simp [h]
        omega

/-! ### The whole list -/

/-- **Of the entries with one id the last is found, in the place of the first**: the index has one
entry for each id, which is the one that is found, and keeps the order in which the ids first stand.
Every entry whose id stands in front of it is warned of, in order, with its operator, so that there
are as many warnings as entries that do not count. -/
theorem last_wins_in_first_place (d : Document) :
    (∀ id e, d.find? id = some e ↔ e.logId = id ∧
      ∃ earlier later, d.entries = earlier ++ e :: later ∧ ∀ f ∈ later, f.logId ≠ id) ∧
    (∀ id, d.find? id = none ↔ ∀ e ∈ d.entries, e.logId ≠ id) ∧
    (∀ e, e ∈ d.logs ↔ d.find? e.logId = some e) ∧
    d.logs.Pairwise (fun e f => d.ids.idxOf e.logId < d.ids.idxOf f.logId) ∧
    d.count = d.logs.length ∧ d.count = d.ids.toFinset.card ∧
    (LogList.announce d).marks =
      (d.listings.zipIdx.filter fun l => l.1.2.logId ∈ d.ids.take l.2).map (fun l =>
        .ofEvent .warning "document.duplicate_log_id"
          [("log_id", .text (Hex.encode l.1.2.logId)), ("operator", .text l.1.1)]) ∧
    (LogList.announce d).marks.length + d.count = d.entries.length := by
  -- the index finds what is found from the end of the list
  have hfind : ∀ id, d.find? id = d.entries.reverse.find? fun e => e.logId == id := fun id => by
    rw [← map_snd_listings, ← find?_indexOf]
    rfl
  have hpairwise := pairwise_indexOf d.listings
  have hids : ∀ id, id ∈ d.logs.map Entry.logId ↔ id ∈ d.ids := fun id => by
    rw [← listedIds_listings, ← mem_map_logId_indexOf]
    rfl
  refine ⟨fun id e => ?_, fun id => ?_, fun e => ?_, ?_, rfl, ?_, ?_, ?_⟩
  · rw [hfind, List.find?_eq_some_iff_append, beq_iff_eq]
    refine and_congr_right fun _ => ⟨?_, ?_⟩
    · rintro ⟨later, earlier, heq, hlater⟩
      refine ⟨earlier.reverse, later.reverse, ?_, fun f hf => ?_⟩
      · simpa using congrArg List.reverse heq
      · simpa using hlater f (List.mem_reverse.mp hf)
    · rintro ⟨earlier, later, heq, hlater⟩
      refine ⟨later.reverse, earlier.reverse, by simp [heq], fun f hf => ?_⟩
      simpa using hlater f (List.mem_reverse.mp hf)
  · rw [hfind]
    simp
  · rw [find?_eq_some, and_iff_left rfl]
  · rw [listedIds_listings] at hpairwise
    exact List.Pairwise.of_map Entry.logId (fun _ _ h => h) hpairwise
  · -- the index has the ids of the list, each of them once
    have hset : d.ids.toFinset = (d.logs.map Entry.logId).toFinset := by
      ext id
      rw [List.mem_toFinset, List.mem_toFinset, hids]
    rw [hset, List.toFinset_card_of_nodup d.nodup_logs, List.length_map]
    rfl
  · rw [LogList.announce, repeats, repeatsAfter_eq, listedIds_listings, List.map_map]
    rfl
  · rw [LogList.announce, List.length_map, ← map_snd_listings, List.length_map]
    exact length_repeatsAfter_add d.listings

end KnownLogs.Document
