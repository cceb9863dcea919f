/-
Changes to the value of a log list that do not matter:

* `Published.Place`: the places of the published form, with the names that are known at each;
* `Published.Place.read`: what is read at a place;
* `Json.KeepsOrder`: a rearrangement that leaves the members of one name in their order, as every
  permutation does where all names are different;
* `Published.Change`: a member of an unknown name, a rearrangement, or a member in front of another
  one of its name, in any record of the form but the map of a status;
* `Published.read_of_agree`: where names are known, only their last members are looked at;
* `Published.read_of_change`: **a change at a place is not read**, by its way into the value;
* `LogList.parse_of_changes`: **values that differ by changes are parsed alike**, faults and all.
-/
import Mathlib.Data.List.Nodup
import Mathlib.Logic.Relation
import KnownLogs.Proofs.LogList.RoundTrip

namespace KnownLogs

/-! ### Last members -/

namespace Json

/-- The last member of a name is that of the rest, or the first member if that has the name. -/
lemma lastMember?_cons (name : String) (m : String × Json) (rest : List (String × Json)) :
    lastMember? name (m :: rest) =
      (lastMember? name rest).or (if m.1 = name then some m.2 else none) := by
  rw [lastMember?]
  cases lastMember? name rest <;> rfl

/-- The last member of a name is that of the part behind, or that of the part in front. -/
lemma lastMember?_append (name : String) (before after : List (String × Json)) :
    lastMember? name (before ++ after) =
      (lastMember? name after).or (lastMember? name before) := by
  induction before with
  | nil => simp [lastMember?]
  | cons m before ih =>
      rw [List.cons_append, lastMember?_cons, ih, lastMember?_cons, Option.or_assoc]

/-- A member in the middle is the last one of its name if none behind it has the name. -/
lemma lastMember?_middle (name n : String) (v : Json) (before after : List (String × Json)) :
    lastMember? name (before ++ (n, v) :: after) =
      ((lastMember? name after).or (if n = name then some v else none)).or
        (lastMember? name before) := by
  rw [lastMember?_append, lastMember?_cons]

/-- Members of other names do not count. -/
lemma lastMember?_filter (name : String) (members : List (String × Json)) :
    lastMember? name (members.filter (·.1 = name)) = lastMember? name members := by
  induction members with
  | nil => rfl
  | cons m rest ih =>
      rw [lastMember?_cons, ← ih]
      by_cases hm : m.1 = name
      · rw [List.filter_cons_of_pos (by simpa using hm), lastMember?_cons]
      · rw [List.filter_cons_of_neg (by simpa using hm), if_neg hm, Option.or_none]

/-- Whether a list of members is a rearrangement of another one that leaves the members of one name
in their order. -/
def KeepsOrder (members members' : List (String × Json)) : Prop :=
  ∀ name, members'.filter (·.1 = name) = members.filter (·.1 = name)

lemma KeepsOrder.lastMember? {members members' : List (String × Json)}
    (h : KeepsOrder members members') (name : String) :
    lastMember? name members' = lastMember? name members := by
  rw [← lastMember?_filter, h name, lastMember?_filter]

/-- Of members with different names, one at most has a name. -/
lemma length_filter_name_le {members : List (String × Json)} (h : (members.map (·.1)).Nodup)
    (name : String) : (members.filter (·.1 = name)).length ≤ 1 := by
  have hnames : (members.filter (·.1 = name)).map (·.1) =
      List.replicate (members.filter (·.1 = name)).length name := by
    refine List.eq_replicate_iff.mpr ⟨by simp, fun n hn => ?_⟩
    obtain ⟨m, hm, rfl⟩ := List.mem_map.mp hn
    simpa using (List.mem_filter.mp hm).2
  have hnodup : ((members.filter (·.1 = name)).map (·.1)).Nodup :=
    h.sublist (List.filter_sublist.map _)
  rw [hnames] at hnodup
  exact List.nodup_replicate.mp hnodup

/-- **A permutation of members with different names** leaves the members of one name in order. -/
lemma keepsOrder_of_perm {members members' : List (String × Json)} (h : members'.Perm members)
    (hn : (members.map (·.1)).Nodup) : KeepsOrder members members' := by
  intro name
  have hperm : (members'.filter (·.1 = name)).Perm (members.filter (·.1 = name)) := h.filter _
  have hlength := length_filter_name_le hn name
  cases hf : members.filter (·.1 = name) with
  | nil => exact List.perm_nil.mp (hf ▸ hperm)
  | cons m rest =>
      rw [hf] at hperm hlength
      obtain rfl : rest = [] := List.length_eq_zero_iff.mp (by simpa using hlength)
      exact List.perm_singleton.mp hperm

end Json

namespace Published

open Json (lastMember? lastMember?_append lastMember?_middle)
open Schema

/-! ### Places -/

/-- The places in a list of the published form where records, or lists of them, may stand. -/
inductive Place where
  | list
  | operators
  | operator
  | logs
  | log
  | state
  | since
  | interval
deriving DecidableEq

namespace Place

/-- The names that are known in a record at a place, each with the place of its value if records may
stand there as well. The map of a status knows no names, as all of its members count. -/
def members : Place → List (String × Option Place)
  | list => [("version", none), ("log_list_timestamp", none), ("operators", some operators)]
  | operator => [("name", none), ("email", none), ("logs", some logs)]
  | log => [("description", none), ("log_id", none), ("key", none), ("url", none), ("mmd", none),
      ("state", some state), ("temporal_interval", some interval)]
  | since => [("timestamp", none)]
  | interval => [("start_inclusive", none), ("end_exclusive", none)]
  | operators | logs | state => []

/-- The names that are known in a record at a place. -/
def names (p : Place) : List String :=
  p.members.map (·.1)

/-- The place of the items where a list stands. -/
def item? : Place → Option Place
  | operators => some operator
  | logs => some log
  | _ => none

/-- What a value is read as at a place. -/
def Result : Place → Type
  | list => LogList
  | operators => List Operator
  | operator => Operator
  | logs => List Log
  | log => Log
  | state => LogStatus × Int
  | since => Int
  | interval => Option (Option Int × Option Int)

/-- What is read at a place. -/
def read : (p : Place) → Json → Validated p.Result
  | list => record logList
  | operators => listOf (record Published.operator)
  | operator => record Published.operator
  | logs => listOf (record Published.log)
  | log => record Published.log
  | state => status
  | since => record (required "timestamp" integer)
  | interval => nullable (record bounds)

end Place

/-! ### Changes -/

/-- One change to a value at a place: in a record whose names are known there, a member of another
name, a rearrangement, or a member in front of another one of its name; or a change at a place
inside. -/
inductive Change : Place → Json → Json → Prop
  | extra {p : Place} {before after : List (String × Json)} {name : String} (v : Json) :
      p.members ≠ [] → name ∉ p.names →
      Change p (.record (before ++ after)) (.record (before ++ (name, v) :: after))
  | rearranged {p : Place} {members members' : List (String × Json)} :
      p.members ≠ [] → Json.KeepsOrder members members' →
      Change p (.record members) (.record members')
  | shadowed {p : Place} {before middle after : List (String × Json)} {name : String} (v w : Json) :
      name ∈ p.names →
      Change p (.record (before ++ (middle ++ (name, w) :: after)))
        (.record (before ++ (name, v) :: (middle ++ (name, w) :: after)))
  | member {p q : Place} {before after : List (String × Json)} {name : String} {v v' : Json} :
      (name, some q) ∈ p.members → Change q v v' →
      Change p (.record (before ++ (name, v) :: after)) (.record (before ++ (name, v') :: after))
  | item {p q : Place} {before after : List Json} {v v' : Json} :
      p.item? = some q → Change q v v' →
      Change p (.list (before ++ v :: after)) (.list (before ++ v' :: after))
  | status {before after : List (String × Json)} {name : String} {v v' : Json} :
      Change .since v v' →
      Change .state (.record (before ++ (name, v) :: after))
        (.record (before ++ (name, v') :: after))

/-! ### Records -/

section Members

variable {α : Type} {name : String} {read : Json → Validated α}
  {members members' : List (String × Json)}

/-- What is read of a member that must be there is what is read of the last one. -/
lemma required_congr
    (h : (lastMember? name members').map read = (lastMember? name members).map read) :
    required name read members' = required name read members := by
  rw [required, required]
  cases hm : lastMember? name members <;> cases hm' : lastMember? name members' <;>
    simp_all

/-- What is read of a member that may be absent is what is read of the last one. -/
lemma optional_congr {absent : α}
    (h : (lastMember? name members').map read = (lastMember? name members).map read) :
    Schema.optional name read absent members' = Schema.optional name read absent members := by
  rw [Schema.optional, Schema.optional]
  cases hm : lastMember? name members <;> cases hm' : lastMember? name members' <;>
    simp_all

end Members

variable {p : Place} {members members' : List (String × Json)}

/-- Whether two records at a place have the same value as the last member of each known name, or
values that are read alike where records may stand. -/
structure Agree (p : Place) (members members' : List (String × Json)) : Prop where
  value : ∀ name, (name, none) ∈ p.members → lastMember? name members' = lastMember? name members
  inner : ∀ name q, (name, some q) ∈ p.members →
    (lastMember? name members').map q.read = (lastMember? name members).map q.read

/-- Records whose last members are the same agree. -/
lemma Agree.of_lastMember?
    (h : ∀ name ∈ p.names, lastMember? name members' = lastMember? name members) :
    Agree p members members' where
  value name hn := h name (List.mem_map.mpr ⟨_, hn, rfl⟩)
  inner name q hn := by rw [h name (List.mem_map.mpr ⟨_, hn, rfl⟩)]

lemma Agree.required {name : String} {α : Type} {read : Json → Validated α}
    (h : Agree p members members') (hn : (name, none) ∈ p.members) :
    required name read members' = required name read members :=
  required_congr (by rw [h.value name hn])

lemma Agree.optional {name : String} {α : Type} {read : Json → Validated α} {absent : α}
    (h : Agree p members members') (hn : (name, none) ∈ p.members) :
    Schema.optional name read absent members' = Schema.optional name read absent members :=
  optional_congr (by rw [h.value name hn])

/-- **Where names are known, only the last members of these names are looked at.** -/
theorem read_of_agree (h : Agree p members members') (hp : p.members ≠ []) :
    p.read (.record members') = p.read (.record members) := by
  -- a place is read by its names; those that hold a place themselves are read alike within
  cases p with
  | list =>
      have hoperators : Schema.required "operators" (listOf (record Published.operator)) members' =
          Schema.required "operators" (listOf (record Published.operator)) members :=
        required_congr (h.inner "operators" .operators (by decide))
      show logList members' = logList members
      rw [logList, logList, h.required (by decide), h.required (by decide), hoperators]
  | operator =>
      have hlogs : Schema.required "logs" (listOf (record Published.log)) members' =
          Schema.required "logs" (listOf (record Published.log)) members :=
        required_congr (h.inner "logs" .logs (by decide))
      show Published.operator members' = Published.operator members
      rw [Published.operator, Published.operator, h.required (by decide), h.required (by decide),
        hlogs]
  | log =>
      have hstate : Schema.required "state" status members' =
          Schema.required "state" status members :=
        required_congr (h.inner "state" .state (by decide))
      have hinterval :
          Schema.optional "temporal_interval" (nullable (record bounds)) none members' =
            Schema.optional "temporal_interval" (nullable (record bounds)) none members :=
        optional_congr (h.inner "temporal_interval" .interval (by decide))
      show Published.log members' = Published.log members
      rw [Published.log, Published.log, h.required (by decide), h.required (by decide),
        h.required (by decide), h.required (by decide), h.required (by decide), hstate, hinterval]
  | since => exact h.required (by decide)
  | interval =>
      show (bounds members').map some = (bounds members).map some
      rw [bounds, bounds, h.optional (by decide), h.optional (by decide)]
  | operators => exact absurd rfl hp
  | logs => exact absurd rfl hp
  | state => exact absurd rfl hp

/-! ### Changes are not read -/

/-- Each known name has one place. -/
lemma Place.eq_of_mem {name : String} {q q' : Option Place} (h : (name, q) ∈ p.members)
    (h' : (name, q') ∈ p.members) : q = q' := by
  have hnodup : (p.members.map (·.1)).Nodup := by cases p <;> decide
  exact congrArg Prod.snd (List.inj_on_of_nodup_map hnodup h h' rfl)

lemma agree_extra {before after : List (String × Json)} {name : String} (v : Json)
    (hn : name ∉ p.names) : Agree p (before ++ after) (before ++ (name, v) :: after) := by
  refine .of_lastMember? fun n hm => ?_
  have hne : name ≠ n := fun h => hn (h ▸ hm)
  rw [lastMember?_middle, if_neg hne, Option.or_none, lastMember?_append]

lemma agree_shadowed {before middle after : List (String × Json)} {name : String} (v w : Json) :
    Agree p (before ++ (middle ++ (name, w) :: after))
      (before ++ (name, v) :: (middle ++ (name, w) :: after)) := by
  refine .of_lastMember? fun n _ => ?_
  rw [lastMember?_middle, lastMember?_append n before (middle ++ _)]
  by_cases hne : name = n
  · -- a member of this name stands behind, so neither of the two in front counts
    have hbehind : (lastMember? n (middle ++ (name, w) :: after)).isSome := by
      rw [lastMember?_middle, if_pos hne]
      cases lastMember? n after <;> rfl
    rw [Option.or_of_isSome hbehind]
  · rw [if_neg hne, Option.or_none]

lemma agree_member {q : Place} {before after : List (String × Json)} {name : String} {v v' : Json}
    (hn : (name, some q) ∈ p.members) (h : q.read v' = q.read v) :
    Agree p (before ++ (name, v) :: after) (before ++ (name, v') :: after) where
  value n hm := by
    have hne : name ≠ n := by
      rintro rfl
      cases Place.eq_of_mem hn hm
    rw [lastMember?_middle, lastMember?_middle, if_neg hne, if_neg hne]
  inner n q' hm := by
    rw [lastMember?_middle, lastMember?_middle]
    by_cases hne : name = n
    · subst hne
      cases Place.eq_of_mem hn hm
      cases lastMember? name after <;> simp [h]
    · rw [if_neg hne, if_neg hne]

lemma itemsFrom_congr {α : Type} {read : Json → Validated α} {v v' : Json} (h : read v' = read v)
    (n : ℕ) (before after : List Json) :
    itemsFrom read n (before ++ v' :: after) = itemsFrom read n (before ++ v :: after) := by
  induction before generalizing n with
  | nil => rw [List.nil_append, List.nil_append, itemsFrom, itemsFrom, h]
  | cons w before ih =>
      rw [List.cons_append, List.cons_append, itemsFrom, itemsFrom, ih]

lemma statusTimes_congr {v v' : Json} (h : Place.since.read v' = Place.since.read v)
    (name : String) (before after : List (String × Json)) :
    statusTimes (before ++ (name, v') :: after) = statusTimes (before ++ (name, v) :: after) := by
  have hv : record (Schema.required "timestamp" integer) v' =
      record (Schema.required "timestamp" integer) v := h
  induction before with
  | nil => rw [List.nil_append, List.nil_append, statusTimes, statusTimes, hv]
  | cons m before ih =>
      rw [List.cons_append, List.cons_append, statusTimes, statusTimes, ih]

/-- **A change at a place is not read**: what is read there is the same, faults and all. -/
theorem read_of_change {v v' : Json} (h : Change p v v') : p.read v' = p.read v := by
  induction h with
  | extra v hp hn => exact read_of_agree (agree_extra v hn) hp
  | rearranged hp hk => exact read_of_agree (.of_lastMember? fun name _ => hk.lastMember? name) hp
  | shadowed v w hn =>
      refine read_of_agree (agree_shadowed v w) ?_
      rintro hp
      simp [Place.names, hp] at hn
  | member hn _ ih => exact read_of_agree (agree_member hn ih) (List.ne_nil_of_mem hn)
  | @item p q before after v v' hq _ ih =>
      cases p with
      | operators =>
          cases hq
          exact itemsFrom_congr ih 0 before after
      | logs =>
          cases hq
          exact itemsFrom_congr ih 0 before after
      | list => cases hq
      | operator => cases hq
      | log => cases hq
      | state => cases hq
      | since => cases hq
      | interval => cases hq
  | @status before after name v v' _ ih =>
      show (statusTimes _).andThen soleStatus = (statusTimes _).andThen soleStatus
      rw [statusTimes_congr ih]

/-- Any number of changes at a place is not read. -/
lemma read_of_changes {v v' : Json} (h : Relation.ReflTransGen (Change p) v v') :
    p.read v' = p.read v := by
  induction h with
  | refl => rfl
  | tail _ hc ih => rw [read_of_change hc, ih]

end Published

/-! ### Parsing -/

namespace LogList

/-- **Values that differ by changes are parsed alike.** From a value, valid or not, make another one
by any number of changes: what is read of it is the same list or the same faults in the same order,
and bytes that hold it have the same outcome and the same marks, whichever decoder is taken. -/
theorem parse_of_changes {v v' : Json}
    (h : Relation.ReflTransGen (Published.Change .list) v v') :
    Published.read v' = Published.read v ∧
      ∀ (decoder : KeyDecoder) (raw raw' : Bytes), json? raw = some v → json? raw' = some v' →
        parse decoder raw' = parse decoder raw := by
  have hread : Published.read v' = Published.read v := Published.read_of_changes h
  refine ⟨hread, fun decoder raw raw' hraw hraw' => ?_⟩
  have hpublished : published raw' = published raw := by
    rw [published, published, hraw, hraw']
    exact hread
  rw [parse, parse, LogList.read, LogList.read, hpublished]

/-- What is written for a value within the limits of reading holds this value. -/
lemma json?_encode_write {v : Json} (h : Json.Fits limits limits.depth v) :
    json? (Utf8.encode v.write) = some v := by
  rw [json?, Utf8.encode, Json.write, String.toList_ofList, Utf8.decode?_encodeChars,
    Option.bind_some]
  exact Json.read?_of_isText h (Json.isText_writeChars h)

/-- A log whose merge delay is below zero and that has few other members, with some in front of all
and some in the value of its status. -/
def scantLog (front since : List (String × Json)) : Json :=
  .record (front ++ [("mmd", .int (-1)), ("state", .record [("usable", .record since)])])

/-- The members of a list around one log, with faults of their own. -/
def scantMembers (log : Json) : List (String × Json) :=
  [("version", .text "3"), ("log_list_timestamp", .text "x"),
    ("operators", .list [.record [("name", .text ""), ("email", .list []), ("logs", .list [log])]])]

lemma fits_digit {i : ℤ} (h : i.natAbs < 10) (n : ℕ) : Json.Fits limits n (.int i) :=
  fits_int (Nat.lt_of_lt_of_le h (Nat.le_self_pow (by decide) 10)) n

lemma fits_scantLog {front since : List (String × Json)} {n : ℕ}
    (hf : ∀ m ∈ front, Json.Fits limits (n + 2) m.2) (hs : ∀ m ∈ since, Json.Fits limits n m.2) :
    Json.Fits limits (n + 3) (scantLog front since) := by
  refine .record fun m hm => ?_
  rcases List.mem_append.mp hm with hm | hm
  · exact hf m hm
  · simp only [List.mem_cons, List.not_mem_nil, or_false] at hm
    rcases hm with rfl | rfl
    · exact fits_digit (by decide) _
    · exact .record (by simpa using Json.Fits.record hs)

lemma fits_scantMembers {log : Json} {n : ℕ} (h : Json.Fits limits n log) :
    ∀ m ∈ scantMembers log, Json.Fits limits (n + 3) m.2 := by
  intro m hm
  simp only [scantMembers, List.mem_cons, List.not_mem_nil, or_false] at hm
  rcases hm with rfl | rfl | rfl
  · exact .text _ _
  · exact .text _ _
  · have hlogs : Json.Fits limits (n + 1) (.list [log]) := .list (by simpa using h)
    have hoperator : Json.Fits limits (n + 2)
        (.record [("name", .text ""), ("email", .list []), ("logs", .list [log])]) :=
      .record (by simpa using ⟨Json.Fits.text _ _, Json.Fits.emptyList _, hlogs⟩)
    exact .list (by simpa using hoperator)

/-- Its faults stay the same when a merge delay that would be in order is put in front of the last
one, unknown members are put into the status and into the list, and the list is turned around. -/
theorem parse_of_changes_of_scantLog :
    Relation.ReflTransGen (Published.Change .list) (.record (scantMembers (scantLog [] [])))
        (.record (("note", .null) ::
          (scantMembers (scantLog [("mmd", .int 5)] [("note", .bool true)])).reverse)) ∧
      (∃ issues, Published.read (.record (scantMembers (scantLog [] []))) = .invalid issues ∧
        issues.length = 8) ∧
      parse .standard (Utf8.encode (Json.record (("note", .null) ::
          (scantMembers (scantLog [("mmd", .int 5)] [("note", .bool true)])).reverse)).write) =
        parse .standard (Utf8.encode (Json.record (scantMembers (scantLog [] []))).write) := by
  -- a change of the log is a change of the list, member by member
  have hinside : ∀ {l l' : Json}, Published.Change .log l l' →
      Published.Change .list (.record (scantMembers l)) (.record (scantMembers l')) := by
    intro l l' h
    have hlogs : Published.Change .logs (.list [l]) (.list [l']) :=
      @Published.Change.item .logs .log [] [] _ _ rfl h
    have hoperator := @Published.Change.member .operator .logs
      [("name", .text ""), ("email", .list [])] [] "logs" _ _ (by decide) hlogs
    have hoperators := @Published.Change.item .operators .operator [] [] _ _ rfl hoperator
    exact @Published.Change.member .list .operators
      [("version", .text "3"), ("log_list_timestamp", .text "x")] [] "operators" _ _ (by decide)
      hoperators
  have hdelay : Published.Change .log (scantLog [] []) (scantLog [("mmd", .int 5)] []) :=
    @Published.Change.shadowed .log [] [] [("state", .record [("usable", .record [])])] "mmd"
      (.int 5) (.int (-1)) (by decide)
  have hsince : Published.Change .since (.record []) (.record [("note", .bool true)]) :=
    @Published.Change.extra .since [] [] "note" (.bool true) (by decide) (by decide)
  have hstatus : Published.Change .log (scantLog [("mmd", .int 5)] [])
      (scantLog [("mmd", .int 5)] [("note", .bool true)]) :=
    @Published.Change.member .log .state [("mmd", .int 5), ("mmd", .int (-1))] [] "state" _ _
      (by decide) (@Published.Change.status [] [] "usable" _ _ hsince)
  have hreverse : ∀ l, Published.Change .list (.record (scantMembers l))
      (.record (scantMembers l).reverse) := fun l =>
    .rearranged (by decide) (Json.keepsOrder_of_perm (List.reverse_perm _)
      (show ["version", "log_list_timestamp", "operators"].Nodup by decide))
  have hnote : ∀ ms, Published.Change .list (.record ms) (.record (("note", .null) :: ms)) :=
    fun ms => @Published.Change.extra .list [] ms "note" .null (by decide) (by decide)
  -- the changes one after another, the innermost ones first
  have hchanges : Relation.ReflTransGen (Published.Change .list)
      (.record (scantMembers (scantLog [] [])))
      (.record (("note", .null) ::
        (scantMembers (scantLog [("mmd", .int 5)] [("note", .bool true)])).reverse)) :=
    .tail (.tail (.tail (.single (hinside hdelay)) (hinside hstatus)) (hreverse _)) (hnote _)
  have hfits : Json.Fits limits limits.depth (.record (scantMembers (scantLog [] []))) :=
    .record (n := 199) (fits_scantMembers (fits_scantLog (n := 193) (by simp) (by simp)))
  have hfits' : Json.Fits limits limits.depth (.record (("note", .null) ::
      (scantMembers (scantLog [("mmd", .int 5)] [("note", .bool true)])).reverse)) := by
    refine .record (n := 199) (List.forall_mem_cons.mpr ⟨.null _, fun m hm => ?_⟩)
    exact fits_scantMembers (fits_scantLog (n := 193) (by simpa using fits_digit (by decide) _)
      (by simpa using Json.Fits.bool _ _)) m (List.mem_reverse.mp hm)
  exact ⟨hchanges, ⟨_, rfl, by decide⟩, (parse_of_changes hchanges).2 .standard _ _
    (json?_encode_write hfits) (json?_encode_write hfits')⟩

end LogList

end KnownLogs
