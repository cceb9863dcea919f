/-
Which keys of a log list are given to the decoder:

* `Call.Decodes`: the keys that a computation gives to the decoder, and how it ends;
* `Published.Log.IsRefused`: why a log is refused, each cause only where those before it are absent;
* `Published.Log.isVerified_or_isRefused`: a log is verified, or refused with some fault;
* `LogList.decodes_entry_of_isVerified`, `LogList.decodes_entry_of_isRefused`: one log;
* `LogList.decodes_operators_of_isVerified`, `LogList.decodes_operators_of_isRefused`: the logs of
  all operators, up to the first that is refused;
* `LogList.keys_decoded_in_order`: **the keys are decoded in the order of the list**, up to the
  first log that is refused, none of them unless the whole list has its form, and none that is not
  the key of its id.
-/
import KnownLogs.Proofs.LogList.Acceptance
import KnownLogs.Proofs.LogList.Truncation

namespace KnownLogs

/-! ### Computations that decode keys -/

namespace Call

variable {α β ε : Type} {x : Call α} {f : α → Call β} {keys more : List Bytes}

/-- The keys that a computation gives to the decoder, in order. -/
def decodedKeys (x : Call α) : List Bytes :=
  x.marks.filterMap Mark.key?

/-- A computation gives these keys to the decoder, in order, and ends so. -/
structure Decodes (x : Call α) (keys : List Bytes) (ending : Except Fault α) : Prop where
  keys_eq : x.decodedKeys = keys
  result_eq : x.result = ending

/-- After a result the keys of the next computation follow. -/
lemma Decodes.bind {a : α} {ending : Except Fault β} (hx : x.Decodes keys (.ok a))
    (hf : (f a).Decodes more ending) : (x >>= f).Decodes (keys ++ more) ending := by
  have hb : x >>= f = { marks := x.marks ++ (f a).marks, result := (f a).result } := by
    show x.bind f = _
    rw [Call.bind, hx.result_eq]
  rw [hb]
  refine ⟨?_, hf.result_eq⟩
  rw [decodedKeys, List.filterMap_append, ← decodedKeys, ← decodedKeys, hx.keys_eq, hf.keys_eq]

/-- After a fault nothing follows. -/
lemma Decodes.bind_error {e : Fault} (hx : x.Decodes keys (.error e)) :
    (x >>= f).Decodes keys (.error e) := by
  have hb : x >>= f = { marks := x.marks, result := .error e } := by
    show x.bind f = _
    rw [Call.bind, hx.result_eq]
  rw [hb]
  exact ⟨hx.keys_eq, rfl⟩

lemma decodes_done (a : α) : (done a).Decodes [] (.ok a) := ⟨rfl, rfl⟩

lemma decodes_note_decoded (key : Bytes) : (note (.decoded key)).Decodes [key] (.ok ()) :=
  ⟨rfl, rfl⟩

lemma decodes_ofExcept_ok {toFault : ε → Fault} {r : Except ε α} {a : α} (h : r = .ok a) :
    (ofExcept toFault r).Decodes [] (.ok a) := by
  rw [h]
  exact ⟨rfl, rfl⟩

lemma decodes_ofExcept_error {toFault : ε → Fault} {r : Except ε α} {e : ε} (h : r = .error e) :
    (ofExcept toFault r).Decodes [] (.error (toFault e)) := by
  rw [h]
  exact ⟨rfl, rfl⟩

end Call

/-! ### Logs that are refused -/

namespace Published

variable {decoder : KeyDecoder} {l : Log}

/-- Why a log of the published form is refused, and with which fault. Its id is looked at first,
then its key is decoded, and only then are its interval and its fields looked at. -/
inductive Log.IsRefused (decoder : KeyDecoder) (l : Log) : Fault → Prop
  | idMismatch : Sha256.digest l.key ≠ l.logId → IsRefused decoder l (.idMismatch l.description)
  | undecoded {f : Fault} : Sha256.digest l.key = l.logId → decoder l.key = .error f →
      IsRefused decoder l f
  | emptyInterval {handle : Option KeyHandle} {start stop : Int} :
      Sha256.digest l.key = l.logId → decoder l.key = .ok handle →
      l.start = some start → l.stop = some stop → stop ≤ start →
      IsRefused decoder l (.interval ⟨start, stop⟩)
  | noKey : Sha256.digest l.key = l.logId → decoder l.key = .ok none →
      (∀ s ∈ l.start, ∀ e ∈ l.stop, s < e) → IsRefused decoder l (.entry .noKey)
  | noKeyBytes {handle : KeyHandle} : Sha256.digest l.key = l.logId →
      decoder l.key = .ok (some handle) → (∀ s ∈ l.start, ∀ e ∈ l.stop, s < e) → l.key = [] →
      IsRefused decoder l (.entry .noKeyBytes)

/-- **A log is verified, or refused** with some fault. -/
lemma Log.isVerified_or_isRefused (decoder : KeyDecoder) (l : Log) :
    l.IsVerified decoder ∨ ∃ f, l.IsRefused decoder f := by
  by_cases hid : Sha256.digest l.key = l.logId
  · cases hd : decoder l.key with
    | error f => exact .inr ⟨f, .undecoded hid hd⟩
    | ok handle =>
        by_cases hi : ∀ s ∈ l.start, ∀ e ∈ l.stop, s < e
        · cases handle with
          | none => exact .inr ⟨_, .noKey hid hd hi⟩
          | some handle =>
              by_cases hk : l.key = []
              · exact .inr ⟨_, .noKeyBytes hid hd hi hk⟩
              · exact .inl ⟨hid, hk, ⟨handle, hd⟩, hi⟩
        · simp only [not_forall] at hi
          obtain ⟨start, hstart, stop, hstop, hle⟩ := hi
          exact .inr ⟨_, .emptyInterval hid hd hstart hstop (Int.not_lt.mp hle)⟩
  · exact .inr ⟨_, .idMismatch hid⟩

/-- The first log of a list that is refused, unless all are verified. -/
lemma Log.exists_first_isRefused (decoder : KeyDecoder) (ls : List Log) :
    (∀ l ∈ ls, l.IsVerified decoder) ∨ ∃ before l after f, ls = before ++ l :: after ∧
      (∀ b ∈ before, b.IsVerified decoder) ∧ l.IsRefused decoder f := by
  induction ls with
  | nil => exact .inl (by simp)
  | cons l ls ih =>
      rcases l.isVerified_or_isRefused decoder with hl | ⟨f, hf⟩
      · refine ih.imp (fun h => List.forall_mem_cons.mpr ⟨hl, h⟩) ?_
        rintro ⟨before, g, after, f, rfl, hb, hf⟩
        exact ⟨l :: before, g, after, f, rfl, List.forall_mem_cons.mpr ⟨hl, hb⟩, hf⟩
      · exact .inr ⟨[], l, ls, f, rfl, by simp, hf⟩

/-- The logs of a list, in order. -/
def LogList.logs (l : LogList) : List Log :=
  l.operators.flatMap Operator.logs

/-- The logs of an operator of the published form have the form of logs. -/
lemma IsOperator.exists_isLog {members : List (String × Json)} {o : Operator}
    (h : IsOperator members o) : ∀ l ∈ o.logs, ∃ fields, IsLog fields l := by
  obtain ⟨items, -, hitems⟩ := h.logs
  intro l hl
  obtain ⟨_, -, fields, -, hform⟩ := exists_of_mem hitems hl
  exact ⟨fields, hform⟩

/-- The operators of a list of the published form have the form of operators. -/
lemma exists_isOperator {v : Json} {l : LogList} (h : Json.IsRecord IsLogList v l) :
    ∀ o ∈ l.operators, ∃ members, IsOperator members o := by
  obtain ⟨_, -, hform⟩ := h
  obtain ⟨items, -, hitems⟩ := hform.operators
  intro o ho
  obtain ⟨_, -, members, -, hoperator⟩ := exists_of_mem hitems ho
  exact ⟨members, hoperator⟩

end Published

namespace LogList

open Published (Log IsLog IsOperator)

variable {decoder : KeyDecoder} {operator : String} {f : Fault}

/-! ### One log -/

/-- The key of a log, which is decoded if the id of the log is its digest. -/
def keyTried (l : Log) : List Bytes :=
  if Sha256.digest l.key = l.logId then [l.key] else []

lemma mem_keyTried {l : Log} {key : Bytes} :
    key ∈ keyTried l ↔ l.key = key ∧ Sha256.digest key = l.logId := by
  rw [keyTried]
  split_ifs with hid
  · rw [List.mem_singleton]
    exact ⟨fun h => ⟨h.symm, h ▸ hid⟩, fun h => h.1.symm⟩
  · refine ⟨fun h => absurd h List.not_mem_nil, ?_⟩
    rintro ⟨rfl, h⟩
    exact absurd h hid

/-- The fields of a published log with the handle of its key and its interval. -/
def draft (operator : String) (l : Log) (publicKey : Option KeyHandle) (interval : Interval) :
    Entry.Draft where
  logId := l.logId
  keyBytes := l.key
  publicKey
  description := l.description
  url := l.url
  operator
  status := l.status
  since := l.since
  interval
  mergeDelay := l.mergeDelay

/-- A log is looked at in four steps, behind its id. -/
lemma entry_of_digest {l : Log} (hid : Sha256.digest l.key = l.logId) :
    entry decoder operator l =
      Call.note (.decoded l.key) >>= fun _ =>
        Call.ofExcept id (decoder l.key) >>= fun publicKey =>
          Call.ofExcept .interval (Interval.build l.start l.stop) >>= fun interval =>
            Call.ofExcept .entry (draft operator l publicKey interval).check :=
  if_neg (not_not.mpr hid)

/-- A verified log is an entry, and its key is decoded. -/
lemma decodes_entry_of_isVerified {fields : List (String × Json)} {l : Log} (ho : operator ≠ "")
    (hl : IsLog fields l) (hv : l.IsVerified decoder) :
    ∃ e, (entry decoder operator l).Decodes [l.key] (.ok e) := by
  obtain ⟨e, rfl, ha⟩ := exists_entry ho hl hv
  have hinterval : Interval.build e.interval.start e.interval.stop = .ok e.interval :=
    Interval.build_ok.mpr ⟨rfl, rfl⟩
  have hcheck : (draft operator e.published (some e.publicKey) e.interval).check = .ok e := by
    rw [Entry.Draft.check_ok, ← ha.operator_eq]
    rfl
  refine ⟨e, ?_⟩
  rw [entry_of_digest hv.digest_key]
  exact (Call.decodes_note_decoded _).bind <| (Call.decodes_ofExcept_ok ha.decoder_eq).bind <|
    (Call.decodes_ofExcept_ok hinterval).bind (Call.decodes_ofExcept_ok hcheck)

/-- **A log that is refused** ends the reading with its fault; its key is decoded if the id of the
log is its digest. -/
lemma decodes_entry_of_isRefused {l : Log} (h : l.IsRefused decoder f) :
    (entry decoder operator l).Decodes (keyTried l) (.error f) := by
  have hbuilt : (∀ s ∈ l.start, ∀ e ∈ l.stop, s < e) →
      ∃ i, Interval.build l.start l.stop = .ok i := fun hi =>
    ⟨⟨l.start, l.stop, hi⟩, Interval.build_ok.mpr ⟨rfl, rfl⟩⟩
  have hkey := Call.decodes_note_decoded l.key
  rw [keyTried]
  -- the causes in the order of the checks; the key is decoded unless the first one fails
  cases h with
  | idMismatch hid =>
      rw [if_neg hid, show entry decoder operator l = Call.fail _ from if_pos hid]
      exact ⟨rfl, rfl⟩
  | undecoded hid hd =>
      rw [if_pos hid, entry_of_digest hid]
      exact hkey.bind (Call.decodes_ofExcept_error hd).bind_error
  | @emptyInterval handle start stop hid hd hstart hstop hle =>
      have hempty : Interval.build l.start l.stop = .error ⟨start, stop⟩ := by
        rw [hstart, hstop, Interval.build, dif_neg (Int.not_lt.mpr hle)]
      rw [if_pos hid, entry_of_digest hid]
      exact hkey.bind <| (Call.decodes_ofExcept_ok hd).bind
        (Call.decodes_ofExcept_error hempty).bind_error
  | noKey hid hd hi =>
      obtain ⟨i, hi⟩ := hbuilt hi
      rw [if_pos hid, entry_of_digest hid]
      exact hkey.bind <| (Call.decodes_ofExcept_ok hd).bind <|
        (Call.decodes_ofExcept_ok hi).bind (Call.decodes_ofExcept_error rfl)
  | @noKeyBytes handle hid hd hi hk =>
      obtain ⟨i, hi⟩ := hbuilt hi
      have hcheck : (draft operator l (some handle) i).check = .error .noKeyBytes := dif_pos hk
      rw [if_pos hid, entry_of_digest hid]
      exact hkey.bind <| (Call.decodes_ofExcept_ok hd).bind <|
        (Call.decodes_ofExcept_ok hi).bind (Call.decodes_ofExcept_error hcheck)

/-! ### The logs of an operator -/

/-- Verified logs are entries, and all their keys are decoded. -/
lemma decodes_entries_of_isVerified {ls : List Log} (ho : operator ≠ "")
    (hls : ∀ l ∈ ls, ∃ fields, IsLog fields l) (hv : ∀ l ∈ ls, l.IsVerified decoder) :
    ∃ es, (entries decoder operator ls).Decodes (ls.map Log.key) (.ok es) := by
  induction ls with
  | nil => exact ⟨[], Call.decodes_done _⟩
  | cons l ls ih =>
      obtain ⟨⟨fields, hl⟩, hls⟩ := List.forall_mem_cons.mp hls
      obtain ⟨hvl, hv⟩ := List.forall_mem_cons.mp hv
      obtain ⟨e, he⟩ := decodes_entry_of_isVerified ho hl hvl
      obtain ⟨es, hes⟩ := ih hls hv
      have hall : (entries decoder operator (l :: ls)).Decodes ([l.key] ++ (ls.map Log.key ++ []))
          (.ok (e :: es)) := he.bind (hes.bind (Call.decodes_done _))
      rw [List.append_nil] at hall
      exact ⟨e :: es, hall⟩

/-- The first log that is refused ends the reading, whatever the later ones are. -/
lemma decodes_entries_of_isRefused {before : List Log} {l : Log} (after : List Log)
    (ho : operator ≠ "") (hls : ∀ b ∈ before, ∃ fields, IsLog fields b)
    (hv : ∀ b ∈ before, b.IsVerified decoder) (hl : l.IsRefused decoder f) :
    (entries decoder operator (before ++ l :: after)).Decodes
      (before.map Log.key ++ keyTried l) (.error f) := by
  induction before with
  | nil => exact (decodes_entry_of_isRefused hl).bind_error
  | cons b before ih =>
      obtain ⟨⟨fields, hb⟩, hls⟩ := List.forall_mem_cons.mp hls
      obtain ⟨hvb, hv⟩ := List.forall_mem_cons.mp hv
      obtain ⟨e, he⟩ := decodes_entry_of_isVerified ho hb hvb
      exact he.bind (ih hls hv).bind_error

/-! ### The logs of all operators -/

/-- Verified logs make operators, and all their keys are decoded. -/
lemma decodes_operators_of_isVerified {os : List Published.Operator}
    (hos : ∀ o ∈ os, ∃ members, IsOperator members o)
    (hv : ∀ l ∈ os.flatMap Published.Operator.logs, l.IsVerified decoder) :
    ∃ ps, (operators decoder os).Decodes ((os.flatMap Published.Operator.logs).map Log.key)
      (.ok ps) := by
  induction os with
  | nil => exact ⟨[], Call.decodes_done _⟩
  | cons o os ih =>
      obtain ⟨⟨members, ho⟩, hos⟩ := List.forall_mem_cons.mp hos
      rw [List.flatMap_cons, List.forall_mem_append] at hv
      obtain ⟨es, hes⟩ := decodes_entries_of_isVerified ho.name_ne_empty ho.exists_isLog hv.1
      obtain ⟨ps, hps⟩ := ih hos hv.2
      have hall : (operators decoder (o :: os)).Decodes
          (o.logs.map Log.key ++ ((os.flatMap Published.Operator.logs).map Log.key ++ []))
          (.ok ({ name := o.name, emails := o.emails, logs := es } :: ps)) :=
        hes.bind (hps.bind (Call.decodes_done _))
      rw [List.append_nil, ← List.map_append, ← List.flatMap_cons] at hall
      exact ⟨_, hall⟩

/-- Behind an operator whose logs are verified the reading goes on, and ends where it ends there. -/
lemma decodes_operators_cons {o : Published.Operator} {os : List Published.Operator}
    {keys : List Bytes} (ho : ∃ members, IsOperator members o)
    (hv : ∀ l ∈ o.logs, l.IsVerified decoder)
    (hos : (operators decoder os).Decodes keys (.error f)) :
    (operators decoder (o :: os)).Decodes (o.logs.map Log.key ++ keys) (.error f) := by
  obtain ⟨members, ho⟩ := ho
  obtain ⟨es, hes⟩ := decodes_entries_of_isVerified ho.name_ne_empty ho.exists_isLog hv
  exact hes.bind hos.bind_error

/-- **The first log that is refused ends the reading**, whichever operator lists it. -/
lemma decodes_operators_of_isRefused {os : List Published.Operator} {before after : List Log}
    {l : Log} (hos : ∀ o ∈ os, ∃ members, IsOperator members o)
    (hlogs : os.flatMap Published.Operator.logs = before ++ l :: after)
    (hv : ∀ b ∈ before, b.IsVerified decoder) (hl : l.IsRefused decoder f) :
    (operators decoder os).Decodes (before.map Log.key ++ keyTried l) (.error f) := by
  induction os generalizing before with
  | nil => simp at hlogs
  | cons o os ih =>
      obtain ⟨ho, hos⟩ := List.forall_mem_cons.mp hos
      rw [List.flatMap_cons, List.append_eq_append_iff] at hlogs
      rcases hlogs with ⟨rest, rfl, hrest⟩ | ⟨mine, hmine, hrest⟩
      · -- the log stands behind those of this operator
        rw [List.forall_mem_append] at hv
        rw [List.map_append, List.append_assoc]
        exact decodes_operators_cons ho hv.1 (ih hos hrest hv.2)
      · cases mine with
        | nil =>
            -- it is the first one behind them
            rw [List.append_nil] at hmine
            subst hmine
            have hnext : os.flatMap Published.Operator.logs = [] ++ l :: after := hrest.symm
            exact decodes_operators_cons ho hv (ih hos hnext (by simp))
        | cons g mine =>
            obtain ⟨rfl, -⟩ := List.cons.inj hrest
            obtain ⟨members, ho⟩ := ho
            have hform : ∀ b ∈ before, ∃ fields, IsLog fields b := fun b hb =>
              ho.exists_isLog b (hmine ▸ List.mem_append_left _ hb)
            have hes := decodes_entries_of_isRefused mine ho.name_ne_empty hform hv hl
            rw [← hmine] at hes
            exact hes.bind_error

/-! ### Whole lists -/

/-- Only the logs of a list are decoded: neither the warnings nor the event of a list that has been
read are keys. -/
lemma decodedKeys_announce (d : Document) : (announce d).decodedKeys = [] := by
  simp [Call.decodedKeys, announce, repeatWarning, Mark.ofEvent, Mark.key?]

lemma decodes_completed (d : Document) : (Call.note (completed d)).Decodes [] (.ok ()) := ⟨rfl, rfl⟩

lemma decodedKeys_parse (raw : Bytes) :
    (parse decoder raw).decodedKeys = (read decoder raw).decodedKeys := by
  rw [Call.decodedKeys, Call.decodedKeys, parse_marks]

variable {raw : Bytes} {l : Published.LogList}

/-- A list whose logs are verified is a document, and all its keys are decoded. -/
lemma decodes_read_of_isVerified (hl : published raw = .valid l)
    (hv : ∀ g ∈ l.logs, g.IsVerified decoder) :
    ∃ d, (read decoder raw).Decodes (l.logs.map Log.key) (.ok d) := by
  obtain ⟨v, -, hform⟩ := published_valid.mp hl
  obtain ⟨os, hos⟩ := decodes_operators_of_isVerified (Published.exists_isOperator hform) hv
  let d : Document := { version := l.version, timestamp := l.timestamp, operators := os }
  have hd : (document decoder l).Decodes (l.logs.map Log.key ++ []) (.ok d) :=
    hos.bind ⟨decodedKeys_announce d, rfl⟩
  have hread : (read decoder raw).Decodes (l.logs.map Log.key ++ [] ++ ([] ++ [])) (.ok d) := by
    rw [read, hl]
    exact hd.bind ((decodes_completed d).bind (Call.decodes_done d))
  simp only [List.append_nil] at hread
  exact ⟨d, hread⟩

/-- The first log that is refused ends the reading of a list. -/
lemma decodes_read_of_isRefused {before after : List Log} {g : Log} (hl : published raw = .valid l)
    (hlogs : l.logs = before ++ g :: after) (hv : ∀ b ∈ before, b.IsVerified decoder)
    (hg : g.IsRefused decoder f) :
    (read decoder raw).Decodes (before.map Log.key ++ keyTried g) (.error f) := by
  obtain ⟨v, -, hform⟩ := published_valid.mp hl
  rw [read, hl]
  exact (decodes_operators_of_isRefused (Published.exists_isOperator hform) hlogs hv
    hg).bind_error.bind_error

/-- A key that is decoded has the id with which it was published. -/
lemma exists_log_of_mem_decodedKeys {key : Bytes} (hl : published raw = .valid l)
    (hkey : key ∈ (read decoder raw).decodedKeys) :
    ∃ g ∈ l.logs, g.key = key ∧ Sha256.digest key = g.logId := by
  rcases Log.exists_first_isRefused decoder l.logs with hv | ⟨before, g, after, f, hlogs, hv, hg⟩
  · obtain ⟨d, hd⟩ := decodes_read_of_isVerified hl hv
    rw [hd.keys_eq, List.mem_map] at hkey
    obtain ⟨g, hg, rfl⟩ := hkey
    exact ⟨g, hg, rfl, (hv g hg).digest_key⟩
  · have hd := decodes_read_of_isRefused hl hlogs hv hg
    rw [hd.keys_eq, List.mem_append, List.mem_map] at hkey
    rw [hlogs]
    rcases hkey with ⟨b, hb, rfl⟩ | hkey
    · exact ⟨b, List.mem_append_left _ hb, rfl, (hv b hb).digest_key⟩
    · obtain ⟨rfl, hid⟩ := mem_keyTried.mp hkey
      exact ⟨g, List.mem_append_right _ List.mem_cons_self, rfl, hid⟩

/-- **The keys are decoded in the order of the list.** Nothing is decoded unless the whole list has
its form. If all its logs are verified, every key is decoded, as often as it is listed, and the list
is a document. Otherwise there is a first log that is refused, with the fault of the first of its
causes: the keys in front of it are decoded, its own is if it has the id of the log, and the failure
carries the fault, whatever comes later. So a key that is decoded always has the id with which it
was published. -/
theorem keys_decoded_in_order (decoder : KeyDecoder) (raw : Bytes) :
    (∀ issues, published raw = .invalid issues →
      (parse decoder raw).decodedKeys = [] ∧
        (parse decoder raw).result =
          .ok (.failure (unreadable (.form "log list" issues)))) ∧
    ∀ l, published raw = .valid l →
      ((∃ d, (parse decoder raw).result = .ok (.success d)) ↔
        ∀ g ∈ l.logs, g.IsVerified decoder) ∧
      ((∀ g ∈ l.logs, g.IsVerified decoder) →
        (parse decoder raw).decodedKeys = l.logs.map Log.key) ∧
      ((¬ ∀ g ∈ l.logs, g.IsVerified decoder) → ∃ before g after f,
        l.logs = before ++ g :: after ∧ (∀ b ∈ before, b.IsVerified decoder) ∧
          g.IsRefused decoder f) ∧
      (∀ before g after f, l.logs = before ++ g :: after →
        (∀ b ∈ before, b.IsVerified decoder) → g.IsRefused decoder f →
          (parse decoder raw).decodedKeys = before.map Log.key ++
            (if Sha256.digest g.key = g.logId then [g.key] else []) ∧
          (parse decoder raw).result =
            if f.isOrdinary then .ok (.failure (unreadable f)) else .error f) ∧
      ∀ key ∈ (parse decoder raw).decodedKeys,
        ∃ g ∈ l.logs, g.key = key ∧ Sha256.digest key = g.logId := by
  refine ⟨fun issues h => ?_, fun l hl => ?_⟩
  · rw [parse_of_invalid h]
    exact ⟨rfl, rfl⟩
  · rw [decodedKeys_parse]
    -- either every log is verified, or one of them is the first that is refused
    have hall : (∀ g ∈ l.logs, g.IsVerified decoder) →
        (read decoder raw).decodedKeys = l.logs.map Log.key ∧
          ∃ d, (parse decoder raw).result = .ok (.success d) := by
      intro hv
      obtain ⟨d, hd⟩ := decodes_read_of_isVerified hl hv
      exact ⟨hd.keys_eq, d, Outcome.capture_success.mpr (Call.map_ok.mpr ⟨d, hd.result_eq, rfl⟩)⟩
    have hfirst : ∀ before g after f, l.logs = before ++ g :: after →
        (∀ b ∈ before, b.IsVerified decoder) → g.IsRefused decoder f →
          (read decoder raw).decodedKeys = before.map Log.key ++ keyTried g ∧
          (parse decoder raw).result =
            if f.isOrdinary then .ok (.failure (unreadable f)) else .error f := by
      intro before g after f hlogs hv hg
      have hd := decodes_read_of_isRefused hl hlogs hv hg
      exact ⟨hd.keys_eq, parse_of_read_error hd.result_eq⟩
    refine ⟨⟨?_, fun hv => (hall hv).2⟩, fun hv => (hall hv).1, ?_, hfirst, ?_⟩
    · -- a refused log would have ended the reading
      rintro ⟨d, hd⟩
      refine (Log.exists_first_isRefused decoder l.logs).resolve_right ?_
      rintro ⟨before, g, after, f, hlogs, hv, hg⟩
      have hresult := (hfirst before g after f hlogs hv hg).2
      rw [hd] at hresult
      split_ifs at hresult
      cases hresult
    · exact (Log.exists_first_isRefused decoder l.logs).resolve_left
    · exact fun key hkey => exists_log_of_mem_decodedKeys hl hkey

/-- The bytes of a list of two operators with three logs: a key of one byte 1, one of a byte 2, and
one of a byte 3 without an id. -/
def unevenList : Bytes :=
  ["\x7b\"version\":\"\",\"log_list_timestamp\":5,\"operators\":[",
    "\x7b\"name\":\"a\",\"email\":[],\"logs\":[",
    "\x7b\"description\":\"d\",\"url\":\"u\",\"mmd\":0,\"key\":\"AQ==\",",
    "\"log_id\":\"S/USLzRFVMU73i67jNK349FgCtYxw4Wl18ziPHeFRZo=\",",
    "\"state\":\x7b\"usable\":\x7b\"timestamp\":1\x7d\x7d\x7d]\x7d,",
    "\x7b\"name\":\"b\",\"email\":[],\"logs\":[",
    "\x7b\"description\":\"d\",\"url\":\"u\",\"mmd\":0,\"key\":\"Ag==\",",
    "\"log_id\":\"28G0yQD/5I1XW12lxjgEASX2XbD+PiRJS3bqmGRX2YY=\",",
    "\"state\":\x7b\"usable\":\x7b\"timestamp\":1\x7d\x7d\x7d,",
    "\x7b\"description\":\"e\",\"url\":\"u\",\"mmd\":0,\"key\":\"Aw==\",\"log_id\":\"\",",
    "\"state\":\x7b\"usable\":\x7b\"timestamp\":1\x7d\x7d\x7d]\x7d]\x7d"].flatMap Utf8.encode

/-- A log of such a list. -/
def unevenLog (description : String) (logId key : Bytes) : Log where
  description
  logId
  key
  url := "u"
  mergeDelay := 0
  status := .usable
  since := 1
  start := none
  stop := none

/-- What such a list holds. -/
def unevenMembers : Published.LogList where
  version := ""
  timestamp := 5
  operators := [
    { name := "a", emails := [], logs := [unevenLog "d" (Sha256.digest [1]) [1]] },
    { name := "b", emails := [], logs := [unevenLog "d" (Sha256.digest [2]) [2],
      unevenLog "e" [] [3]] }]

/-- A decoder that refuses keys of a byte 2. -/
def pickyDecoder : KeyDecoder := fun key =>
  if key = [2] then .error .unreadableKey else .ok (some ⟨"key"⟩)

/-- The second key is refused by the decoder, and the third one not decoded, though its log is not
in order either. Without the last brace of the list nothing is decoded. -/
theorem keys_decoded_in_order_of_unevenList :
    (∃ issues, published unevenList.dropLast = .invalid issues ∧
      (parse pickyDecoder unevenList.dropLast).decodedKeys = []) ∧
    published unevenList = .valid unevenMembers ∧
      (∀ b ∈ [unevenLog "d" (Sha256.digest [1]) [1]], b.IsVerified pickyDecoder) ∧
      (unevenLog "d" (Sha256.digest [2]) [2]).IsRefused pickyDecoder .unreadableKey ∧
      (unevenLog "e" [] [3]).IsRefused pickyDecoder (.idMismatch "e") ∧
      (parse pickyDecoder unevenList).decodedKeys = [[1], [2]] ∧
      (parse pickyDecoder unevenList).result =
        .ok (.failure (unreadable .unreadableKey)) := by
  have hvalid : published unevenList = .valid unevenMembers := by decide +kernel
  have hcut : unevenList = unevenList.dropLast ++ [0x7d] := by decide +kernel
  have htorn : ∃ issues, published unevenList.dropLast = .invalid issues := by
    cases hp : published unevenList.dropLast with
    | valid l' => exact absurd hp (published_truncated (hcut ▸ hvalid) (by decide) l')
    | invalid issues => exact ⟨issues, rfl⟩
  obtain ⟨issues, hissues⟩ := htorn
  have hfirst : ∀ b ∈ [unevenLog "d" (Sha256.digest [1]) [1]], b.IsVerified pickyDecoder := by
    rw [List.forall_mem_singleton]
    exact ⟨rfl, by decide, ⟨⟨"key"⟩, rfl⟩, by simp [unevenLog]⟩
  have hsecond : (unevenLog "d" (Sha256.digest [2]) [2]).IsRefused pickyDecoder .unreadableKey :=
    .undecoded rfl rfl
  have hthird : (unevenLog "e" [] [3]).IsRefused pickyDecoder (.idMismatch "e") :=
    .idMismatch (by decide +kernel)
  obtain ⟨hkeys, -⟩ := (keys_decoded_in_order pickyDecoder unevenList.dropLast).1 _ hissues
  obtain ⟨-, -, -, hrefused, -⟩ :=
    (keys_decoded_in_order pickyDecoder unevenList).2 _ hvalid
  obtain ⟨hdecoded, hresult⟩ := hrefused [unevenLog "d" (Sha256.digest [1]) [1]] _
    [unevenLog "e" [] [3]] _ rfl hfirst hsecond
  have hid : Sha256.digest (unevenLog "d" (Sha256.digest [2]) [2]).key =
      (unevenLog "d" (Sha256.digest [2]) [2]).logId := rfl
  rw [if_pos hid] at hdecoded
  exact ⟨⟨_, hissues, hkeys⟩, hvalid, hfirst, hsecond, hthird, hdecoded, hresult⟩

end LogList

end KnownLogs
