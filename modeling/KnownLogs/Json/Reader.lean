/-
Reading JSON text, a character at a time:

* `Limits`: how deep containers may nest, how long a number may be, and whether half
  of a character may stand alone;
* `Reader`: the open containers, and what may come next;
* `Reader.step`: one character; there is no way back, so that **reading a text in
  two parts is reading it in one** (`Reader.feed_append`);
* `Json.read?`: the value of a whole text;
* `Json.excess?`: the container that nests too deep in a text.
-/
import KnownLogs.Json.Basic
import KnownLogs.Bytes.Hex

namespace KnownLogs.Json

/-- What a reader puts up with. -/
structure Limits where
  /-- The deepest nesting of lists and records that are not empty. -/
  depth : Nat
  /-- The most digits in front of the point or the exponent of a number. -/
  digits : Nat
  /-- A lenient reader holds only integers to the number of digits, while a strict one
  holds every number to it. And a lenient reader takes an escape for half of a character,
  where a strict one wants both halves. -/
  lenient : Bool := false
deriving DecidableEq, Repr

/-! ### Numbers -/

/-- The part of a number that the last character belongs to. -/
inductive NumeralPart where
  | sign
  | zero
  | whole
  | point
  | fraction
  | mark
  | markSign
  | power
deriving DecidableEq, Repr

/-- A number that is being read. -/
structure Numeral where
  part : NumeralPart
  negative : Bool := false
  /-- All digits before the exponent, as one number. -/
  mantissa : Nat := 0
  /-- How many digits stand before the point. -/
  digits : Nat := 0
  /-- How many digits stand after the point. -/
  places : Nat := 0
  powerNegative : Bool := false
  power : Nat := 0

/-- The value of a decimal digit. -/
def digitValue? (c : Char) : Option Nat :=
  if '0' ≤ c ∧ c ≤ '9' then some (c.toNat - 48) else none

/-- The number that a first character begins. -/
def Numeral.begin? (c : Char) : Option Numeral :=
  if c = '-' then some { part := .sign, negative := true }
  else
    match digitValue? c with
    | some 0 => some { part := .zero, digits := 1 }
    | some d => some { part := .whole, mantissa := d, digits := 1 }
    | none => none

/-- The number with one more character, if the character can belong to it. -/
def Numeral.extend? (n : Numeral) (c : Char) : Option Numeral :=
  match n.part, digitValue? c with
  | .sign, some 0 => some { n with part := .zero, digits := 1 }
  | .sign, some d => some { n with part := .whole, mantissa := d, digits := 1 }
  | .whole, some d => some { n with mantissa := 10 * n.mantissa + d, digits := n.digits + 1 }
  | .point, some d | .fraction, some d =>
    some { n with part := .fraction, mantissa := 10 * n.mantissa + d, places := n.places + 1 }
  | .mark, some d | .markSign, some d | .power, some d =>
    some { n with part := .power, power := 10 * n.power + d }
  | .mark, none =>
    if c = '+' then some { n with part := .markSign }
    else if c = '-' then some { n with part := .markSign, powerNegative := true }
    else none
  | .zero, none | .whole, none =>
    if c = '.' then some { n with part := .point }
    else if c = 'e' ∨ c = 'E' then some { n with part := .mark }
    else none
  | .fraction, none => if c = 'e' ∨ c = 'E' then some { n with part := .mark } else none
  | _, _ => none

/-- Whether a number ends in front of a point and an exponent. -/
def Numeral.isInteger (n : Numeral) : Bool :=
  n.part = .zero || n.part = .whole

/-- Whether a number is short enough. -/
def Numeral.fits (limits : Limits) (n : Numeral) : Bool :=
  (limits.lenient && !n.isInteger) || n.digits ≤ limits.digits

/-- The value of a number that ends here, unless it is too long. -/
def Numeral.value? (limits : Limits) (n : Numeral) : Option Json :=
  if !n.fits limits then none
  else
    match n.part with
    | .zero | .whole => some (.int (if n.negative then -n.mantissa else n.mantissa))
    | .fraction | .power =>
      let power : Int := if n.powerNegative then -n.power else n.power
      some (.decimal ⟨n.negative, n.mantissa, power - n.places⟩)
    | _ => none

/-! ### Texts -/

/-- Where reading stands inside an escape. -/
inductive Escape where
  /-- In none. -/
  | plain
  /-- Behind the backslash. -/
  | begun
  /-- Inside a number: the digits to come, the value so far, and the first half of
  a pair that waits for its second. -/
  | unit (left : Nat) (value : Nat) (high : Option Nat)
  /-- Behind the first half of a pair: a backslash must follow. -/
  | backslash (high : Nat)
  /-- Behind that backslash: a `u` must follow. -/
  | letter (high : Nat)

/-- A text so far, the last character first. -/
structure Written where
  chars : List Char := []
  /-- The halves of characters that stand alone in front of the characters, the last one
  first, each behind what stands in front of it. -/
  halves : List (List Char × Nat) := []

/-- A text with one more character. -/
def Written.add (w : Written) (c : Char) : Written :=
  { w with chars := c :: w.chars }

/-- A text with half of a character at its end. -/
def Written.addHalf (w : Written) (half : Nat) : Written :=
  { halves := (w.chars.reverse, half) :: w.halves }

/-- The characters of a text and the halves among them. -/
def Written.text (w : Written) : Text.Halved :=
  ⟨w.halves.reverse, w.chars.reverse⟩

/-- The value that a text is. -/
def Written.value (w : Written) : Json :=
  if w.halves.isEmpty then .text (String.ofList w.chars.reverse) else .halved w.text

/-- The character that a one-letter escape stands for. -/
def shortEscape? (c : Char) : Option Char :=
  match c with
  | '"' => some '"'
  | '\\' => some '\\'
  | '/' => some '/'
  | 'b' => some '\x08'
  | 'f' => some '\x0c'
  | 'n' => some '\n'
  | 'r' => some '\r'
  | 't' => some '\t'
  | _ => none

/-- Whether a number is the first half of a character. -/
def isFirstHalf (value : Nat) : Bool :=
  0xD800 ≤ value && value < 0xDC00

/-- Whether a number is the second half of a character. -/
def isSecondHalf (value : Nat) : Bool :=
  0xDC00 ≤ value && value < 0xE000

/-- A text with half of a character at its end, where that may be. -/
def Written.addHalf? (limits : Limits) (w : Written) (half : Nat) : Option Written :=
  if limits.lenient then some (w.addHalf half) else none

/-- What follows the last digit of a number that no first half waits for. -/
def endSingle (limits : Limits) (w : Written) (value : Nat) : Option (Written × Escape) :=
  if isFirstHalf value then some (w, .backslash value)
  else if isSecondHalf value then (w.addHalf? limits value).map fun w => (w, .plain)
  else some (w.add (Char.ofNat value), .plain)

/-- What follows the last digit of a number. The halves of a character come one behind
the other, the first one first. -/
def endUnit (limits : Limits) (w : Written) (value : Nat) : Option Nat → Option (Written × Escape)
  | none => endSingle limits w value
  | some high =>
    if isSecondHalf value then
      some (w.add (Char.ofNat (0x10000 + (high - 0xD800) * 0x400 + (value - 0xDC00))), .plain)
    else (w.addHalf? limits high).bind fun w => endSingle limits w value

/-- One character behind a backslash. -/
def stepEscape (w : Written) (c : Char) : Option (Written × Escape) :=
  if c = 'u' then some (w, .unit 4 0 none)
  else (shortEscape? c).map fun d => (w.add d, .plain)

/-- One character that stands for itself, if it may. -/
def stepPlain (w : Written) (c : Char) : Option (Written × Escape) :=
  if c = '\\' then some (w, .begun)
  else if c.toNat < 0x20 then none
  else some (w.add c, .plain)

/-- One character inside quotes. The closing quote is not one of them. -/
def stepText (limits : Limits) (w : Written) (c : Char) : Escape → Option (Written × Escape)
  | .plain => stepPlain w c
  | .begun => stepEscape w c
  | .unit left value high =>
    match Hex.value? c with
    | none => none
    | some d =>
      if left ≤ 1 then endUnit limits w (16 * value + d) high
      else some (w, .unit (left - 1) (16 * value + d) high)
  | .backslash high =>
    if c = '\\' then some (w, .letter high)
    else (w.addHalf? limits high).bind fun w => stepPlain w c
  | .letter high =>
    if c = 'u' then some (w, .unit 4 0 (some high))
    else (w.addHalf? limits high).bind fun w => stepEscape w c

/-- The text when a quote closes it, if it may be closed here. -/
def closeText? (limits : Limits) (w : Written) : Escape → Option Written
  | .plain => some w
  | .backslash high => w.addHalf? limits high
  | _ => none

/-! ### The reader -/

/-- A container between two items, its items newest first. -/
inductive Open where
  | list (items : List Json)
  | record (members : List (String × Json))

/-- The value of a container that is closed. -/
def Open.close : Open → Json
  | .list items => .list items.reverse
  | .record members => .record members.reverse

/-- A container that waits for a value. -/
inductive Frame where
  | list (items : List Json)
  | member (members : List (String × Json)) (name : String)

/-- What a text in quotes is for. -/
inductive TextUse where
  | value
  | name (members : List (String × Json))

/-- What may come next. -/
inductive Next where
  /-- A value. -/
  | value
  /-- The first item of a container, or its end. -/
  | firstItem (container : Open)
  /-- A comma, or the end of a container. -/
  | comma (container : Open)
  /-- A name. -/
  | name (members : List (String × Json))
  /-- The colon behind a name. -/
  | colon (members : List (String × Json)) (name : String)
  /-- The rest of a text in quotes. -/
  | text (use : TextUse) (written : Written) (escape : Escape)
  /-- The rest of a number. -/
  | number (numeral : Numeral)
  /-- The rest of a word. -/
  | word (rest : List Char) (value : Json)
  /-- Blanks alone. -/
  | nothing (value : Json)

/-- The containers that wait, innermost first, and what may come next. -/
structure Reader where
  waiting : List Frame
  next : Next

namespace Reader

/-- The reader before the first character. -/
def start : Reader := ⟨[], .value⟩

/-- The four blanks of the grammar. -/
def isBlank (c : Char) : Bool :=
  c == ' ' || c == '\t' || c == '\n' || c == '\r'

/-- Hands a value to the container that waits for it. -/
def give (waiting : List Frame) (v : Json) : Reader :=
  match waiting with
  | [] => ⟨[], .nothing v⟩
  | .list items :: rest => ⟨rest, .comma (.list (v :: items))⟩
  | .member members name :: rest => ⟨rest, .comma (.record ((name, v) :: members))⟩

/-- Begins a value with its first character. -/
def beginValue (waiting : List Frame) (c : Char) : Option Reader :=
  match c with
  | '{' => some ⟨waiting, .firstItem (.record [])⟩
  | '[' => some ⟨waiting, .firstItem (.list [])⟩
  | '"' => some ⟨waiting, .text .value {} .plain⟩
  | 't' => some ⟨waiting, .word ['r', 'u', 'e'] (.bool true)⟩
  | 'f' => some ⟨waiting, .word ['a', 'l', 's', 'e'] (.bool false)⟩
  | 'n' => some ⟨waiting, .word ['u', 'l', 'l'] .null⟩
  | 'N' => some ⟨waiting, .word ['a', 'N'] .nan⟩
  | 'I' => some ⟨waiting, .word "nfinity".toList (.infinity false)⟩
  | _ => (Numeral.begin? c).map fun n => ⟨waiting, .number n⟩

/-- Begins the first item of a container, unless that is nested too deep, or ends the
container. -/
def beginItem (limits : Limits) (waiting : List Frame) (c : Char) : Open → Option Reader
  | .list items =>
    if c = ']' then some (give waiting (Open.list items).close)
    else if waiting.length < limits.depth then beginValue (.list items :: waiting) c
    else none
  | .record members =>
    if c = '}' then some (give waiting (Open.record members).close)
    else if c = '"' ∧ waiting.length < limits.depth then
      some ⟨waiting, .text (.name members) {} .plain⟩
    else none

/-- A comma or the end of a container. -/
def endItem (waiting : List Frame) (c : Char) : Open → Option Reader
  | .list items =>
    if c = ']' then some (give waiting (Open.list items).close)
    else if c = ',' then some ⟨.list items :: waiting, .value⟩
    else none
  | .record members =>
    if c = '}' then some (give waiting (Open.record members).close)
    else if c = ',' then some ⟨waiting, .name members⟩
    else none

/-- One character behind a value. -/
def settled (r : Reader) (c : Char) : Option Reader :=
  if isBlank c then some r
  else
    match r.next with
    | .comma container => endItem r.waiting c container
    | _ => none

/-- One character. -/
def step (limits : Limits) (r : Reader) (c : Char) : Option Reader :=
  match r.next with
  | .text use written escape =>
    match if c = '"' then closeText? limits written escape else none with
    | some w =>
      match use with
      | .value => some (give r.waiting w.value)
      | .name members => some ⟨r.waiting, .colon members w.text.string⟩
    | none => (stepText limits written c escape).map fun (w, e) => ⟨r.waiting, .text use w e⟩
  | .number n =>
    match n.extend? c with
    | some m => some ⟨r.waiting, .number m⟩
    | none =>
      if n.part = .sign ∧ c = 'I' then some ⟨r.waiting, .word "nfinity".toList (.infinity true)⟩
      else (n.value? limits).bind fun v => (give r.waiting v).settled c
  | .word rest v =>
    match rest with
    | [] => none
    | [d] => if c = d then some (give r.waiting v) else none
    | d :: e :: rest => if c = d then some ⟨r.waiting, .word (e :: rest) v⟩ else none
  | .comma _ | .nothing _ => r.settled c
  | .value => if isBlank c then some r else beginValue r.waiting c
  | .firstItem container => if isBlank c then some r else beginItem limits r.waiting c container
  | .name members =>
    if isBlank c then some r
    else if c = '"' then some ⟨r.waiting, .text (.name members) {} .plain⟩
    else none
  | .colon members name =>
    if isBlank c then some r
    else if c = ':' then some ⟨.member members name :: r.waiting, .value⟩
    else none

/-- A text, character by character. -/
def feed (limits : Limits) (r : Reader) (cs : List Char) : Option Reader :=
  cs.foldlM (step limits) r

/-- The container that is opened at a depth where there may be none, the first time that
happens. -/
def excess? (limits : Limits) (r : Reader) : List Char → Option Open
  | [] => none
  | c :: cs =>
    match r.step limits c with
    | none => none
    | some next =>
      match next.next with
      | .firstItem container =>
        if limits.depth ≤ next.waiting.length then some container else excess? limits next cs
      | _ => excess? limits next cs

/-- The value when the text ends here. -/
def finish? (limits : Limits) (r : Reader) : Option Json :=
  match r.waiting, r.next with
  | [], .nothing v => some v
  | [], .number n => n.value? limits
  | _, _ => none

/-- **Reading a text in two parts is reading it in one.** -/
theorem feed_append (limits : Limits) (r : Reader) (cs ds : List Char) :
    r.feed limits (cs ++ ds) = (r.feed limits cs).bind fun s => s.feed limits ds := by
  simp [feed, List.foldlM_append]

end Reader

/-- The value of a whole text, blanks around it allowed. -/
def read? (limits : Limits) (cs : List Char) : Option Json :=
  (Reader.start.feed limits cs).bind (Reader.finish? limits)

/-- The first container of a text, empty or not, that is nested deeper than containers
may be. -/
def excess? (limits : Limits) (cs : List Char) : Option Open :=
  Reader.start.excess? limits cs

end KnownLogs.Json
