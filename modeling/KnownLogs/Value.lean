/-
Plain values, as messages carry and outcomes hold them:

* `Value`: nothing, truth values, integers, texts, byte strings and lists;
* `Value.written`: a value as it is written inside other text, texts in quotes;
* `Value.shown`: the same with a text on its own shown without quotes;
* `Value.json`: a value as JSON;
* `Value.same`: equality, under which the truth values are the numbers 1 and 0.
-/
import KnownLogs.Json.Basic
import KnownLogs.Text.Basic

namespace KnownLogs

/-- A plain value. -/
inductive Value where
  | none
  | bool (b : Bool)
  | int (i : Int)
  | text (s : String)
  | bytes (bs : Bytes)
  | list (items : List Value)
deriving Inhabited

namespace Value

/-! ### Texts of values -/

mutual

/-- A value as it is written inside other text. -/
def written : Value → String
  | .none => "None"
  | .bool true => "True"
  | .bool false => "False"
  | .int i => toString i
  | .text s => Text.quoted s
  | .bytes bs => Text.quotedBytes bs
  | .list items => "[" ++ Text.join ", " (writtenItems items) ++ "]"

/-- The items of a list, each as it is written. -/
def writtenItems : List Value → List String
  | [] => []
  | v :: rest => written v :: writtenItems rest

end

/-- A value on its own: a text without quotes, anything else as it is written. -/
def shown : Value → String
  | .text s => s
  | v => v.written

/-- Several values together, in round brackets; one alone keeps a comma. -/
def writtenTogether : List Value → String
  | [v] => "(" ++ v.written ++ ",)"
  | vs => "(" ++ Text.join ", " (writtenItems vs) ++ ")"

mutual

/-- A value as JSON, its byte strings in hexadecimal digits. -/
def json : Value → Json
  | .none => .null
  | .bool b => .bool b
  | .int i => .int i
  | .text s => .text s
  | .bytes bs => .record [("bytes", .text (Hex.encode bs))]
  | .list items => .list (jsonItems items)

/-- The items of a list as JSON. -/
def jsonItems : List Value → List Json
  | [] => []
  | v :: rest => json v :: jsonItems rest

end

/-- The value of an optional integer. -/
def ofInt? : Option Int → Value
  | some i => .int i
  | Option.none => .none

/-! ### Equality -/

/-- The integer that a number or a truth value stands for. -/
def number? : Value → Option Int
  | .int i => some i
  | .bool true => some 1
  | .bool false => some 0
  | _ => Option.none

mutual

/-- Equality of values: numbers and truth values by the integer they stand for. -/
def same : Value → Value → Bool
  | .none, .none => true
  | .text s, .text t => s == t
  | .bytes a, .bytes b => a == b
  | .list xs, .list ys => sameItems xs ys
  | v, w =>
    match number? v, number? w with
    | some i, some j => i == j
    | _, _ => false

/-- Equality of lists, item by item. -/
def sameItems : List Value → List Value → Bool
  | [], [] => true
  | v :: vs, w :: ws => same v w && sameItems vs ws
  | _, _ => false

end

/-- Whether a value can be a member of a set: lists cannot. -/
def canBeMember : Value → Bool
  | .list _ => false
  | _ => true

/-- A value that is there: anything but nothing. -/
def present? : Value → Option Value
  | .none => Option.none
  | v => some v

/-! ### Operations -/

/-- What an operation cannot be applied to. -/
inductive Problem where
  /-- The value has no length. -/
  | noLength (family : String)
  /-- The value has no items. -/
  | noItems (family : String)
  /-- There is no item in an empty value. -/
  | noFirst (family : String)
  /-- The value cannot be doubled. -/
  | noDouble (family : String)
deriving DecidableEq, Repr

/-- The name of the family that a value belongs to. -/
def family : Value → String
  | .none => "NoneType"
  | .bool _ => "bool"
  | .int _ => "int"
  | .text _ => "str"
  | .bytes _ => "bytes"
  | .list _ => "list"

/-- The wording of a problem. -/
def Problem.message : Problem → String
  | .noLength f => s!"object of type '{f}' has no len()"
  | .noItems f => s!"'{f}' object is not subscriptable"
  | .noFirst "bytes" => "index out of range"
  | .noFirst "str" => "string index out of range"
  | .noFirst f => s!"{f} index out of range"
  | .noDouble f => s!"unsupported operand type(s) for *: '{f}' and 'int'"

/-- The number of characters, bytes or items. -/
def size : Value → Except Problem Value
  | .text s => .ok (.int s.length)
  | .bytes bs => .ok (.int bs.length)
  | .list items => .ok (.int items.length)
  | v => .error (.noLength v.family)

/-- A number doubled, or a sequence followed by itself. -/
def twice : Value → Except Problem Value
  | .text s => .ok (.text (s ++ s))
  | .bytes bs => .ok (.bytes (bs ++ bs))
  | .list items => .ok (.list (items ++ items))
  | v =>
    match v.number? with
    | some i => .ok (.int (2 * i))
    | Option.none => .error (.noDouble v.family)

/-- The first character, byte or item; a byte counts as a number. -/
def first : Value → Except Problem Value
  | .text s =>
    match s.toList with
    | c :: _ => .ok (.text (String.singleton c))
    | [] => .error (.noFirst "str")
  | .bytes (b :: _) => .ok (.int b.toNat)
  | .bytes [] => .error (.noFirst "bytes")
  | .list (v :: _) => .ok v
  | .list [] => .error (.noFirst "list")
  | v => .error (.noItems v.family)

end Value

end KnownLogs
