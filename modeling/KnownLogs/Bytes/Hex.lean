/-
Byte strings and their hexadecimal text:

* `Bytes`: a string of bytes, as a list;
* `Hex.encode`: two lower-case digits for each byte;
* `Hex.decode?`: pairs of digits of either case, with blanks allowed between
  the pairs and nowhere inside one;
* `Hex.decode?_encodeChars`: **what is written is read back**.
-/

namespace KnownLogs

/-- A string of bytes. -/
abbrev Bytes := List UInt8

namespace Hex

/-! ### Digits -/

/-- The lower-case digit of a number below sixteen. -/
def digit (n : Nat) : Char :=
  if n < 10 then Char.ofNat (48 + n) else Char.ofNat (87 + n)

/-- The value of a hexadecimal digit of either case. -/
def value? (c : Char) : Option Nat :=
  if '0' ≤ c ∧ c ≤ '9' then some (c.toNat - 48)
  else if 'a' ≤ c ∧ c ≤ 'f' then some (c.toNat - 87)
  else if 'A' ≤ c ∧ c ≤ 'F' then some (c.toNat - 55)
  else none

/-- The six blanks that may stand between two pairs. -/
def isBlank (c : Char) : Bool :=
  c == ' ' || ('\t' ≤ c && c ≤ '\x0d')

/-! ### Texts -/

/-- The two digits of a byte. -/
def pair (b : UInt8) : List Char :=
  [digit (b.toNat / 16), digit (b.toNat % 16)]

/-- The characters of the hexadecimal text of a byte string. -/
def encodeChars (bs : Bytes) : List Char :=
  bs.flatMap pair

/-- The hexadecimal text of a byte string. -/
def encode (bs : Bytes) : String :=
  String.ofList (encodeChars bs)

/-- Reads pairs of digits, skipping blanks between them. -/
def decode? : List Char → Option Bytes
  | [] => some []
  | [c] => if isBlank c then some [] else none
  | c :: d :: rest =>
    if isBlank c then decode? (d :: rest)
    else
      match value? c, value? d with
      | some hi, some lo => (decode? rest).map (UInt8.ofNat (16 * hi + lo) :: ·)
      | _, _ => none

/-! ### Reading back -/

/-- A digit below sixteen has its own value and is not a blank. -/
theorem value?_digit : ∀ n < 16, value? (digit n) = some n ∧ isBlank (digit n) = false := by
  decide

/-- **What is written is read back**, whatever text follows it. -/
theorem decode?_pair_append (b : UInt8) (rest : List Char) :
    decode? (pair b ++ rest) = (decode? rest).map (b :: ·) := by
  have hi := value?_digit (b.toNat / 16) (by have := b.toNat_lt; omega)
  have lo := value?_digit (b.toNat % 16) (by omega)
  have hb : UInt8.ofNat (16 * (b.toNat / 16) + b.toNat % 16) = b := by
    rw [Nat.div_add_mod]; simp
  simp [pair, decode?, hi, lo, hb]

/-- **What is written is read back.** -/
theorem decode?_encodeChars (bs : Bytes) : decode? (encodeChars bs) = some bs := by
  induction bs with
  | nil => rfl
  | cons b bs ih =>
    rw [encodeChars, List.flatMap_cons, decode?_pair_append, ← encodeChars, ih]
    rfl

end Hex

end KnownLogs
