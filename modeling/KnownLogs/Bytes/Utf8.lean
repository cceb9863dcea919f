/-
The UTF-8 form of text:

* `Utf8.encode`: one to four bytes for each character;
* `Utf8.decode?`: refuses overlong forms, surrogates, values beyond the last
  character, stray and missing continuation bytes.
-/
import KnownLogs.Bytes.Hex

namespace KnownLogs.Utf8

/-! ### Writing -/

/-- The continuation byte that carries the six low bits of a number. -/
def tail (n : Nat) : UInt8 :=
  UInt8.ofNat (0x80 + n % 64)

/-- The bytes of one character. -/
def encodeChar (c : Char) : Bytes :=
  let n := c.toNat
  if n < 0x80 then [UInt8.ofNat n]
  else if n < 0x800 then [UInt8.ofNat (0xC0 + n / 64), tail n]
  else if n < 0x10000 then [UInt8.ofNat (0xE0 + n / 4096), tail (n / 64), tail n]
  else [UInt8.ofNat (0xF0 + n / 262144), tail (n / 4096), tail (n / 64), tail n]

/-- The bytes of a text. -/
def encodeChars (cs : List Char) : Bytes :=
  cs.flatMap encodeChar

/-- The bytes of a text. -/
def encode (s : String) : Bytes :=
  encodeChars s.toList

/-! ### Reading -/

/-- The six bits of a continuation byte. -/
def tail? (b : UInt8) : Option Nat :=
  if 0x80 ≤ b.toNat ∧ b.toNat < 0xC0 then some (b.toNat - 0x80) else none

/-- The character with number `n`, if there is one and it is not below `least`. -/
def scalar? (least n : Nat) : Option Char :=
  if n.isValidChar ∧ least ≤ n then some (Char.ofNat n) else none

/-- The character formed by two bytes. -/
def two? (b c : UInt8) : Option Char := do
  let x ← tail? c
  scalar? 0x80 ((b.toNat - 0xC0) * 64 + x)

/-- The character formed by three bytes. -/
def three? (b c d : UInt8) : Option Char := do
  let x ← tail? c
  let y ← tail? d
  scalar? 0x800 ((b.toNat - 0xE0) * 4096 + x * 64 + y)

/-- The character formed by four bytes. -/
def four? (b c d e : UInt8) : Option Char := do
  let x ← tail? c
  let y ← tail? d
  let z ← tail? e
  scalar? 0x10000 ((b.toNat - 0xF0) * 262144 + x * 4096 + y * 64 + z)

/-- The characters of a byte string that is well-formed UTF-8. -/
def decode? : Bytes → Option (List Char)
  | [] => some []
  | b :: rest =>
    if b.toNat < 0x80 then (decode? rest).map (Char.ofNat b.toNat :: ·)
    else if b.toNat < 0xC0 then none
    else if b.toNat < 0xE0 then
      match rest with
      | c :: rest => (two? b c).bind fun x => (decode? rest).map (x :: ·)
      | _ => none
    else if b.toNat < 0xF0 then
      match rest with
      | c :: d :: rest => (three? b c d).bind fun x => (decode? rest).map (x :: ·)
      | _ => none
    else
      match rest with
      | c :: d :: e :: rest => (four? b c d e).bind fun x => (decode? rest).map (x :: ·)
      | _ => none

end KnownLogs.Utf8
