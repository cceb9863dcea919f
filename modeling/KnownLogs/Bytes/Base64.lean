/-
Base64 with padding, read strictly:

* `Base64.encode`: the standard alphabet, padded to whole groups of four;
* `Base64.decode`: accepts the alphabet and the padding that closes the last
  group and nothing else, and says what was wrong otherwise; the unused bits of
  the last digit may hold anything;
* `Base64.Error.message`: the wording of each refusal.
-/
import KnownLogs.Bytes.Hex

namespace KnownLogs.Base64

/-! ### The alphabet -/

/-- The digit of a number below sixty-four. -/
def digit (n : Nat) : Char :=
  if n < 26 then Char.ofNat (65 + n)
  else if n < 52 then Char.ofNat (71 + n)
  else if n < 62 then Char.ofNat (n - 4)
  else if n = 62 then '+'
  else '/'

/-- The value of a digit. -/
def value? (c : Char) : Option Nat :=
  if 'A' ≤ c ∧ c ≤ 'Z' then some (c.toNat - 65)
  else if 'a' ≤ c ∧ c ≤ 'z' then some (c.toNat - 71)
  else if '0' ≤ c ∧ c ≤ '9' then some (c.toNat + 4)
  else if c = '+' then some 62
  else if c = '/' then some 63
  else none

/-! ### Writing -/

/-- The characters of the text of a byte string: four for three bytes, the last
group padded. -/
def encodeChars : Bytes → List Char
  | [] => []
  | [a] => [digit (a.toNat / 4), digit (a.toNat % 4 * 16), '=', '=']
  | [a, b] =>
    [digit (a.toNat / 4), digit (a.toNat % 4 * 16 + b.toNat / 16), digit (b.toNat % 16 * 4), '=']
  | a :: b :: c :: rest =>
    digit (a.toNat / 4) :: digit (a.toNat % 4 * 16 + b.toNat / 16) ::
      digit (b.toNat % 16 * 4 + c.toNat / 64) :: digit (c.toNat % 64) :: encodeChars rest

/-- The text of a byte string. -/
def encode (bs : Bytes) : String :=
  String.ofList (encodeChars bs)

/-! ### Reading -/

/-- Why a text is not the Base64 of anything. -/
inductive Error where
  /-- A character beyond ASCII. -/
  | notAscii
  /-- The first character is padding. -/
  | leadingPadding
  /-- Something follows the padding that closes the last group. -/
  | afterPadding
  /-- A digit follows padding that does not close its group. -/
  | brokenPadding
  /-- A character that is neither a digit nor padding. -/
  | alphabet
  /-- The digits end with one alone in its group. -/
  | strayDigit (digits : Nat)
  /-- The last group lacks its padding. -/
  | missingPadding
deriving DecidableEq, Repr

/-- The wording of a refusal. -/
def Error.message : Error → String
  | .notAscii => "string argument should contain only ASCII characters"
  | .leadingPadding => "Leading padding not allowed"
  | .afterPadding => "Excess data after padding"
  | .brokenPadding => "Discontinuous padding not allowed"
  | .alphabet => "Only base64 data is allowed"
  | .strayDigit n =>
    s!"Invalid base64-encoded string: number of data characters ({n}) cannot be 1 more than a multiple of 4"
  | .missingPadding => "Incorrect padding"

/-- Where reading stands inside a text. -/
structure Progress where
  /-- The bytes read, the last one first. -/
  out : Bytes := []
  /-- The digits of the open group, at most three. -/
  digits : Nat := 0
  /-- The bits of the open group that no byte holds yet. -/
  bits : Nat := 0
  /-- The padding characters since the last digit. -/
  pads : Nat := 0
  /-- Padding has closed a group. -/
  closed : Bool := false

/-- Reads one digit of value `v`. -/
def Progress.digit (p : Progress) (v : Nat) : Progress :=
  match p.digits with
  | 0 => { p with digits := 1, bits := v, pads := 0 }
  | 1 =>
    { p with
      digits := 2, bits := v % 16, out := UInt8.ofNat (p.bits * 4 + v / 16) :: p.out, pads := 0 }
  | 2 =>
    { p with
      digits := 3, bits := v % 4, out := UInt8.ofNat (p.bits * 16 + v / 4) :: p.out, pads := 0 }
  | _ => { p with digits := 0, bits := 0, out := UInt8.ofNat (p.bits * 64 + v) :: p.out, pads := 0 }

/-- Reads one character. Padding counts from the third place of a group on and
closes the group in its fourth place. -/
def Progress.step (p : Progress) (c : Char) : Except Error Progress :=
  if p.closed then .error .afterPadding
  else if c = '=' then
    if 2 ≤ p.digits ∧ 4 ≤ p.digits + p.pads + 1 then
      .ok { p with pads := p.pads + 1, closed := true }
    else .ok { p with pads := p.pads + 1 }
  else
    match value? c with
    | none => .error .alphabet
    | some v => if p.pads = 0 then .ok (p.digit v) else .error .brokenPadding

/-- What has been read when the text ends. -/
def Progress.finish (p : Progress) : Except Error Bytes :=
  if p.closed ∨ p.digits = 0 then .ok p.out.reverse
  else if p.digits = 1 then .error (.strayDigit (p.out.length / 3 * 4 + 1))
  else .error .missingPadding

/-- Reads a text strictly. -/
def decode (s : String) : Except Error Bytes :=
  let cs := s.toList
  if cs.any (fun c => 0x80 ≤ c.toNat) then .error .notAscii
  else if cs.head? = some '=' then .error .leadingPadding
  else do (← cs.foldlM Progress.step {}).finish

end KnownLogs.Base64
