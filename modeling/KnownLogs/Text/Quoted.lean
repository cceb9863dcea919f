/-
Texts and byte strings as messages and addresses show them:

* `quoteMark`: a double quote where the content holds single quotes and no
  double one, a single quote otherwise;
* `quoted`: a text in quotes, its unprintable characters by number;
* `quotedBytes`: a byte string in quotes, everything outside ASCII's visible part
  by number;
* `Halved`: a text in which halves of characters stand alone, and its quoted form;
* `percentQuoted`: every byte of a text that may not stand in the path of an address as
  a percent sign and two digits.
-/
import KnownLogs.Bytes.Utf8
import KnownLogs.Text.Printable

namespace KnownLogs.Text

/-! ### Quotes -/

/-- The quote that stands around a content. -/
def quoteMark (cs : List Char) : Char :=
  if cs.contains '\'' && !cs.contains '"' then '"' else '\''

/-- The low `digits` hexadecimal digits of a number. -/
def hexDigits : Nat → Nat → List Char
  | 0, _ => []
  | digits + 1, n => hexDigits digits (n / 16) ++ [Hex.digit (n % 16)]

/-- A character by number: two, four or eight digits, as few as will do. -/
def byNumber (n : Nat) : List Char :=
  if n < 0x100 then '\\' :: 'x' :: hexDigits 2 n
  else if n < 0x10000 then '\\' :: 'u' :: hexDigits 4 n
  else '\\' :: 'U' :: hexDigits 8 n

/-- One character inside the quotes `mark`, given which characters are shown. -/
def escaped (shown : Char → Bool) (mark c : Char) : List Char :=
  if c = mark ∨ c = '\\' then ['\\', c]
  else if c = '\n' then ['\\', 'n']
  else if c = '\r' then ['\\', 'r']
  else if c = '\t' then ['\\', 't']
  else if shown c then [c]
  else byNumber c.toNat

/-- A text in quotes. -/
def quotedChars (shown : Char → Bool) (cs : List Char) : List Char :=
  let mark := quoteMark cs
  mark :: cs.flatMap (escaped shown mark) ++ [mark]

/-- A text in quotes. -/
def quoted (s : String) : String :=
  String.ofList (quotedChars isPrintable s.toList)

/-- A byte string in quotes. -/
def quotedBytes (bs : Bytes) : String :=
  let cs := bs.map fun b => Char.ofNat b.toNat
  String.ofList ('b' :: quotedChars (fun c => 0x20 ≤ c.toNat && c.toNat < 0x7F) cs)

/-! ### Halves of characters -/

/-- A text in which halves of characters stand alone, so that it is no string. -/
structure Halved where
  /-- What stands in front of each half, and the number of the half. -/
  parts : List (List Char × Nat)
  /-- What follows the last half. -/
  rest : List Char
deriving DecidableEq, Repr, Inhabited

namespace Halved

/-- A text, given how characters and halves are written. -/
def spell (char : Char → List Char) (half : Nat → List Char) (t : Halved) : List Char :=
  t.parts.flatMap (fun p => p.1.flatMap char ++ half p.2) ++ t.rest.flatMap char

/-- The characters of a text, with a mark in place of each half. -/
def string (t : Halved) : String :=
  String.ofList (t.spell (fun c => [c]) fun _ => ['\uFFFD'])

/-- A text in quotes. -/
def quoted (t : Halved) : String :=
  let mark := quoteMark (t.spell (fun c => [c]) fun _ => [])
  String.ofList (mark :: t.spell (escaped isPrintable mark) byNumber ++ [mark])

end Halved

/-! ### Percent signs -/

/-- The signs that stand in a path as they are, beside letters and digits. -/
def addressSigns : List Char :=
  "_.-~:/%=@[]!$&'()*+,;".toList

/-- Whether a character stands in a path as it is. -/
def staysInAddress (c : Char) : Bool :=
  c.isAlphanum || addressSigns.contains c

/-- A byte as a percent sign and two digits. -/
def percentByte (b : UInt8) : List Char :=
  ['%', (Hex.digit (b.toNat / 16)).toUpper, (Hex.digit (b.toNat % 16)).toUpper]

/-- A text as it stands in the path of an address. -/
def percentQuoted (s : String) : String :=
  String.ofList <| s.toList.flatMap fun c =>
    if staysInAddress c then [c] else (Utf8.encodeChar c).flatMap percentByte

end KnownLogs.Text
