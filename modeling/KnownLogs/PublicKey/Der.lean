/-
Elements in the distinguished encoding:

* `Der.Element`: a tag and a content;
* `Der.element?`: the first element of a byte string, its length in the shortest form;
* `Der.whole?`, `Der.elements?`: one element that fills a byte string, and a row of a
  given number of elements that does;
* `Der.positive?`: the positive number of an integer's content.
-/
import KnownLogs.Bytes.Hex

namespace KnownLogs.Der

/-- An element. -/
structure Element where
  tag : UInt8
  content : Bytes
deriving DecidableEq, Repr

/-- The number whose digits to base 256 are the bytes. -/
def number (bs : Bytes) : Nat :=
  bs.foldl (fun n b => 256 * n + b.toNat) 0

/-- The length that an element gives, and what follows it. The long form is for
lengths that the short one cannot give, without a leading zero. -/
def length? : Bytes → Option (Nat × Bytes)
  | [] => none
  | b :: rest =>
    if b.toNat < 0x80 then some (b.toNat, rest)
    else
      let digits := rest.take (b.toNat - 0x80)
      let n := number digits
      if digits.length = b.toNat - 0x80 ∧ digits.head? ≠ some 0 ∧ 0x80 ≤ n then
        some (n, rest.drop (b.toNat - 0x80))
      else none

/-- The first element, and what follows it. -/
def element? : Bytes → Option (Element × Bytes)
  | [] => none
  | tag :: rest =>
    match length? rest with
    | none => none
    | some (n, rest) =>
      if n ≤ rest.length then some (⟨tag, rest.take n⟩, rest.drop n) else none

/-- The elements of a byte string that consists of `count` of them. -/
def elements? : Nat → Bytes → Option (List Element)
  | 0, [] => some []
  | 0, _ => none
  | count + 1, bs =>
    match element? bs with
    | some (e, rest) => (elements? count rest).map (e :: ·)
    | none => none

/-- The content of the element with a given tag that fills a byte string. -/
def whole? (tag : UInt8) (bs : Bytes) : Option Bytes :=
  match elements? 1 bs with
  | some [e] => if e.tag = tag then some e.content else none
  | _ => none

/-- The positive number of an integer's content, in its shortest form. -/
def positive? : Bytes → Option Nat
  | [] => none
  | [b] => if 0 < b.toNat ∧ b.toNat < 0x80 then some b.toNat else none
  | b :: c :: rest =>
    if b.toNat < 0x80 ∧ (b ≠ 0 ∨ 0x80 ≤ c.toNat) then some (number (b :: c :: rest)) else none

end KnownLogs.Der
