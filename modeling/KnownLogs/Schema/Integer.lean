/-
Integers where a value may be written in several ways:

* `Integer.ofText`: digits with low lines between them, a sign and zeros before and a
  fraction of zeros behind, blanks around;
* `Integer.ofDecimal`: a number with a point or an exponent, by way of double
  precision;
* `Integer.ofJson`: any value; the truth values count as one and zero.
-/
import KnownLogs.Json.Binary64
import KnownLogs.Json.Reader
import KnownLogs.Schema.Issue
import KnownLogs.Text.Basic

namespace KnownLogs.Schema.Integer

/-! ### From text -/

/-- The most digits of an integer. -/
def longest : Nat := 4300

/-- The number that digits write behind a first part of it. -/
def digits? (value : Nat) : List Char → Option Nat
  | [] => some value
  | c :: cs => (Json.digitValue? c).bind fun d => digits? (10 * value + d) cs

/-- The number that digits write; a zero stands in front of no other digit. -/
def natural? : List Char → Option Nat
  | [] => none
  | ['0'] => some 0
  | '0' :: _ => none
  | cs => digits? 0 cs

/-- The integer that digits write, with a minus sign in front of them if there is one. -/
def plain? : List Char → Option Int
  | '-' :: cs => (natural? cs).map fun n : Nat => -(n : Int)
  | cs => (natural? cs).map fun n : Nat => (n : Int)

/-- The part of a text behind a minus sign that stands in front. -/
def afterMinus : List Char → List Char
  | '-' :: cs => cs
  | cs => cs

/-- The integer that is written plainly and is not too long. -/
def plainWithin? (cs : List Char) : Option Int :=
  if (afterMinus cs).length ≤ longest then plain? cs else none

/-- The number of digits that a text begins with, unless the first of them is a zero. -/
def leadingDigits : List Char → Nat
  | '0' :: _ => 0
  | cs => (cs.takeWhile fun c => (Json.digitValue? c).isSome).length

/-- Whether a text begins with an integer that is too long, whatever follows it. -/
def beginsTooLong (cs : List Char) : Bool :=
  longest < leadingDigits (afterMinus cs)

/-- What follows zeros and low lines: from another digit or a minus sign on, or from the
character in front of a point. A text of zeros and low lines alone leaves the last one. -/
def afterZeros (last : Char) : List Char → Option (List Char)
  | [] => some [last]
  | '.' :: cs => some (last :: '.' :: cs)
  | c :: cs =>
    if c = '0' ∨ c = '_' then afterZeros c cs
    else if c = '-' ∨ (Json.digitValue? c).isSome then some (c :: cs)
    else none

/-- A text that begins with a digit, without the zeros in front of another one. -/
def withoutZeros? : List Char → Option (List Char)
  | [] => none
  | '0' :: cs => afterZeros '0' cs
  | c :: cs => if (Json.digitValue? c).isSome then some (c :: cs) else none

/-- A text without a sign, and without the zeros in front of another digit. A minus sign
stays. -/
def withoutSign? : List Char → Option (List Char)
  | '+' :: cs => withoutZeros? cs
  | '-' :: cs => (withoutZeros? cs).map ('-' :: ·)
  | cs => withoutZeros? cs

/-- A text without a point and zeros at its end. -/
def withoutFraction (cs : List Char) : List Char :=
  match cs.span (· != '.') with
  | (whole, '.' :: zeros) => if !zeros.isEmpty && zeros.all (· == '0') then whole else cs
  | _ => cs

/-- Whether low lines stand one at a time, and neither first nor last. -/
def areApart (cs : List Char) : Bool :=
  cs.head? != some '_' && cs.getLast? != some '_' &&
    (cs.zip cs.tail).all fun neighbours => neighbours != ('_', '_')

/-- A text without its low lines, if they stand apart. -/
def withoutLines (cs : List Char) : List Char :=
  if areApart cs then cs.filter (· != '_') else cs

/-- The integer that a text writes with blanks, a sign, zeros, low lines and a fraction. -/
def loose? (cs : List Char) : Option Int :=
  (withoutSign? (Text.trimChars Text.isBlank cs)).bind fun bare =>
    plainWithin? (withoutLines (withoutFraction bare))

/-- The integer that a text writes. -/
def ofText (s : String) : Except IssueKind Int :=
  if beginsTooLong s.toList then .error .integerTooLarge
  else
    match plain? s.toList <|> loose? s.toList with
    | some i => .ok i
    | none => .error .integerUnreadable

/-! ### From numbers -/

/-- The integer that a number with a point or an exponent is. It must lie strictly
between the two bounds of a signed word of sixty-four bits. -/
def ofDecimal (d : Decimal) : Except IssueKind Int :=
  match d.toBinary64 with
  | .tooLarge => .error .integerNotFinite
  | .finite negative significand exponent =>
    match Binary64.whole? negative significand exponent with
    | none => .error .integerFraction
    | some i =>
      if -0x8000000000000000 < i ∧ i < 0x8000000000000000 then .ok i else .error .integerTooLarge

/-- The integer that a value stands for. -/
def ofJson : Json → Except IssueKind Int
  | .int i => .ok i
  | .bool b => .ok (if b then 1 else 0)
  | .decimal d => ofDecimal d
  | .nan | .infinity _ => .error .integerNotFinite
  | .text s => ofText s
  | .halved _ => .error .textHalved
  | .null | .list _ | .record _ => .error .integerExpected

end KnownLogs.Schema.Integer
