/-
Decimal numbers as binary floating-point numbers of double precision:

* `Binary64`: a finite number `± significand * 2 ^ exponent`, or one too large;
* `Decimal.toBinary64`: the nearest one, of two equally near the one with the even
  significand;
* `Binary64.whole?`: the integer that a finite number is, if it is one;
* `Json.affirms`: whether a value counts as a yes.
-/
import KnownLogs.Json.Basic

namespace KnownLogs

/-- A number of double precision, or one beyond them all. -/
inductive Binary64 where
  | finite (negative : Bool) (significand : Nat) (exponent : Int)
  | tooLarge
deriving DecidableEq, Repr

/-- The quotient of two numbers rounded to the nearest integer, half to even. -/
def roundedQuotient (n d : Nat) : Nat :=
  let q := n / d
  let r := 2 * (n % d)
  if r < d then q
  else if d < r then q + 1
  else q + q % 2

namespace Binary64

/-- The exponent of the last bit of numbers near zero. -/
def leastExponent : Int := -1074

/-- The number of bits of a significand. -/
def precision : Nat := 53

/-- Every number of this size or more is too large. -/
def limit : Nat := 1 <<< 1024

/-- The number of double precision nearest to `n / d`. -/
def ofQuotient (negative : Bool) (n d : Nat) : Binary64 :=
  let guess : Int := (n.log2 : Int) - d.log2
  -- `2 ^ scale ≤ n / d < 2 ^ (scale + 1)`
  let scale : Int := if d <<< guess.toNat ≤ n <<< (-guess).toNat then guess else guess - 1
  let exponent := max (scale - (precision - 1)) leastExponent
  let significand := roundedQuotient (n <<< (-exponent).toNat) (d <<< exponent.toNat)
  if limit ≤ significand <<< exponent.toNat then .tooLarge
  else .finite negative significand exponent

/-- The integer that a finite number is, if it has no fraction. -/
def whole? (negative : Bool) (significand : Nat) (exponent : Int) : Option Int :=
  let unit := 1 <<< (-exponent).toNat
  if significand % unit = 0 then
    let size : Nat := (significand / unit) <<< exponent.toNat
    some (if negative then -(size : Int) else size)
  else none

end Binary64

/-- The number of double precision nearest to a decimal number. Where the power of
ten alone decides, the power is not worked out. -/
def Decimal.toBinary64 (d : Decimal) : Binary64 :=
  let size : Int := (toString d.mantissa).length + d.exponent
  if d.mantissa = 0 ∨ size < -400 then .finite d.negative 0 0
  else if 400 < size then .tooLarge
  else
    Binary64.ofQuotient d.negative (d.mantissa * Nat.pow 10 d.exponent.toNat)
      (Nat.pow 10 (-d.exponent).toNat)

/-- Whether a number is not zero. -/
def Binary64.isNonzero : Binary64 → Bool
  | .finite _ significand _ => significand != 0
  | .tooLarge => true

/-- Whether a value counts as a yes: the values that are empty, zero, false or null
do not. -/
def Json.affirms : Json → Bool
  | .null => false
  | .bool b => b
  | .int i => i != 0
  | .decimal d => d.toBinary64.isNonzero
  | .nan => true
  | .infinity _ => true
  | .text s => !s.isEmpty
  | .halved _ => true
  | .list items => !items.isEmpty
  | .record members => !members.isEmpty

end KnownLogs
