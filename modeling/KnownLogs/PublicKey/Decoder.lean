/-
Public keys as logs publish them:

* `Curve`: the two curves that keys lie on;
* `PublicKey.decode?`: what a key is, if it is well-formed and its point lies on its
  curve.
-/
import KnownLogs.Log.Entry
import KnownLogs.PublicKey.Der

namespace KnownLogs

/-! ### Curves -/

/-- A curve `y ^ 2 = x ^ 3 - 3 * x + offset` over the numbers below a prime. -/
structure Curve where
  label : String
  /-- The identifier of the curve, as it is encoded. -/
  identifier : Bytes
  /-- How many bytes a coordinate has. -/
  width : Nat
  prime : Nat
  offset : Nat

namespace Curve

/-- The curve of 256 bits. -/
def p256 : Curve where
  label := "secp256r1"
  identifier := [0x2A, 0x86, 0x48, 0xCE, 0x3D, 0x03, 0x01, 0x07]
  width := 32
  prime := 0xFFFFFFFF00000001000000000000000000000000FFFFFFFFFFFFFFFFFFFFFFFF
  offset := 0x5AC635D8AA3A93E7B3EBBD55769886BC651D06B0CC53B0F63BCE3C3E27D2604B

/-- The curve of 384 bits. -/
def p384 : Curve where
  label := "secp384r1"
  identifier := [0x2B, 0x81, 0x04, 0x00, 0x22]
  width := 48
  prime :=
    0xFFFFFFFFFFFFFFFFFFFFFFFFFFFFFFFFFFFFFFFFFFFFFFFFFFFFFFFFFFFFFFFEFFFFFFFF0000000000000000FFFFFFFF
  offset :=
    0xB3312FA7E23EE7E4988E056BE3F82D19181D9C6EFE8141120314088F5013875AC656398D8A2ED19D2A85C8EDD3EC2AEF

/-- Whether a pair of coordinates lies on a curve. -/
def holds (c : Curve) (x y : Nat) : Bool :=
  x < c.prime && y < c.prime &&
    (y * y + 3 * x) % c.prime == (x * x * x + c.offset) % c.prime

/-- Whether bytes are a point of a curve, both coordinates written out. -/
def isPoint (c : Curve) : Bytes → Bool
  | 0x04 :: coordinates =>
    coordinates.length == 2 * c.width &&
      c.holds (Der.number (coordinates.take c.width)) (Der.number (coordinates.drop c.width))
  | _ => false

end Curve

namespace PublicKey

/-! ### The two families of keys -/

/-- The identifier of keys that are points of a curve. -/
def curveKeys : Bytes := [0x2A, 0x86, 0x48, 0xCE, 0x3D, 0x02, 0x01]

/-- The identifier of keys with a modulus. -/
def modulusKeys : Bytes := [0x2A, 0x86, 0x48, 0x86, 0xF7, 0x0D, 0x01, 0x01, 0x01]

/-- A key that is a point of a curve. -/
def ofPoint? (curve : Bytes) (point : Bytes) : Option KeyHandle :=
  match [Curve.p256, Curve.p384].find? fun c => c.identifier == curve with
  | some c => if c.isPoint point then some ⟨"EC:" ++ c.label⟩ else none
  | none => none

/-- A key with a modulus and an exponent, known by the number of bits of the modulus. The
exponent is odd, at least three and less than the modulus. -/
def ofModulus? (key : Bytes) : Option KeyHandle := do
  let content ← Der.whole? 0x30 key
  let [modulus, power] ← Der.elements? 2 content | none
  if modulus.tag ≠ 0x02 ∨ power.tag ≠ 0x02 then none
  else
    let n ← Der.positive? modulus.content
    let e ← Der.positive? power.content
    if 3 ≤ e ∧ e < n ∧ e % 2 = 1 then some ⟨s!"RSA:{n.log2 + 1}"⟩ else none

/-- The key of a family with what an algorithm adds to it: a point comes with the
identifier of its curve, while a modulus has nothing to add and need not say so. -/
def ofFamily? (family : Bytes) (parameters : List Der.Element) (key : Bytes) :
    Option KeyHandle :=
  match parameters with
  | [⟨0x06, curve⟩] => if family = curveKeys then ofPoint? curve key else none
  | [⟨0x05, []⟩] | [] => if family = modulusKeys then ofModulus? key else none
  | _ => none

/-- The key that a byte string encodes. -/
def decode? (bs : Bytes) : Option KeyHandle := do
  let content ← Der.whole? 0x30 bs
  let [algorithm, bits] ← Der.elements? 2 content | none
  let (family, parameters) ← Der.element? algorithm.content
  let parameters ← if parameters = [] then some [] else Der.elements? 1 parameters
  match algorithm.tag, family.tag, bits with
  | 0x30, 0x06, ⟨0x03, 0x00 :: key⟩ => ofFamily? family.content parameters key
  | _, _, _ => none

end PublicKey

end KnownLogs
