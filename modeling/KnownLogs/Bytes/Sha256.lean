/-
The SHA-256 digest of a byte string:

* `Sha256.pad`: the message with its end mark and its length;
* `Sha256.compress`: one block of sixteen words worked into the chaining state;
* `Sha256.digest`: the eight words of the last state;
* `Sha256.length_digest`: **a digest has thirty-two bytes**.
-/
import KnownLogs.Bytes.Hex

namespace KnownLogs.Sha256

/-! ### Words -/

/-- The chaining state. -/
structure State where
  a : UInt32
  b : UInt32
  c : UInt32
  d : UInt32
  e : UInt32
  f : UInt32
  g : UInt32
  h : UInt32

/-- The state before the first block: the first fractional bits of the square
roots of the first eight primes. -/
def State.first : State :=
  ⟨0x6a09e667, 0xbb67ae85, 0x3c6ef372, 0xa54ff53a,
   0x510e527f, 0x9b05688c, 0x1f83d9ab, 0x5be0cd19⟩

/-- One word for each round: the first fractional bits of the cube roots of the
first sixty-four primes. -/
def roundWords : List UInt32 :=
  [0x428a2f98, 0x71374491, 0xb5c0fbcf, 0xe9b5dba5, 0x3956c25b, 0x59f111f1, 0x923f82a4, 0xab1c5ed5,
   0xd807aa98, 0x12835b01, 0x243185be, 0x550c7dc3, 0x72be5d74, 0x80deb1fe, 0x9bdc06a7, 0xc19bf174,
   0xe49b69c1, 0xefbe4786, 0x0fc19dc6, 0x240ca1cc, 0x2de92c6f, 0x4a7484aa, 0x5cb0a9dc, 0x76f988da,
   0x983e5152, 0xa831c66d, 0xb00327c8, 0xbf597fc7, 0xc6e00bf3, 0xd5a79147, 0x06ca6351, 0x14292967,
   0x27b70a85, 0x2e1b2138, 0x4d2c6dfc, 0x53380d13, 0x650a7354, 0x766a0abb, 0x81c2c92e, 0x92722c85,
   0xa2bfe8a1, 0xa81a664b, 0xc24b8b70, 0xc76c51a3, 0xd192e819, 0xd6990624, 0xf40e3585, 0x106aa070,
   0x19a4c116, 0x1e376c08, 0x2748774c, 0x34b0bcb5, 0x391c0cb3, 0x4ed8aa4a, 0x5b9cca4f, 0x682e6ff3,
   0x748f82ee, 0x78a5636f, 0x84c87814, 0x8cc70208, 0x90befffa, 0xa4506ceb, 0xbef9a3f7, 0xc67178f2]

/-- Rotation to the right, for amounts between one and thirty-one. -/
def rotate (x n : UInt32) : UInt32 :=
  (x >>> n) ||| (x <<< (32 - n))

/-- The word that a schedule of sixteen words is continued with. -/
def nextWord (ws : List UInt32) : UInt32 :=
  let x := ws.getD 1 0
  let y := ws.getD 14 0
  let s := rotate x 7 ^^^ rotate x 18 ^^^ (x >>> 3)
  let t := rotate y 17 ^^^ rotate y 19 ^^^ (y >>> 10)
  ws.getD 0 0 + s + ws.getD 9 0 + t

/-- One round, with the round's word `k` and the schedule's word `w`. -/
def State.round (s : State) (k w : UInt32) : State :=
  let big := rotate s.e 6 ^^^ rotate s.e 11 ^^^ rotate s.e 25
  let pick := (s.e &&& s.f) ^^^ (s.e.complement &&& s.g)
  let t := s.h + big + pick + k + w
  let small := rotate s.a 2 ^^^ rotate s.a 13 ^^^ rotate s.a 22
  let most := (s.a &&& s.b) ^^^ (s.a &&& s.c) ^^^ (s.b &&& s.c)
  ⟨t + (small + most), s.a, s.b, s.c, s.d + t, s.e, s.f, s.g⟩

/-- Word-wise addition of two states. -/
def State.add (s t : State) : State :=
  ⟨s.a + t.a, s.b + t.b, s.c + t.c, s.d + t.d, s.e + t.e, s.f + t.f, s.g + t.g, s.h + t.h⟩

/-- One block of sixteen words worked into the chaining state. The schedule
slides along: each round uses its first word and adds one at its end. -/
def compress (s : State) (block : List UInt32) : State :=
  let rounds := roundWords.foldl
    (fun (t, ws) k => (State.round t k (ws.getD 0 0), ws.drop 1 ++ [nextWord ws]))
    (s, block)
  s.add rounds.1

/-! ### Messages -/

/-- The eight bytes of a number, most significant first. -/
def eightBytes (n : Nat) : Bytes :=
  [56, 48, 40, 32, 24, 16, 8, 0].map fun shift => UInt8.ofNat (n >>> shift)

/-- The message, a one bit, as many zero bits as fill the last block, and the
number of bits in the message. -/
def pad (msg : Bytes) : Bytes :=
  msg ++ 0x80 :: List.replicate ((119 - msg.length % 64) % 64) 0 ++ eightBytes (8 * msg.length)

/-- Four bytes as a word, most significant first. -/
def word (a b c d : UInt8) : UInt32 :=
  (a.toUInt32 <<< 24) ||| (b.toUInt32 <<< 16) ||| (c.toUInt32 <<< 8) ||| d.toUInt32

/-- The words of a byte string whose length is a multiple of four. -/
def words : Bytes → List UInt32
  | a :: b :: c :: d :: rest => word a b c d :: words rest
  | _ => []

/-- Works words into the state, a block whenever sixteen have come together. -/
def absorb : State × List UInt32 → UInt32 → State × List UInt32
  | (s, block), w =>
    let block := block ++ [w]
    if block.length = 16 then (compress s block, []) else (s, block)

/-- The four bytes of a word, most significant first. -/
def wordBytes (w : UInt32) : Bytes :=
  [(w >>> 24).toUInt8, (w >>> 16).toUInt8, (w >>> 8).toUInt8, w.toUInt8]

/-- The thirty-two bytes of a state. -/
def State.bytes (s : State) : Bytes :=
  [s.a, s.b, s.c, s.d, s.e, s.f, s.g, s.h].flatMap wordBytes

/-- The SHA-256 digest of a byte string. -/
def digest (msg : Bytes) : Bytes :=
  ((words (pad msg)).foldl absorb (State.first, [])).1.bytes

/-- **A digest has thirty-two bytes.** -/
theorem length_digest (msg : Bytes) : (digest msg).length = 32 := rfl

end KnownLogs.Sha256
