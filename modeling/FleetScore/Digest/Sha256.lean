import FleetScore.Text.Quoted

/-!
# SHA-256

The digest that ties a manifest to the model file it belongs to.

A message is padded with one bit, zeros and its length in bits to a whole number of
blocks of 64 bytes.  Each block is spread to 64 words, and 64 rounds mix them into a
state of eight words, which is then added to the state before the block.  All
arithmetic is that of 32-bit words.
-/

namespace FleetScore
namespace Sha256

/-- The round constants: the first 32 bits of the fractional parts of the cube roots
of the first 64 primes. -/
def roundConstants : List UInt32 := [
  0x428a2f98, 0x71374491, 0xb5c0fbcf, 0xe9b5dba5, 0x3956c25b, 0x59f111f1, 0x923f82a4, 0xab1c5ed5,
  0xd807aa98, 0x12835b01, 0x243185be, 0x550c7dc3, 0x72be5d74, 0x80deb1fe, 0x9bdc06a7, 0xc19bf174,
  0xe49b69c1, 0xefbe4786, 0x0fc19dc6, 0x240ca1cc, 0x2de92c6f, 0x4a7484aa, 0x5cb0a9dc, 0x76f988da,
  0x983e5152, 0xa831c66d, 0xb00327c8, 0xbf597fc7, 0xc6e00bf3, 0xd5a79147, 0x06ca6351, 0x14292967,
  0x27b70a85, 0x2e1b2138, 0x4d2c6dfc, 0x53380d13, 0x650a7354, 0x766a0abb, 0x81c2c92e, 0x92722c85,
  0xa2bfe8a1, 0xa81a664b, 0xc24b8b70, 0xc76c51a3, 0xd192e819, 0xd6990624, 0xf40e3585, 0x106aa070,
  0x19a4c116, 0x1e376c08, 0x2748774c, 0x34b0bcb5, 0x391c0cb3, 0x4ed8aa4a, 0x5b9cca4f, 0x682e6ff3,
  0x748f82ee, 0x78a5636f, 0x84c87814, 0x8cc70208, 0x90befffa, 0xa4506ceb, 0xbef9a3f7, 0xc67178f2]

/-- Eight words. -/
structure State where
  a : UInt32
  b : UInt32
  c : UInt32
  d : UInt32
  e : UInt32
  f : UInt32
  g : UInt32
  h : UInt32
  deriving DecidableEq, Repr

/-- The state before the first block: the first 32 bits of the fractional parts of
the square roots of the first eight primes. -/
def initial : State :=
  ⟨0x6a09e667, 0xbb67ae85, 0x3c6ef372, 0xa54ff53a, 0x510e527f, 0x9b05688c, 0x1f83d9ab, 0x5be0cd19⟩

/-- Turns a word right by `n` bits. -/
def rotate (n : UInt32) (x : UInt32) : UInt32 := (x >>> n) ||| (x <<< (32 - n))

/-- A natural number as bytes, the most significant first. -/
def bigEndian : Nat → Nat → List UInt8
  | 0, _ => []
  | width + 1, n => UInt8.ofNat (n / Nat.pow 256 width % 256) :: bigEndian width n

/-- The padded message. -/
def padded (message : List UInt8) : List UInt8 :=
  let filled := message.length + 9
  message ++ 0x80 :: (List.replicate ((64 - filled % 64) % 64) 0
    ++ bigEndian 8 (8 * message.length))

/-- The words of a text of bytes, four bytes each, the most significant first. -/
def words : List UInt8 → List UInt32
  | a :: b :: c :: d :: rest =>
      (a.toUInt32 <<< 24 ||| b.toUInt32 <<< 16 ||| c.toUInt32 <<< 8 ||| d.toUInt32) :: words rest
  | _ => []

/-- The word that follows sixteen words of a schedule, given the latest first. -/
def nextWord (latest : List UInt32) : UInt32 :=
  let back := fun n => (latest[n]?).getD 0
  let x := back 14
  let y := back 1
  back 15 + (rotate 7 x ^^^ rotate 18 x ^^^ (x >>> 3)) + back 6
    + (rotate 17 y ^^^ rotate 19 y ^^^ (y >>> 10))

/-- The 64 words that a block of sixteen words is spread to. -/
def schedule (block : List UInt32) : List UInt32 :=
  ((List.range 48).foldl (fun latest _ => nextWord latest :: latest) block.reverse).reverse

/-- One round with a constant and a word of the schedule. -/
def round (s : State) (k w : UInt32) : State :=
  let mixed := s.h + (rotate 6 s.e ^^^ rotate 11 s.e ^^^ rotate 25 s.e)
    + ((s.e &&& s.f) ^^^ (~~~s.e &&& s.g)) + k + w
  let chosen := (rotate 2 s.a ^^^ rotate 13 s.a ^^^ rotate 22 s.a)
    + ((s.a &&& s.b) ^^^ (s.a &&& s.c) ^^^ (s.b &&& s.c))
  ⟨mixed + chosen, s.a, s.b, s.c, s.d + mixed, s.e, s.f, s.g⟩

/-- The state after a block. -/
def absorb (s : State) (block : List UInt32) : State :=
  let r := (roundConstants.zip (schedule block)).foldl (fun r kw => round r kw.1 kw.2) s
  ⟨s.a + r.a, s.b + r.b, s.c + r.c, s.d + r.d, s.e + r.e, s.f + r.f, s.g + r.g, s.h + r.h⟩

/-- The state after `n` blocks of sixteen words. -/
def absorbAll : Nat → State → List UInt32 → State
  | 0, s, _ => s
  | n + 1, s, ws => absorbAll n (absorb s (ws.take 16)) (ws.drop 16)

/-- The digest of a message, as eight words. -/
def digest (message : List UInt8) : State :=
  let ws := words (padded message)
  absorbAll (ws.length / 16) initial ws

/-- A state in hexadecimal. -/
def State.text (s : State) : String :=
  String.join ([s.a, s.b, s.c, s.d, s.e, s.f, s.g, s.h].map fun w => Text.hexPadded 8 w.toNat)

/-- The digest of some bytes in hexadecimal. -/
def checksum (bytes : ByteArray) : String := (digest bytes.toList).text

end Sha256
end FleetScore
