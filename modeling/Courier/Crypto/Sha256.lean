import Courier.Crypto.Octets
/-
The hash function SHA-256, keyed hashes (HMAC) and key derivation (HKDF) over
it.
-/

namespace Courier.Crypto.Sha256

/-- The first bits of the fractions of the cube roots of the first 64 primes. -/
def roundWords : List UInt32 := [
  0x428a2f98, 0x71374491, 0xb5c0fbcf, 0xe9b5dba5, 0x3956c25b, 0x59f111f1, 0x923f82a4, 0xab1c5ed5,
  0xd807aa98, 0x12835b01, 0x243185be, 0x550c7dc3, 0x72be5d74, 0x80deb1fe, 0x9bdc06a7, 0xc19bf174,
  0xe49b69c1, 0xefbe4786, 0x0fc19dc6, 0x240ca1cc, 0x2de92c6f, 0x4a7484aa, 0x5cb0a9dc, 0x76f988da,
  0x983e5152, 0xa831c66d, 0xb00327c8, 0xbf597fc7, 0xc6e00bf3, 0xd5a79147, 0x06ca6351, 0x14292967,
  0x27b70a85, 0x2e1b2138, 0x4d2c6dfc, 0x53380d13, 0x650a7354, 0x766a0abb, 0x81c2c92e, 0x92722c85,
  0xa2bfe8a1, 0xa81a664b, 0xc24b8b70, 0xc76c51a3, 0xd192e819, 0xd6990624, 0xf40e3585, 0x106aa070,
  0x19a4c116, 0x1e376c08, 0x2748774c, 0x34b0bcb5, 0x391c0cb3, 0x4ed8aa4a, 0x5b9cca4f, 0x682e6ff3,
  0x748f82ee, 0x78a5636f, 0x84c87814, 0x8cc70208, 0x90befffa, 0xa4506ceb, 0xbef9a3f7, 0xc67178f2]

/-- The eight words of a hash in the making. -/
structure Chain where
  a : UInt32
  b : UInt32
  c : UInt32
  d : UInt32
  e : UInt32
  f : UInt32
  g : UInt32
  h : UInt32

/-- The first bits of the fractions of the square roots of the first eight primes. -/
def Chain.start : Chain :=
  ⟨0x6a09e667, 0xbb67ae85, 0x3c6ef372, 0xa54ff53a, 0x510e527f, 0x9b05688c, 0x1f83d9ab, 0x5be0cd19⟩

def rotateRight (w n : UInt32) : UInt32 := rotateLeft w (32 - n)

/-- One more word of a schedule. -/
def nextWord (w : Array UInt32) : UInt32 :=
  let n := w.size
  let x := w.getD (n - 15) 0
  let y := w.getD (n - 2) 0
  let s0 := rotateRight x 7 ^^^ rotateRight x 18 ^^^ (x >>> 3)
  let s1 := rotateRight y 17 ^^^ rotateRight y 19 ^^^ (y >>> 10)
  w.getD (n - 16) 0 + s0 + w.getD (n - 7) 0 + s1

/-- The 64 words of a block of 64 octets. -/
def schedule (block : Octets) : Array UInt32 :=
  let first := ((block.pieces 4).map Octets.bigWord).toArray
  (List.range 48).foldl (fun w _ => w.push (nextWord w)) first

/-- One round with its two words. -/
def round (s : Chain) (kw : UInt32 × UInt32) : Chain :=
  let s1 := rotateRight s.e 6 ^^^ rotateRight s.e 11 ^^^ rotateRight s.e 25
  let choice := (s.e &&& s.f) ^^^ (~~~s.e &&& s.g)
  let t1 := s.h + s1 + choice + kw.1 + kw.2
  let s0 := rotateRight s.a 2 ^^^ rotateRight s.a 13 ^^^ rotateRight s.a 22
  let majority := (s.a &&& s.b) ^^^ (s.a &&& s.c) ^^^ (s.b &&& s.c)
  ⟨t1 + s0 + majority, s.a, s.b, s.c, s.d + t1, s.e, s.f, s.g⟩

/-- One block of 64 octets. -/
def compress (s : Chain) (block : Octets) : Chain :=
  let t := (roundWords.zip (schedule block).toList).foldl round s
  ⟨s.a + t.a, s.b + t.b, s.c + t.c, s.d + t.d, s.e + t.e, s.f + t.f, s.g + t.g, s.h + t.h⟩

/-- A message with a bit, zeros and its length after it, in whole blocks. -/
def pad (bs : Octets) : Octets :=
  let zeros := (119 - bs.length % 64) % 64
  bs ++ 0x80 :: (List.replicate zeros 0 ++ Octets.ofNatBig 8 (8 * bs.length))

/-- The hash of some octets: 32 octets. -/
def hash (bs : Octets) : Octets :=
  let s := ((pad bs).pieces 64).foldl compress Chain.start
  [s.a, s.b, s.c, s.d, s.e, s.f, s.g, s.h].flatMap fun w => Octets.ofNatBig 4 w.toNat

/-- The hash of a message under a key. -/
def keyed (key message : Octets) : Octets :=
  let key := if 64 < key.length then hash key else key
  let key := key ++ List.replicate (64 - key.length) 0
  hash (key.map (· ^^^ 0x5c) ++ hash (key.map (· ^^^ 0x36) ++ message))

/-- Thirty-two octets of key from a secret, a salt and a purpose. -/
def derive (secret salt purpose : Octets) : Octets := keyed (keyed salt secret) (purpose ++ [1])

end Courier.Crypto.Sha256
