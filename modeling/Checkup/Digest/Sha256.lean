/-!
# SHA-256

The 256-bit member of the second family of secure hash algorithms. A message is padded to whole blocks of
64 bytes; each block is spread into a schedule of 64 words, and 64 rounds mix it into a state of eight
words. The digest is the state after the last block.
-/

namespace Checkup.Digest

/-- Eight words: the state between blocks, and the digest after the last. -/
structure Sha256 where
  a : UInt32
  b : UInt32
  c : UInt32
  d : UInt32
  e : UInt32
  f : UInt32
  g : UInt32
  h : UInt32
  deriving DecidableEq, Repr, Hashable, Inhabited

namespace Sha256

/-- One constant for each round: the first 32 bits of the fractional parts of the cube roots of the first
sixty-four primes. -/
def roundConstants : Array UInt32 := #[
  0x428a2f98, 0x71374491, 0xb5c0fbcf, 0xe9b5dba5, 0x3956c25b, 0x59f111f1, 0x923f82a4, 0xab1c5ed5,
  0xd807aa98, 0x12835b01, 0x243185be, 0x550c7dc3, 0x72be5d74, 0x80deb1fe, 0x9bdc06a7, 0xc19bf174,
  0xe49b69c1, 0xefbe4786, 0x0fc19dc6, 0x240ca1cc, 0x2de92c6f, 0x4a7484aa, 0x5cb0a9dc, 0x76f988da,
  0x983e5152, 0xa831c66d, 0xb00327c8, 0xbf597fc7, 0xc6e00bf3, 0xd5a79147, 0x06ca6351, 0x14292967,
  0x27b70a85, 0x2e1b2138, 0x4d2c6dfc, 0x53380d13, 0x650a7354, 0x766a0abb, 0x81c2c92e, 0x92722c85,
  0xa2bfe8a1, 0xa81a664b, 0xc24b8b70, 0xc76c51a3, 0xd192e819, 0xd6990624, 0xf40e3585, 0x106aa070,
  0x19a4c116, 0x1e376c08, 0x2748774c, 0x34b0bcb5, 0x391c0cb3, 0x4ed8aa4a, 0x5b9cca4f, 0x682e6ff3,
  0x748f82ee, 0x78a5636f, 0x84c87814, 0x8cc70208, 0x90befffa, 0xa4506ceb, 0xbef9a3f7, 0xc67178f2]

/-- The state before the first block: the first 32 bits of the fractional parts of the square roots of the
first eight primes. -/
def start : Sha256 :=
  ⟨0x6a09e667, 0xbb67ae85, 0x3c6ef372, 0xa54ff53a, 0x510e527f, 0x9b05688c, 0x1f83d9ab, 0x5be0cd19⟩

/-- The word rotated to the right by `n` places, `0 < n < 32`. -/
@[inline] def rotate (x : UInt32) (n : UInt32) : UInt32 :=
  (x >>> n) ||| (x <<< (32 - n))

/-- The message followed by a one bit, zero bits, and its length in bits as eight bytes, to a multiple of 64
bytes. -/
def pad (message : ByteArray) : ByteArray :=
  let zeros := (119 - message.size % 64) % 64
  let bits := message.size * 8
  let ended := (List.range zeros).foldl (fun bytes _ => bytes.push 0) (message.push 0x80)
  (List.range 8).foldl (fun bytes i => bytes.push (bits >>> (8 * (7 - i))).toUInt8) ended

/-- The word of four bytes from position `i`, the most significant first. -/
@[inline] def wordAt (bytes : ByteArray) (i : Nat) : UInt32 :=
  ((bytes.get! i).toUInt32 <<< 24) ||| ((bytes.get! (i + 1)).toUInt32 <<< 16)
    ||| ((bytes.get! (i + 2)).toUInt32 <<< 8) ||| (bytes.get! (i + 3)).toUInt32

/-- The schedule with one more word, made of four earlier ones. -/
def extend (words : Array UInt32) : Array UInt32 :=
  let n := words.size
  let x := words.getD (n - 15) 0
  let y := words.getD (n - 2) 0
  let s0 := rotate x 7 ^^^ rotate x 18 ^^^ (x >>> 3)
  let s1 := rotate y 17 ^^^ rotate y 19 ^^^ (y >>> 10)
  words.push (words.getD (n - 16) 0 + s0 + words.getD (n - 7) 0 + s1)

/-- The schedule of the block from position `i`. -/
def schedule (bytes : ByteArray) (i : Nat) : Array UInt32 :=
  let block := Nat.fold 16 (fun k _ words => words.push (wordAt bytes (i + 4 * k))) (Array.mkEmpty 64)
  Nat.fold 48 (fun _ _ words => extend words) block

/-- One round under a constant and a word of the schedule. -/
@[inline] def round (s : Sha256) (constant word : UInt32) : Sha256 :=
  let sum1 := rotate s.e 6 ^^^ rotate s.e 11 ^^^ rotate s.e 25
  let choice := (s.e &&& s.f) ^^^ ((~~~ s.e) &&& s.g)
  let t1 := s.h + sum1 + choice + constant + word
  let sum0 := rotate s.a 2 ^^^ rotate s.a 13 ^^^ rotate s.a 22
  let majority := (s.a &&& s.b) ^^^ (s.a &&& s.c) ^^^ (s.b &&& s.c)
  ⟨t1 + (sum0 + majority), s.a, s.b, s.c, s.d + t1, s.e, s.f, s.g⟩

/-- The state after the block from position `i`. -/
def absorb (s : Sha256) (bytes : ByteArray) (i : Nat) : Sha256 :=
  let words := schedule bytes i
  let t := Nat.fold 64 (fun k _ t => t.round (roundConstants.getD k 0) (words.getD k 0)) s
  ⟨s.a + t.a, s.b + t.b, s.c + t.c, s.d + t.d, s.e + t.e, s.f + t.f, s.g + t.g, s.h + t.h⟩

/-- The digest of a message. -/
def digest (message : ByteArray) : Sha256 :=
  let bytes := pad message
  Nat.fold (bytes.size / 64) (fun k _ s => s.absorb bytes (64 * k)) start

/-- A word as eight hexadecimal digits. -/
def wordHex (word : UInt32) : List Char :=
  let digits := Nat.toDigits 16 word.toNat
  List.replicate (8 - digits.length) '0' ++ digits

/-- The digest as sixty-four hexadecimal digits. -/
def toHex (s : Sha256) : String :=
  String.ofList ([s.a, s.b, s.c, s.d, s.e, s.f, s.g, s.h].flatMap wordHex)

end Sha256

end Checkup.Digest
