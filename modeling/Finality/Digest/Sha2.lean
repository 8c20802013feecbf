import Finality.Bytes.Endian

/-!
# The SHA-2 digests

SHA-256 and SHA-512 differ only in the width of a word, the round constants, the
starting state and the rotation amounts, so both are one compression function over a
record of those parameters. Words are natural numbers below `2 ^ bits`.

`length_sha256` says that a SHA-256 digest has 32 bytes.
-/

namespace Finality

/-- The parameters that tell one SHA-2 digest from another. -/
structure Sha2 where
  /-- The number of bits in a word. -/
  bits : Nat
  /-- One constant for each round. -/
  constants : List Nat
  /-- Rotations of the first working word in a round. -/
  majorRotations : Nat × Nat × Nat
  /-- Rotations of the fifth working word in a round. -/
  minorRotations : Nat × Nat × Nat
  /-- Two rotations and a shift of the older word that the schedule mixes in. -/
  olderMix : Nat × Nat × Nat
  /-- Two rotations and a shift of the newer word that the schedule mixes in. -/
  newerMix : Nat × Nat × Nat

namespace Sha2

/-- The eight chaining words. -/
structure State where
  a : Nat
  b : Nat
  c : Nat
  d : Nat
  e : Nat
  f : Nat
  g : Nat
  h : Nat

variable (variant : Sha2)

/-- The number of bytes in a word. -/
def wordBytes : Nat := variant.bits / 8

/-- A number reduced to a word. -/
def word (value : Nat) : Nat := value % Nat.pow 2 variant.bits

/-- Rotation of a word to the right. -/
def rotate (value amount : Nat) : Nat :=
  (value >>> amount) ||| variant.word (value <<< (variant.bits - amount))

/-- The exclusive or of three rotations. -/
def rotations (amounts : Nat × Nat × Nat) (value : Nat) : Nat :=
  variant.rotate value amounts.1 ^^^ variant.rotate value amounts.2.1
    ^^^ variant.rotate value amounts.2.2

/-- The exclusive or of two rotations and a shift. -/
def mix (amounts : Nat × Nat × Nat) (value : Nat) : Nat :=
  variant.rotate value amounts.1 ^^^ variant.rotate value amounts.2.1
    ^^^ (value >>> amounts.2.2)

/-- Each bit from `yes` where `choice` has a one, and from `no` where it has a zero. -/
def choose (choice yes no : Nat) : Nat := (choice &&& yes) ^^^ (no ^^^ (choice &&& no))

/-- Each bit as most of the three words have it. -/
def majority (x y z : Nat) : Nat := (x &&& y) ^^^ (x &&& z) ^^^ (y &&& z)

/-- The schedule word that follows a window of sixteen. -/
def nextWord (window : List Nat) : Nat :=
  match window with
  | w0 :: w1 :: _ :: _ :: _ :: _ :: _ :: _ :: _ :: w9 :: _ :: _ :: _ :: _ :: w14 :: _ =>
    variant.word (variant.mix variant.newerMix w14 + w9 + variant.mix variant.olderMix w1 + w0)
  | _ => 0

/-- One round with one constant and one schedule word. -/
def round (constant scheduled : Nat) (s : State) : State :=
  let first := s.h + variant.rotations variant.minorRotations s.e + choose s.e s.f s.g
    + constant + scheduled
  let second := variant.rotations variant.majorRotations s.a + majority s.a s.b s.c
  ⟨variant.word (first + second), s.a, s.b, s.c, variant.word (s.d + first), s.e, s.f, s.g⟩

/-- The rounds for the given constants, sliding the window of sixteen schedule words. -/
def rounds : List Nat → List Nat → State → State
  | [], _, s => s
  | _ :: _, [], s => s
  | constant :: constants, scheduled :: window, s =>
    rounds constants (window ++ [variant.nextWord (scheduled :: window)])
      (variant.round constant scheduled s)

/-- Word by word addition of two states. -/
def State.add (x y : State) : State :=
  ⟨variant.word (x.a + y.a), variant.word (x.b + y.b), variant.word (x.c + y.c),
    variant.word (x.d + y.d), variant.word (x.e + y.e), variant.word (x.f + y.f),
    variant.word (x.g + y.g), variant.word (x.h + y.h)⟩

/-- The first `count` words of a block. -/
def blockWords : Nat → Bytes → List Nat
  | 0, _ => []
  | count + 1, bytes =>
    beValue (bytes.take variant.wordBytes)
      :: blockWords count (bytes.drop variant.wordBytes)

/-- The state after `count` blocks. -/
def blocks : Nat → Bytes → State → State
  | 0, _, s => s
  | count + 1, bytes, s =>
    let mixed := variant.rounds variant.constants (variant.blockWords 16 bytes) s
    blocks count (bytes.drop (16 * variant.wordBytes)) (State.add variant mixed s)

/-- The message with a one bit, zeros up to a whole number of blocks, and its length. -/
def padded (message : Bytes) : Bytes :=
  let block := 16 * variant.wordBytes
  let used := (message.length + 1 + 2 * variant.wordBytes) % block
  message ++ 0x80 :: List.replicate ((block - used) % block) 0
    ++ beBytes (2 * variant.wordBytes) (8 * message.length)

/-- The bytes of the eight chaining words. -/
def State.bytes (s : State) : Bytes :=
  [s.a, s.b, s.c, s.d, s.e, s.f, s.g, s.h].flatMap (beBytes variant.wordBytes)

/-- The digest of a message from a starting state. -/
def digest (start : State) (message : Bytes) : Bytes :=
  let bytes := variant.padded message
  (variant.blocks (bytes.length / (16 * variant.wordBytes)) bytes start).bytes variant

theorem length_digest (start : State) (message : Bytes) :
    (variant.digest start message).length = 8 * variant.wordBytes := by
  simp only [digest, State.bytes, List.flatMap_cons, List.flatMap_nil, List.length_append,
    length_beBytes, List.length_nil]
  omega

end Sha2

/-- The parameters of SHA-256. -/
def sha256Parameters : Sha2 where
  bits := 32
  majorRotations := (2, 13, 22)
  minorRotations := (6, 11, 25)
  olderMix := (7, 18, 3)
  newerMix := (17, 19, 10)
  constants := [
    0x428a2f98, 0x71374491, 0xb5c0fbcf, 0xe9b5dba5, 0x3956c25b, 0x59f111f1,
    0x923f82a4, 0xab1c5ed5, 0xd807aa98, 0x12835b01, 0x243185be, 0x550c7dc3,
    0x72be5d74, 0x80deb1fe, 0x9bdc06a7, 0xc19bf174, 0xe49b69c1, 0xefbe4786,
    0x0fc19dc6, 0x240ca1cc, 0x2de92c6f, 0x4a7484aa, 0x5cb0a9dc, 0x76f988da,
    0x983e5152, 0xa831c66d, 0xb00327c8, 0xbf597fc7, 0xc6e00bf3, 0xd5a79147,
    0x06ca6351, 0x14292967, 0x27b70a85, 0x2e1b2138, 0x4d2c6dfc, 0x53380d13,
    0x650a7354, 0x766a0abb, 0x81c2c92e, 0x92722c85, 0xa2bfe8a1, 0xa81a664b,
    0xc24b8b70, 0xc76c51a3, 0xd192e819, 0xd6990624, 0xf40e3585, 0x106aa070,
    0x19a4c116, 0x1e376c08, 0x2748774c, 0x34b0bcb5, 0x391c0cb3, 0x4ed8aa4a,
    0x5b9cca4f, 0x682e6ff3, 0x748f82ee, 0x78a5636f, 0x84c87814, 0x8cc70208,
    0x90befffa, 0xa4506ceb, 0xbef9a3f7, 0xc67178f2]

/-- The starting state of SHA-256. -/
def sha256Start : Sha2.State :=
  ⟨0x6a09e667, 0xbb67ae85, 0x3c6ef372, 0xa54ff53a, 0x510e527f, 0x9b05688c,
    0x1f83d9ab, 0x5be0cd19⟩

/-- The parameters of SHA-512. -/
def sha512Parameters : Sha2 where
  bits := 64
  majorRotations := (28, 34, 39)
  minorRotations := (14, 18, 41)
  olderMix := (1, 8, 7)
  newerMix := (19, 61, 6)
  constants := [
    0x428a2f98d728ae22, 0x7137449123ef65cd, 0xb5c0fbcfec4d3b2f, 0xe9b5dba58189dbbc,
    0x3956c25bf348b538, 0x59f111f1b605d019, 0x923f82a4af194f9b, 0xab1c5ed5da6d8118,
    0xd807aa98a3030242, 0x12835b0145706fbe, 0x243185be4ee4b28c, 0x550c7dc3d5ffb4e2,
    0x72be5d74f27b896f, 0x80deb1fe3b1696b1, 0x9bdc06a725c71235, 0xc19bf174cf692694,
    0xe49b69c19ef14ad2, 0xefbe4786384f25e3, 0x0fc19dc68b8cd5b5, 0x240ca1cc77ac9c65,
    0x2de92c6f592b0275, 0x4a7484aa6ea6e483, 0x5cb0a9dcbd41fbd4, 0x76f988da831153b5,
    0x983e5152ee66dfab, 0xa831c66d2db43210, 0xb00327c898fb213f, 0xbf597fc7beef0ee4,
    0xc6e00bf33da88fc2, 0xd5a79147930aa725, 0x06ca6351e003826f, 0x142929670a0e6e70,
    0x27b70a8546d22ffc, 0x2e1b21385c26c926, 0x4d2c6dfc5ac42aed, 0x53380d139d95b3df,
    0x650a73548baf63de, 0x766a0abb3c77b2a8, 0x81c2c92e47edaee6, 0x92722c851482353b,
    0xa2bfe8a14cf10364, 0xa81a664bbc423001, 0xc24b8b70d0f89791, 0xc76c51a30654be30,
    0xd192e819d6ef5218, 0xd69906245565a910, 0xf40e35855771202a, 0x106aa07032bbd1b8,
    0x19a4c116b8d2d0c8, 0x1e376c085141ab53, 0x2748774cdf8eeb99, 0x34b0bcb5e19b48a8,
    0x391c0cb3c5c95a63, 0x4ed8aa4ae3418acb, 0x5b9cca4f7763e373, 0x682e6ff3d6b2b8a3,
    0x748f82ee5defb2fc, 0x78a5636f43172f60, 0x84c87814a1f0ab72, 0x8cc702081a6439ec,
    0x90befffa23631e28, 0xa4506cebde82bde9, 0xbef9a3f7b2c67915, 0xc67178f2e372532b,
    0xca273eceea26619c, 0xd186b8c721c0c207, 0xeada7dd6cde0eb1e, 0xf57d4f7fee6ed178,
    0x06f067aa72176fba, 0x0a637dc5a2c898a6, 0x113f9804bef90dae, 0x1b710b35131c471b,
    0x28db77f523047d84, 0x32caab7b40c72493, 0x3c9ebe0a15c9bebc, 0x431d67c49c100d4c,
    0x4cc5d4becb3e42b6, 0x597f299cfc657e2a, 0x5fcb6fab3ad6faec, 0x6c44198c4a475817]

/-- The starting state of SHA-512. -/
def sha512Start : Sha2.State :=
  ⟨0x6a09e667f3bcc908, 0xbb67ae8584caa73b, 0x3c6ef372fe94f82b, 0xa54ff53a5f1d36f1,
    0x510e527fade682d1, 0x9b05688c2b3e6c1f, 0x1f83d9abfb41bd6b, 0x5be0cd19137e2179⟩

/-- The SHA-512 digest. -/
def sha512 (message : Bytes) : Bytes := sha512Parameters.digest sha512Start message

theorem length_sha256 (message : Bytes) :
    (sha256Parameters.digest sha256Start message).length = hashSize :=
  Sha2.length_digest _ _ _

/-- The SHA-256 digest. -/
def sha256 (message : Bytes) : Hash :=
  ⟨sha256Parameters.digest sha256Start message, length_sha256 message⟩

end Finality
