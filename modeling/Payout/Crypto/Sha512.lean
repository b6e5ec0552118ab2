import Payout.Bytes

/-!
# SHA-512, HMAC and PBKDF2

The hash behind mnemonics: a phrase's entropy is stretched into a secret by iterating a keyed hash,
and a secret is expanded into a signing key by one more hash.
-/
namespace Payout.Crypto.Sha512

/-- The eight words that a message is folded into. -/
structure State where
  a : UInt64
  b : UInt64
  c : UInt64
  d : UInt64
  e : UInt64
  f : UInt64
  g : UInt64
  h : UInt64

/-- Initial values: the fractional parts of the square roots of the first eight primes. -/
def State.initial : State :=
  ⟨0x6a09e667f3bcc908, 0xbb67ae8584caa73b, 0x3c6ef372fe94f82b, 0xa54ff53a5f1d36f1,
    0x510e527fade682d1, 0x9b05688c2b3e6c1f, 0x1f83d9abfb41bd6b, 0x5be0cd19137e2179⟩

def State.add (s t : State) : State :=
  ⟨s.a + t.a, s.b + t.b, s.c + t.c, s.d + t.d, s.e + t.e, s.f + t.f, s.g + t.g, s.h + t.h⟩

/-- Round constants: the fractional parts of the cube roots of the first eighty primes. -/
def constants : Array UInt64 :=
  #[0x428a2f98d728ae22, 0x7137449123ef65cd, 0xb5c0fbcfec4d3b2f, 0xe9b5dba58189dbbc,
    0x3956c25bf348b538, 0x59f111f1b605d019, 0x923f82a4af194f9b, 0xab1c5ed5da6d8118,
    0xd807aa98a3030242, 0x12835b0145706fbe, 0x243185be4ee4b28c, 0x550c7dc3d5ffb4e2,
    0x72be5d74f27b896f, 0x80deb1fe3b1696b1, 0x9bdc06a725c71235, 0xc19bf174cf692694,
    0xe49b69c19ef14ad2, 0xefbe4786384f25e3, 0x0fc19dc68b8cd5b5, 0x240ca1cc77ac9c65,
    0x2de92c6f592b0275, 0x4a7484aa6ea6e483, 0x5cb0a9dcbd41fbd4, 0x76f988da831153b5,
    0x983e5152ee66dfab, 0xa831c66d2db43210, 0xb00327c898fb213f, 0xbf597fc7beef0ee4,
    0xc6e00bf33da88fc2, 0xd5a79147930aa725, 0x06ca6351e003826f, 0x142929670a0e6e70,
    0x27b70a8546d22ffc, 0x2e1b21385c26c926, 0x4d2c6dfc5ac42aed, 0x53380d139d95b3df,
    0x650a73548baf63de, 0x766a0abb3c77b2a8, 0x81c2c92e47edaee6, 0x92722c851482353b,
    0xa2bfe8a14cf10364, 0xa81a664bbc423001, 0xc24b8b70d0f89791, 0xc76c51a30654be30,
    0xd192e819d6ef5218, 0xd69906245565a910, 0xf40e35855771202a, 0x106aa07032bbd1b8,
    0x19a4c116b8d2d0c8, 0x1e376c085141ab53, 0x2748774cdf8eeb99, 0x34b0bcb5e19b48a8,
    0x391c0cb3c5c95a63, 0x4ed8aa4ae3418acb, 0x5b9cca4f7763e373, 0x682e6ff3d6b2b8a3,
    0x748f82ee5defb2fc, 0x78a5636f43172f60, 0x84c87814a1f0ab72, 0x8cc702081a6439ec,
    0x90befffa23631e28, 0xa4506cebde82bde9, 0xbef9a3f7b2c67915, 0xc67178f2e372532b,
    0xca273eceea26619c, 0xd186b8c721c0c207, 0xeada7dd6cde0eb1e, 0xf57d4f7fee6ed178,
    0x06f067aa72176fba, 0x0a637dc5a2c898a6, 0x113f9804bef90dae, 0x1b710b35131c471b,
    0x28db77f523047d84, 0x32caab7b40c72493, 0x3c9ebe0a15c9bebc, 0x431d67c49c100d4c,
    0x4cc5d4becb3e42b6, 0x597f299cfc657e2a, 0x5fcb6fab3ad6faec, 0x6c44198c4a475817]

@[inline] def rotateRight (x n : UInt64) : UInt64 :=
  (x >>> n) ||| (x <<< (64 - n))

/-- Extends the sixteen words of a block by as many words as are asked for. -/
def extend : (count : Nat) → Array UInt64 → Array UInt64
  | 0, w => w
  | count + 1, w =>
    let n := w.size
    let x := w.getD (n - 15) 0
    let y := w.getD (n - 2) 0
    let s0 := rotateRight x 1 ^^^ rotateRight x 8 ^^^ (x >>> 7)
    let s1 := rotateRight y 19 ^^^ rotateRight y 61 ^^^ (y >>> 6)
    extend count (w.push (w.getD (n - 16) 0 + s0 + w.getD (n - 7) 0 + s1))

/-- One round with a constant and a word of the extended block. -/
@[inline] def round (s : State) (k w : UInt64) : State :=
  let s1 := rotateRight s.e 14 ^^^ rotateRight s.e 18 ^^^ rotateRight s.e 41
  let choice := (s.e &&& s.f) ^^^ (~~~ s.e &&& s.g)
  let t1 := s.h + s1 + choice + k + w
  let s0 := rotateRight s.a 28 ^^^ rotateRight s.a 34 ^^^ rotateRight s.a 39
  let majority := (s.a &&& s.b) ^^^ (s.a &&& s.c) ^^^ (s.b &&& s.c)
  ⟨t1 + (s0 + majority), s.a, s.b, s.c, s.d + t1, s.e, s.f, s.g⟩

/-- The last `count` of the eighty rounds. -/
def rounds (w : Array UInt64) : (count : Nat) → State → State
  | 0, s => s
  | count + 1, s =>
    rounds w count (round s (constants.getD (79 - count) 0) (w.getD (79 - count) 0))

/-- Folds one block of sixteen words into the chaining value. -/
def compress (s : State) (block : Array UInt64) : State :=
  s.add (rounds (extend 64 block) 80 s)

/-- The word whose bytes, highest first, are given. -/
def word (bytes : Bytes) : UInt64 :=
  bytes.foldl (fun w b => w <<< 8 ||| b.toUInt64) 0

/-- The bytes of a word, highest first. -/
def wordBytes (w : UInt64) : Bytes :=
  (Bytes.ofNat 8 w.toNat).reverse

def State.words (s : State) : Array UInt64 :=
  #[s.a, s.b, s.c, s.d, s.e, s.f, s.g, s.h]

def State.digest (s : State) : Bytes :=
  s.words.toList.flatMap wordBytes

/-- The sixteen words of a block of 128 bytes. -/
def wordsOf (block : Bytes) : Array UInt64 :=
  Array.ofFn fun i : Fin 16 => word ((block.drop (8 * i)).take 8)

/-- Folds whole blocks; what is left over at the end is ignored. -/
def absorb (s : State) (message : Bytes) : State :=
  if message.length < 128 then s
  else absorb (compress s (wordsOf (message.take 128))) (message.drop 128)
termination_by message.length
decreasing_by simp; omega

/-- What ends a message of `length` bytes: a one bit, zeros up to a whole number of blocks less
sixteen bytes, and the length in bits, highest byte first. -/
def padding (length : Nat) : Bytes :=
  0x80 :: List.replicate ((239 - length % 128) % 128) 0 ++ (Bytes.ofNat 16 (8 * length)).reverse

/-- Finishes a message of which `before` bytes are already in the chaining value. -/
def finish (s : State) (before : Nat) (message : Bytes) : State :=
  absorb s (message ++ padding (before + message.length))

end Sha512

/-- The 64-byte digest. -/
def sha512 (message : Bytes) : Bytes :=
  (Sha512.finish .initial 0 message).digest

/-- A key of the keyed hash, as the two chaining values it starts from. -/
structure HmacKey where
  inner : Sha512.State
  outer : Sha512.State

namespace HmacKey

/-- A key longer than a block is replaced by its digest. -/
def ofBytes (key : Bytes) : HmacKey :=
  let key := Bytes.fit 128 (if 128 < key.length then sha512 key else key)
  ⟨Sha512.absorb .initial (key.map (· ^^^ 0x36)), Sha512.absorb .initial (key.map (· ^^^ 0x5c))⟩

/-- The block that ends a message of one block and a 64-byte digest. -/
def digestBlock (s : Sha512.State) : Array UInt64 :=
  s.words ++ #[0x8000000000000000, 0, 0, 0, 0, 0, 0, 1536]

/-- The keyed hash of a 64-byte message. -/
def ofDigest (key : HmacKey) (message : Sha512.State) : Sha512.State :=
  Sha512.compress key.outer (digestBlock (Sha512.compress key.inner (digestBlock message)))

/-- The keyed hash of any message. -/
def hash (key : HmacKey) (message : Bytes) : Sha512.State :=
  Sha512.compress key.outer (digestBlock (Sha512.finish key.inner 128 message))

end HmacKey

/-- Exclusive or of two chaining values. -/
def Sha512.State.xor (s t : Sha512.State) : Sha512.State :=
  ⟨s.a ^^^ t.a, s.b ^^^ t.b, s.c ^^^ t.c, s.d ^^^ t.d, s.e ^^^ t.e, s.f ^^^ t.f, s.g ^^^ t.g,
    s.h ^^^ t.h⟩

/-- Continues a chain of keyed hashes and the exclusive or of its members. -/
def HmacKey.iterate (key : HmacKey) :
    (count : Nat) → (latest total : Sha512.State) → Sha512.State
  | 0, _, total => total
  | count + 1, latest, total =>
    let next := key.ofDigest latest
    key.iterate count next (total.xor next)

/-- The first 64 bytes of PBKDF2 with HMAC-SHA512. -/
def pbkdf2 (password salt : Bytes) (iterations : Nat) : Bytes :=
  let key := HmacKey.ofBytes password
  let first := key.hash (salt ++ [0, 0, 0, 1])
  (key.iterate (iterations - 1) first first).digest

end Payout.Crypto
