import Payout.Bytes

/-!
# BLAKE2b

The unkeyed hash with 64-bit words. Addresses take their checksum from the 64-byte digest; extrinsics
and long derivation names are identified by the 32-byte digest.
-/
namespace Payout.Crypto.Blake2b

/-- Initial values: the fractional parts of the square roots of the first eight primes. -/
def initial : Vector UInt64 8 :=
  #v[0x6a09e667f3bcc908, 0xbb67ae8584caa73b, 0x3c6ef372fe94f82b, 0xa54ff53a5f1d36f1,
    0x510e527fade682d1, 0x9b05688c2b3e6c1f, 0x1f83d9abfb41bd6b, 0x5be0cd19137e2179]

/-- The order in which each round takes the words of a block; the rounds after the tenth start again. -/
def schedule : List (Vector (Fin 16) 16) :=
  [#v[0, 1, 2, 3, 4, 5, 6, 7, 8, 9, 10, 11, 12, 13, 14, 15],
    #v[14, 10, 4, 8, 9, 15, 13, 6, 1, 12, 0, 2, 11, 7, 5, 3],
    #v[11, 8, 12, 0, 5, 2, 15, 13, 10, 14, 3, 6, 7, 1, 9, 4],
    #v[7, 9, 3, 1, 13, 12, 11, 14, 2, 6, 5, 10, 4, 0, 15, 8],
    #v[9, 0, 5, 7, 2, 4, 10, 15, 14, 1, 11, 12, 6, 8, 3, 13],
    #v[2, 12, 6, 10, 0, 11, 8, 3, 4, 13, 7, 5, 15, 14, 1, 9],
    #v[12, 5, 1, 15, 14, 13, 4, 10, 0, 7, 6, 3, 9, 2, 8, 11],
    #v[13, 11, 7, 14, 12, 1, 3, 9, 5, 0, 15, 4, 8, 6, 2, 10],
    #v[6, 15, 14, 9, 11, 3, 0, 8, 12, 2, 13, 7, 1, 4, 10, 5],
    #v[10, 2, 8, 4, 7, 6, 1, 5, 15, 11, 9, 14, 3, 12, 13, 0],
    #v[0, 1, 2, 3, 4, 5, 6, 7, 8, 9, 10, 11, 12, 13, 14, 15],
    #v[14, 10, 4, 8, 9, 15, 13, 6, 1, 12, 0, 2, 11, 7, 5, 3]]

def rotateRight (x n : UInt64) : UInt64 :=
  (x >>> n) ||| (x <<< (64 - n))

/-- Mixes two words of the block into four words of the state. -/
def mix (v : Vector UInt64 16) (a b c d : Fin 16) (x y : UInt64) : Vector UInt64 16 :=
  let va := v[a] + v[b] + x
  let vd := rotateRight (v[d] ^^^ va) 32
  let vc := v[c] + vd
  let vb := rotateRight (v[b] ^^^ vc) 24
  let va := va + vb + y
  let vd := rotateRight (vd ^^^ va) 16
  let vc := vc + vd
  let vb := rotateRight (vb ^^^ vc) 63
  (((v.set a va).set b vb).set c vc).set d vd

/-- One round: the four columns, then the four diagonals. -/
def round (block : Vector UInt64 16) (v : Vector UInt64 16) (s : Vector (Fin 16) 16) :
    Vector UInt64 16 :=
  let v := mix v 0 4 8 12 block[s[0]] block[s[1]]
  let v := mix v 1 5 9 13 block[s[2]] block[s[3]]
  let v := mix v 2 6 10 14 block[s[4]] block[s[5]]
  let v := mix v 3 7 11 15 block[s[6]] block[s[7]]
  let v := mix v 0 5 10 15 block[s[8]] block[s[9]]
  let v := mix v 1 6 11 12 block[s[10]] block[s[11]]
  let v := mix v 2 7 8 13 block[s[12]] block[s[13]]
  mix v 3 4 9 14 block[s[14]] block[s[15]]

/-- Folds one block into the chaining value. `count` is the number of bytes up to its end. -/
def compress (h : Vector UInt64 8) (block : Vector UInt64 16) (count : Nat) (last : Bool) :
    Vector UInt64 8 :=
  let v : Vector UInt64 16 := h ++ initial
  let v := v.set 12 (v[12] ^^^ count.toUInt64)
  let v := v.set 13 (v[13] ^^^ (count >>> 64).toUInt64)
  let v := if last then v.set 14 (~~~ v[14]) else v
  let v := schedule.foldl (round block) v
  Vector.ofFn fun i : Fin 8 => h[i] ^^^ v[i.val] ^^^ v[i.val + 8]

/-- The word whose bytes, lowest first, are given. -/
def word (bytes : Bytes) : UInt64 :=
  bytes.foldr (fun b w => w <<< 8 ||| b.toUInt64) 0

/-- The sixteen words of a block, read as if zeros followed its bytes. -/
def wordsOf (block : Bytes) : Vector UInt64 16 :=
  Vector.ofFn fun i : Fin 16 => word ((block.drop (8 * i)).take 8)

/-- Folds the rest of a message into the chaining value, `count` bytes having been taken before. -/
def absorb (h : Vector UInt64 8) (count : Nat) (message : Bytes) : Vector UInt64 8 :=
  if message.length ≤ 128 then
    compress h (wordsOf message) (count + message.length) true
  else
    absorb (compress h (wordsOf (message.take 128)) (count + 128) false) (count + 128)
      (message.drop 128)
termination_by message.length
decreasing_by simp; omega

/-- The digest of `size` bytes, at most 64. -/
def hash (size : Nat) (message : Bytes) : Bytes :=
  let start := initial.set 0 (initial[0] ^^^ 0x01010000 ^^^ size.toUInt64)
  ((absorb start 0 message).toList.flatMap fun w => Bytes.ofNat 8 w.toNat).take size

end Blake2b

def blake2b256 (message : Bytes) : Bytes32 :=
  Bytes32.fit (Blake2b.hash 32 message)

def blake2b512 (message : Bytes) : Bytes :=
  Blake2b.hash 64 message

end Payout.Crypto
