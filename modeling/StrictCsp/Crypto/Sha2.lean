/-!
# SHA-256, SHA-384 and SHA-512

The SHA-2 hash functions of FIPS 180-4 over lists of bytes. SHA-256 works on
32-bit words and 64-byte blocks, SHA-512 on 64-bit words and 128-byte blocks,
and SHA-384 is SHA-512 started from other initial values with its digest cut
to 48 bytes. A message is padded with the byte 0x80, zero bytes, and its
length in bits, big-endian, to a whole number of blocks.

Main statement: padding for SHA-256 gives whole blocks (`pad256_length`).
-/

namespace StrictCsp.Crypto.Sha2

/-- The round constants of SHA-256. -/
def k256 : Array UInt32 := #[
  0x428a2f98, 0x71374491, 0xb5c0fbcf, 0xe9b5dba5, 0x3956c25b, 0x59f111f1, 0x923f82a4, 0xab1c5ed5,
  0xd807aa98, 0x12835b01, 0x243185be, 0x550c7dc3, 0x72be5d74, 0x80deb1fe, 0x9bdc06a7, 0xc19bf174,
  0xe49b69c1, 0xefbe4786, 0x0fc19dc6, 0x240ca1cc, 0x2de92c6f, 0x4a7484aa, 0x5cb0a9dc, 0x76f988da,
  0x983e5152, 0xa831c66d, 0xb00327c8, 0xbf597fc7, 0xc6e00bf3, 0xd5a79147, 0x06ca6351, 0x14292967,
  0x27b70a85, 0x2e1b2138, 0x4d2c6dfc, 0x53380d13, 0x650a7354, 0x766a0abb, 0x81c2c92e, 0x92722c85,
  0xa2bfe8a1, 0xa81a664b, 0xc24b8b70, 0xc76c51a3, 0xd192e819, 0xd6990624, 0xf40e3585, 0x106aa070,
  0x19a4c116, 0x1e376c08, 0x2748774c, 0x34b0bcb5, 0x391c0cb3, 0x4ed8aa4a, 0x5b9cca4f, 0x682e6ff3,
  0x748f82ee, 0x78a5636f, 0x84c87814, 0x8cc70208, 0x90befffa, 0xa4506ceb, 0xbef9a3f7, 0xc67178f2]

/-- The initial values of SHA-256. -/
def iv256 : List UInt32 :=
  [0x6a09e667, 0xbb67ae85, 0x3c6ef372, 0xa54ff53a, 0x510e527f, 0x9b05688c, 0x1f83d9ab, 0x5be0cd19]

/-- The round constants of SHA-512. -/
def k512 : Array UInt64 := #[
  0x428a2f98d728ae22, 0x7137449123ef65cd, 0xb5c0fbcfec4d3b2f, 0xe9b5dba58189dbbc,
  0x3956c25bf348b538, 0x59f111f1b605d019, 0x923f82a4af194f9b, 0xab1c5ed5da6d8118,
  0xd807aa98a3030242, 0x12835b0145706fbe, 0x243185be4ee4b28c, 0x550c7dc3d5ffb4e2,
  0x72be5d74f27b896f, 0x80deb1fe3b1696b1, 0x9bdc06a725c71235, 0xc19bf174cf692694,
  0xe49b69c19ef14ad2, 0xefbe4786384f25e3, 0x0fc19dc68b8cd5b5, 0x240ca1cc77ac9c65,
  0x2de92c6f592b0275, 0x4a7484aa6ea6e483, 0x5cb0a9dcbd41fbd4, 0x76f988da831153b5,
  0x983e5152ee66dfab, 0xa831c66d2db43210, 0xb00327c898fb213f, 0xbf597fc7beef0ee4,
  0xc6e00bf33da88fc2, 0xd5a79147930aa725, 0x06ca6351e003826f, 0x142929670a0e6e70,
  0x27b70a8546d22ffc, 0x2e1b21385c26c926, 0x4d2c6dfc5ac42aed, 0x53380d139d95b3df,
  0x650a73548baf63de, 0x766a0abb3c77b2a8, 0x81c2c92e47edaee6, 0x92722c851482353b,
  0xa2bfe8a14cf10364, 0xa81a664bbc423001, 0xc24b8b70d0f89791, 0xc76c51a30654be30,
  0xd192e819d6ef5218, 0xd69906245565a910, 0xf40e35855771202a, 0x106aa07032bbd1b8,
  0x19a4c116b8d2d0c8, 0x1e376c085141ab53, 0x2748774cdf8eeb99, 0x34b0bcb5e19b48a8,
  0x391c0cb3c5c95a63, 0x4ed8aa4ae3418acb, 0x5b9cca4f7763e373, 0x682e6ff3d6b2b8a3,
  0x748f82ee5defb2fc, 0x78a5636f43172f60, 0x84c87814a1f0ab72, 0x8cc702081a6439ec,
  0x90befffa23631e28, 0xa4506cebde82bde9, 0xbef9a3f7b2c67915, 0xc67178f2e372532b,
  0xca273eceea26619c, 0xd186b8c721c0c207, 0xeada7dd6cde0eb1e, 0xf57d4f7fee6ed178,
  0x06f067aa72176fba, 0x0a637dc5a2c898a6, 0x113f9804bef90dae, 0x1b710b35131c471b,
  0x28db77f523047d84, 0x32caab7b40c72493, 0x3c9ebe0a15c9bebc, 0x431d67c49c100d4c,
  0x4cc5d4becb3e42b6, 0x597f299cfc657e2a, 0x5fcb6fab3ad6faec, 0x6c44198c4a475817]

/-- The initial values of SHA-512. -/
def iv512 : List UInt64 :=
  [0x6a09e667f3bcc908, 0xbb67ae8584caa73b, 0x3c6ef372fe94f82b, 0xa54ff53a5f1d36f1,
    0x510e527fade682d1, 0x9b05688c2b3e6c1f, 0x1f83d9abfb41bd6b, 0x5be0cd19137e2179]

/-- The initial values of SHA-384. -/
def iv384 : List UInt64 :=
  [0xcbbb9d5dc1059ed8, 0x629a292a367cd507, 0x9159015a3070dd17, 0x152fecd8f70e5939,
    0x67332667ffc00b31, 0x8eb44a8768581511, 0xdb0c2e0d64f98fa7, 0x47b5481dbefa4fa4]

/-- The big-endian bytes of a number, as many as asked for. -/
def bigEndian (width n : Nat) : List UInt8 :=
  (List.range width).reverse.map fun i => (n / Nat.pow 256 i % 256).toUInt8

/-- Pads a message to whole blocks of the given size, with a length field of the given width. -/
def pad (block lengthWidth : Nat) (msg : List UInt8) : List UInt8 :=
  let zeros := (block - (msg.length + 1 + lengthWidth) % block) % block
  msg ++ [0x80] ++ List.replicate zeros 0 ++ bigEndian lengthWidth (8 * msg.length)

/-- A number written big-endian in a given width takes that many bytes. -/
theorem bigEndian_length (width n : Nat) : (bigEndian width n).length = width := by
  simp [bigEndian]

/-- Padding for SHA-256 gives whole 64-byte blocks. -/
theorem pad256_length (msg : List UInt8) : (pad 64 8 msg).length % 64 = 0 := by
  simp only [pad, List.length_append, List.length_cons, List.length_nil, List.length_replicate,
    bigEndian_length]
  omega

/-- Splits a list into pieces of a given positive size, for at most as many pieces as the fuel. -/
def chunksFor (n : Nat) : Nat → List α → List (List α)
  | 0, _ => []
  | _, [] => []
  | fuel + 1, x :: rest =>
    if 0 < n then (x :: rest).take n :: chunksFor n fuel ((x :: rest).drop n) else []

/-- Splits a list into pieces of a given positive size; a list of length `l` has at most `l`
pieces, so that much fuel is enough. -/
def chunks (n : Nat) (xs : List α) : List (List α) := chunksFor n xs.length xs

/-- A 32-bit word from four big-endian bytes. -/
def word32 (bs : List UInt8) : UInt32 :=
  bs.foldl (fun acc b => (acc <<< 8) ||| b.toUInt32) 0

/-- A 64-bit word from eight big-endian bytes. -/
def word64 (bs : List UInt8) : UInt64 :=
  bs.foldl (fun acc b => (acc <<< 8) ||| b.toUInt64) 0

/-- Rotates a 32-bit word right. -/
def rotr32 (x : UInt32) (n : UInt32) : UInt32 := (x >>> n) ||| (x <<< (32 - n))

/-- Rotates a 64-bit word right. -/
def rotr64 (x : UInt64) (n : UInt64) : UInt64 := (x >>> n) ||| (x <<< (64 - n))

/-- The message schedule of a SHA-256 block. -/
def schedule256 (block : List UInt8) : Array UInt32 := Id.run do
  let mut w : Array UInt32 := ((chunks 4 block).map word32).toArray
  for i in [16:64] do
    let a := w[i - 15]!
    let b := w[i - 2]!
    let s0 := rotr32 a 7 ^^^ rotr32 a 18 ^^^ (a >>> 3)
    let s1 := rotr32 b 17 ^^^ rotr32 b 19 ^^^ (b >>> 10)
    w := w.push (w[i - 16]! + s0 + w[i - 7]! + s1)
  return w

/-- The SHA-256 compression of one block into the state. -/
def compress256 (h : List UInt32) (block : List UInt8) : List UInt32 := Id.run do
  let w := schedule256 block
  let mut v := h.toArray
  for i in [0:64] do
    let a := v[0]!
    let e := v[4]!
    let s1 := rotr32 e 6 ^^^ rotr32 e 11 ^^^ rotr32 e 25
    let ch := (e &&& v[5]!) ^^^ (~~~e &&& v[6]!)
    let t1 := v[7]! + s1 + ch + k256[i]! + w[i]!
    let s0 := rotr32 a 2 ^^^ rotr32 a 13 ^^^ rotr32 a 22
    let maj := (a &&& v[1]!) ^^^ (a &&& v[2]!) ^^^ (v[1]! &&& v[2]!)
    let t2 := s0 + maj
    v := #[t1 + t2, a, v[1]!, v[2]!, v[3]! + t1, e, v[5]!, v[6]!]
  return (h.zip v.toList).map fun (x, y) => x + y

/-- The message schedule of a SHA-512 block. -/
def schedule512 (block : List UInt8) : Array UInt64 := Id.run do
  let mut w : Array UInt64 := ((chunks 8 block).map word64).toArray
  for i in [16:80] do
    let a := w[i - 15]!
    let b := w[i - 2]!
    let s0 := rotr64 a 1 ^^^ rotr64 a 8 ^^^ (a >>> 7)
    let s1 := rotr64 b 19 ^^^ rotr64 b 61 ^^^ (b >>> 6)
    w := w.push (w[i - 16]! + s0 + w[i - 7]! + s1)
  return w

/-- The SHA-512 compression of one block into the state. -/
def compress512 (h : List UInt64) (block : List UInt8) : List UInt64 := Id.run do
  let w := schedule512 block
  let mut v := h.toArray
  for i in [0:80] do
    let a := v[0]!
    let e := v[4]!
    let s1 := rotr64 e 14 ^^^ rotr64 e 18 ^^^ rotr64 e 41
    let ch := (e &&& v[5]!) ^^^ (~~~e &&& v[6]!)
    let t1 := v[7]! + s1 + ch + k512[i]! + w[i]!
    let s0 := rotr64 a 28 ^^^ rotr64 a 34 ^^^ rotr64 a 39
    let maj := (a &&& v[1]!) ^^^ (a &&& v[2]!) ^^^ (v[1]! &&& v[2]!)
    let t2 := s0 + maj
    v := #[t1 + t2, a, v[1]!, v[2]!, v[3]! + t1, e, v[5]!, v[6]!]
  return (h.zip v.toList).map fun (x, y) => x + y

/-- The SHA-256 digest of a message. -/
def sha256 (msg : List UInt8) : List UInt8 :=
  ((chunks 64 (pad 64 8 msg)).foldl compress256 iv256).flatMap fun w => bigEndian 4 w.toNat

/-- The SHA-512 state after a message, from given initial values. -/
def state512 (iv : List UInt64) (msg : List UInt8) : List UInt64 :=
  (chunks 128 (pad 128 16 msg)).foldl compress512 iv

/-- The SHA-512 digest of a message. -/
def sha512 (msg : List UInt8) : List UInt8 :=
  (state512 iv512 msg).flatMap fun w => bigEndian 8 w.toNat

/-- The SHA-384 digest of a message. -/
def sha384 (msg : List UInt8) : List UInt8 :=
  ((state512 iv384 msg).take 6).flatMap fun w => bigEndian 8 w.toNat

end StrictCsp.Crypto.Sha2
