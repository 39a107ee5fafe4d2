/-!
# The ChaCha12 keystream and its seeding from one word

A seeded random source is the keystream of the ChaCha stream cipher with
twelve rounds. The state is sixteen 32-bit words: the four constant words of
"expand 32-byte k", the eight key words, a 64-bit block counter starting at
zero in words 12 and 13, and a 64-bit stream number, zero, in words 14 and 15.
Each block is the state after six double rounds plus the initial state, and
is written as sixty-four bytes, each word little-endian. The stream is the
concatenation of the blocks 0, 1, 2, and so on.

A 64-bit seed becomes the key through the permuted congruential generator
PCG32: the state steps by multiplying with 6364136223846793005 and adding
11634580027462260723, and each output is the word
rotr32(((state >> 18) ^ state) >> 27, state >> 59). Eight outputs are the
eight key words.

Main statements: every block has sixty-four bytes (`block_length`), and so
`streamBytes` returns exactly the bytes asked for (`streamBytes_length`).
-/

namespace StrictCsp.Entropy

/-- Rotates a word left. -/
def rotl (x : UInt32) (n : UInt32) : UInt32 := (x <<< n) ||| (x >>> (32 - n))

/-- Rotates a word right. -/
def rotr (x : UInt32) (n : UInt32) : UInt32 := (x >>> n) ||| (x <<< (32 - n))

/-- The ChaCha state of sixteen words. -/
abbrev State := Vector UInt32 16

/-- The quarter round on four words of the state. -/
def quarter (s : State) (a b c d : Fin 16) : State :=
  let s := s.set a (s[a] + s[b])
  let s := s.set d (rotl (s[d] ^^^ s[a]) 16)
  let s := s.set c (s[c] + s[d])
  let s := s.set b (rotl (s[b] ^^^ s[c]) 12)
  let s := s.set a (s[a] + s[b])
  let s := s.set d (rotl (s[d] ^^^ s[a]) 8)
  let s := s.set c (s[c] + s[d])
  s.set b (rotl (s[b] ^^^ s[c]) 7)

/-- A column round followed by a diagonal round. -/
def doubleRound (s : State) : State :=
  let s := quarter s 0 4 8 12
  let s := quarter s 1 5 9 13
  let s := quarter s 2 6 10 14
  let s := quarter s 3 7 11 15
  let s := quarter s 0 5 10 15
  let s := quarter s 1 6 11 12
  let s := quarter s 2 7 8 13
  quarter s 3 4 9 14

/-- The four little-endian bytes of a word. -/
def wordBytes (w : UInt32) : List UInt8 :=
  [w.toUInt8, (w >>> 8).toUInt8, (w >>> 16).toUInt8, (w >>> 24).toUInt8]

/-- The initial state for a key and a block number, on stream zero. -/
def initial (key : Vector UInt32 8) (counter : UInt64) : State :=
  #v[0x61707865, 0x3320646e, 0x79622d32, 0x6b206574,
    key[0], key[1], key[2], key[3], key[4], key[5], key[6], key[7],
    counter.toUInt32, (counter >>> 32).toUInt32, 0, 0]

/-- One block of the keystream with twelve rounds. -/
def block (key : Vector UInt32 8) (counter : UInt64) : List UInt8 :=
  let start := initial key counter
  let mixed := (List.range 6).foldl (fun s _ => doubleRound s) start
  (List.finRange 16).flatMap fun i => wordBytes (mixed[i] + start[i])

/-- A ChaCha block is 64 bytes long. -/
theorem block_length (key : Vector UInt32 8) (counter : UInt64) :
    (block key counter).length = 64 := by
  simp [block, wordBytes, List.length_flatMap, List.map_const']

/-- The keystream bytes from a position on, as many as asked for. -/
def streamBytes (key : Vector UInt32 8) (position count : Nat) : List UInt8 :=
  let first := position / 64
  let last := (position + count + 63) / 64
  let blocks := (List.range (last - first)).flatMap fun i => block key (UInt64.ofNat (first + i))
  (blocks.drop (position % 64)).take count

/-- The key stream gives as many bytes as asked for. -/
theorem streamBytes_length (key : Vector UInt32 8) (position count : Nat) :
    (streamBytes key position count).length = count := by
  simp only [streamBytes, List.length_take, List.length_drop, List.length_flatMap, block_length,
    List.map_const', List.length_range, List.sum_replicate_nat]
  omega

/-- One step of the PCG32 generator and its output word. -/
def pcgStep (state : UInt64) : UInt64 × UInt32 :=
  let state := state * 6364136223846793005 + 11634580027462260723
  let shifted := (((state >>> 18) ^^^ state) >>> 27).toUInt32
  (state, rotr shifted (state >>> 59).toUInt32)

/-- The key derived from a 64-bit seed: eight successive PCG32 outputs. -/
def keyOfSeed (seed : UInt64) : Vector UInt32 8 :=
  let step (acc : UInt64 × List UInt32) (_ : Nat) : UInt64 × List UInt32 :=
    let (s, w) := pcgStep acc.1
    (s, acc.2 ++ [w])
  let words := ((List.range 8).foldl step (seed, [])).2
  Vector.ofFn fun i => words.getD i.val 0

end StrictCsp.Entropy
