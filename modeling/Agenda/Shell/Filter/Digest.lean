import Agenda.Shell.Filter

/-!
# Digests

Short numbers that tell whether two files are the same: four digests that mix blocks of sixteen
words of 32 bits into a few words of state. A file is filled up to whole blocks with a bit, zeros,
and its size in bits.
-/

namespace Agenda.Shell.Filter.Digest

/-- A word with its bits moved around to the left. -/
def turned (word : UInt32) (places : UInt32) : UInt32 :=
  word <<< places ||| word >>> (32 - places)

/-- The last bytes of a number, the lowest one first. -/
def lowBytes : Nat → Nat → List Nat
  | 0, _ => []
  | count + 1, n => n % 256 :: lowBytes count (n / 256)

/-- Bytes filled up to whole blocks; the size stands with its highest byte first or last. -/
def filled (highFirst : Bool) (t : Text) : List Nat :=
  let zeros := (119 - t.length % 64) % 64
  let size := lowBytes 8 (8 * t.length)
  t.map Char.toNat ++ 0x80 :: List.replicate zeros 0 ++ if highFirst then size.reverse else size

/-- The words that bytes write, four each, with the highest byte first or last. -/
def wordsOf (highFirst : Bool) : List Nat → List UInt32
  | a :: b :: c :: d :: rest =>
    let bytes := if highFirst then [d, c, b, a] else [a, b, c, d]
    UInt32.ofNat (bytes.foldr (fun byte n => byte + 256 * n) 0) :: wordsOf highFirst rest
  | _ => []

def blocksOf : Nat → List UInt32 → List (List UInt32)
  | 0, _ => []
  | _ + 1, [] => []
  | fuel + 1, words => words.take 16 :: blocksOf fuel (words.drop 16)

def blocks (highFirst : Bool) (t : Text) : List (List UInt32) :=
  let words := wordsOf highFirst (filled highFirst t)
  blocksOf (words.length + 1) words

/-- Words as they are printed: two digits for each byte, with the highest one first or last. -/
def shown (highFirst : Bool) (words : List UInt32) : Text :=
  words.flatMap fun word =>
    let bytes := lowBytes 4 word.toNat
    (if highFirst then bytes.reverse else bytes).flatMap fun byte =>
      [Nat.digitChar (byte / 16), Nat.digitChar (byte % 16)]

/-- A digest: the state at the start, what a block does to it, and how many words are kept. -/
structure Kind where
  highFirst : Bool
  start : List UInt32
  mix : List UInt32 → List UInt32 → List UInt32
  size : Nat := start.length

def Kind.of (kind : Kind) (t : Text) : Text :=
  shown kind.highFirst (((blocks kind.highFirst t).foldl (fun state block =>
    (state.zip (kind.mix state block)).map fun (a, b) => a + b) kind.start).take kind.size)

/-- The numbers that are added in the 64 steps of the digest of 128 bits. -/
def sines : List UInt32 := [
  0xd76aa478, 0xe8c7b756, 0x242070db, 0xc1bdceee, 0xf57c0faf, 0x4787c62a, 0xa8304613, 0xfd469501,
  0x698098d8, 0x8b44f7af, 0xffff5bb1, 0x895cd7be, 0x6b901122, 0xfd987193, 0xa679438e, 0x49b40821,
  0xf61e2562, 0xc040b340, 0x265e5a51, 0xe9b6c7aa, 0xd62f105d, 0x02441453, 0xd8a1e681, 0xe7d3fbc8,
  0x21e1cde6, 0xc33707d6, 0xf4d50d87, 0x455a14ed, 0xa9e3e905, 0xfcefa3f8, 0x676f02d9, 0x8d2a4c8a,
  0xfffa3942, 0x8771f681, 0x6d9d6122, 0xfde5380c, 0xa4beea44, 0x4bdecfa9, 0xf6bb4b60, 0xbebfbc70,
  0x289b7ec6, 0xeaa127fa, 0xd4ef3085, 0x04881d05, 0xd9d4d039, 0xe6db99e5, 0x1fa27cf8, 0xc4ac5665,
  0xf4292244, 0x432aff97, 0xab9423a7, 0xfc93a039, 0x655b59c3, 0x8f0ccc92, 0xffeff47d, 0x85845dd1,
  0x6fa87e4f, 0xfe2ce6e0, 0xa3014314, 0x4e0811a1, 0xf7537e82, 0xbd3af235, 0x2ad7d2bb, 0xeb86d391]

def step128 (block : List UInt32) (state : List UInt32) (place : Nat) : List UInt32 :=
  match state with
  | [a, b, c, d] =>
    let (mixed, index, turns) : UInt32 × Nat × List UInt32 :=
      if place < 16 then ((b &&& c) ||| (~~~b &&& d), place, [7, 12, 17, 22])
      else if place < 32 then ((d &&& b) ||| (~~~d &&& c), (5 * place + 1) % 16, [5, 9, 14, 20])
      else if place < 48 then (b ^^^ c ^^^ d, (3 * place + 5) % 16, [4, 11, 16, 23])
      else (c ^^^ (b ||| ~~~d), 7 * place % 16, [6, 10, 15, 21])
    let sum := a + mixed + sines.getD place 0 + block.getD index 0
    [d, b + turned sum (turns.getD (place % 4) 0), b, c]
  | state => state

def Kind.bits128 : Kind where
  highFirst := false
  start := [0x67452301, 0xefcdab89, 0x98badcfe, 0x10325476]
  mix := fun state block => (List.range 64).foldl (step128 block) state

/-- The words of a block with those made of them, up to a number; `next` makes one of the last
sixteen, the last one first. -/
def extended (next : List UInt32 → UInt32) : Nat → List UInt32 → List UInt32
  | 0, words => words.reverse
  | count + 1, words => extended next count (next words :: words)

def step160 (state : List UInt32) (word : UInt32 × Nat) : List UInt32 :=
  match state with
  | [a, b, c, d, e] =>
    let (mixed, added) : UInt32 × UInt32 :=
      if word.2 < 20 then ((b &&& c) ||| (~~~b &&& d), 0x5a827999)
      else if word.2 < 40 then (b ^^^ c ^^^ d, 0x6ed9eba1)
      else if word.2 < 60 then ((b &&& c) ||| (b &&& d) ||| (c &&& d), 0x8f1bbcdc)
      else (b ^^^ c ^^^ d, 0xca62c1d6)
    [turned a 5 + mixed + e + added + word.1, a, turned b 30, c, d]
  | state => state

def Kind.bits160 : Kind where
  highFirst := true
  start := [0x67452301, 0xefcdab89, 0x98badcfe, 0x10325476, 0xc3d2e1f0]
  mix := fun state block =>
    let next (words : List UInt32) : UInt32 :=
      turned (words.getD 2 0 ^^^ words.getD 7 0 ^^^ words.getD 13 0 ^^^ words.getD 15 0) 1
    (extended next 64 block.reverse).zipIdx.foldl step160 state

/-- The numbers that are added in the 64 steps of the digest of 256 bits. -/
def roots : List UInt32 := [
  0x428a2f98, 0x71374491, 0xb5c0fbcf, 0xe9b5dba5, 0x3956c25b, 0x59f111f1, 0x923f82a4, 0xab1c5ed5,
  0xd807aa98, 0x12835b01, 0x243185be, 0x550c7dc3, 0x72be5d74, 0x80deb1fe, 0x9bdc06a7, 0xc19bf174,
  0xe49b69c1, 0xefbe4786, 0x0fc19dc6, 0x240ca1cc, 0x2de92c6f, 0x4a7484aa, 0x5cb0a9dc, 0x76f988da,
  0x983e5152, 0xa831c66d, 0xb00327c8, 0xbf597fc7, 0xc6e00bf3, 0xd5a79147, 0x06ca6351, 0x14292967,
  0x27b70a85, 0x2e1b2138, 0x4d2c6dfc, 0x53380d13, 0x650a7354, 0x766a0abb, 0x81c2c92e, 0x92722c85,
  0xa2bfe8a1, 0xa81a664b, 0xc24b8b70, 0xc76c51a3, 0xd192e819, 0xd6990624, 0xf40e3585, 0x106aa070,
  0x19a4c116, 0x1e376c08, 0x2748774c, 0x34b0bcb5, 0x391c0cb3, 0x4ed8aa4a, 0x5b9cca4f, 0x682e6ff3,
  0x748f82ee, 0x78a5636f, 0x84c87814, 0x8cc70208, 0x90befffa, 0xa4506ceb, 0xbef9a3f7, 0xc67178f2]

def step256 (state : List UInt32) (word : UInt32 × UInt32) : List UInt32 :=
  match state with
  | [a, b, c, d, e, f, g, h] =>
    let first := h + (turned e 26 ^^^ turned e 21 ^^^ turned e 7) + ((e &&& f) ^^^ (~~~e &&& g)) +
      word.1 + word.2
    let second := (turned a 30 ^^^ turned a 19 ^^^ turned a 10) +
      ((a &&& b) ^^^ (a &&& c) ^^^ (b &&& c))
    [first + second, a, b, c, d + first, e, f, g]
  | state => state

def Kind.bits256 : Kind where
  highFirst := true
  start := [
    0x6a09e667, 0xbb67ae85, 0x3c6ef372, 0xa54ff53a, 0x510e527f, 0x9b05688c, 0x1f83d9ab, 0x5be0cd19]
  mix := fun state block =>
    let next (words : List UInt32) : UInt32 :=
      let early := words.getD 14 0
      let late := words.getD 1 0
      words.getD 15 0 + (turned early 25 ^^^ turned early 14 ^^^ early >>> 3) +
        words.getD 6 0 + (turned late 15 ^^^ turned late 13 ^^^ late >>> 10)
    ((extended next 48 block.reverse).zip roots).foldl step256 state

/-- The digest of 224 bits: that of 256 bits from another start, without the last word. -/
def Kind.bits224 : Kind where
  highFirst := true
  start := [
    0xc1059ed8, 0x367cd507, 0x3070dd17, 0xf70e5939, 0xffc00b31, 0x68581511, 0x64f98fa7, 0xbefa4fa4]
  mix := Kind.bits256.mix
  size := 7

end Agenda.Shell.Filter.Digest
