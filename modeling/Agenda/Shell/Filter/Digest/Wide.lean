import Agenda.Shell.Filter.Digest

/-!
# Wide digests

Digests that mix blocks of sixteen words of 64 bits into eight words of state: two that fill a file
up like the narrow ones, and one that counts the bytes it has mixed.
-/

namespace Agenda.Shell.Filter.Digest.Wide

/-- A word with its bits moved around to the right. -/
def turned (word places : UInt64) : UInt64 := word >>> places ||| word <<< (64 - places)

/-- The words that bytes write, eight each, with the highest byte first or last. -/
def wordsOf (highFirst : Bool) : Nat → List Nat → List UInt64
  | 0, _ => []
  | _ + 1, [] => []
  | fuel + 1, bytes =>
    let own := if highFirst then (bytes.take 8).reverse else bytes.take 8
    UInt64.ofNat (own.foldr (fun byte n => byte + 256 * n) 0) ::
      wordsOf highFirst fuel (bytes.drop 8)

def blocksOf : Nat → List UInt64 → List (List UInt64)
  | 0, _ => []
  | _ + 1, [] => []
  | fuel + 1, words => words.take 16 :: blocksOf fuel (words.drop 16)

/-- Words as they are printed: two digits for each byte, with the highest one first or last. -/
def shown (highFirst : Bool) (words : List UInt64) : Text :=
  words.flatMap fun word =>
    let bytes := lowBytes 8 word.toNat
    (if highFirst then bytes.reverse else bytes).flatMap fun byte =>
      [Nat.digitChar (byte / 16), Nat.digitChar (byte % 16)]

/-- The numbers that are added in the 80 steps of the digest of 512 bits. -/
def roots : List UInt64 := [
  0x428a2f98d728ae22, 0x7137449123ef65cd, 0xb5c0fbcfec4d3b2f, 0xe9b5dba58189dbbc,
  0x3956c25bf348b538, 0x59f111f1b605d019, 0x923f82a4af194f9b, 0xab1c5ed5da6d8118,
  0xd807aa98a3030242, 0x12835b0145706fbe, 0x243185be4ee4b28c, 0x550c7dc3d5ffb4e2,
  0x72be5d74f27b896f, 0x80deb1fe3b1696b1, 0x9bdc06a725c71235, 0xc19bf174cf692694,
  0xe49b69c19ef14ad2, 0xefbe4786384f25e3, 0x0fc19dc68b8cd5b5, 0x240ca1cc77ac9c65,
  0x2de92c6f592b0275, 0x4a7484aa6ea6e483, 0x5cb0a9dcbd41fbd4, 0x76f988da831153b5,
  0x983e5152ee66dfab, 0xa831c66d2db43210, 0xb00327c898fb213f, 0xbf597fc7beef0ee4,
  0xc6e00bf33da88fc2, 0xd5a79147930aa725, 0x06ca6351e003826f, 0x142929670a0e6e70,
  0x27b70a8546d22ffc, 0x2e1b21385c26c926, 0x4d2c6dfc5ac42aed, 0x53380d139d95b3df,
  0x650a73548baf63de, 0x766a0abb3c77b2a8, 0x81c2c92e47edaee6, 0x92722c851482353b,
  0xa2bfe8a14cf10364, 0xa81a664bbc423001, 0xc24b8b70d0f89791, 0xc76c51a30654be30,
  0xd192e819d6ef5218, 0xd69906245565a910, 0xf40e35855771202a, 0x106aa07032bbd1b8,
  0x19a4c116b8d2d0c8, 0x1e376c085141ab53, 0x2748774cdf8eeb99, 0x34b0bcb5e19b48a8,
  0x391c0cb3c5c95a63, 0x4ed8aa4ae3418acb, 0x5b9cca4f7763e373, 0x682e6ff3d6b2b8a3,
  0x748f82ee5defb2fc, 0x78a5636f43172f60, 0x84c87814a1f0ab72, 0x8cc702081a6439ec,
  0x90befffa23631e28, 0xa4506cebde82bde9, 0xbef9a3f7b2c67915, 0xc67178f2e372532b,
  0xca273eceea26619c, 0xd186b8c721c0c207, 0xeada7dd6cde0eb1e, 0xf57d4f7fee6ed178,
  0x06f067aa72176fba, 0x0a637dc5a2c898a6, 0x113f9804bef90dae, 0x1b710b35131c471b,
  0x28db77f523047d84, 0x32caab7b40c72493, 0x3c9ebe0a15c9bebc, 0x431d67c49c100d4c,
  0x4cc5d4becb3e42b6, 0x597f299cfc657e2a, 0x5fcb6fab3ad6faec, 0x6c44198c4a475817]

/-- Bytes filled up to whole blocks with a bit, zeros, and their number in bits. -/
def filled (t : Text) : List Nat :=
  let zeros := (239 - t.length % 128) % 128
  t.map Char.toNat ++ 0x80 :: List.replicate zeros 0 ++ (lowBytes 16 (8 * t.length)).reverse

/-- The words of a block with those made of them, up to a number; `next` makes one of the last
sixteen, the last one first. -/
def extended (next : List UInt64 → UInt64) : Nat → List UInt64 → List UInt64
  | 0, words => words.reverse
  | count + 1, words => extended next count (next words :: words)

def step512 (state : List UInt64) (word : UInt64 × UInt64) : List UInt64 :=
  match state with
  | [a, b, c, d, e, f, g, h] =>
    let first := h + (turned e 14 ^^^ turned e 18 ^^^ turned e 41) +
      ((e &&& f) ^^^ (~~~e &&& g)) + word.1 + word.2
    let second := (turned a 28 ^^^ turned a 34 ^^^ turned a 39) +
      ((a &&& b) ^^^ (a &&& c) ^^^ (b &&& c))
    [first + second, a, b, c, d + first, e, f, g]
  | state => state

/-- What a block does to the state of the digest of 512 bits. -/
def mix512 (state block : List UInt64) : List UInt64 :=
  let next (words : List UInt64) : UInt64 :=
    let early := words.getD 14 0
    let late := words.getD 1 0
    words.getD 15 0 + (turned early 1 ^^^ turned early 8 ^^^ early >>> 7) +
      words.getD 6 0 + (turned late 19 ^^^ turned late 61 ^^^ late >>> 6)
  (state.zip (((extended next 64 block.reverse).zip roots).foldl step512 state)).map
    fun (a, b) => a + b

def start512 : List UInt64 := [
  0x6a09e667f3bcc908, 0xbb67ae8584caa73b, 0x3c6ef372fe94f82b, 0xa54ff53a5f1d36f1,
  0x510e527fade682d1, 0x9b05688c2b3e6c1f, 0x1f83d9abfb41bd6b, 0x5be0cd19137e2179]

def start384 : List UInt64 := [
  0xcbbb9d5dc1059ed8, 0x629a292a367cd507, 0x9159015a3070dd17, 0x152fecd8f70e5939,
  0x67332667ffc00b31, 0x8eb44a8768581511, 0xdb0c2e0d64f98fa7, 0x47b5481dbefa4fa4]

/-- A digest that mixes from some start on and keeps so many words. -/
def mixed (start : List UInt64) (size : Nat) (t : Text) : Text :=
  let bytes := filled t
  let words := wordsOf true (bytes.length + 1) bytes
  shown true (((blocksOf (words.length + 1) words).foldl mix512 start).take size)

def bits512 (t : Text) : Text := mixed start512 8 t

/-- The digest of 384 bits: that of 512 bits from another start, without the last two words. -/
def bits384 (t : Text) : Text := mixed start384 6 t

/-- The orders in which the words of a block are taken in ten rounds. -/
def orders : List (List Nat) := [
  [0, 1, 2, 3, 4, 5, 6, 7, 8, 9, 10, 11, 12, 13, 14, 15],
  [14, 10, 4, 8, 9, 15, 13, 6, 1, 12, 0, 2, 11, 7, 5, 3],
  [11, 8, 12, 0, 5, 2, 15, 13, 10, 14, 3, 6, 7, 1, 9, 4],
  [7, 9, 3, 1, 13, 12, 11, 14, 2, 6, 5, 10, 4, 0, 15, 8],
  [9, 0, 5, 7, 2, 4, 10, 15, 14, 1, 11, 12, 6, 8, 3, 13],
  [2, 12, 6, 10, 0, 11, 8, 3, 4, 13, 7, 5, 15, 14, 1, 9],
  [12, 5, 1, 15, 14, 13, 4, 10, 0, 7, 6, 3, 9, 2, 8, 11],
  [13, 11, 7, 14, 12, 1, 3, 9, 5, 0, 15, 4, 8, 6, 2, 10],
  [6, 15, 14, 9, 11, 3, 0, 8, 12, 2, 13, 7, 1, 4, 10, 5],
  [10, 2, 8, 4, 7, 6, 1, 5, 15, 11, 9, 14, 3, 12, 13, 0]]

/-- Mixes two words into four words of a state at given places. -/
def stirred (state : List UInt64) (a b c d : Nat) (first second : UInt64) : List UInt64 :=
  let own (place : Nat) : UInt64 := state.getD place 0
  let va := own a + own b + first
  let vd := turned (own d ^^^ va) 32
  let vc := own c + vd
  let vb := turned (own b ^^^ vc) 24
  let va := va + vb + second
  let vd := turned (vd ^^^ va) 16
  let vc := vc + vd
  let vb := turned (vb ^^^ vc) 63
  (((state.set a va).set b vb).set c vc).set d vd

/-- The places of a state that are stirred in a round: its columns, and then its diagonals. -/
def places : List (Nat × Nat × Nat × Nat) := [
  (0, 4, 8, 12), (1, 5, 9, 13), (2, 6, 10, 14), (3, 7, 11, 15),
  (0, 5, 10, 15), (1, 6, 11, 12), (2, 7, 8, 13), (3, 4, 9, 14)]

def round (block : List UInt64) (state : List UInt64) (order : List Nat) : List UInt64 :=
  places.zipIdx.foldl (fun state ((a, b, c, d), index) =>
    let word (n : Nat) : UInt64 := block.getD (order.getD n 0) 0
    stirred state a b c d (word (2 * index)) (word (2 * index + 1))) state

/-- What a block does to eight words; `count` bytes are mixed by then. -/
def compressed (count : Nat) (last : Bool) (words block : List UInt64) : List UInt64 :=
  let inner := start512.zipIdx.map fun (word, index) =>
    if index = 4 then word ^^^ UInt64.ofNat count
    else if index = 6 ∧ last then ~~~word
    else word
  let state := (orders ++ orders.take 2).foldl (round block) (words ++ inner)
  (words.zip ((state.take 8).zip (state.drop 8))).map fun (word, a, b) => word ^^^ a ^^^ b

/-- Mixes bytes, of which `count` are mixed already, into eight words. -/
def absorbed : Nat → (count : Nat) → List UInt64 → List Nat → List UInt64
  | 0, _, words, _ => words
  | fuel + 1, count, words, bytes =>
    let own := bytes.take 128
    let rest := bytes.drop 128
    let block := wordsOf false 17 (own ++ List.replicate (128 - own.length) 0)
    let count := count + own.length
    let words := compressed count rest.isEmpty words block
    if rest.isEmpty then words else absorbed fuel count words rest

/-- The digest that counts its bytes, with so many bytes in it. -/
def counted (size : Nat) (t : Text) : Text :=
  let start := match start512 with
    | first :: others => (first ^^^ 0x01010000 ^^^ UInt64.ofNat size) :: others
    | [] => []
  (shown false (absorbed (t.length + 1) 0 start (t.map Char.toNat))).take (2 * size)

end Agenda.Shell.Filter.Digest.Wide
