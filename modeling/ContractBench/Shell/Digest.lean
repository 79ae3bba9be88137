import ContractBench.Text.Octets

/-! # Digests of bytes

Two functions from bytes to a few bytes that are unlikely to be the same for other bytes. Both pad
the bytes to whole blocks of 64, and mix the words of each block into a state of a few words.
-/

namespace ContractBench.Digest

/-- The words that bytes are, four to a word, of which the first counts most or least. -/
def words (bigFirst : Bool) : List UInt8 → List UInt32
  | a :: b :: c :: d :: rest =>
    let (a, b, c, d) := if bigFirst then (a, b, c, d) else (d, c, b, a)
    (a.toUInt32 <<< 24 ||| b.toUInt32 <<< 16 ||| c.toUInt32 <<< 8 ||| d.toUInt32) ::
      words bigFirst rest
  | _ => []

/-- The bytes of a number, the one that counts most first. -/
def bytesOf : Nat → Nat → List UInt8
  | 0, _ => []
  | count + 1, n => bytesOf count (n / 256) ++ [UInt8.ofNat n]

/-- Bytes followed by a mark, zeros and the number of bits, up to a whole number of blocks. -/
def padded (bigFirst : Bool) (bytes : List UInt8) : List UInt8 :=
  let zeros := (119 - bytes.length % 64) % 64
  let size := bytesOf 8 (8 * bytes.length)
  bytes ++ 0x80 :: List.replicate zeros 0 ++ (if bigFirst then size else size.reverse)

/-- The blocks of sixteen words. The fuel is at least their number. -/
def blocks : Nat → List UInt32 → List (List UInt32)
  | 0, _ => []
  | _, [] => []
  | fuel + 1, row => row.take 16 :: blocks fuel (row.drop 16)

/-- A word turned to the left. -/
def turnLeft (word : UInt32) (count : UInt32) : UInt32 :=
  word <<< count ||| word >>> (32 - count)

/-- A word turned to the right. -/
def turnRight (word : UInt32) (count : UInt32) : UInt32 := turnLeft word (32 - count)

/-- The greatest number whose power is at most a limit, of those below a power of two. -/
def root (power limit : Nat) : Nat → Nat → Nat
  | 0, found => found
  | bits + 1, found =>
    let next := found + Nat.pow 2 bits
    root power limit bits (if Nat.pow next power ≤ limit then next else found)

/-- The first so many primes from a number on. The fuel limits the numbers that are tried. -/
def primesFrom : Nat → Nat → Nat → List Nat
  | 0, _, _ => []
  | _, 0, _ => []
  | fuel + 1, count + 1, n =>
    if (List.range n).all fun d => d < 2 || n % d ≠ 0 then n :: primesFrom fuel count (n + 1)
    else primesFrom fuel (count + 1) (n + 1)

/-- The first 64 primes. -/
def primes : List Nat := primesFrom 400 64 2

/-- The first bits behind the point of the root of a prime. -/
def rootBits (power prime : Nat) : UInt32 :=
  UInt32.ofNat (root power (prime * Nat.pow 2 (32 * power)) 40 0 % 4294967296)

/-- The constants of the rounds of the longer digest: the cube roots of primes. -/
def longConstants : Array UInt32 := (primes.map (rootBits 3)).toArray

/-- The words of the rounds: those of the block, and more that are mixed from them, the last
    first. -/
def schedule : Nat → List UInt32 → List UInt32
  | 0, made => made
  | count + 1, made =>
    let at_ (i : Nat) : UInt32 := made.getD i 0
    let a := at_ 14
    let b := at_ 1
    let s := turnRight a 7 ^^^ turnRight a 18 ^^^ (a >>> 3)
    let t := turnRight b 17 ^^^ turnRight b 19 ^^^ (b >>> 10)
    schedule count ((at_ 15 + s + at_ 6 + t) :: made)

/-- A round of the longer digest. -/
def longRound (state : List UInt32) (mixed : UInt32) : List UInt32 :=
  match state with
  | [a, b, c, d, e, f, g, h] =>
    let s := turnRight e 6 ^^^ turnRight e 11 ^^^ turnRight e 25
    let choice := (e &&& f) ^^^ (~~~e &&& g)
    let first := h + s + choice + mixed
    let t := turnRight a 2 ^^^ turnRight a 13 ^^^ turnRight a 22
    let majority := (a &&& b) ^^^ (a &&& c) ^^^ (b &&& c)
    [first + t + majority, a, b, c, d + first, e, f, g]
  | state => state

/-- Mix a block into the state of the longer digest. -/
def longBlock (state block : List UInt32) : List UInt32 :=
  let row := (schedule 48 block.reverse).reverse
  let mixed := (row.zip longConstants.toList).map fun (word, constant) => word + constant
  (state.zip (mixed.foldl longRound state)).map fun (old, new) => old + new

/-- The longer digest, of 32 bytes. -/
def long (bytes : List UInt8) : List UInt8 :=
  let start := (primes.take 8).map (rootBits 2)
  let row := words true (padded true bytes)
  let state := (blocks row.length row).foldl longBlock start
  (state.map fun word => bytesOf 4 word.toNat).flatten

/-- The constants of the rounds of the shorter digest. -/
def shortConstants : Array UInt32 :=
  #[0xd76aa478, 0xe8c7b756, 0x242070db, 0xc1bdceee, 0xf57c0faf, 0x4787c62a, 0xa8304613,
    0xfd469501, 0x698098d8, 0x8b44f7af, 0xffff5bb1, 0x895cd7be, 0x6b901122, 0xfd987193,
    0xa679438e, 0x49b40821, 0xf61e2562, 0xc040b340, 0x265e5a51, 0xe9b6c7aa, 0xd62f105d,
    0x02441453, 0xd8a1e681, 0xe7d3fbc8, 0x21e1cde6, 0xc33707d6, 0xf4d50d87, 0x455a14ed,
    0xa9e3e905, 0xfcefa3f8, 0x676f02d9, 0x8d2a4c8a, 0xfffa3942, 0x8771f681, 0x6d9d6122,
    0xfde5380c, 0xa4beea44, 0x4bdecfa9, 0xf6bb4b60, 0xbebfbc70, 0x289b7ec6, 0xeaa127fa,
    0xd4ef3085, 0x04881d05, 0xd9d4d039, 0xe6db99e5, 0x1fa27cf8, 0xc4ac5665, 0xf4292244,
    0x432aff97, 0xab9423a7, 0xfc93a039, 0x655b59c3, 0x8f0ccc92, 0xffeff47d, 0x85845dd1,
    0x6fa87e4f, 0xfe2ce6e0, 0xa3014314, 0x4e0811a1, 0xf7537e82, 0xbd3af235, 0x2ad7d2bb,
    0xeb86d391]

/-- How far the rounds of the shorter digest turn a word: four counts for each sixteen rounds. -/
def shortTurns : List (List UInt32) :=
  [[7, 12, 17, 22], [5, 9, 14, 20], [4, 11, 16, 23], [6, 10, 15, 21]]

/-- A round of the shorter digest by its number. -/
def shortRound (block : List UInt32) (state : List UInt32) (i : Nat) : List UInt32 :=
  match state with
  | [a, b, c, d] =>
    let (mixed, place) : UInt32 × Nat := match i / 16 with
      | 0 => ((b &&& c) ||| (~~~b &&& d), i)
      | 1 => ((d &&& b) ||| (~~~d &&& c), 5 * i + 1)
      | 2 => (b ^^^ c ^^^ d, 3 * i + 5)
      | _ => (c ^^^ (b ||| ~~~d), 7 * i)
    let turn := (shortTurns.getD (i / 16) []).getD (i % 4) 0
    let sum := a + mixed + shortConstants.getD i 0 + block.getD (place % 16) 0
    [d, b + turnLeft sum turn, b, c]
  | state => state

/-- Mix a block into the state of the shorter digest. -/
def shortBlock (state block : List UInt32) : List UInt32 :=
  (state.zip ((List.range 64).foldl (shortRound block) state)).map fun (old, new) => old + new

/-- The shorter digest, of 16 bytes. -/
def short (bytes : List UInt8) : List UInt8 :=
  let row := words false (padded false bytes)
  let state := (blocks row.length row).foldl shortBlock
    [0x67452301, 0xefcdab89, 0x98badcfe, 0x10325476]
  (state.map fun word => (bytesOf 4 word.toNat).reverse).flatten

/-- A digest in hexadecimal digits. -/
def text (bytes : List UInt8) : String := String.join (bytes.map Utf8.hexByte)

end ContractBench.Digest
