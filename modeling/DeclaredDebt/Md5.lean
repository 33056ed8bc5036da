/-!
# The MD5 digest

The message is padded to whole blocks of 64 bytes, each block is mixed into a state of four words
in 64 rounds, and the digest is the final state as 16 bytes, each word with its low byte first.

## Main definitions

* `Md5.digest`: the 16 bytes of the digest.
* `Md5.hexDigits`: bytes as lower-case hexadecimal text.
-/

namespace DeclaredDebt.Md5

/-- The four words that are mixed. -/
structure State where
  a : UInt32
  b : UInt32
  c : UInt32
  d : UInt32

/-- The state before the first block. -/
def initial : State := ⟨0x67452301, 0xefcdab89, 0x98badcfe, 0x10325476⟩

/-- By how many bits each round rotates. -/
def shifts : List UInt32 :=
  (List.replicate 4 [7, 12, 17, 22]).flatten ++ (List.replicate 4 [5, 9, 14, 20]).flatten ++
    (List.replicate 4 [4, 11, 16, 23]).flatten ++ (List.replicate 4 [6, 10, 15, 21]).flatten

/-- The constant of each round: the first 32 bits of the fraction of a sine. -/
def sines : List UInt32 :=
  [0xd76aa478, 0xe8c7b756, 0x242070db, 0xc1bdceee, 0xf57c0faf, 0x4787c62a, 0xa8304613, 0xfd469501,
   0x698098d8, 0x8b44f7af, 0xffff5bb1, 0x895cd7be, 0x6b901122, 0xfd987193, 0xa679438e, 0x49b40821,
   0xf61e2562, 0xc040b340, 0x265e5a51, 0xe9b6c7aa, 0xd62f105d, 0x02441453, 0xd8a1e681, 0xe7d3fbc8,
   0x21e1cde6, 0xc33707d6, 0xf4d50d87, 0x455a14ed, 0xa9e3e905, 0xfcefa3f8, 0x676f02d9, 0x8d2a4c8a,
   0xfffa3942, 0x8771f681, 0x6d9d6122, 0xfde5380c, 0xa4beea44, 0x4bdecfa9, 0xf6bb4b60, 0xbebfbc70,
   0x289b7ec6, 0xeaa127fa, 0xd4ef3085, 0x04881d05, 0xd9d4d039, 0xe6db99e5, 0x1fa27cf8, 0xc4ac5665,
   0xf4292244, 0x432aff97, 0xab9423a7, 0xfc93a039, 0x655b59c3, 0x8f0ccc92, 0xffeff47d, 0x85845dd1,
   0x6fa87e4f, 0xfe2ce6e0, 0xa3014314, 0x4e0811a1, 0xf7537e82, 0xbd3af235, 0x2ad7d2bb, 0xeb86d391]

/-- The function of the middle words that a round uses, and the word of the block it reads. -/
def select (round : Nat) (s : State) : UInt32 × Nat :=
  if round < 16 then ((s.b &&& s.c) ||| (~~~s.b &&& s.d), round)
  else if round < 32 then ((s.d &&& s.b) ||| (~~~s.d &&& s.c), (5 * round + 1) % 16)
  else if round < 48 then (s.b ^^^ s.c ^^^ s.d, (3 * round + 5) % 16)
  else (s.c ^^^ (s.b ||| ~~~s.d), 7 * round % 16)

/-- Rotates a word to the left. -/
def rotate (x n : UInt32) : UInt32 := (x <<< n) ||| (x >>> (32 - n))

/-- One round over a block of sixteen words. -/
def step (block : List UInt32) (s : State) (round : Nat × UInt32 × UInt32) : State :=
  let (mixed, index) := select round.1 s
  let sum := mixed + s.a + round.2.2 + block.getD index 0
  ⟨s.d, s.b + rotate sum round.2.1, s.b, s.c⟩

/-- The 64 rounds, each with its number, rotation and constant. -/
def rounds : List (Nat × UInt32 × UInt32) := (List.range 64).zip (shifts.zip sines)

/-- Mixes a block into the state. -/
def mix (s : State) (block : List UInt32) : State :=
  let t := rounds.foldl (step block) s
  ⟨s.a + t.a, s.b + t.b, s.c + t.c, s.d + t.d⟩

/-- Four bytes as a word, the low byte first. -/
def word (b0 b1 b2 b3 : UInt8) : UInt32 :=
  b0.toUInt32 ||| (b1.toUInt32 <<< 8) ||| (b2.toUInt32 <<< 16) ||| (b3.toUInt32 <<< 24)

/-- Bytes as words; fewer than four bytes at the end are left out. -/
def words : List UInt8 → List UInt32
  | b0 :: b1 :: b2 :: b3 :: rest => word b0 b1 b2 b3 :: words rest
  | _ => []

/-- A number as some bytes, the low byte first. -/
def littleEndian : Nat → Nat → List UInt8
  | 0, _ => []
  | count + 1, n => UInt8.ofNat (n % 256) :: littleEndian count (n / 256)

/-- A message with its padding: a one bit, zeros, and the length in bits. -/
def pad (message : List UInt8) : List UInt8 :=
  let zeros := (119 - message.length % 64) % 64
  message ++ 0x80 :: List.replicate zeros 0 ++ littleEndian 8 (message.length * 8)

/-- Mixes as many blocks of sixteen words as there are. -/
def mixAll : Nat → State → List UInt32 → State
  | 0, s, _ => s
  | count + 1, s, ws => mixAll count (mix s (ws.take 16)) (ws.drop 16)

/-- The digest of a message. -/
def digest (message : List UInt8) : List UInt8 :=
  let ws := words (pad message)
  let s := mixAll (ws.length / 16) initial ws
  [s.a, s.b, s.c, s.d].flatMap fun w => littleEndian 4 w.toNat

/-- Bytes as lower-case hexadecimal digits. -/
def hexDigits (bytes : List UInt8) : List Char :=
  bytes.flatMap fun b => [Nat.digitChar (b.toNat / 16), Nat.digitChar (b.toNat % 16)]

end DeclaredDebt.Md5
