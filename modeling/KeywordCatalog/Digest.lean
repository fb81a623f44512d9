/-!
# Digests

The 128-bit digest that goes into the names of tables, so that files of one name in different
folders have tables of their own. The input is taken as its bytes in blocks of sixteen words, each
block goes through four rounds of sixteen steps, and the digest is written as 32 hexadecimal digits.
-/

namespace KeywordCatalog.Digest

/-- The four words that a digest is made of. -/
structure Words where
  a : UInt32
  b : UInt32
  c : UInt32
  d : UInt32
deriving DecidableEq, Repr

/-- The words before the first block. -/
def Words.initial : Words := ⟨0x67452301, 0xefcdab89, 0x98badcfe, 0x10325476⟩

/-- The words of two stages added up. -/
def Words.add (x y : Words) : Words := ⟨x.a + y.a, x.b + y.b, x.c + y.c, x.d + y.d⟩

/-- The constant of each step. -/
def stepConstants : Array UInt32 :=
  #[0xd76aa478, 0xe8c7b756, 0x242070db, 0xc1bdceee, 0xf57c0faf, 0x4787c62a,
   0xa8304613, 0xfd469501, 0x698098d8, 0x8b44f7af, 0xffff5bb1, 0x895cd7be,
   0x6b901122, 0xfd987193, 0xa679438e, 0x49b40821, 0xf61e2562, 0xc040b340,
   0x265e5a51, 0xe9b6c7aa, 0xd62f105d, 0x02441453, 0xd8a1e681, 0xe7d3fbc8,
   0x21e1cde6, 0xc33707d6, 0xf4d50d87, 0x455a14ed, 0xa9e3e905, 0xfcefa3f8,
   0x676f02d9, 0x8d2a4c8a, 0xfffa3942, 0x8771f681, 0x6d9d6122, 0xfde5380c,
   0xa4beea44, 0x4bdecfa9, 0xf6bb4b60, 0xbebfbc70, 0x289b7ec6, 0xeaa127fa,
   0xd4ef3085, 0x04881d05, 0xd9d4d039, 0xe6db99e5, 0x1fa27cf8, 0xc4ac5665,
   0xf4292244, 0x432aff97, 0xab9423a7, 0xfc93a039, 0x655b59c3, 0x8f0ccc92,
   0xffeff47d, 0x85845dd1, 0x6fa87e4f, 0xfe2ce6e0, 0xa3014314, 0x4e0811a1,
   0xf7537e82, 0xbd3af235, 0x2ad7d2bb, 0xeb86d391]

/-- The distances by which the four steps of a group turn a word, for each round. -/
def turns (round position : Nat) : UInt32 :=
  match round, position with
  | 0, 0 => 7
  | 0, 1 => 12
  | 0, 2 => 17
  | 0, _ => 22
  | 1, 0 => 5
  | 1, 1 => 9
  | 1, 2 => 14
  | 1, _ => 20
  | 2, 0 => 4
  | 2, 1 => 11
  | 2, 2 => 16
  | 2, _ => 23
  | _, 0 => 6
  | _, 1 => 10
  | _, 2 => 15
  | _, _ => 21

/-- The word turned left by a distance. -/
def rotate (w n : UInt32) : UInt32 := (w <<< n) ||| (w >>> (32 - n))

/-- The mixture of three words in a round. -/
def mix (round : Nat) (b c d : UInt32) : UInt32 :=
  match round with
  | 0 => (b &&& c) ||| (~~~b &&& d)
  | 1 => (d &&& b) ||| (~~~d &&& c)
  | 2 => b ^^^ c ^^^ d
  | _ => c ^^^ (b ||| ~~~d)

/-- The word of the block that a step takes. -/
def wordIndex (round step : Nat) : Nat :=
  match round with
  | 0 => step
  | 1 => (5 * step + 1) % 16
  | 2 => (3 * step + 5) % 16
  | _ => (7 * step) % 16

/-- One step on the words, with the words of the block. -/
def step (block : Array UInt32) (w : Words) (i : Nat) : Words :=
  let round := i / 16
  let sum := w.a + mix round w.b w.c w.d + stepConstants.getD i 0
    + block.getD (wordIndex round i) 0
  ⟨w.d, w.b + rotate sum (turns round (i % 4)), w.b, w.c⟩

/-- The four rounds on one block. -/
def addBlock (w : Words) (block : Array UInt32) : Words :=
  w.add ((List.range 64).foldl (step block) w)

/-- The word of four bytes, the lowest first. -/
def wordOf : List UInt8 → UInt32
  | [] => 0
  | byte :: rest => byte.toUInt32 + 256 * wordOf rest

/-- A list cut into pieces of `n`, the last of which may be shorter. -/
def pieces {α : Type} (n : Nat) : Nat → List α → List (List α)
  | 0, _ => []
  | _ + 1, [] => []
  | fuel + 1, x :: rest => ((x :: rest).take n) :: pieces n fuel ((x :: rest).drop n)

/-- The bytes of a number, the lowest first. -/
def bytesOf : Nat → Nat → List UInt8
  | 0, _ => []
  | count + 1, n => n.toUInt8 :: bytesOf count (n / 256)

/-- The input with the mark that ends it, the filling and the number of its bits. -/
def padded (bytes : List UInt8) : List UInt8 :=
  let filling := (119 - bytes.length % 64) % 64
  bytes ++ 0x80 :: (List.replicate filling 0 ++ bytesOf 8 (8 * bytes.length))

/-- The words of the digest of some bytes. -/
def ofBytes (bytes : List UInt8) : Words :=
  let text := padded bytes
  (pieces 64 text.length text).foldl
    (fun w piece => addBlock w ((pieces 4 64 piece).map wordOf).toArray) Words.initial

/-- The two hexadecimal digits of a byte. -/
def byteDigits (byte : UInt8) : List Char :=
  [Nat.digitChar (byte.toNat / 16), Nat.digitChar (byte.toNat % 16)]

/-- The bytes of the digest's words in order. -/
def Words.bytes (w : Words) : List UInt8 :=
  [w.a, w.b, w.c, w.d].flatMap fun x => bytesOf 4 x.toNat

end KeywordCatalog.Digest

namespace KeywordCatalog

/-- The digest of a text's bytes, as hexadecimal digits. -/
def digest (text : String) : String :=
  String.ofList ((Digest.ofBytes text.toUTF8.toList).bytes.flatMap Digest.byteDigits)

end KeywordCatalog
