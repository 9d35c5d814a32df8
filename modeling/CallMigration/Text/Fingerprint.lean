import CallMigration.Text.Slice

/-!
# XXH3 fingerprints

The 64-bit XXH3 digest with seed 0 and the standard key. Short texts have formulas
of their own, for up to 16, 128 and 240 bytes; longer texts are folded stripe by
stripe into eight lanes. All arithmetic is modulo 2^64.
-/

namespace CallMigration.Fingerprint

/-! ## Words and multiplication -/

/-- Byte `i`, zero beyond the end. -/
def byteAt (data : ByteArray) (i : Nat) : UInt64 :=
  if h : i < data.size then data[i].toUInt64 else 0

/-- The little-endian word of `width` bytes at `i`. -/
def word (data : ByteArray) (width i : Nat) : UInt64 :=
  (List.range width).foldr (fun k acc => (acc <<< 8) ||| byteAt data (i + k)) 0

/-- The little-endian 32-bit word at `i`. -/
def word32 (data : ByteArray) (i : Nat) : UInt64 := word data 4 i

/-- The little-endian 64-bit word at `i`. -/
def word64 (data : ByteArray) (i : Nat) : UInt64 := word data 8 i

/-- The low 32 bits. -/
def low (x : UInt64) : UInt64 := x &&& 0xFFFFFFFF

/-- Rotation to the left. -/
def rotate (x : UInt64) (k : UInt64) : UInt64 := (x <<< k) ||| (x >>> (64 - k))

/-- The bytes of a word in reverse. -/
def swapBytes (x : UInt64) : UInt64 :=
  (List.range 8).foldl (fun acc k => (acc <<< 8) ||| ((x >>> (8 * k).toUInt64) &&& 0xFF)) 0

/-- The two halves of the 128-bit product, added without carry. -/
def foldedProduct (x y : UInt64) : UInt64 :=
  let p := x.toNat * y.toNat
  p.toUInt64 ^^^ (p >>> 64).toUInt64

/-! ## Constants -/

def prime32a : UInt64 := 0x9E3779B1
def prime32b : UInt64 := 0x85EBCA77
def prime32c : UInt64 := 0xC2B2AE3D
def prime64a : UInt64 := 0x9E3779B185EBCA87
def prime64b : UInt64 := 0xC2B2AE3D27D4EB4F
def prime64c : UInt64 := 0x165667B19E3779F9
def prime64d : UInt64 := 0x85EBCA77C2B2AE63
def prime64e : UInt64 := 0x27D4EB2F165667C5
def mixPrimeA : UInt64 := 0x165667919E3779F9
def mixPrimeB : UInt64 := 0x9FB21C651E98DF25

/-- The standard key of 192 bytes. -/
def key : ByteArray := ⟨#[
  0xb8, 0xfe, 0x6c, 0x39, 0x23, 0xa4, 0x4b, 0xbe, 0x7c, 0x01, 0x81, 0x2c, 0xf7, 0x21, 0xad, 0x1c,
  0xde, 0xd4, 0x6d, 0xe9, 0x83, 0x90, 0x97, 0xdb, 0x72, 0x40, 0xa4, 0xa4, 0xb7, 0xb3, 0x67, 0x1f,
  0xcb, 0x79, 0xe6, 0x4e, 0xcc, 0xc0, 0xe5, 0x78, 0x82, 0x5a, 0xd0, 0x7d, 0xcc, 0xff, 0x72, 0x21,
  0xb8, 0x08, 0x46, 0x74, 0xf7, 0x43, 0x24, 0x8e, 0xe0, 0x35, 0x90, 0xe6, 0x81, 0x3a, 0x26, 0x4c,
  0x3c, 0x28, 0x52, 0xbb, 0x91, 0xc3, 0x00, 0xcb, 0x88, 0xd0, 0x65, 0x8b, 0x1b, 0x53, 0x2e, 0xa3,
  0x71, 0x64, 0x48, 0x97, 0xa2, 0x0d, 0xf9, 0x4e, 0x38, 0x19, 0xef, 0x46, 0xa9, 0xde, 0xac, 0xd8,
  0xa8, 0xfa, 0x76, 0x3f, 0xe3, 0x9c, 0x34, 0x3f, 0xf9, 0xdc, 0xbb, 0xc7, 0xc7, 0x0b, 0x4f, 0x1d,
  0x8a, 0x51, 0xe0, 0x4b, 0xcd, 0xb4, 0x59, 0x31, 0xc8, 0x9f, 0x7e, 0xc9, 0xd9, 0x78, 0x73, 0x64,
  0xea, 0xc5, 0xac, 0x83, 0x34, 0xd3, 0xeb, 0xc3, 0xc5, 0x81, 0xa0, 0xff, 0xfa, 0x13, 0x63, 0xeb,
  0x17, 0x0d, 0xdd, 0x51, 0xb7, 0xf0, 0xda, 0x49, 0xd3, 0x16, 0x55, 0x26, 0x29, 0xd4, 0x68, 0x9e,
  0x2b, 0x16, 0xbe, 0x58, 0x7d, 0x47, 0xa1, 0xfc, 0x8f, 0xf8, 0xb8, 0xd1, 0x7a, 0xd0, 0x31, 0xce,
  0x45, 0xcb, 0x3a, 0x8f, 0x95, 0x16, 0x04, 0x28, 0xaf, 0xd7, 0xfb, 0xca, 0xbb, 0x4b, 0x40, 0x7e]⟩

/-! ## Final mixing -/

/-- The last step for texts of 9 bytes and more. -/
def avalanche (h : UInt64) : UInt64 :=
  let h := (h ^^^ (h >>> 37)) * mixPrimeA
  h ^^^ (h >>> 32)

/-- The last step for texts of at most 3 bytes. -/
def avalancheShort (h : UInt64) : UInt64 :=
  let h := (h ^^^ (h >>> 33)) * prime64b
  let h := (h ^^^ (h >>> 29)) * prime64c
  h ^^^ (h >>> 32)

/-- The last step for texts of 4 to 8 bytes. -/
def avalancheMiddle (h size : UInt64) : UInt64 :=
  let h := (h ^^^ rotate h 49 ^^^ rotate h 24) * mixPrimeB
  let h := (h ^^^ ((h >>> 35) + size)) * mixPrimeB
  h ^^^ (h >>> 28)

/-- Sixteen bytes of the text against sixteen bytes of the key. -/
def mixPair (data : ByteArray) (i k : Nat) : UInt64 :=
  foldedProduct (word64 data i ^^^ word64 key k) (word64 data (i + 8) ^^^ word64 key (k + 8))

/-! ## Short texts -/

/-- Texts of at most 16 bytes. -/
def digestUpTo16 (data : ByteArray) : UInt64 :=
  let n := data.size
  if n = 0 then
    avalancheShort (word64 key 56 ^^^ word64 key 64)
  else if n ≤ 3 then
    let combined := (byteAt data 0 <<< 16) ||| (byteAt data (n / 2) <<< 24) |||
      byteAt data (n - 1) ||| (n.toUInt64 <<< 8)
    avalancheShort (combined ^^^ (word32 key 0 ^^^ word32 key 4))
  else if n ≤ 8 then
    let joined := word32 data (n - 4) + (word32 data 0 <<< 32)
    avalancheMiddle (joined ^^^ (word64 key 8 ^^^ word64 key 16)) n.toUInt64
  else
    let first := word64 data 0 ^^^ (word64 key 24 ^^^ word64 key 32)
    let last := word64 data (n - 8) ^^^ (word64 key 40 ^^^ word64 key 48)
    avalanche (n.toUInt64 + swapBytes first + last + foldedProduct first last)

/-- Texts of 17 to 128 bytes: pairs from both ends, one more for each 32 bytes. -/
def digestUpTo128 (data : ByteArray) : UInt64 :=
  let n := data.size
  let pairs := (List.range ((n - 1) / 32 + 1)).map fun i =>
    mixPair data (16 * i) (32 * i) + mixPair data (n - 16 * (i + 1)) (32 * i + 16)
  avalanche (pairs.foldl (· + ·) (n.toUInt64 * prime64a))

/-- Texts of 129 to 240 bytes: eight pairs, a mix, the remaining pairs. -/
def digestUpTo240 (data : ByteArray) : UInt64 :=
  let n := data.size
  let head := (List.range 8).foldl (fun acc i => acc + mixPair data (16 * i) (16 * i))
    (n.toUInt64 * prime64a)
  let tail := (List.range (n / 16 - 8)).foldl
    (fun acc i => acc + mixPair data (16 * (i + 8)) (16 * i + 3)) (avalanche head)
  avalanche (tail + mixPair data (n - 16) 119)

/-! ## Long texts -/

/-- The eight accumulators. -/
abbrev Lanes := Vector UInt64 8

/-- The accumulators before the first stripe. -/
def Lanes.start : Lanes :=
  #v[prime32c, prime64a, prime64b, prime64c, prime64d, prime32b, prime64e, prime32a]

/-- Take in the 64 bytes at `i` under the key at `k`. Each lane adds the product
of the halves of its keyed word and the plain word of its neighbour. -/
def Lanes.accumulate (acc : Lanes) (data : ByteArray) (i k : Nat) : Lanes :=
  Vector.ofFn fun lane : Fin 8 =>
    let keyed := word64 data (i + 8 * lane) ^^^ word64 key (k + 8 * lane)
    acc[lane] + word64 data (i + 8 * (lane.val ^^^ 1)) + low keyed * (keyed >>> 32)

/-- Mix the lanes after a block. -/
def Lanes.scramble (acc : Lanes) : Lanes :=
  Vector.ofFn fun lane : Fin 8 =>
    (acc[lane] ^^^ (acc[lane] >>> 47) ^^^ word64 key (128 + 8 * lane)) * prime32a

/-- Take in `count` stripes from `i` on. -/
def Lanes.stripes (acc : Lanes) (data : ByteArray) (i count : Nat) : Lanes :=
  (List.range count).foldl (fun acc n => acc.accumulate data (i + 64 * n) (8 * n)) acc

/-- Fold the lanes into one word. -/
def Lanes.merge (acc : Lanes) (start : UInt64) : UInt64 :=
  avalanche (start +
    foldedProduct (acc[0] ^^^ word64 key 11) (acc[1] ^^^ word64 key 19) +
    foldedProduct (acc[2] ^^^ word64 key 27) (acc[3] ^^^ word64 key 35) +
    foldedProduct (acc[4] ^^^ word64 key 43) (acc[5] ^^^ word64 key 51) +
    foldedProduct (acc[6] ^^^ word64 key 59) (acc[7] ^^^ word64 key 67))

/-- Texts above 240 bytes: blocks of sixteen stripes, the remaining stripes, and
the last 64 bytes once more. -/
def digestLong (data : ByteArray) : UInt64 :=
  let n := data.size
  let blocks := (n - 1) / 1024
  let full := (List.range blocks).foldl
    (fun acc b => (acc.stripes data (1024 * b) 16).scramble) Lanes.start
  let rest := full.stripes data (1024 * blocks) ((n - 1 - 1024 * blocks) / 64)
  (rest.accumulate data (n - 64) 121).merge (n.toUInt64 * prime64a)

/-- The fingerprint of a sequence of bytes. -/
def ofBytes (data : ByteArray) : UInt64 :=
  if data.size ≤ 16 then digestUpTo16 data
  else if data.size ≤ 128 then digestUpTo128 data
  else if data.size ≤ 240 then digestUpTo240 data
  else digestLong data

/-- The fingerprint of a text's UTF-8 bytes. -/
def ofText (text : String) : UInt64 := ofBytes text.toUTF8

end CallMigration.Fingerprint
