import SourcePatch.Text.Utf8

/-!
# XXH3

The 64-bit hash XXH3 with seed zero and the default secret. Texts are hashed by one of seven
rules, chosen by their length: nothing, up to 3 octets, up to 8, up to 16, up to 128, up to 240,
and stripes of 64 octets beyond that. All arithmetic wraps at 64 bits.
-/

namespace SourcePatch.Xxh3

/-- The default secret. -/
def secret : Array UInt8 := #[
  0xb8, 0xfe, 0x6c, 0x39, 0x23, 0xa4, 0x4b, 0xbe, 0x7c, 0x01, 0x81, 0x2c,
  0xf7, 0x21, 0xad, 0x1c, 0xde, 0xd4, 0x6d, 0xe9, 0x83, 0x90, 0x97, 0xdb,
  0x72, 0x40, 0xa4, 0xa4, 0xb7, 0xb3, 0x67, 0x1f, 0xcb, 0x79, 0xe6, 0x4e,
  0xcc, 0xc0, 0xe5, 0x78, 0x82, 0x5a, 0xd0, 0x7d, 0xcc, 0xff, 0x72, 0x21,
  0xb8, 0x08, 0x46, 0x74, 0xf7, 0x43, 0x24, 0x8e, 0xe0, 0x35, 0x90, 0xe6,
  0x81, 0x3a, 0x26, 0x4c, 0x3c, 0x28, 0x52, 0xbb, 0x91, 0xc3, 0x00, 0xcb,
  0x88, 0xd0, 0x65, 0x8b, 0x1b, 0x53, 0x2e, 0xa3, 0x71, 0x64, 0x48, 0x97,
  0xa2, 0x0d, 0xf9, 0x4e, 0x38, 0x19, 0xef, 0x46, 0xa9, 0xde, 0xac, 0xd8,
  0xa8, 0xfa, 0x76, 0x3f, 0xe3, 0x9c, 0x34, 0x3f, 0xf9, 0xdc, 0xbb, 0xc7,
  0xc7, 0x0b, 0x4f, 0x1d, 0x8a, 0x51, 0xe0, 0x4b, 0xcd, 0xb4, 0x59, 0x31,
  0xc8, 0x9f, 0x7e, 0xc9, 0xd9, 0x78, 0x73, 0x64, 0xea, 0xc5, 0xac, 0x83,
  0x34, 0xd3, 0xeb, 0xc3, 0xc5, 0x81, 0xa0, 0xff, 0xfa, 0x13, 0x63, 0xeb,
  0x17, 0x0d, 0xdd, 0x51, 0xb7, 0xf0, 0xda, 0x49, 0xd3, 0x16, 0x55, 0x26,
  0x29, 0xd4, 0x68, 0x9e, 0x2b, 0x16, 0xbe, 0x58, 0x7d, 0x47, 0xa1, 0xfc,
  0x8f, 0xf8, 0xb8, 0xd1, 0x7a, 0xd0, 0x31, 0xce, 0x45, 0xcb, 0x3a, 0x8f,
  0x95, 0x16, 0x04, 0x28, 0xaf, 0xd7, 0xfb, 0xca, 0xbb, 0x4b, 0x40, 0x7e]

def prime32A : UInt64 := 0x9E3779B1
def prime32B : UInt64 := 0x85EBCA77
def prime32C : UInt64 := 0xC2B2AE3D
def prime64A : UInt64 := 0x9E3779B185EBCA87
def prime64B : UInt64 := 0xC2B2AE3D27D4EB4F
def prime64C : UInt64 := 0x165667B19E3779F9
def prime64D : UInt64 := 0x85EBCA77C2B2AE63
def prime64E : UInt64 := 0x27D4EB2F165667C5
def primeMixA : UInt64 := 0x165667919E3779F9
def primeMixB : UInt64 := 0x9FB21C651E98DF25

/-- The number that `count` octets from position `i` on spell, lowest octet first. -/
def readLow (data : Array UInt8) (i : Nat) : (count : Nat) → UInt64
  | 0 => 0
  | count + 1 => (data.getD i 0).toUInt64 ||| readLow data (i + 1) count <<< 8

def read32 (data : Array UInt8) (i : Nat) : UInt64 := readLow data i 4

def read64 (data : Array UInt8) (i : Nat) : UInt64 := readLow data i 8

def rotateLeft (x n : UInt64) : UInt64 := x <<< n ||| x >>> (64 - n)

/-- The octets of a word in reverse order. -/
def swapOctets (x : UInt64) : UInt64 :=
  (List.range 8).foldl (fun acc i => acc <<< 8 ||| (x >>> (8 * UInt64.ofNat i) &&& (0xFF : UInt64))) 0

/-- The upper and the lower half of the full product, combined. -/
def foldProduct (a b : UInt64) : UInt64 :=
  let product := a.toNat * b.toNat
  UInt64.ofNat product ^^^ UInt64.ofNat (product >>> 64)

def shiftXor (x n : UInt64) : UInt64 := x ^^^ x >>> n

def avalanche (x : UInt64) : UInt64 := shiftXor (shiftXor x 37 * primeMixA) 32

/-- The closing step of texts of up to three octets. -/
def avalancheShort (x : UInt64) : UInt64 :=
  shiftXor (shiftXor (shiftXor x 33 * prime64B) 29 * prime64C) 32

/-- The closing step of texts of four to eight octets. -/
def mixRotations (x length : UInt64) : UInt64 :=
  let x := (x ^^^ rotateLeft x 49 ^^^ rotateLeft x 24) * primeMixB
  let x := (x ^^^ (x >>> 35 + length)) * primeMixB
  shiftXor x 28

/-! ## Up to 16 octets -/

def hashEmpty : UInt64 := avalancheShort (read64 secret 56 ^^^ read64 secret 64)

def hashTo3 (data : Array UInt8) : UInt64 :=
  let octet (i : Nat) : UInt64 := (data.getD i 0).toUInt64
  let n := data.size
  let combined := octet 0 <<< 16 ||| octet (n / 2) <<< 24 ||| octet (n - 1)
    ||| UInt64.ofNat n <<< 8
  avalancheShort (combined ^^^ (read32 secret 0 ^^^ read32 secret 4))

def hashTo8 (data : Array UInt8) : UInt64 :=
  let n := data.size
  let word := read32 data (n - 4) + read32 data 0 <<< 32
  mixRotations (word ^^^ (read64 secret 8 ^^^ read64 secret 16)) (UInt64.ofNat n)

def hashTo16 (data : Array UInt8) : UInt64 :=
  let n := data.size
  let low := read64 data 0 ^^^ (read64 secret 24 ^^^ read64 secret 32)
  let high := read64 data (n - 8) ^^^ (read64 secret 40 ^^^ read64 secret 48)
  avalanche (UInt64.ofNat n + swapOctets low + high + foldProduct low high)

/-! ## Up to 240 octets -/

/-- Mixes 16 octets of the text with 16 octets of the secret. -/
def mix16 (data : Array UInt8) (i s : Nat) : UInt64 :=
  foldProduct (read64 data i ^^^ read64 secret s) (read64 data (i + 8) ^^^ read64 secret (s + 8))

/-- Mixes pairs of pieces, one from each end of the text. -/
def hashTo128 (data : Array UInt8) : UInt64 :=
  let n := data.size
  let pairs := (n - 1) / 32 + 1
  avalanche <| (List.range pairs).foldl
    (fun acc i => acc + mix16 data (16 * i) (32 * i) + mix16 data (n - 16 * (i + 1)) (32 * i + 16))
    (UInt64.ofNat n * prime64A)

def hashTo240 (data : Array UInt8) : UInt64 :=
  let n := data.size
  let acc := (List.range 8).foldl (fun acc i => acc + mix16 data (16 * i) (16 * i))
    (UInt64.ofNat n * prime64A)
  let acc := (List.range (n / 16 - 8)).foldl
    (fun acc i => acc + mix16 data (16 * (i + 8)) (16 * i + 3)) (avalanche acc)
  avalanche (acc + mix16 data (n - 16) 119)

/-! ## Longer texts -/

/-- Eight running sums. -/
abbrev Lanes := Array UInt64

def initialLanes : Lanes :=
  #[prime32C, prime64A, prime64B, prime64C, prime64D, prime32B, prime64E, prime32A]

/-- Adds a stripe of 64 octets: each lane takes the product of the halves of its word, and the
neighbour's word. -/
def addStripe (data : Array UInt8) (i s : Nat) (lanes : Lanes) : Lanes :=
  lanes.mapIdx fun lane acc =>
    let neighbour := read64 data (i + 8 * (lane ^^^ 1))
    let key := read64 data (i + 8 * lane) ^^^ read64 secret (s + 8 * lane)
    acc + neighbour + (key &&& (0xFFFFFFFF : UInt64)) * (key >>> 32)

def scramble (lanes : Lanes) : Lanes :=
  lanes.mapIdx fun lane acc =>
    (shiftXor acc 47 ^^^ read64 secret (128 + 8 * lane)) * prime32A

/-- Adds consecutive stripes that begin at octet `i`. -/
def addStripes (data : Array UInt8) (i count : Nat) (lanes : Lanes) : Lanes :=
  (List.range count).foldl (fun lanes k => addStripe data (i + 64 * k) (8 * k) lanes) lanes

def mergeLanes (lanes : Lanes) (start : UInt64) : UInt64 :=
  avalanche <| (List.range 4).foldl (fun acc i =>
    acc + foldProduct (lanes.getD (2 * i) 0 ^^^ read64 secret (11 + 16 * i))
      (lanes.getD (2 * i + 1) 0 ^^^ read64 secret (19 + 16 * i))) start

def hashLong (data : Array UInt8) : UInt64 :=
  let n := data.size
  let blocks := (n - 1) / 1024
  let lanes := (List.range blocks).foldl
    (fun lanes b => scramble (addStripes data (1024 * b) 16 lanes)) initialLanes
  let lanes := addStripes data (1024 * blocks) ((n - 1 - 1024 * blocks) / 64) lanes
  mergeLanes (addStripe data (n - 64) 121 lanes) (UInt64.ofNat n * prime64A)

/-- The hash of some octets. -/
def hash (bytes : Bytes) : UInt64 :=
  let data := bytes.toArray
  let n := data.size
  if n = 0 then hashEmpty
  else if n ≤ 3 then hashTo3 data
  else if n ≤ 8 then hashTo8 data
  else if n ≤ 16 then hashTo16 data
  else if n ≤ 128 then hashTo128 data
  else if n ≤ 240 then hashTo240 data
  else hashLong data

end SourcePatch.Xxh3
