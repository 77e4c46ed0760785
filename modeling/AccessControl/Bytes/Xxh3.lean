import AccessControl.Bytes.Hex

/-!
# XXH3, 64 bits

The seedless 64-bit XXH3 hash of a byte sequence. Inputs of up to 16 bytes, up to 128, up to 240
and beyond are hashed by four different rules, each built from 64-bit words read in little-endian
order and combined with words of a fixed secret. `hash` is a pure function of the bytes; how the
bytes were fed does not matter.
-/

namespace AccessControl.Bytes.Xxh3

def secret : Array UInt8 :=
  #[0xb8, 0xfe, 0x6c, 0x39, 0x23, 0xa4, 0x4b, 0xbe, 0x7c, 0x01, 0x81, 0x2c, 0xf7, 0x21, 0xad, 0x1c,
    0xde, 0xd4, 0x6d, 0xe9, 0x83, 0x90, 0x97, 0xdb, 0x72, 0x40, 0xa4, 0xa4, 0xb7, 0xb3, 0x67, 0x1f,
    0xcb, 0x79, 0xe6, 0x4e, 0xcc, 0xc0, 0xe5, 0x78, 0x82, 0x5a, 0xd0, 0x7d, 0xcc, 0xff, 0x72, 0x21,
    0xb8, 0x08, 0x46, 0x74, 0xf7, 0x43, 0x24, 0x8e, 0xe0, 0x35, 0x90, 0xe6, 0x81, 0x3a, 0x26, 0x4c,
    0x3c, 0x28, 0x52, 0xbb, 0x91, 0xc3, 0x00, 0xcb, 0x88, 0xd0, 0x65, 0x8b, 0x1b, 0x53, 0x2e, 0xa3,
    0x71, 0x64, 0x48, 0x97, 0xa2, 0x0d, 0xf9, 0x4e, 0x38, 0x19, 0xef, 0x46, 0xa9, 0xde, 0xac, 0xd8,
    0xa8, 0xfa, 0x76, 0x3f, 0xe3, 0x9c, 0x34, 0x3f, 0xf9, 0xdc, 0xbb, 0xc7, 0xc7, 0x0b, 0x4f, 0x1d,
    0x8a, 0x51, 0xe0, 0x4b, 0xcd, 0xb4, 0x59, 0x31, 0xc8, 0x9f, 0x7e, 0xc9, 0xd9, 0x78, 0x73, 0x64,
    0xea, 0xc5, 0xac, 0x83, 0x34, 0xd3, 0xeb, 0xc3, 0xc5, 0x81, 0xa0, 0xff, 0xfa, 0x13, 0x63, 0xeb,
    0x17, 0x0d, 0xdd, 0x51, 0xb7, 0xf0, 0xda, 0x49, 0xd3, 0x16, 0x55, 0x26, 0x29, 0xd4, 0x68, 0x9e,
    0x2b, 0x16, 0xbe, 0x58, 0x7d, 0x47, 0xa1, 0xfc, 0x8f, 0xf8, 0xb8, 0xd1, 0x7a, 0xd0, 0x31, 0xce,
    0x45, 0xcb, 0x3a, 0x8f, 0x95, 0x16, 0x04, 0x28, 0xaf, 0xd7, 0xfb, 0xca, 0xbb, 0x4b, 0x40, 0x7e]

def prime32a : UInt64 := 0x9E3779B1
def prime32b : UInt64 := 0x85EBCA77
def prime32c : UInt64 := 0xC2B2AE3D
def prime64a : UInt64 := 0x9E3779B185EBCA87
def prime64b : UInt64 := 0xC2B2AE3D27D4EB4F
def prime64c : UInt64 := 0x165667B19E3779F9
def prime64d : UInt64 := 0x85EBCA77C2B2AE63
def prime64e : UInt64 := 0x27D4EB2F165667C5
def primeMix : UInt64 := 0x165667919E3779F9
def primeRrmxmx : UInt64 := 0x9FB21C651E98DF25

/-- The little-endian number in `size` bytes from an offset; bytes behind the end are zero. -/
def readAt (bytes : Array UInt8) (size offset : Nat) : UInt64 :=
  UInt64.ofNat (ofLittleEndian ((List.range size).map fun i => bytes.getD (offset + i) 0))

def word64 (bytes : Array UInt8) (offset : Nat) : UInt64 := readAt bytes 8 offset

def word32 (bytes : Array UInt8) (offset : Nat) : UInt64 := readAt bytes 4 offset

def rotl (x : UInt64) (k : UInt64) : UInt64 :=
  (x <<< k) ||| (x >>> (64 - k))

def swapBytes (x : UInt64) : UInt64 :=
  UInt64.ofNat (ofLittleEndian (littleEndian 8 x.toNat).reverse)

/-- The two halves of the 128-bit product, combined by exclusive or. -/
def foldProduct (x y : UInt64) : UInt64 :=
  let p := x.toNat * y.toNat
  UInt64.ofNat (p % UInt64.size) ^^^ UInt64.ofNat (p / UInt64.size)

def xorShift (x : UInt64) (k : UInt64) : UInt64 := x ^^^ (x >>> k)

def avalanche (h : UInt64) : UInt64 :=
  xorShift (xorShift h 37 * primeMix) 32

def avalanche64 (h : UInt64) : UInt64 :=
  xorShift (xorShift (xorShift h 33 * prime64b) 29 * prime64c) 32

def mix16 (bytes : Array UInt8) (offset secretOffset : Nat) : UInt64 :=
  foldProduct (word64 bytes offset ^^^ word64 secret secretOffset)
    (word64 bytes (offset + 8) ^^^ word64 secret (secretOffset + 8))

/-- One to three bytes. -/
def hashTiny (bytes : Array UInt8) : UInt64 :=
  let n := bytes.size
  let first := (bytes.getD 0 0).toUInt64
  let middle := (bytes.getD (n / 2) 0).toUInt64
  let last := (bytes.getD (n - 1) 0).toUInt64
  let combined := (first <<< 16) ||| (middle <<< 24) ||| last ||| (UInt64.ofNat n <<< 8)
  avalanche64 (combined ^^^ (word32 secret 0 ^^^ word32 secret 4))

/-- Four to eight bytes. -/
def hashSmall (bytes : Array UInt8) : UInt64 :=
  let n := bytes.size
  let flip := word64 secret 8 ^^^ word64 secret 16
  let keyed := (word32 bytes (n - 4) + (word32 bytes 0 <<< 32)) ^^^ flip
  let h := (keyed ^^^ rotl keyed 49 ^^^ rotl keyed 24) * primeRrmxmx
  let h := (h ^^^ ((h >>> 35) + UInt64.ofNat n)) * primeRrmxmx
  xorShift h 28

/-- Nine to sixteen bytes. -/
def hashShort (bytes : Array UInt8) : UInt64 :=
  let n := bytes.size
  let low := word64 bytes 0 ^^^ (word64 secret 24 ^^^ word64 secret 32)
  let high := word64 bytes (n - 8) ^^^ (word64 secret 40 ^^^ word64 secret 48)
  avalanche (UInt64.ofNat n + swapBytes low + high + foldProduct low high)

/-- Seventeen to 128 bytes: pairs of blocks from both ends towards the middle. -/
def hashMedium (bytes : Array UInt8) : UInt64 :=
  let n := bytes.size
  let pairs := (List.range ((n - 1) / 32 + 1)).map fun i =>
    mix16 bytes (16 * i) (32 * i) + mix16 bytes (n - 16 * (i + 1)) (32 * i + 16)
  avalanche (pairs.foldl (· + ·) (UInt64.ofNat n * prime64a))

/-- From 129 to 240 bytes: eight blocks, then the rest with a shifted secret, then the end. -/
def hashLarge (bytes : Array UInt8) : UInt64 :=
  let n := bytes.size
  let front := (List.range 8).map fun i => mix16 bytes (16 * i) (16 * i)
  let start := avalanche (front.foldl (· + ·) (UInt64.ofNat n * prime64a))
  let back := (List.range (n / 16 - 8)).map fun i =>
    mix16 bytes (16 * (i + 8)) (16 * i + 3)
  avalanche (back.foldl (· + ·) start + mix16 bytes (n - 16) 119)

/-- Adds a stripe of 64 bytes to the eight lanes. -/
def accumulate (lanes : List UInt64) (bytes : Array UInt8) (offset secretOffset : Nat) :
    List UInt64 :=
  let input : Nat → UInt64 := fun i => word64 bytes (offset + 8 * i)
  lanes.zipIdx.map fun (lane, i) =>
    let keyed : UInt64 := input i ^^^ word64 secret (secretOffset + 8 * i)
    lane + input (if i % 2 = 0 then i + 1 else i - 1) + (keyed &&& (0xFFFFFFFF : UInt64)) * (keyed >>> 32)

def scramble (lanes : List UInt64) : List UInt64 :=
  lanes.zipIdx.map fun (lane, i) =>
    (xorShift lane 47 ^^^ word64 secret (192 - 64 + 8 * i)) * prime32a

def mergeLanes (lanes : List UInt64) (secretOffset : Nat) (start : UInt64) : UInt64 :=
  let lane : Nat → UInt64 := fun i => lanes.getD i 0
  let parts := (List.range 4).map fun i =>
    foldProduct (lane (2 * i) ^^^ word64 secret (secretOffset + 16 * i))
      (lane (2 * i + 1) ^^^ word64 secret (secretOffset + 16 * i + 8))
  avalanche (parts.foldl (· + ·) start)

/-- More than 240 bytes: blocks of sixteen stripes, the last stripe ending where the input ends. -/
def hashLong (bytes : Array UInt8) : UInt64 :=
  let n := bytes.size
  let stripes := (n - 1) / 64
  let start := [prime32c, prime64a, prime64b, prime64c, prime64d, prime32b, prime64e, prime32a]
  let lanes := (List.range stripes).foldl (fun lanes i =>
    let lanes := accumulate lanes bytes (64 * i) (8 * (i % 16))
    if i % 16 = 15 then scramble lanes else lanes) start
  let lanes := accumulate lanes bytes (n - 64) (192 - 64 - 7)
  mergeLanes lanes 11 (UInt64.ofNat n * prime64a)

def hash (input : List UInt8) : UInt64 :=
  let bytes := input.toArray
  let n := bytes.size
  if n = 0 then avalanche64 (word64 secret 56 ^^^ word64 secret 64)
  else if n ≤ 3 then hashTiny bytes
  else if n ≤ 8 then hashSmall bytes
  else if n ≤ 16 then hashShort bytes
  else if n ≤ 128 then hashMedium bytes
  else if n ≤ 240 then hashLarge bytes
  else hashLong bytes

end AccessControl.Bytes.Xxh3
