/-! # Digests

A 64-bit digest of a text: XXH3 over its UTF-8 bytes, without a seed and with the
secret that the algorithm comes with. Short inputs are mixed at once, each range of
lengths in its own way; long inputs go through eight lanes, stripe by stripe.
-/

namespace Emend.Digest

/-- The bytes that inputs are mixed with. -/
def secret : ByteArray := ⟨#[
  0xB8, 0xFE, 0x6C, 0x39, 0x23, 0xA4, 0x4B, 0xBE, 0x7C, 0x01, 0x81, 0x2C, 0xF7, 0x21,
  0xAD, 0x1C, 0xDE, 0xD4, 0x6D, 0xE9, 0x83, 0x90, 0x97, 0xDB, 0x72, 0x40, 0xA4, 0xA4,
  0xB7, 0xB3, 0x67, 0x1F, 0xCB, 0x79, 0xE6, 0x4E, 0xCC, 0xC0, 0xE5, 0x78, 0x82, 0x5A,
  0xD0, 0x7D, 0xCC, 0xFF, 0x72, 0x21, 0xB8, 0x08, 0x46, 0x74, 0xF7, 0x43, 0x24, 0x8E,
  0xE0, 0x35, 0x90, 0xE6, 0x81, 0x3A, 0x26, 0x4C, 0x3C, 0x28, 0x52, 0xBB, 0x91, 0xC3,
  0x00, 0xCB, 0x88, 0xD0, 0x65, 0x8B, 0x1B, 0x53, 0x2E, 0xA3, 0x71, 0x64, 0x48, 0x97,
  0xA2, 0x0D, 0xF9, 0x4E, 0x38, 0x19, 0xEF, 0x46, 0xA9, 0xDE, 0xAC, 0xD8, 0xA8, 0xFA,
  0x76, 0x3F, 0xE3, 0x9C, 0x34, 0x3F, 0xF9, 0xDC, 0xBB, 0xC7, 0xC7, 0x0B, 0x4F, 0x1D,
  0x8A, 0x51, 0xE0, 0x4B, 0xCD, 0xB4, 0x59, 0x31, 0xC8, 0x9F, 0x7E, 0xC9, 0xD9, 0x78,
  0x73, 0x64, 0xEA, 0xC5, 0xAC, 0x83, 0x34, 0xD3, 0xEB, 0xC3, 0xC5, 0x81, 0xA0, 0xFF,
  0xFA, 0x13, 0x63, 0xEB, 0x17, 0x0D, 0xDD, 0x51, 0xB7, 0xF0, 0xDA, 0x49, 0xD3, 0x16,
  0x55, 0x26, 0x29, 0xD4, 0x68, 0x9E, 0x2B, 0x16, 0xBE, 0x58, 0x7D, 0x47, 0xA1, 0xFC,
  0x8F, 0xF8, 0xB8, 0xD1, 0x7A, 0xD0, 0x31, 0xCE, 0x45, 0xCB, 0x3A, 0x8F, 0x95, 0x16,
  0x04, 0x28, 0xAF, 0xD7, 0xFB, 0xCA, 0xBB, 0x4B, 0x40, 0x7E]⟩

def prime32A : UInt64 := 0x9E3779B1

def prime32B : UInt64 := 0x85EBCA77

def prime32C : UInt64 := 0xC2B2AE3D

def prime64A : UInt64 := 0x9E3779B185EBCA87

def prime64B : UInt64 := 0xC2B2AE3D27D4EB4F

def prime64C : UInt64 := 0x165667B19E3779F9

def prime64D : UInt64 := 0x85EBCA77C2B2AE63

def prime64E : UInt64 := 0x27D4EB2F165667C5

/-- The byte at an index, zero behind the end. -/
def byte (bytes : ByteArray) (i : Nat) : UInt64 :=
  if h : i < bytes.size then (bytes[i]).toUInt64 else 0

/-- The number in `count` bytes from an index on, lowest byte first. -/
def word (bytes : ByteArray) (i : Nat) : (count : Nat) → UInt64
  | 0 => 0
  | count + 1 => byte bytes i ||| (word bytes (i + 1) count <<< 8)

def word32 (bytes : ByteArray) (i : Nat) : UInt64 := word bytes i 4

def word64 (bytes : ByteArray) (i : Nat) : UInt64 := word bytes i 8

def rotate (x : UInt64) (n : UInt64) : UInt64 := (x <<< n) ||| (x >>> (64 - n))

def swapBytes (x : UInt64) : UInt64 :=
  (List.range 8).foldl
    (fun (acc : UInt64) i => (acc <<< 8) ||| ((x >>> (8 * i.toUInt64)) &&& 0xFF)) 0

/-- The two halves of a product, one laid over the other. -/
def fold (a b : UInt64) : UInt64 :=
  let product := a.toNat * b.toNat
  product.toUInt64 ^^^ (product >>> 64).toUInt64

/-- A word with its upper bits laid over the lower ones. -/
def shiftOver (x : UInt64) (n : UInt64) : UInt64 := x ^^^ (x >>> n)

/-- The last step for all but the shortest inputs. -/
def finish (x : UInt64) : UInt64 :=
  shiftOver (shiftOver x 37 * 0x165667919E3779F9) 32

/-- The last step for inputs of up to three bytes. -/
def finishShort (x : UInt64) : UInt64 :=
  shiftOver (shiftOver (shiftOver x 33 * prime64B) 29 * prime64C) 32

/-- The last step for inputs of four to eight bytes. -/
def finishWord (x : UInt64) (size : UInt64) : UInt64 :=
  let x := (x ^^^ rotate x 49 ^^^ rotate x 24) * 0x9FB21C651E98DF25
  let x := (x ^^^ ((x >>> 35) + size)) * 0x9FB21C651E98DF25
  shiftOver x 28

/-- Mixes sixteen bytes with sixteen bytes of the secret. -/
def mix (bytes : ByteArray) (i key : Nat) : UInt64 :=
  fold (word64 bytes i ^^^ word64 secret key) (word64 bytes (i + 8) ^^^ word64 secret (key + 8))

/-- The digest of up to sixteen bytes. -/
def ofShort (bytes : ByteArray) : UInt64 :=
  let n := bytes.size
  let size := n.toUInt64
  if n = 0 then finishShort (word64 secret 56 ^^^ word64 secret 64)
  else if n ≤ 3 then
    let combined := (byte bytes 0 <<< 16) ||| (byte bytes (n / 2) <<< 24)
      ||| byte bytes (n - 1) ||| (size <<< 8)
    finishShort (combined ^^^ (word32 secret 0 ^^^ word32 secret 4))
  else if n ≤ 8 then
    let key := word64 secret 8 ^^^ word64 secret 16
    finishWord ((word32 bytes (n - 4) + (word32 bytes 0 <<< 32)) ^^^ key) size
  else
    let low := word64 bytes 0 ^^^ (word64 secret 24 ^^^ word64 secret 32)
    let high := word64 bytes (n - 8) ^^^ (word64 secret 40 ^^^ word64 secret 48)
    finish (size + swapBytes low + high + fold low high)

/-- The digest of seventeen to 128 bytes: pairs of blocks from both ends. -/
def ofMedium (bytes : ByteArray) : UInt64 :=
  let n := bytes.size
  let pairs := (n - 1) / 32 + 1
  let mixed := (List.range pairs).foldl
    (fun acc i => acc + mix bytes (16 * i) (32 * i) + mix bytes (n - 16 * (i + 1)) (32 * i + 16))
    (n.toUInt64 * prime64A)
  finish mixed

/-- The digest of 129 to 240 bytes: all blocks in order, and the last sixteen bytes. -/
def ofLarge (bytes : ByteArray) : UInt64 :=
  let n := bytes.size
  let first := (List.range 8).foldl (fun acc i => acc + mix bytes (16 * i) (16 * i))
    (n.toUInt64 * prime64A)
  let rest := (List.range (n / 16 - 8)).foldl
    (fun acc i => acc + mix bytes (16 * (i + 8)) (16 * i + 3)) (finish first)
  finish (rest + mix bytes (n - 16) 119)

/-- The lanes before the first stripe. -/
def lanes : List UInt64 :=
  [prime32C, prime64A, prime64B, prime64C, prime64D, prime32B, prime64E, prime32A]

/-- The product of the two halves of a word laid over its key. -/
def scatter (x key : UInt64) : UInt64 :=
  ((x ^^^ key) &&& (0xFFFFFFFF : UInt64)) * ((x ^^^ key) >>> 32)

/-- Mixes a stripe into the lanes, two at a time: each lane takes the word of the other. -/
def mixStripe (bytes : ByteArray) (i key : Nat) : List UInt64 → List UInt64
  | a :: b :: rest =>
      let x := word64 bytes i
      let y := word64 bytes (i + 8)
      (a + y + scatter x (word64 secret key)) :: (b + x + scatter y (word64 secret (key + 8)))
        :: mixStripe bytes (i + 16) (key + 16) rest
  | rest => rest

/-- Mixes the lanes with the end of the secret after each block of sixteen stripes. -/
def scramble (key : Nat) : List UInt64 → List UInt64
  | [] => []
  | a :: rest => (shiftOver a 47 ^^^ word64 secret key) * prime32A :: scramble (key + 8) rest

/-- Mixes `count` stripes into the lanes. -/
def mixStripes (bytes : ByteArray) (start count : Nat) (acc : List UInt64) : List UInt64 :=
  (List.range count).foldl (fun acc i => mixStripe bytes (start + 64 * i) (8 * i) acc) acc

/-- Brings the lanes together, two at a time. -/
def merge (key : Nat) : List UInt64 → UInt64
  | a :: b :: rest =>
      fold (a ^^^ word64 secret key) (b ^^^ word64 secret (key + 8)) + merge (key + 16) rest
  | _ => 0

/-- The digest of more than 240 bytes. -/
def ofLong (bytes : ByteArray) : UInt64 :=
  let n := bytes.size
  let blocks := (n - 1) / 1024
  let full := (List.range blocks).foldl
    (fun acc i => scramble 128 (mixStripes bytes (1024 * i) 16 acc)) lanes
  let last := mixStripes bytes (1024 * blocks) ((n - 1 - 1024 * blocks) / 64) full
  finish (n.toUInt64 * prime64A + merge 11 (mixStripe bytes (n - 64) 121 last))

def ofBytes (bytes : ByteArray) : UInt64 :=
  if bytes.size ≤ 16 then ofShort bytes
  else if bytes.size ≤ 128 then ofMedium bytes
  else if bytes.size ≤ 240 then ofLarge bytes
  else ofLong bytes

/-- The digest of a text as sixteen hexadecimal digits. -/
def hex (text : String) : String :=
  let digits := Nat.toDigits 16 (ofBytes text.toUTF8).toNat
  String.ofList (List.replicate (16 - digits.length) '0' ++ digits)

end Emend.Digest
