/-!
# The SHA-256 digest

* `padding`    a message filled up to whole blocks of 64 bytes, with its length at the end;
* `compress`   one block worked into the eight words of the state;
* `sha256`     the digest of a message, in hexadecimal.
-/

namespace Archetype.Text.Digest

/-- the words of the state before the first block -/
def initial : List UInt32 :=
  [0x6a09e667, 0xbb67ae85, 0x3c6ef372, 0xa54ff53a, 0x510e527f, 0x9b05688c, 0x1f83d9ab, 0x5be0cd19]

/-- the constants of the 64 rounds -/
def constants : List UInt32 :=
  [0x428a2f98, 0x71374491, 0xb5c0fbcf, 0xe9b5dba5, 0x3956c25b, 0x59f111f1, 0x923f82a4, 0xab1c5ed5,
    0xd807aa98, 0x12835b01, 0x243185be, 0x550c7dc3, 0x72be5d74, 0x80deb1fe, 0x9bdc06a7, 0xc19bf174,
    0xe49b69c1, 0xefbe4786, 0x0fc19dc6, 0x240ca1cc, 0x2de92c6f, 0x4a7484aa, 0x5cb0a9dc, 0x76f988da,
    0x983e5152, 0xa831c66d, 0xb00327c8, 0xbf597fc7, 0xc6e00bf3, 0xd5a79147, 0x06ca6351, 0x14292967,
    0x27b70a85, 0x2e1b2138, 0x4d2c6dfc, 0x53380d13, 0x650a7354, 0x766a0abb, 0x81c2c92e, 0x92722c85,
    0xa2bfe8a1, 0xa81a664b, 0xc24b8b70, 0xc76c51a3, 0xd192e819, 0xd6990624, 0xf40e3585, 0x106aa070,
    0x19a4c116, 0x1e376c08, 0x2748774c, 0x34b0bcb5, 0x391c0cb3, 0x4ed8aa4a, 0x5b9cca4f, 0x682e6ff3,
    0x748f82ee, 0x78a5636f, 0x84c87814, 0x8cc70208, 0x90befffa, 0xa4506ceb, 0xbef9a3f7, 0xc67178f2]

/-- a word turned right by `k` bits -/
def rotate (x : UInt32) (k : UInt32) : UInt32 := (x >>> k) ||| (x <<< (32 - k))

/-- the word of four bytes, the highest first -/
def word (a b c d : UInt8) : UInt32 :=
  (a.toUInt32 <<< 24) ||| (b.toUInt32 <<< 16) ||| (c.toUInt32 <<< 8) ||| d.toUInt32

/-- the words of a row of bytes -/
def words : List UInt8 → List UInt32
  | a :: b :: c :: d :: rest => word a b c d :: words rest
  | _ => []

/-- the last `width` bytes of a number, the highest first -/
def bytesOf : (width n : Nat) → List UInt8
  | 0, _ => []
  | width + 1, n => bytesOf width (n / 256) ++ [(n % 256).toUInt8]

/-- the message, a one bit, zeros up to eight bytes before the end of a block, and its length in
bits -/
def padding (message : List UInt8) : List UInt8 :=
  let n := message.length
  message ++ 0x80 :: List.replicate ((119 - n % 64) % 64) 0 ++ bytesOf 8 (8 * n)

/-- the next word of the schedule; `w` holds the sixteen words before it, the latest first -/
def nextWord (w : List UInt32) : UInt32 :=
  let w2 := w.getD 1 0
  let w7 := w.getD 6 0
  let w15 := w.getD 14 0
  let w16 := w.getD 15 0
  let s0 := rotate w15 7 ^^^ rotate w15 18 ^^^ (w15 >>> 3)
  let s1 := rotate w2 17 ^^^ rotate w2 19 ^^^ (w2 >>> 10)
  w16 + s0 + w7 + s1

/-- the schedule of a block, the latest word first, with `more` words to come -/
def schedule : (more : Nat) → List UInt32 → List UInt32
  | 0, w => w
  | more + 1, w => schedule more (nextWord w :: w)

/-- one round -/
def round (s : List UInt32) (kw : UInt32 × UInt32) : List UInt32 :=
  match s with
  | [a, b, c, d, e, f, g, h] =>
    let s1 := rotate e 6 ^^^ rotate e 11 ^^^ rotate e 25
    let ch := (e &&& f) ^^^ ((~~~ e) &&& g)
    let t1 := h + s1 + ch + kw.1 + kw.2
    let s0 := rotate a 2 ^^^ rotate a 13 ^^^ rotate a 22
    let maj := (a &&& b) ^^^ (a &&& c) ^^^ (b &&& c)
    [t1 + (s0 + maj), a, b, c, d + t1, e, f, g]
  | _ => s

/-- works one block of sixteen words into the state -/
def compress (s : List UInt32) (block : List UInt32) : List UInt32 :=
  let w := (schedule 48 block.reverse).reverse
  List.zipWith (· + ·) s ((constants.zip w).foldl round s)

/-- works whole blocks into the state -/
def blocks (s : List UInt32) : (count : Nat) → List UInt32 → List UInt32
  | 0, _ => s
  | count + 1, ws => blocks (compress s (ws.take 16)) count (ws.drop 16)

/-- a digit below sixteen in hexadecimal -/
def digit (n : Nat) : Char := Char.ofNat (if n < 10 then 48 + n else 87 + n)

/-- a word as eight hexadecimal digits -/
def wordText (x : UInt32) : List Char :=
  (bytesOf 4 x.toNat).flatMap fun b => [digit (b.toNat / 16), digit (b.toNat % 16)]

/-- the digest of a message -/
def sha256 (message : List UInt8) : String :=
  let ws := words (padding message)
  String.ofList ((blocks initial (ws.length / 16) ws).flatMap wordText)

end Archetype.Text.Digest
