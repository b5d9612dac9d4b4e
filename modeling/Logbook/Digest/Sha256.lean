/-!
# The SHA-256 digest

The bytes are padded to blocks of sixteen words; each block is spread over a schedule of 64 words,
which 64 rounds mix into the state; the digest is the state after the last block.
-/

namespace Logbook.Digest

/-- The constants of the 64 rounds: the first fractional bits of the cube roots of primes. -/
def roundConstants : List UInt32 := [
  0x428A2F98, 0x71374491, 0xB5C0FBCF, 0xE9B5DBA5, 0x3956C25B, 0x59F111F1, 0x923F82A4, 0xAB1C5ED5,
  0xD807AA98, 0x12835B01, 0x243185BE, 0x550C7DC3, 0x72BE5D74, 0x80DEB1FE, 0x9BDC06A7, 0xC19BF174,
  0xE49B69C1, 0xEFBE4786, 0x0FC19DC6, 0x240CA1CC, 0x2DE92C6F, 0x4A7484AA, 0x5CB0A9DC, 0x76F988DA,
  0x983E5152, 0xA831C66D, 0xB00327C8, 0xBF597FC7, 0xC6E00BF3, 0xD5A79147, 0x06CA6351, 0x14292967,
  0x27B70A85, 0x2E1B2138, 0x4D2C6DFC, 0x53380D13, 0x650A7354, 0x766A0ABB, 0x81C2C92E, 0x92722C85,
  0xA2BFE8A1, 0xA81A664B, 0xC24B8B70, 0xC76C51A3, 0xD192E819, 0xD6990624, 0xF40E3585, 0x106AA070,
  0x19A4C116, 0x1E376C08, 0x2748774C, 0x34B0BCB5, 0x391C0CB3, 0x4ED8AA4A, 0x5B9CCA4F, 0x682E6FF3,
  0x748F82EE, 0x78A5636F, 0x84C87814, 0x8CC70208, 0x90BEFFFA, 0xA4506CEB, 0xBEF9A3F7, 0xC67178F2]

/-- The state before the first block: the first fractional bits of the square roots of primes. -/
def initialState : List UInt32 := [
  0x6A09E667, 0xBB67AE85, 0x3C6EF372, 0xA54FF53A, 0x510E527F, 0x9B05688C, 0x1F83D9AB, 0x5BE0CD19]

/-- A word rotated to the right. -/
def rotate (x : UInt32) (k : UInt32) : UInt32 :=
  (x >>> k) ||| (x <<< (32 - k))

/-- The bytes of a number, most significant first. -/
def bytesOf (width n : Nat) : List UInt8 :=
  (List.range width).map fun i => UInt8.ofNat (n / Nat.pow 256 (width - 1 - i))

/-- The word of four bytes, most significant first. -/
def wordOf (a b c d : UInt8) : UInt32 :=
  (a.toUInt32 <<< 24) ||| (b.toUInt32 <<< 16) ||| (c.toUInt32 <<< 8) ||| d.toUInt32

/-- The words of bytes, four to a word. -/
def wordsOf : List UInt8 → List UInt32
  | a :: b :: c :: d :: r => wordOf a b c d :: wordsOf r
  | _ => []

/-- The bytes with a one bit, zeros and their length in bits behind them, as a multiple of 64. -/
def padded (bs : List UInt8) : List UInt8 :=
  bs ++ 0x80 :: List.replicate ((119 - bs.length % 64) % 64) 0 ++ bytesOf 8 (8 * bs.length)

/-- The next word of a schedule whose words so far are given latest first. -/
def nextWord (latest : List UInt32) : UInt32 :=
  let word (i : Nat) := latest.getD (i - 1) 0
  let x := word 15
  let y := word 2
  let s0 := rotate x 7 ^^^ rotate x 18 ^^^ (x >>> 3)
  let s1 := rotate y 17 ^^^ rotate y 19 ^^^ (y >>> 10)
  word 16 + s0 + word 7 + s1

/-- The schedule of a block, in order. -/
def schedule (block : List UInt32) : List UInt32 :=
  (Nat.repeat (fun latest => nextWord latest :: latest) 48 block.reverse).reverse

/-- One round on the eight words of the state. -/
def round (state : List UInt32) (constant word : UInt32) : List UInt32 :=
  match state with
  | [a, b, c, d, e, f, g, h] =>
    let t1 := h + (rotate e 6 ^^^ rotate e 11 ^^^ rotate e 25) + ((e &&& f) ^^^ (~~~e &&& g)) +
      constant + word
    let t2 := (rotate a 2 ^^^ rotate a 13 ^^^ rotate a 22) +
      ((a &&& b) ^^^ (a &&& c) ^^^ (b &&& c))
    [t1 + t2, a, b, c, d + t1, e, f, g]
  | _ => state

/-- The state after one more block. -/
def compress (state block : List UInt32) : List UInt32 :=
  let mixed := (roundConstants.zip (schedule block)).foldl (fun s p => round s p.1 p.2) state
  List.zipWith (· + ·) state mixed

/-- The state after `n` blocks of sixteen words. -/
def absorb : Nat → List UInt32 → List UInt32 → List UInt32
  | 0, state, _ => state
  | n + 1, state, words => absorb n (compress state (words.take 16)) (words.drop 16)

/-- The digest of bytes as eight words. -/
def sha256 (bs : List UInt8) : List UInt32 :=
  let words := wordsOf (padded bs)
  absorb (words.length / 16) initialState words

/-- The eight hexadecimal digits of a word. -/
def hexWord (w : UInt32) : List Char :=
  (List.range 8).map fun i => Nat.digitChar (w.toNat / Nat.pow 16 (7 - i) % 16)

/-- The digest of bytes as 64 hexadecimal digits. -/
def sha256Hex (bs : List UInt8) : List Char :=
  (sha256 bs).flatMap hexWord

end Logbook.Digest
