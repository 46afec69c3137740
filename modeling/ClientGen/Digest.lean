/-!
# The SHA-256 digest of a text

The digest is computed on lists of 32-bit words, block by block.

## Main definitions

* `Digest.sha256` — the digest of some bytes, as eight words.
* `Digest.ofText` — the digest of the UTF-8 form of a text, as 64 hexadecimal digits.
-/

set_option autoImplicit false

namespace ClientGen.Digest

/-! ## Words and blocks -/

/-- A word rotated to the right. -/
def rotate (x : UInt32) (n : UInt32) : UInt32 := (x >>> n) ||| (x <<< (32 - n))

/-- The round constants. -/
def roundConstants : List UInt32 := [
  0x428a2f98, 0x71374491, 0xb5c0fbcf, 0xe9b5dba5, 0x3956c25b, 0x59f111f1, 0x923f82a4, 0xab1c5ed5,
  0xd807aa98, 0x12835b01, 0x243185be, 0x550c7dc3, 0x72be5d74, 0x80deb1fe, 0x9bdc06a7, 0xc19bf174,
  0xe49b69c1, 0xefbe4786, 0x0fc19dc6, 0x240ca1cc, 0x2de92c6f, 0x4a7484aa, 0x5cb0a9dc, 0x76f988da,
  0x983e5152, 0xa831c66d, 0xb00327c8, 0xbf597fc7, 0xc6e00bf3, 0xd5a79147, 0x06ca6351, 0x14292967,
  0x27b70a85, 0x2e1b2138, 0x4d2c6dfc, 0x53380d13, 0x650a7354, 0x766a0abb, 0x81c2c92e, 0x92722c85,
  0xa2bfe8a1, 0xa81a664b, 0xc24b8b70, 0xc76c51a3, 0xd192e819, 0xd6990624, 0xf40e3585, 0x106aa070,
  0x19a4c116, 0x1e376c08, 0x2748774c, 0x34b0bcb5, 0x391c0cb3, 0x4ed8aa4a, 0x5b9cca4f, 0x682e6ff3,
  0x748f82ee, 0x78a5636f, 0x84c87814, 0x8cc70208, 0x90befffa, 0xa4506ceb, 0xbef9a3f7, 0xc67178f2]

/-- The eight words that a digest is built up in. -/
structure State where
  /-- The first word. -/
  a : UInt32
  /-- The second word. -/
  b : UInt32
  /-- The third word. -/
  c : UInt32
  /-- The fourth word. -/
  d : UInt32
  /-- The fifth word. -/
  e : UInt32
  /-- The sixth word. -/
  f : UInt32
  /-- The seventh word. -/
  g : UInt32
  /-- The eighth word. -/
  h : UInt32
  deriving DecidableEq, Repr

namespace State

/-- The words that the digest of every text begins with. -/
def initial : State :=
  ⟨0x6a09e667, 0xbb67ae85, 0x3c6ef372, 0xa54ff53a, 0x510e527f, 0x9b05688c, 0x1f83d9ab, 0x5be0cd19⟩

/-- The sums of the words of two states. -/
def add (s t : State) : State :=
  ⟨s.a + t.a, s.b + t.b, s.c + t.c, s.d + t.d, s.e + t.e, s.f + t.f, s.g + t.g, s.h + t.h⟩

/-- The words of a state. -/
def words (s : State) : List UInt32 := [s.a, s.b, s.c, s.d, s.e, s.f, s.g, s.h]

/-- One round, with its constant and its word of the schedule. -/
def round (s : State) (constant word : UInt32) : State :=
  let sum1 := rotate s.e 6 ^^^ rotate s.e 11 ^^^ rotate s.e 25
  let choice := (s.e &&& s.f) ^^^ ((s.e ^^^ 0xffffffff) &&& s.g)
  let first := s.h + sum1 + choice + constant + word
  let sum0 := rotate s.a 2 ^^^ rotate s.a 13 ^^^ rotate s.a 22
  let majority := (s.a &&& s.b) ^^^ (s.a &&& s.c) ^^^ (s.b &&& s.c)
  ⟨first + (sum0 + majority), s.a, s.b, s.c, s.d + first, s.e, s.f, s.g⟩

end State

/-! ## The message -/

/-- A word from four bytes, the highest first. -/
def wordOf (a b c d : UInt8) : UInt32 :=
  (a.toUInt32 <<< 24) ||| (b.toUInt32 <<< 16) ||| (c.toUInt32 <<< 8) ||| d.toUInt32

/-- The words of some bytes, four bytes each. -/
def wordsOf : List UInt8 → List UInt32
  | a :: b :: c :: d :: rest => wordOf a b c d :: wordsOf rest
  | _ => []

/-- The bytes of a message with its padding: a byte `0x80`, zeros up to eight bytes before the end
of a block of 64 bytes, and the length in bits. -/
def pad (message : List UInt8) : List UInt8 :=
  let length := message.length
  let zeros := (119 - length % 64) % 64
  let bits := 8 * length
  let tail := (List.range 8).map fun i => UInt8.ofNat (bits / Nat.pow 2 (8 * (7 - i)))
  message ++ 0x80 :: (List.replicate zeros 0 ++ tail)

/-- The words that follow the first sixteen of a schedule; `window` holds the sixteen words
before them. -/
def scheduleTail : Nat → List UInt32 → List UInt32
  | 0, _ => []
  | count + 1, window =>
    let w0 := window.getD 0 0
    let w1 := window.getD 1 0
    let w9 := window.getD 9 0
    let w14 := window.getD 14 0
    let s0 := rotate w1 7 ^^^ rotate w1 18 ^^^ (w1 >>> 3)
    let s1 := rotate w14 17 ^^^ rotate w14 19 ^^^ (w14 >>> 10)
    let next := w0 + s0 + w9 + s1
    next :: scheduleTail count (window.drop 1 ++ [next])

/-- The 64 words of the schedule of a block. -/
def schedule (block : List UInt32) : List UInt32 := block ++ scheduleTail 48 block

/-- The state after a block. -/
def compress (state : State) (block : List UInt32) : State :=
  let rounds := roundConstants.zip (schedule block)
  state.add (rounds.foldl (fun s (constant, word) => s.round constant word) state)

/-- The state after the first `count` blocks of the words. -/
def compressBlocks : Nat → State → List UInt32 → State
  | 0, state, _ => state
  | count + 1, state, words =>
    compressBlocks count (compress state (words.take 16)) (words.drop 16)

/-- The digest of some bytes. -/
def sha256 (message : List UInt8) : State :=
  let words := wordsOf (pad message)
  compressBlocks (words.length / 16) .initial words

/-! ## Text -/

/-- The hexadecimal digits of a word. -/
def hexOf (word : UInt32) : List Char :=
  (List.range 8).map fun i => Nat.digitChar (word.toNat / Nat.pow 16 (7 - i) % 16)

/-- The digest of the UTF-8 form of a text, as hexadecimal digits. -/
def ofText (text : String) : String :=
  String.ofList ((sha256 text.toUTF8.toList).words.flatMap hexOf)

end ClientGen.Digest
