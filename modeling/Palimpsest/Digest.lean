import Palimpsest.Text.Utf8

/-!
# Digests

A program is identified by the SHA-256 digest of its bytes. The message is
padded to whole blocks of sixteen words; each block stirs eight working words
through sixty-four rounds. A window of the sixteen latest schedule words slides
along with the rounds, so the schedule is never stored whole.
-/

namespace Palimpsest.Digest

/-- The eight words that the compression works on. -/
structure Words where
  a : UInt32
  b : UInt32
  c : UInt32
  d : UInt32
  e : UInt32
  f : UInt32
  g : UInt32
  h : UInt32
  deriving DecidableEq, Repr

/-- The words before the first block. -/
def initialWords : Words :=
  ⟨0x6a09e667, 0xbb67ae85, 0x3c6ef372, 0xa54ff53a,
    0x510e527f, 0x9b05688c, 0x1f83d9ab, 0x5be0cd19⟩

/-- The constants of the sixty-four rounds. -/
def roundConstants : List UInt32 :=
  [0x428a2f98, 0x71374491, 0xb5c0fbcf, 0xe9b5dba5, 0x3956c25b, 0x59f111f1, 0x923f82a4, 0xab1c5ed5,
   0xd807aa98, 0x12835b01, 0x243185be, 0x550c7dc3, 0x72be5d74, 0x80deb1fe, 0x9bdc06a7, 0xc19bf174,
   0xe49b69c1, 0xefbe4786, 0x0fc19dc6, 0x240ca1cc, 0x2de92c6f, 0x4a7484aa, 0x5cb0a9dc, 0x76f988da,
   0x983e5152, 0xa831c66d, 0xb00327c8, 0xbf597fc7, 0xc6e00bf3, 0xd5a79147, 0x06ca6351, 0x14292967,
   0x27b70a85, 0x2e1b2138, 0x4d2c6dfc, 0x53380d13, 0x650a7354, 0x766a0abb, 0x81c2c92e, 0x92722c85,
   0xa2bfe8a1, 0xa81a664b, 0xc24b8b70, 0xc76c51a3, 0xd192e819, 0xd6990624, 0xf40e3585, 0x106aa070,
   0x19a4c116, 0x1e376c08, 0x2748774c, 0x34b0bcb5, 0x391c0cb3, 0x4ed8aa4a, 0x5b9cca4f, 0x682e6ff3,
   0x748f82ee, 0x78a5636f, 0x84c87814, 0x8cc70208, 0x90befffa, 0xa4506ceb, 0xbef9a3f7, 0xc67178f2]

/-- Rotate a word to the right. -/
def rotateRight (word : UInt32) (amount : UInt32) : UInt32 :=
  (word >>> amount) ||| (word <<< (32 - amount))

/-- One round on the working words with one schedule word. -/
def round (w : Words) (constant scheduled : UInt32) : Words :=
  let sumE := rotateRight w.e 6 ^^^ rotateRight w.e 11 ^^^ rotateRight w.e 25
  let choice := (w.e &&& w.f) ^^^ (~~~w.e &&& w.g)
  let first := w.h + sumE + choice + constant + scheduled
  let sumA := rotateRight w.a 2 ^^^ rotateRight w.a 13 ^^^ rotateRight w.a 22
  let majority := (w.a &&& w.b) ^^^ (w.a &&& w.c) ^^^ (w.b &&& w.c)
  let second := sumA + majority
  ⟨first + second, w.a, w.b, w.c, w.d + first, w.e, w.f, w.g⟩

/-- Slide the window of schedule words on by one word. -/
def slide (window : List UInt32) : List UInt32 :=
  let early := window.getD 1 0
  let late := window.getD 14 0
  let spreadEarly := rotateRight early 7 ^^^ rotateRight early 18 ^^^ (early >>> 3)
  let spreadLate := rotateRight late 17 ^^^ rotateRight late 19 ^^^ (late >>> 10)
  window.drop 1 ++ [window.getD 0 0 + spreadEarly + window.getD 9 0 + spreadLate]

/-- The working words after all rounds on one block. -/
def stir : List UInt32 → Words → List UInt32 → Words
  | [], words, _ => words
  | constant :: rest, words, window =>
    stir rest (round words constant (window.getD 0 0)) (slide window)

/-- Add the words of one block to the running words. -/
def compress (w : Words) (block : List UInt32) : Words :=
  let s := stir roundConstants w block
  ⟨w.a + s.a, w.b + s.b, w.c + s.c, w.d + s.d, w.e + s.e, w.f + s.f, w.g + s.g, w.h + s.h⟩

/-- Compress the given number of blocks of sixteen words. -/
def compressBlocks : (count : Nat) → Words → List UInt32 → Words
  | 0, words, _ => words
  | count + 1, words, message =>
    compressBlocks count (compress words (message.take 16)) (message.drop 16)

/-- Bytes read as big-endian words; a last incomplete word is dropped. -/
def wordsOfBytes : List UInt8 → List UInt32
  | p :: q :: r :: s :: rest =>
    ((p.toUInt32 <<< 24) ||| (q.toUInt32 <<< 16) ||| (r.toUInt32 <<< 8) ||| s.toUInt32) ::
      wordsOfBytes rest
  | _ => []

/-- The big-endian bytes of a number, `width` of them. -/
def bytesOfNat : (width : Nat) → Nat → List UInt8
  | 0, _ => []
  | width + 1, n => bytesOfNat width (n / 256) ++ [UInt8.ofNat (n % 256)]

/-- The message padded to whole blocks: a single one bit, zeros, and the number
of bits of the message. -/
def padded (message : List UInt8) : List UInt8 :=
  message ++ 0x80 :: List.replicate ((119 - message.length % 64) % 64) 0 ++
    bytesOfNat 8 (8 * message.length)

/-- The digest of a message, as words. -/
def sha256 (message : List UInt8) : Words :=
  let words := wordsOfBytes (padded message)
  compressBlocks (words.length / 16) initialWords words

/-- A digest in lower-case hexadecimal, eight digits a word. -/
def Words.hex (w : Words) : Text :=
  [w.a, w.b, w.c, w.d, w.e, w.f, w.g, w.h].flatMap fun word => Text.hexDigits 8 word.toNat

/-- The name that a program text goes by in receipts. -/
def ofText (text : Text) : Text :=
  "sha256:".toList ++ (sha256 (Utf8.encode text)).hex

end Palimpsest.Digest
