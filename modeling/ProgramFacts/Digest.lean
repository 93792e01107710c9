/-!
# Content digests

The digest of a source file is the SHA-256 hash of its bytes, written as 64
lowercase hexadecimal digits. The message is padded with a one bit, zeros and its
length to whole blocks of sixteen words; each block's words are extended to the 64
words of its schedule, which the rounds mix into the eight words of the state.
-/

namespace ProgramFacts.Digest

/-- The eight words that blocks are mixed into. -/
structure State where
  a : UInt32
  b : UInt32
  c : UInt32
  d : UInt32
  e : UInt32
  f : UInt32
  g : UInt32
  h : UInt32
deriving DecidableEq, Repr

/-- The state before the first block: the fractional parts of the square roots of the
first eight primes. -/
def State.initial : State :=
  ⟨0x6a09e667, 0xbb67ae85, 0x3c6ef372, 0xa54ff53a, 0x510e527f, 0x9b05688c, 0x1f83d9ab,
    0x5be0cd19⟩

/-- The words added in the rounds: the fractional parts of the cube roots of the first
sixty-four primes. -/
def roundWords : List UInt32 :=
  [0x428a2f98, 0x71374491, 0xb5c0fbcf, 0xe9b5dba5, 0x3956c25b, 0x59f111f1, 0x923f82a4, 0xab1c5ed5,
    0xd807aa98, 0x12835b01, 0x243185be, 0x550c7dc3, 0x72be5d74, 0x80deb1fe, 0x9bdc06a7, 0xc19bf174,
    0xe49b69c1, 0xefbe4786, 0x0fc19dc6, 0x240ca1cc, 0x2de92c6f, 0x4a7484aa, 0x5cb0a9dc, 0x76f988da,
    0x983e5152, 0xa831c66d, 0xb00327c8, 0xbf597fc7, 0xc6e00bf3, 0xd5a79147, 0x06ca6351, 0x14292967,
    0x27b70a85, 0x2e1b2138, 0x4d2c6dfc, 0x53380d13, 0x650a7354, 0x766a0abb, 0x81c2c92e, 0x92722c85,
    0xa2bfe8a1, 0xa81a664b, 0xc24b8b70, 0xc76c51a3, 0xd192e819, 0xd6990624, 0xf40e3585, 0x106aa070,
    0x19a4c116, 0x1e376c08, 0x2748774c, 0x34b0bcb5, 0x391c0cb3, 0x4ed8aa4a, 0x5b9cca4f, 0x682e6ff3,
    0x748f82ee, 0x78a5636f, 0x84c87814, 0x8cc70208, 0x90befffa, 0xa4506ceb, 0xbef9a3f7, 0xc67178f2]

/-- Rotation of a word to the right. -/
def rotateRight (word amount : UInt32) : UInt32 :=
  (word >>> amount) ||| (word <<< (32 - amount))

/-- One round, with its round word and schedule word. -/
def State.round (s : State) (roundWord word : UInt32) : State :=
  let sum1 := rotateRight s.e 6 ^^^ rotateRight s.e 11 ^^^ rotateRight s.e 25
  let choice := (s.e &&& s.f) ^^^ (~~~s.e &&& s.g)
  let first := s.h + sum1 + choice + roundWord + word
  let sum0 := rotateRight s.a 2 ^^^ rotateRight s.a 13 ^^^ rotateRight s.a 22
  let majority := (s.a &&& s.b) ^^^ (s.a &&& s.c) ^^^ (s.b &&& s.c)
  ⟨first + (sum0 + majority), s.a, s.b, s.c, s.d + first, s.e, s.f, s.g⟩

/-- Word by word sum of two states. -/
def State.add (s t : State) : State :=
  ⟨s.a + t.a, s.b + t.b, s.c + t.c, s.d + t.d, s.e + t.e, s.f + t.f, s.g + t.g, s.h + t.h⟩

/-- The words of a state, in order. -/
def State.words (s : State) : List UInt32 :=
  [s.a, s.b, s.c, s.d, s.e, s.f, s.g, s.h]

/-- The word of the schedule that follows a window of its last sixteen words. -/
def nextWord : List UInt32 → UInt32
  | [w0, w1, _, _, _, _, _, _, _, w9, _, _, _, _, w14, _] =>
      let small0 := rotateRight w1 7 ^^^ rotateRight w1 18 ^^^ (w1 >>> 3)
      let small1 := rotateRight w14 17 ^^^ rotateRight w14 19 ^^^ (w14 >>> 10)
      w0 + small0 + w9 + small1
  | _ => 0

/-- Runs the given rounds over a window of the schedule, whose first word the next round
uses. -/
def rounds (s : State) : List UInt32 → List UInt32 → State
  | [], _ => s
  | _, [] => s
  | roundWord :: later, word :: window =>
      rounds (s.round roundWord word) later (window ++ [nextWord (word :: window)])

/-- Mixes a block of sixteen words into the state. -/
def compress (s : State) (block : List UInt32) : State :=
  s.add (rounds s roundWords block)

/-- Four bytes as one word, the first byte highest. -/
def wordOfBytes (b0 b1 b2 b3 : UInt8) : UInt32 :=
  (b0.toUInt32 <<< 24) ||| (b1.toUInt32 <<< 16) ||| (b2.toUInt32 <<< 8) ||| b3.toUInt32

/-- Bytes as words; a rest of fewer than four bytes is dropped. -/
def wordsOfBytes : List UInt8 → List UInt32
  | b0 :: b1 :: b2 :: b3 :: rest => wordOfBytes b0 b1 b2 b3 :: wordsOfBytes rest
  | _ => []

/-- The length of a message in bits, as eight bytes. -/
def lengthBytes (size : Nat) : List UInt8 :=
  [56, 48, 40, 32, 24, 16, 8, 0].map fun shift => UInt8.ofNat ((8 * size) >>> shift)

/-- The bytes that complete a message of the given size to whole blocks. -/
def padding (size : Nat) : List UInt8 :=
  0x80 :: List.replicate ((119 - size % 64) % 64) 0 ++ lengthBytes size

/-- Mixes the words of a padded message into the state, `count` blocks of them. -/
def compressAll (s : State) (words : List UInt32) : Nat → State
  | 0 => s
  | count + 1 => compressAll (compress s (words.take 16)) (words.drop 16) count

/-- The state after all of a message. -/
def hash (message : List UInt8) : State :=
  let words := wordsOfBytes (message ++ padding message.length)
  compressAll State.initial words (words.length / 16)

/-- A word as eight lowercase hexadecimal digits. -/
def hexWord (word : UInt32) : List Char :=
  [28, 24, 20, 16, 12, 8, 4, 0].map fun shift => Nat.digitChar ((word.toNat >>> shift) % 16)

/-- The digest of a text: the hash of its UTF-8 bytes in hexadecimal. -/
def ofText (text : String) : String :=
  String.ofList ((hash text.toUTF8.toList).words.flatMap hexWord)

end ProgramFacts.Digest
