import ScriptVet.Text.Hex
import ScriptVet.Text.Utf8

/-!
# SHA-256

The digest of a sequence of octets: the message is padded to whole blocks of 64 octets, each block
is expanded to a schedule of 64 words, and the eight chaining words go through one round for every
word of the schedule. Contents and results are named by such digests.
-/

namespace ScriptVet.Sha256

/-- The constants of the 64 rounds. -/
def roundConstants : List UInt32 := [
  0x428a2f98, 0x71374491, 0xb5c0fbcf, 0xe9b5dba5, 0x3956c25b, 0x59f111f1, 0x923f82a4, 0xab1c5ed5,
  0xd807aa98, 0x12835b01, 0x243185be, 0x550c7dc3, 0x72be5d74, 0x80deb1fe, 0x9bdc06a7, 0xc19bf174,
  0xe49b69c1, 0xefbe4786, 0x0fc19dc6, 0x240ca1cc, 0x2de92c6f, 0x4a7484aa, 0x5cb0a9dc, 0x76f988da,
  0x983e5152, 0xa831c66d, 0xb00327c8, 0xbf597fc7, 0xc6e00bf3, 0xd5a79147, 0x06ca6351, 0x14292967,
  0x27b70a85, 0x2e1b2138, 0x4d2c6dfc, 0x53380d13, 0x650a7354, 0x766a0abb, 0x81c2c92e, 0x92722c85,
  0xa2bfe8a1, 0xa81a664b, 0xc24b8b70, 0xc76c51a3, 0xd192e819, 0xd6990624, 0xf40e3585, 0x106aa070,
  0x19a4c116, 0x1e376c08, 0x2748774c, 0x34b0bcb5, 0x391c0cb3, 0x4ed8aa4a, 0x5b9cca4f, 0x682e6ff3,
  0x748f82ee, 0x78a5636f, 0x84c87814, 0x8cc70208, 0x90befffa, 0xa4506ceb, 0xbef9a3f7, 0xc67178f2]

/-- The eight chaining words. -/
structure Chain where
  a : UInt32
  b : UInt32
  c : UInt32
  d : UInt32
  e : UInt32
  f : UInt32
  g : UInt32
  h : UInt32
  deriving Repr, DecidableEq

/-- The chaining words before the first block. -/
def Chain.initial : Chain :=
  ⟨0x6a09e667, 0xbb67ae85, 0x3c6ef372, 0xa54ff53a, 0x510e527f, 0x9b05688c, 0x1f83d9ab, 0x5be0cd19⟩

/-- The words added pairwise. -/
def Chain.add (x y : Chain) : Chain :=
  ⟨x.a + y.a, x.b + y.b, x.c + y.c, x.d + y.d, x.e + y.e, x.f + y.f, x.g + y.g, x.h + y.h⟩

def Chain.toList (x : Chain) : List UInt32 :=
  [x.a, x.b, x.c, x.d, x.e, x.f, x.g, x.h]

/-- A word turned to the right by fewer than 32 places. -/
def rotateRight (x : UInt32) (places : UInt32) : UInt32 :=
  (x >>> places) ||| (x <<< (32 - places))

/-- One round with a constant and a word of the schedule. -/
def round (s : Chain) (constant word : UInt32) : Chain :=
  let sum1 := rotateRight s.e 6 ^^^ rotateRight s.e 11 ^^^ rotateRight s.e 25
  let choice := (s.e &&& s.f) ^^^ ((~~~ s.e) &&& s.g)
  let first := s.h + sum1 + choice + constant + word
  let sum0 := rotateRight s.a 2 ^^^ rotateRight s.a 13 ^^^ rotateRight s.a 22
  let majority := (s.a &&& s.b) ^^^ (s.a &&& s.c) ^^^ (s.b &&& s.c)
  ⟨first + (sum0 + majority), s.a, s.b, s.c, s.d + first, s.e, s.f, s.g⟩

/-- Four octets as a word, the highest first. -/
def word (b0 b1 b2 b3 : UInt8) : UInt32 :=
  (b0.toUInt32 <<< 24) ||| (b1.toUInt32 <<< 16) ||| (b2.toUInt32 <<< 8) ||| b3.toUInt32

/-- The words of a sequence of octets whose length is a multiple of four. -/
def wordsOf : List UInt8 → List UInt32
  | b0 :: b1 :: b2 :: b3 :: rest => word b0 b1 b2 b3 :: wordsOf rest
  | _ => []

/-- The next word of the schedule; the words so far stand in reverse order. -/
def nextWord (recent : List UInt32) : UInt32 :=
  let at' (i : Nat) : UInt32 := recent.getD i 0
  let w15 := at' 14
  let w2 := at' 1
  let s0 := rotateRight w15 7 ^^^ rotateRight w15 18 ^^^ (w15 >>> 3)
  let s1 := rotateRight w2 17 ^^^ rotateRight w2 19 ^^^ (w2 >>> 10)
  at' 15 + s0 + at' 6 + s1

/-- So many more words in front of the schedule so far, which stands in reverse order. -/
def extendSchedule : Nat → List UInt32 → List UInt32
  | 0, recent => recent
  | more + 1, recent => extendSchedule more (nextWord recent :: recent)

/-- The 64 words of a block of 16. -/
def schedule (block : List UInt32) : List UInt32 :=
  (extendSchedule 48 block.reverse).reverse

/-- The chaining words after a block. -/
def compress (chain : Chain) (block : List UInt32) : Chain :=
  chain.add ((roundConstants.zip (schedule block)).foldl (fun s (k, w) => round s k w) chain)

/-- A number as eight octets, the highest first. -/
def lengthOctets (n : Nat) : List UInt8 :=
  [56, 48, 40, 32, 24, 16, 8, 0].map fun places => UInt8.ofNat (n >>> places)

/-- The message, a set bit, zeros, and the length in bits: whole blocks of 64 octets. -/
def padded (message : List UInt8) : List UInt8 :=
  let zeros := (119 - message.length % 64) % 64
  message ++ 0x80 :: (List.replicate zeros 0 ++ lengthOctets (8 * message.length))

/-- Compresses so many blocks of 16 words one after another. -/
def compressBlocks : Nat → Chain → List UInt32 → Chain
  | 0, chain, _ => chain
  | blocks + 1, chain, words =>
    compressBlocks blocks (compress chain (words.take 16)) (words.drop 16)

/-- The chaining words after the whole message. -/
def hash (message : List UInt8) : Chain :=
  let words := wordsOf (padded message)
  compressBlocks (words.length / 16) Chain.initial words

/-- The digest as 64 hexadecimal digits. -/
def hexDigest (message : List UInt8) : String :=
  String.ofList ((hash message).toList.flatMap fun w => Text.hexPlaces 8 w.toNat)

/-- Every digest has 64 digits. -/
theorem length_hexDigest (message : List UInt8) : (hexDigest message).length = 64 := by
  simp [hexDigest, Chain.toList]

end ScriptVet.Sha256
