/-!
# Hashes of short texts

SipHash with one round a word, three rounds at the end and a key of zeros: a function of bytes to 64
bits that spreads texts evenly. Bytes are taken in words of eight, least significant first; the last
word holds what is left and, in its top byte, the length.
-/

namespace Switchboard.Text

/-- What is hashed with: four words. -/
structure SipState where
  a : UInt64
  b : UInt64
  c : UInt64
  d : UInt64
  deriving DecidableEq, Repr

namespace SipState

/-- The words that a key of zeros begins with. -/
def start : SipState :=
  ⟨0x736f6d6570736575, 0x646f72616e646f6d, 0x6c7967656e657261, 0x7465646279746573⟩

/-- The bits of a word moved up by `n`, those that leave it at the bottom. -/
def rotate (x n : UInt64) : UInt64 := (x <<< n) ||| (x >>> (64 - n))

/-- One round. -/
def round (s : SipState) : SipState :=
  let a := s.a + s.b
  let b := rotate s.b 13 ^^^ a
  let c := s.c + s.d
  let d := rotate s.d 16 ^^^ c
  let a := rotate a 32 + d
  let d := rotate d 21 ^^^ a
  let c := c + b
  ⟨a, rotate b 17 ^^^ c, rotate c 32, d⟩

/-- Takes one word in. -/
def absorb (s : SipState) (word : UInt64) : SipState :=
  let s := { s with d := s.d ^^^ word }.round
  { s with a := s.a ^^^ word }

/-- The hash, once every word is in. -/
def finish (s : SipState) : UInt64 :=
  let s := { s with c := s.c ^^^ 0xff }.round.round.round
  s.a ^^^ s.b ^^^ s.c ^^^ s.d

end SipState

/-- At most eight bytes as a word. -/
def wordOfBytes (bytes : List UInt8) : UInt64 :=
  bytes.foldr (fun byte word => (word <<< 8) ||| byte.toUInt64) 0

/-- Takes the words of some bytes in. The bytes left over go into the last word, whose top byte is
`size`. -/
def absorbBytes (size : UInt64) (s : SipState) : List UInt8 → SipState
  | i :: j :: k :: l :: m :: n :: o :: p :: rest =>
    absorbBytes size (s.absorb (wordOfBytes [i, j, k, l, m, n, o, p])) rest
  | tail => s.absorb (wordOfBytes tail ||| (size <<< 56))

/-- The hash of some bytes. -/
def sipHash (bytes : List UInt8) : UInt64 :=
  (absorbBytes bytes.length.toUInt64 .start bytes).finish

end Switchboard.Text
