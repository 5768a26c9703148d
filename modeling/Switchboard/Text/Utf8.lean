/-!
# Reading bytes as UTF-8

`Utf8.decode` reads any bytes: each longest beginning of a character that is not completed, and
each byte that begins none, is read as one replacement character. Bytes that are UTF-8 are read as
the text they encode.
-/

namespace Switchboard.Utf8

/-- What stands at the head of some bytes: a whole character or a broken one, and how many bytes
it takes beyond the first. -/
inductive Head where
  | whole (code : Nat) (more : Nat)
  | broken (more : Nat)
  deriving DecidableEq, Repr

/-- Is the byte one that continues a character? -/
def isTail (b : UInt8) : Bool := 0x80 ≤ b && b ≤ 0xBF

/-- Six bits of a continuing byte. -/
def tailBits (b : UInt8) : Nat := b.toNat % 64

/-- The last byte of a character of `value` so far, `seen` bytes after the first read. -/
def lastByte (value seen : Nat) : List UInt8 → Head
  | b :: _ => if isTail b then .whole (value * 64 + tailBits b) (seen + 1) else .broken seen
  | [] => .broken seen

/-- The two last bytes of a character, the first of them between `low` and `high`. -/
def lastTwo (value seen : Nat) (low high : UInt8) : List UInt8 → Head
  | b :: rest =>
    if low ≤ b && b ≤ high then lastByte (value * 64 + tailBits b) (seen + 1) rest
    else .broken seen
  | [] => .broken seen

/-- The three last bytes of a character, the first of them between `low` and `high`. -/
def lastThree (value : Nat) (low high : UInt8) : List UInt8 → Head
  | b :: rest =>
    if low ≤ b && b ≤ high then lastTwo (value * 64 + tailBits b) 1 0x80 0xBF rest
    else .broken 0
  | [] => .broken 0

/-- Reads the character that starts with `b`. The ranges of the second byte leave out overlong
forms, surrogates and all beyond U+10FFFF. -/
def head (b : UInt8) (rest : List UInt8) : Head :=
  if b < 0x80 then .whole b.toNat 0
  else if b < 0xC2 then .broken 0
  else if b < 0xE0 then lastByte (b.toNat % 32) 0 rest
  else if b == 0xE0 then lastTwo 0 0 0xA0 0xBF rest
  else if b == 0xED then lastTwo 13 0 0x80 0x9F rest
  else if b < 0xF0 then lastTwo (b.toNat % 16) 0 0x80 0xBF rest
  else if b == 0xF0 then lastThree 0 0x90 0xBF rest
  else if b < 0xF4 then lastThree (b.toNat % 8) 0x80 0xBF rest
  else if b == 0xF4 then lastThree 4 0x80 0x8F rest
  else .broken 0

/-- What is read in place of bytes that are no character. -/
def replacement : Char := '\uFFFD'

/-- Reads bytes as text, replacing what is not UTF-8. -/
def decodeList : List UInt8 → List Char
  | [] => []
  | b :: rest =>
    match head b rest with
    | .whole code more => Char.ofNat code :: decodeList (rest.drop more)
    | .broken more => replacement :: decodeList (rest.drop more)
termination_by bytes => bytes.length
decreasing_by all_goals simp only [List.length_drop, List.length_cons]; omega

/-- Reads bytes as text if they are UTF-8 throughout. -/
def decodeList? : List UInt8 → Option (List Char)
  | [] => some []
  | b :: rest =>
    match head b rest with
    | .whole code more => (decodeList? (rest.drop more)).map (Char.ofNat code :: ·)
    | .broken _ => none
termination_by bytes => bytes.length
decreasing_by all_goals simp only [List.length_drop, List.length_cons]; omega

/-- Reads bytes as text, replacing what is not UTF-8. -/
def decode (bytes : ByteArray) : String := String.ofList (decodeList bytes.data.toList)

/-- Reads bytes as text if they are UTF-8 throughout. -/
def decode? (bytes : ByteArray) : Option String :=
  (decodeList? bytes.data.toList).map String.ofList

/-- The bytes of a text. -/
def encodeList (cs : List Char) : List UInt8 := cs.flatMap String.utf8EncodeChar

end Switchboard.Utf8
