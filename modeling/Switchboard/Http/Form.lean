import Switchboard.Text.Utf8
import Switchboard.Text.Split

/-!
# Forms

The form encoding of query strings and form bodies: pairs joined by `&`, name and value joined by
`=`, a space written `+` and any byte written `%` with two hexadecimal digits. `Form.parse` reads
any bytes, `Form.encode` writes what reads back.
-/

namespace Switchboard.Form

/-- The value of a byte that is a hexadecimal digit. -/
def hexValue? (b : UInt8) : Option UInt8 :=
  if 48 ≤ b && b ≤ 57 then some (b - 48)
  else if 65 ≤ b && b ≤ 70 then some (b - 55)
  else if 97 ≤ b && b ≤ 102 then some (b - 87)
  else none

/-- Replaces each `%` that two hexadecimal digits follow, and these, by the byte they write. -/
def percentDecode : List UInt8 → List UInt8
  | 37 :: a :: b :: rest =>
    match hexValue? a, hexValue? b with
    | some h, some l => (h * 16 + l) :: percentDecode rest
    | _, _ => 37 :: percentDecode (a :: b :: rest)
  | c :: rest => c :: percentDecode rest
  | [] => []

/-- Reads one name or value: `+` as a space, then escapes, then UTF-8. -/
def decodePart (bytes : List UInt8) : String :=
  String.ofList (Utf8.decodeList (percentDecode (bytes.map fun b => if b == 43 then 32 else b)))

/-- Cuts at the first `=`; a part without one is a name with an empty value. -/
def splitPair (bytes : List UInt8) : List UInt8 × List UInt8 :=
  (bytes.takeWhile (· != 61), (bytes.dropWhile (· != 61)).drop 1)

/-- The pairs of a form. Empty parts between `&` are no pairs. -/
def parseBytes (bytes : List UInt8) : List (String × String) :=
  ((bytes.splitOn 38).filter (· ≠ [])).map fun part =>
    let (name, value) := splitPair part
    (decodePart name, decodePart value)

/-- The pairs of a form. -/
def parse (form : ByteArray) : List (String × String) := parseBytes form.data.toList

/-- A hexadecimal digit in upper case. -/
def hexByte (n : UInt8) : UInt8 := if n < 10 then 48 + n else 55 + n

/-- A byte that stands for itself in a form. -/
def isPlain (b : UInt8) : Bool :=
  (48 ≤ b && b ≤ 57) || (65 ≤ b && b ≤ 90) || (97 ≤ b && b ≤ 122) ||
    b == 42 || b == 45 || b == 46 || b == 95

/-- Writes one byte. -/
def encodeByte (b : UInt8) : List UInt8 :=
  if isPlain b then [b] else if b == 32 then [43] else [37, hexByte (b / 16), hexByte (b % 16)]

/-- Writes one name or value. -/
def encodePart (s : String) : List UInt8 := (Utf8.encodeList s.toList).flatMap encodeByte

/-- Writes pairs as a form. -/
def encode (pairs : List (String × String)) : List UInt8 :=
  List.intercalate [38] (pairs.map fun (name, value) => encodePart name ++ 61 :: encodePart value)

end Switchboard.Form
