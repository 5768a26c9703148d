/-!
# Cutting text

Trimming, splitting and cutting, with the white space of the Unicode property of that name.
Everything is said on lists of characters; the functions on `String` wrap those.
-/

namespace Switchboard.Text

/-- White space: the 25 characters with the Unicode property `White_Space`. -/
def isBlank (c : Char) : Bool :=
  let n := c.toNat
  (9 ≤ n && n ≤ 13) || n == 0x20 || n == 0x85 || n == 0xA0 || n == 0x1680 ||
    (0x2000 ≤ n && n ≤ 0x200A) || n == 0x2028 || n == 0x2029 || n == 0x202F ||
    n == 0x205F || n == 0x3000

/-- Drops the characters satisfying `p` at both ends. -/
def trimBy (p : Char → Bool) (cs : List Char) : List Char :=
  ((cs.dropWhile p).reverse.dropWhile p).reverse

/-- The text between the blanks at its two ends. -/
def trim (s : String) : String := String.ofList (trimBy isBlank s.toList)

/-- Drops every `c` at the two ends. -/
def trimOf (c : Char) (s : String) : String := String.ofList (trimBy (· == c) s.toList)

/-- Drops every `c` at the start. -/
def trimStartOf (c : Char) (s : String) : String := String.ofList (s.toList.dropWhile (· == c))

/-- Drops every `c` at the end. -/
def trimEndOf (c : Char) (s : String) : String :=
  String.ofList (s.toList.reverse.dropWhile (· == c)).reverse

/-- The parts between the separators; a text without one is its only part. -/
def splitOn (sep : Char) (s : String) : List String := (s.toList.splitOn sep).map String.ofList

/-- The parts between the separators that are not empty. -/
def segments (sep : Char) (s : String) : List String := (splitOn sep s).filter (· ≠ "")

/-- Cuts at the first character satisfying `p`, which is dropped. -/
def cutBy? (p : Char → Bool) : List Char → Option (List Char × List Char)
  | [] => none
  | c :: cs => if p c then some ([], cs) else (cutBy? p cs).map fun (a, b) => (c :: a, b)

/-- The text before and the text after the first `sep`. -/
def cut? (sep : Char) (s : String) : Option (String × String) :=
  (cutBy? (· == sep) s.toList).map fun (a, b) => (String.ofList a, String.ofList b)

/-- The text before and the text after the last `sep`. -/
def cutLast? (sep : Char) (s : String) : Option (String × String) :=
  (cutBy? (· == sep) s.toList.reverse).map fun (b, a) =>
    (String.ofList a.reverse, String.ofList b.reverse)

/-- What follows `start`, if the text begins with it. -/
def after? (start s : String) : Option String :=
  if start.toList.isPrefixOf s.toList then some (String.ofList (s.toList.drop start.length))
  else none

/-- Does the text begin with `start`? -/
def startsWith (start s : String) : Bool := start.toList.isPrefixOf s.toList

/-- Does the text end with `finish`? -/
def endsWith (finish s : String) : Bool := finish.toList.isSuffixOf s.toList

/-- Does `part` stand somewhere in the list? -/
def occursIn (part : List Char) : List Char → Bool
  | [] => part.isEmpty
  | c :: cs => part.isPrefixOf (c :: cs) || occursIn part cs

/-- Does `part` stand somewhere in the text? -/
def contains (part s : String) : Bool := occursIn part.toList s.toList

/-- Words: the maximal runs of characters that are not blank. -/
def words (s : String) : List String :=
  ((s.toList.splitOnP isBlank).filter (· ≠ [])).map String.ofList

/-- ASCII letters in lower case, all else as it stands. -/
def lower (s : String) : String := String.ofList (s.toList.map Char.toLower)

/-- ASCII letters in upper case, all else as it stands. -/
def upper (s : String) : String := String.ofList (s.toList.map Char.toUpper)

/-- Equality up to the case of ASCII letters. -/
def sameIgnoringCase (s t : String) : Bool := lower s == lower t

/-- The lines of a text: cut at line feeds, a carriage return before one dropped, and no empty
line after a final line feed. -/
def lines (s : String) : List String :=
  let parts := s.toList.splitOn '\n'
  let ended := if parts.getLast? = some [] then parts.dropLast else parts
  let closed := parts.length - 1
  (ended.zipIdx).map fun (l, i) =>
    String.ofList (if i < closed && l.getLast? = some '\r' then l.dropLast else l)

end Switchboard.Text
