import Switchboard.Number.Decimal
import Switchboard.Time.Fields

/-!
# Reading parts of dates

The pieces that date formats are made of: numbers of so many digits, names of months and days, and
offsets of time zones. Each reads from the front of a text and gives the rest.
-/

namespace Switchboard.Time

/-- Reads a part from the front of a text. -/
abbrev Scan (α : Type) := List Char → Option (α × List Char)

/-- Drops blanks at the front. -/
def skipBlanks (cs : List Char) : List Char := cs.dropWhile Text.isBlank

/-- At least one blank. -/
def blanks? (cs : List Char) : Option (List Char) :=
  match cs with
  | c :: _ => if Text.isBlank c then some (skipBlanks cs) else none
  | [] => none

/-- One character, given. -/
def char? (c : Char) : List Char → Option (List Char)
  | d :: rest => if c == d then some rest else none
  | [] => none

/-- A number of `least` to `most` digits that 64 bits hold. -/
def number? (least most : Nat) : Scan Int := fun cs =>
  let ds := (cs.take most).takeWhile Char.isDigit
  let n := Number.ofDigits ds
  if least ≤ ds.length && n ≤ Number.largestSigned 64 then some (n, cs.drop ds.length) else none

/-- The first word of a list that the text begins with in letters of either case, by its index. -/
def wordAt? (words : List String) : Scan Nat := fun cs =>
  let starts (w : String) : Bool := (cs.take w.length).map Char.toLower == w.toList
  (words.findIdx? starts).map fun i => (i, cs.drop (words[i]?.getD "").length)

/-- The first three letters of the months. -/
def monthStarts : List String :=
  ["jan", "feb", "mar", "apr", "may", "jun", "jul", "aug", "sep", "oct", "nov", "dec"]

/-- What follows the first three letters of the months. -/
def monthEnds : List String :=
  ["uary", "ruary", "ch", "il", "", "e", "y", "ust", "tember", "ober", "ember", "ember"]

/-- The first three letters of the days of the week. -/
def dayStarts : List String := ["mon", "tue", "wed", "thu", "fri", "sat", "sun"]

/-- What follows the first three letters of the days of the week. -/
def dayEnds : List String := ["day", "sday", "nesday", "rsday", "day", "urday", "day"]

/-- A name by its first three letters; where `whole`, also the others if they are there. -/
def name? (starts ends : List String) (whole : Bool) : Scan Nat := fun cs => do
  let (i, rest) ← wordAt? starts cs
  let ending := ends[i]?.getD ""
  if whole && (rest.take ending.length).map Char.toLower == ending.toList then
    return (i, rest.drop ending.length)
  else return (i, rest)

/-- A fraction of a second in nanoseconds: digits beyond the ninth do not count. -/
def fraction? : Scan Int := fun cs => do
  let (n, rest) ← number? 1 9 cs
  let digits := cs.length - rest.length
  return (n * Nat.pow 10 (9 - digits), rest.dropWhile Char.isDigit)

/-- A fraction of a second of exactly so many digits, in nanoseconds. -/
def fractionOf? (digits : Nat) : Scan Int := fun cs => do
  let (n, rest) ← number? digits digits cs
  return (n * Nat.pow 10 (9 - digits), rest)

/-- How an offset may be written. -/
structure ZoneStyle where
  /-- May `Z` stand for no offset? -/
  zulu : Bool
  /-- May the minutes be left out? -/
  hoursOnly : Bool
  /-- May a colon or blanks stand before the minutes, and the minus sign be the one of Unicode? -/
  relaxed : Bool
  deriving DecidableEq, Repr

/-- An offset in seconds: a sign, two digits of hours and two of minutes. -/
def zone? (style : ZoneStyle) : Scan Int := fun cs =>
  let signed (negative : Bool) (cs : List Char) : Option (Int × List Char) := do
    let (hours, rest) ← number? 2 2 cs
    let rest := if style.relaxed then rest.dropWhile fun c => c == ':' || Text.isBlank c else rest
    let (minutes, rest) ←
      if rest.isEmpty && style.hoursOnly then some ((0 : Int), rest)
      else (number? 2 2 rest).filter fun (m, _) => m < 60
    let seconds := hours * 3600 + minutes * 60
    return (if negative then -seconds else seconds, rest)
  match cs with
  | '+' :: rest => signed false rest
  | '-' :: rest => signed true rest
  | c :: rest =>
    if style.zulu && (c == 'Z' || c == 'z') then some (0, rest)
    else if style.relaxed && c == '\u2212' then signed true rest
    else none
  | [] => none

end Switchboard.Time
