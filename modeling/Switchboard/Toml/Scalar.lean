import Switchboard.Number.Decimal
import Switchboard.Time.Calendar
import Switchboard.Toml.Basic

/-!
# Words of TOML

Values that are one word: integers, real numbers, truth values, dates and times.
-/

namespace Switchboard.Toml

/-- Digits with single underscores between them; gives the digits. -/
def digits? (p : Char → Bool) : List Char → Option (List Char)
  | [] => none
  | [c] => if p c then some [c] else none
  | c :: '_' :: rest => if p c then (digits? p rest).map (c :: ·) else none
  | c :: rest => if p c then (digits? p rest).map (c :: ·) else none

/-- The digits of a number without superfluous zeros in front. -/
def wholeDigits? (cs : List Char) : Option (List Char) :=
  if cs.head? = some '0' && cs ≠ ['0'] then none else digits? Char.isDigit cs

/-- The number that digits of some base write. -/
def ofDigitsBase (base : Nat) (cs : List Char) : Nat :=
  cs.foldl (fun n c => n * base + (Number.hexValue? c).getD 0) 0

/-- Is a character a digit of some base up to sixteen? -/
def isDigitOf (base : Nat) (c : Char) : Bool := (Number.hexValue? c).any (· < base)

/-- Reads an integer of 64 bits: in decimal with an optional sign, or without one in the base that
`0x`, `0o` or `0b` tells. -/
def readInteger? (word : List Char) : Option Int := do
  let based (base : Nat) (ds : List Char) : Option Int :=
    (digits? (isDigitOf base) ds).map fun ds => (ofDigitsBase base ds : Int)
  let n ← match word with
    | '0' :: 'x' :: ds => based 16 ds
    | '0' :: 'o' :: ds => based 8 ds
    | '0' :: 'b' :: ds => based 2 ds
    | _ => (wholeDigits? (Number.takeSign word).2).map fun ds =>
      if (Number.takeSign word).1 then -(Number.ofDigits ds : Int) else Number.ofDigits ds
  guard (Number.fitsSigned 64 n)
  return n

/-- The exponent part of a real number, if it has one. -/
def readPower? : List Char → Option Int
  | [] => some 0
  | c :: rest => do
    guard (c == 'e' || c == 'E')
    let (negative, ds) := Number.takeSign rest
    let n := Number.ofDigits (← digits? Char.isDigit ds)
    return if negative then -(n : Int) else n

/-- Reads a real number: a decimal with a fraction or an exponent, an infinity, or no number. A
positive decimal too large for the format is refused. -/
def readReal? (word : List Char) : Option Number.Double := do
  let (negative, rest) := Number.takeSign word
  if rest = "inf".toList then return .infinite negative
  if rest = "nan".toList then return .nan
  let inWhole (c : Char) : Bool := c.isDigit || c == '_'
  let whole ← wholeDigits? (rest.takeWhile inWhole)
  let (fraction, power) ← match rest.dropWhile inWhole with
    | '.' :: more => do
      let fraction ← digits? Char.isDigit (more.takeWhile inWhole)
      let power ← readPower? (more.dropWhile inWhole)
      pure (fraction, power)
    | [] => none
    | more => do
      let power ← readPower? more
      pure ([], power)
  let x := Number.Binary.ofDecimal negative (Number.ofDigits (whole ++ fraction))
    (power - fraction.length)
  guard (negative || !x.isInfinite)
  return x

/-- The number that exactly `n` digits write, if it is within bounds. -/
def digitField? (n least most : Nat) (cs : List Char) : Option Nat := do
  guard (cs.length = n && cs.all Char.isDigit)
  let v := Number.ofDigits cs
  guard (least ≤ v && v ≤ most)
  return v

/-- Does a text write a date? -/
def isDate (cs : List Char) : Bool :=
  match cs.splitOn '-' with
  | [year, month, day] =>
    match digitField? 4 0 9999 year, digitField? 2 1 12 month, digitField? 2 1 31 day with
    | some y, some m, some d => (Time.date? y m d).isSome
    | _, _, _ => false
  | _ => false

/-- Does a text write a time of day, to the second or more exactly? -/
def isTime (cs : List Char) : Bool :=
  match cs.splitOn ':' with
  | [hour, minute, second] =>
    let exact := match second.dropWhile (· ≠ '.') with
      | [] => true
      | _ :: ds => ds ≠ [] && ds.all Char.isDigit
    (digitField? 2 0 23 hour).isSome && (digitField? 2 0 59 minute).isSome &&
      (digitField? 2 0 60 (second.takeWhile (· ≠ '.'))).isSome && exact
  | _ => false

/-- Does a text write the distance from the time of Greenwich, or nothing? -/
def isOffset (cs : List Char) : Bool :=
  match cs with
  | [] => true
  | [c] => c == 'Z' || c == 'z'
  | sign :: rest =>
    (sign == '+' || sign == '-') &&
      match rest.splitOn ':' with
      | [hour, minute] => (digitField? 2 0 23 hour).isSome && (digitField? 2 0 59 minute).isSome
      | _ => false

/-- A character of a time of day. -/
def isTimeChar (c : Char) : Bool := c.isDigit || c == ':' || c == '.'

/-- Does a text write a time of day with an optional distance? -/
def isTimeWithOffset (cs : List Char) : Bool :=
  isTime (cs.takeWhile isTimeChar) && isOffset (cs.dropWhile isTimeChar)

/-- Does a word write a date, a time, or both with a letter between them? -/
def isMoment (word : List Char) : Bool :=
  isTime word || isDate word ||
    (isDate (word.take 10) &&
      match word.drop 10 with
      | c :: rest => (c == 'T' || c == 't') && isTimeWithOffset rest
      | [] => false)

/-- The value of a word. -/
def ofWord? (word : List Char) : Option Toml :=
  if word = "true".toList then some (.bool true)
  else if word = "false".toList then some (.bool false)
  else if isMoment word then some .moment
  else ((readInteger? word).map integer).or ((readReal? word).map real)

end Switchboard.Toml
