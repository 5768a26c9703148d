import Switchboard.Time.Scan

/-!
# Patterns of dates

A pattern is a text in which `%` and a letter stand for a part of a date. Blanks in a pattern stand
for any blanks, all other characters for themselves. A text matches a pattern if it is used up and
its fields make a date.
-/

namespace Switchboard.Time

/-- One part of a pattern. -/
inductive Part where
  | literal (c : Char)
  | blanks
  /-- A number, with as many digits as the field has unless it is signed. -/
  | number (f : Field)
  | hour
  /-- The hour of the half day, twelve for the first. -/
  | hourOfTwelve
  /-- The day of the week as a number, Sunday zero. -/
  | dayFromSunday
  /-- The day of the week as a number, Monday one. -/
  | dayFromMonday
  | monthName (whole : Bool)
  | dayName (whole : Bool)
  | half
  /-- A point and a fraction of a second, or nothing. -/
  | pointFraction
  | fraction (digits : Nat)
  | zoneName
  | zone (style : ZoneStyle)
  /-- What stands between date and time: a `T` or a space. -/
  | timeMark
  /-- An offset, or `UTC`. -/
  | zoneOrUtc
  deriving DecidableEq, Repr

/-- The number of digits a field is read with. -/
def Field.width : Field → Nat
  | year | isoYear => 4
  | quarter | weekday | half => 1
  | ordinal => 3
  | nanosecond => 9
  | timestamp | offset => 20
  | _ => 2

/-- May a field be written with a sign, and then with any number of digits? -/
def Field.isSigned : Field → Bool
  | year | isoYear => true
  | _ => false

/-- The offsets of `%z`. -/
def plainZone : ZoneStyle := ⟨false, false, true⟩

/-- The parts of a moment as standards write it. -/
def standardParts : List Part :=
  [.number .year, .blanks, .literal '-', .number .month, .blanks, .literal '-', .number .day,
    .timeMark, .hour, .blanks, .literal ':', .number .minute, .blanks, .literal ':',
    .number .second, .pointFraction, .blanks, .zoneOrUtc]

/-- Hour and minute. -/
def hourMinute : List Part := [.hour, .literal ':', .number .minute]

/-- Hour, minute and second. -/
def hourMinuteSecond : List Part := hourMinute ++ [.literal ':', .number .second]

/-- Month, day and year of the century. -/
def monthDayYear : List Part :=
  [.number .month, .literal '/', .number .day, .literal '/', .number .yearOfCentury]

/-- The parts that a letter behind `%` stands for. -/
def partsOfLetter? : Char → Option (List Part)
  | 'A' => some [.dayName true]
  | 'B' => some [.monthName true]
  | 'C' => some [.number .century]
  | 'D' => some monthDayYear
  | 'F' => some [.number .year, .literal '-', .number .month, .literal '-', .number .day]
  | 'G' => some [.number .isoYear]
  | 'H' => some [.hour]
  | 'I' => some [.hourOfTwelve]
  | 'M' => some [.number .minute]
  | 'P' => some [.half]
  | 'R' => some hourMinute
  | 'S' => some [.number .second]
  | 'T' => some hourMinuteSecond
  | 'U' => some [.number .weekFromSunday]
  | 'V' => some [.number .isoWeek]
  | 'W' => some [.number .weekFromMonday]
  | 'X' => some hourMinuteSecond
  | 'Y' => some [.number .year]
  | 'Z' => some [.zoneName]
  | 'a' => some [.dayName false]
  | 'b' => some [.monthName false]
  | 'c' => some ([.dayName false, .blanks, .monthName false, .blanks, .number .day, .blanks] ++
      hourMinuteSecond ++ [.blanks, .number .year])
  | 'd' => some [.number .day]
  | 'e' => some [.number .day]
  | 'f' => some [.number .nanosecond]
  | 'g' => some [.number .isoYearOfCentury]
  | 'h' => some [.monthName false]
  | 'j' => some [.number .ordinal]
  | 'k' => some [.hour]
  | 'l' => some [.hourOfTwelve]
  | 'm' => some [.number .month]
  | 'n' => some [.blanks]
  | 'p' => some [.half]
  | 'q' => some [.number .quarter]
  | 'r' => some ([.hourOfTwelve, .literal ':', .number .minute, .literal ':', .number .second] ++
      [.blanks, .half])
  | 's' => some [.number .timestamp]
  | 't' => some [.blanks]
  | 'u' => some [.dayFromMonday]
  | 'v' => some [.number .day, .literal '-', .monthName false, .literal '-', .number .year]
  | 'w' => some [.dayFromSunday]
  | 'x' => some monthDayYear
  | 'y' => some [.number .yearOfCentury]
  | 'z' => some [.zone plainZone]
  | '+' => some standardParts
  | '%' => some [.literal '%']
  | _ => none

/-- Is the part a number, so that its padding may be named? -/
def Part.isNumber : Part → Bool
  | number _ | hour | hourOfTwelve | dayFromSunday | dayFromMonday => true
  | _ => false

/-- The parts of a pattern, if each `%` in it stands for some. The padding of a number may be named
and does not matter. -/
def partsOf? : List Char → Option (List Part)
  | [] => some []
  | '%' :: '.' :: 'f' :: rest => (partsOf? rest).map (.pointFraction :: ·)
  | '%' :: '.' :: '3' :: 'f' :: rest => (partsOf? rest).map (.pointFraction :: ·)
  | '%' :: '.' :: '6' :: 'f' :: rest => (partsOf? rest).map (.pointFraction :: ·)
  | '%' :: '.' :: '9' :: 'f' :: rest => (partsOf? rest).map (.pointFraction :: ·)
  | '%' :: '3' :: 'f' :: rest => (partsOf? rest).map (.fraction 3 :: ·)
  | '%' :: '6' :: 'f' :: rest => (partsOf? rest).map (.fraction 6 :: ·)
  | '%' :: '9' :: 'f' :: rest => (partsOf? rest).map (.fraction 9 :: ·)
  | '%' :: ':' :: 'z' :: rest => (partsOf? rest).map (.zone plainZone :: ·)
  | '%' :: ':' :: ':' :: 'z' :: rest => (partsOf? rest).map (.zone plainZone :: ·)
  | '%' :: ':' :: ':' :: ':' :: 'z' :: rest => (partsOf? rest).map (.zone plainZone :: ·)
  | '%' :: '#' :: 'z' :: rest => (partsOf? rest).map (.zone ⟨true, true, true⟩ :: ·)
  | '%' :: c :: rest =>
    if c == '-' || c == '0' || c == '_' then
      match rest with
      | letter :: rest =>
        match partsOfLetter? letter with
        | some [part] => if part.isNumber then (partsOf? rest).map (part :: ·) else none
        | _ => none
      | [] => none
    else (partsOfLetter? c).bind fun parts => (partsOf? rest).map (parts ++ ·)
  | ['%'] => none
  | c :: rest =>
    (partsOf? rest).map ((if Text.isBlank c then Part.blanks else Part.literal c) :: ·)

/-- Reads the number of a field. -/
def numberOf? (f : Field) : Scan Int := fun cs =>
  let cs := skipBlanks cs
  if f.isSigned then
    match cs with
    | '-' :: rest => (number? 1 rest.length rest).map fun (n, rest) => (-n, rest)
    | '+' :: rest => number? 1 rest.length rest
    | _ => number? 1 f.width cs
  else number? 1 (if f = .timestamp then cs.length else f.width) cs

/-- Reads one part and says what it says. -/
def Part.read? (p : Part) (fs : Fields) (cs : List Char) : Option (Fields × List Char) :=
  let say (f : Field) (read : Option (Int × List Char)) : Option (Fields × List Char) := do
    let (v, rest) ← read
    return (← fs.set? f v, rest)
  let shifted (read : Option (Nat × List Char)) (by_ : Int) : Option (Int × List Char) :=
    read.map fun (v, rest) => (v + by_, rest)
  match p with
  | literal c => (char? c cs).map fun rest => (fs, rest)
  | blanks => some (fs, skipBlanks cs)
  | number f => say f (numberOf? f cs)
  | hour => do
    let (v, rest) ← number? 1 2 (skipBlanks cs)
    return (← fs.setHour? v, rest)
  | hourOfTwelve => do
    let (v, rest) ← number? 1 2 (skipBlanks cs)
    guard (1 ≤ v && v ≤ 12)
    return (← fs.set? .hourOfHalf (v % 12), rest)
  | dayFromSunday => do
    let (v, rest) ← number? 1 1 (skipBlanks cs)
    guard (v ≤ 6)
    return (← fs.set? .weekday ((v + 6) % 7), rest)
  | dayFromMonday => do
    let (v, rest) ← number? 1 1 (skipBlanks cs)
    guard (1 ≤ v && v ≤ 7)
    return (← fs.set? .weekday (v - 1), rest)
  | monthName whole => say .month (shifted (name? monthStarts monthEnds whole cs) 1)
  | dayName whole => say .weekday (shifted (name? dayStarts dayEnds whole cs) 0)
  | half => say .half (shifted (wordAt? ["am", "pm"] cs) 0)
  | pointFraction =>
    match cs with
    | '.' :: rest => say .nanosecond (fraction? rest)
    | _ => some (fs, cs)
  | fraction digits => say .nanosecond (fractionOf? digits cs)
  | zoneName => some (fs, cs.dropWhile fun c => !Text.isBlank c)
  | zone style => say .offset (zone? style (skipBlanks cs))
  | timeMark =>
    match cs with
    | c :: rest => if c == 'T' || c == 't' || c == ' ' then some (fs, rest) else none
    | [] => none
  | zoneOrUtc =>
    let cs := skipBlanks cs
    if (cs.take 3).map Char.toLower == ['u', 't', 'c'] then say .offset (some (0, cs.drop 3))
    else say .offset (zone? ⟨true, false, true⟩ cs)

/-- The fields of a text that matches some parts from its beginning to its end. -/
def fieldsOf? (parts : List Part) (cs : List Char) : Option Fields := do
  let (fs, rest) ← parts.foldlM (fun (fs, cs) p => p.read? fs cs) (([] : Fields), cs)
  guard rest.isEmpty
  return fs

/-- The moment that a text says in a pattern: a date with a time of day, or the midnight of a
date. -/
def momentOf? (pattern text : String) : Option Moment := do
  let parts ← partsOf? pattern.toList
  let fs ← fieldsOf? parts text.toList
  match fs.moment? 0, fs.date with
  | some m, _ => some m
  | none, .ok d => some ⟨d, 0, 0⟩
  | none, .error _ => none

end Switchboard.Time
