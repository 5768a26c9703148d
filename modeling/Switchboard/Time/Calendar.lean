/-!
# The calendar

Dates of the proleptic Gregorian calendar and their number of days from 1 January 1970. A year
begins `daysBefore` it, so a day's year is the one whose beginning it has passed and whose end it
has not; month and day come from walking through the lengths of the months.
-/

namespace Switchboard.Time

/-- Does the year have 29 days in February? -/
def isLeap (year : Int) : Bool := year % 4 = 0 && (year % 100 ≠ 0 || year % 400 = 0)

/-- The number of days of a year. -/
def daysInYear (year : Int) : Nat := if isLeap year then 366 else 365

/-- The lengths of the months of a year. -/
def monthLengths (year : Int) : List Nat :=
  [31, if isLeap year then 29 else 28, 31, 30, 31, 30, 31, 31, 30, 31, 30, 31]

/-- The number of days from 1 January 1970 to 1 January of a year. -/
def daysBefore (year : Int) : Int :=
  let y := year - 1
  365 * y + y / 4 - y / 100 + y / 400 - 719162

/-- The year a day lies in: the guess from the mean length of a year is off by one at most. -/
def yearOf (days : Int) : Int :=
  let guess := (days + 719162) * 400 / 146097 + 1
  if days < daysBefore guess then guess - 1
  else if daysBefore (guess + 1) ≤ days then guess + 1
  else guess

/-- A date. Months and days are counted from one. -/
structure Date where
  year : Int
  month : Nat
  day : Nat
  deriving DecidableEq, Repr, Inhabited

/-- Walks through months of the given lengths: the number of the month that day `n` from zero lies
in, counted from `month`, and its day in it counted from one. -/
def walkMonths : List Nat → (month n : Nat) → Nat × Nat
  | [], month, n => (month, n + 1)
  | length :: rest, month, n =>
    if n < length then (month, n + 1) else walkMonths rest (month + 1) (n - length)

namespace Date

/-- Does the calendar have this date? -/
def isValid (d : Date) : Bool :=
  1 ≤ d.month && 1 ≤ d.day &&
    match (monthLengths d.year)[d.month - 1]? with
    | some length => d.day ≤ length
    | none => false

/-- The number of the day in its year, from one. -/
def ordinal (d : Date) : Nat := ((monthLengths d.year).take (d.month - 1)).foldr (· + ·) d.day

/-- The date of day `n` of a year, counted from one. -/
def ofOrdinal (year : Int) (n : Nat) : Date :=
  let (month, day) := walkMonths (monthLengths year) 1 (n - 1)
  ⟨year, month, day⟩

/-- The number of days from 1 January 1970. -/
def toDays (d : Date) : Int := daysBefore d.year + d.ordinal - 1

/-- The date that lies a number of days from 1 January 1970. -/
def ofDays (days : Int) : Date :=
  let year := yearOf days
  ofOrdinal year ((days - daysBefore year).toNat + 1)

/-- The day of the week, Monday zero. -/
def weekday (d : Date) : Nat := ((d.toDays + 3) % 7).toNat

/-- The number of the week whose first day is `start`, the days before its first one in week 0. -/
def weekFrom (d : Date) (start : Nat) : Nat := (d.ordinal + 6 - (d.weekday + 7 - start) % 7) / 7

/-- The Monday that the first week of a year begins with: that week holds 4 January. -/
def isoYearStart (year : Int) : Int :=
  let fourth : Date := ⟨year, 1, 4⟩
  fourth.toDays - fourth.weekday

/-- The year whose weeks hold the date, and the number of the week. -/
def isoWeek (d : Date) : Int × Nat :=
  let days := d.toDays
  let year :=
    if isoYearStart (d.year + 1) ≤ days then d.year + 1
    else if days < isoYearStart d.year then d.year - 1
    else d.year
  (year, ((days - isoYearStart year) / 7).toNat + 1)

/-- The quarter of the year, from one. -/
def quarter (d : Date) : Nat := (d.month + 2) / 3

end Date

/-- The least year that dates reach. -/
def leastYear : Int := -262143

/-- The largest year that dates reach. -/
def largestYear : Int := 262142

/-- Is the year one that dates reach? -/
def inRange (year : Int) : Bool := leastYear ≤ year && year ≤ largestYear

/-- The date of a year, month and day, if there is one. -/
def date? (year : Int) (month day : Nat) : Option Date :=
  let d : Date := ⟨year, month, day⟩
  if inRange year && d.isValid then some d else none

/-- The date of a day in a year, if there is one. -/
def dateOfOrdinal? (year : Int) (n : Nat) : Option Date :=
  if inRange year && 1 ≤ n && n ≤ daysInYear year then some (.ofOrdinal year n) else none

/-- The date of a day in a numbered week, if there is one; Monday is zero. -/
def dateOfIsoWeek? (year : Int) (week weekday : Nat) : Option Date :=
  let days := Date.isoYearStart year + 7 * ((week : Int) - 1) + weekday
  let d := Date.ofDays days
  if 1 ≤ week && days < Date.isoYearStart (year + 1) && inRange year && inRange d.year then some d
  else none

/-! ## Moments -/

/-- A moment as a date and the seconds since its midnight, with a fraction in nanoseconds. A leap
second is the last second of its minute with a fraction of more than a second. -/
structure Moment where
  date : Date
  second : Nat
  nanosecond : Nat := 0
  deriving DecidableEq, Repr, Inhabited

namespace Moment

/-- The seconds since the beginning of 1970. -/
def toSeconds (m : Moment) : Int := m.date.toDays * 86400 + m.second

/-- The milliseconds since the beginning of 1970. -/
def toMilliseconds (m : Moment) : Int := m.toSeconds * 1000 + (m.nanosecond / 1000000 : Nat)

/-- The moment some seconds after the beginning of 1970. -/
def ofSeconds (seconds : Int) : Moment := ⟨.ofDays (seconds / 86400), (seconds % 86400).toNat, 0⟩

end Moment

/-- A reading of a clock: seconds since the beginning of 1970 and a fraction in nanoseconds. -/
structure Stamp where
  seconds : Int
  nanosecond : Nat := 0
  deriving DecidableEq, Repr, Inhabited

end Switchboard.Time
