import Switchboard.Time.Scan

/-!
# Dates in headers

Written as a short day name, day, month name, year and time in GMT. Read in the wider form of mail
headers: the day name may be missing, years may be short, zones may differ, comments may follow.
-/

namespace Switchboard.Time.HttpDate

/-- The names of the days as written. -/
def dayNames : List String := ["Mon", "Tue", "Wed", "Thu", "Fri", "Sat", "Sun"]

/-- The names of the months as written. -/
def monthNames : List String :=
  ["Jan", "Feb", "Mar", "Apr", "May", "Jun", "Jul", "Aug", "Sep", "Oct", "Nov", "Dec"]

/-- A number with zeros in front up to a width. -/
def padded (width n : Nat) : List Char :=
  let ds := Number.digitChars n
  List.replicate (width - ds.length) '0' ++ ds

/-- A year: four digits, a sign in front of one before 0 or after 9999. -/
def yearText (year : Int) : List Char :=
  if year < 0 then '-' :: padded 4 year.natAbs
  else if 9999 < year then '+' :: padded 4 year.natAbs
  else padded 4 year.natAbs

/-- The text of a moment, given in seconds since the beginning of 1970. -/
def renderChars (seconds : Int) : List Char :=
  let m := Moment.ofSeconds seconds
  (dayNames[m.date.weekday]?.getD "").toList ++ [',', ' '] ++ padded 2 m.date.day ++ [' '] ++
    (monthNames[m.date.month - 1]?.getD "").toList ++ [' '] ++ yearText m.date.year ++ [' '] ++
    padded 2 (m.second / 3600) ++ [':'] ++ padded 2 (m.second / 60 % 60) ++ [':'] ++
    padded 2 (m.second % 60) ++ [' ', 'G', 'M', 'T']

/-- The text of a moment, given in seconds since the beginning of 1970. -/
def render (seconds : Int) : String := String.ofList (renderChars seconds)

/-- The hours of the named zones. -/
def zoneHours : List (String × Int) :=
  [("gmt", 0), ("ut", 0), ("z", 0), ("edt", -4), ("est", -5), ("cdt", -5), ("cst", -6), ("mdt", -6),
    ("mst", -7), ("pdt", -7), ("pst", -8)]

/-- Reads a zone: a name, a single letter other than `J`, or a sign with four digits. -/
def zone? : Scan Int := fun cs =>
  let word := cs.takeWhile Char.isAlpha
  if word.isEmpty then Time.zone? ⟨false, false, false⟩ cs
  else
    let rest := cs.drop word.length
    match zoneHours.lookup (String.ofList (word.map Char.toLower)), word with
    | some hours, _ => some (hours * 3600, rest)
    | none, [c] => if c.toLower == 'j' then none else some (0, rest)
    | none, _ => none

/-- What follows the parenthesis that closes the comment, inside `depth` open ones. -/
def closeComment? : Nat → List Char → Option (List Char)
  | _, [] => none
  | depth, '\\' :: _ :: rest => closeComment? depth rest
  | depth, '(' :: rest => closeComment? (depth + 1) rest
  | depth, ')' :: rest => if depth ≤ 1 then some rest else closeComment? (depth - 1) rest
  | depth, _ :: rest => closeComment? depth rest

/-- What follows a comment is a part of it. -/
theorem length_of_closeComment? {depth : Nat} {cs rest : List Char}
    (h : closeComment? depth cs = some rest) : rest.length < cs.length := by
  fun_induction closeComment? depth cs <;> simp_all <;> omega

/-- Drops comments in parentheses, with blanks before them. -/
def skipComments (cs : List Char) : List Char :=
  match _blanks : skipBlanks cs with
  | '(' :: rest =>
    match _closed : closeComment? 1 rest with
    | some rest => skipComments rest
    | none => cs
  | _ => cs
termination_by cs.length
decreasing_by
  have h := length_of_closeComment? _closed
  have h' := (List.dropWhile_suffix Text.isBlank (l := cs)).length_le
  simp only [skipBlanks] at _blanks
  rw [_blanks] at h'
  simp only [List.length_cons] at h'
  omega

/-- A year as it is meant: two digits lie between 1950 and 2049, three are counted from 1900. -/
def fullYear (digits : Nat) (year : Int) : Int :=
  if digits = 2 then if year < 50 then year + 2000 else year + 1900
  else if digits = 3 then year + 1900
  else year

/-- The day of the week in front of a date, if one is there; a comma follows it. -/
def dayName? (fs : Fields) (cs : List Char) : Option (Fields × List Char) :=
  match name? dayStarts dayEnds false cs with
  | some (day, rest) => do return (← fs.set? .weekday day, ← char? ',' rest)
  | none => some (fs, cs)

/-- Reads the fields of a date. -/
def fields? (cs : List Char) : Option Fields := do
  let (fs, cs) ← dayName? [] (skipBlanks cs)
  let (day, cs) ← number? 1 2 (skipBlanks cs)
  let fs ← fs.set? .day day
  let (month, cs) ← name? monthStarts monthEnds false (← blanks? cs)
  let fs ← fs.set? .month (month + 1)
  let before ← blanks? cs
  let (year, cs) ← number? 2 before.length before
  let fs ← fs.set? .year (fullYear (before.length - cs.length) year)
  let (hour, cs) ← number? 2 2 (← blanks? cs)
  let fs ← fs.setHour? hour
  let (minute, cs) ← number? 2 2 (skipBlanks (← char? ':' (skipBlanks cs)))
  let fs ← fs.set? .minute minute
  let (fs, cs) ←
    match char? ':' (skipBlanks cs) with
    | some rest => do
      let (second, rest) ← number? 2 2 rest
      pure (← fs.set? .second second, rest)
    | none => pure (fs, cs)
  let (offset, cs) ← zone? (← blanks? cs)
  let fs ← fs.set? .offset offset
  guard (skipComments cs).isEmpty
  return fs

/-- The seconds since the beginning of 1970 that a text says; blanks around it do not count. -/
def parseChars? (cs : List Char) : Option Int := do
  let fs ← fields? (Text.trimBy Text.isBlank cs)
  let offset := (fs.get? .offset).getD 0
  guard (offset.natAbs < 86400)
  let m ← fs.moment? offset
  let seconds := m.toSeconds - offset
  guard (inRange (Moment.ofSeconds seconds).date.year)
  return seconds

/-- The seconds since the beginning of 1970 that a text says; blanks around it do not count. -/
def parse? (s : String) : Option Int := parseChars? s.toList

end Switchboard.Time.HttpDate
