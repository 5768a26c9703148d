import Switchboard.Number.Range
import Switchboard.Time.Calendar

/-!
# Fields of a date

What a text says of a moment comes in fields: a year or its century, a month, a week, an hour. A
field is said once or twice alike. `Fields.moment` puts a moment together from any set of fields
that determines one and checks that the others agree with it.
-/

namespace Switchboard.Time

/-- A field of a date or a time of day. -/
inductive Field where
  | year | century | yearOfCentury
  | isoYear | isoCentury | isoYearOfCentury
  | quarter | month | day | ordinal
  | weekFromSunday | weekFromMonday | isoWeek
  /-- The day of the week, Monday zero. -/
  | weekday
  /-- The half of the day, zero before noon. -/
  | half
  /-- The hour of the half day, from zero. -/
  | hourOfHalf
  | minute | second | nanosecond
  /-- Seconds since the beginning of 1970. -/
  | timestamp
  /-- Seconds that the local time is ahead by. -/
  | offset
  deriving DecidableEq, Repr

/-- The least and the largest value of a field. -/
def Field.range : Field → Int × Int
  | year | isoYear | offset => (Number.leastSigned 32, Number.largestSigned 32)
  | century | isoCentury => (0, Number.largestSigned 32)
  | yearOfCentury | isoYearOfCentury => (0, 99)
  | quarter => (1, 4)
  | month => (1, 12)
  | day => (1, 31)
  | ordinal => (1, 366)
  | weekFromSunday | weekFromMonday => (0, 53)
  | isoWeek => (1, 53)
  | weekday => (0, 6)
  | half => (0, 1)
  | hourOfHalf => (0, 11)
  | minute => (0, 59)
  | second => (0, 60)
  | nanosecond => (0, 999999999)
  | timestamp => (Number.leastSigned 64, Number.largestSigned 64)

/-- The fields said so far. -/
abbrev Fields := List (Field × Int)

/-- Why fields make no moment: too few of them, or some that do not go together. -/
inductive Gap where
  | missing
  | contradiction
  deriving DecidableEq, Repr

namespace Fields

/-- The value of a field. -/
def get? (fs : Fields) (f : Field) : Option Int := fs.lookup f

/-- Says a field: its value must be in range and no other than said before. -/
def set? (fs : Fields) (f : Field) (v : Int) : Option Fields :=
  if f.range.1 ≤ v && v ≤ f.range.2 then
    match fs.get? f with
    | some old => if old = v then some fs else none
    | none => some ((f, v) :: fs)
  else none

/-- Says the hour of the day. -/
def setHour? (fs : Fields) (hour : Int) : Option Fields := do
  let fs ← fs.set? .half (if hour < 12 then 0 else hour / 12)
  fs.set? .hourOfHalf (if hour < 12 then hour else hour % 12)

/-- Does a field agree with a value, if it has been said? -/
def agrees (fs : Fields) (f : Field) (v : Int) : Bool := (fs.get? f).all (· == v)

/-- Do century and year of the century agree with a year? No year before 0 has them. -/
def agreesCentury (fs : Fields) (hundreds rest : Field) (y : Int) : Bool :=
  if 0 ≤ y then fs.agrees hundreds (y / 100) && fs.agrees rest (y % 100)
  else (fs.get? hundreds).isNone && (fs.get? rest).isNone

/-- The year that a year, a century and a year of the century say together. A year of the century
alone lies between 1970 and 2069. -/
def resolveYear (fs : Fields) (whole hundreds rest : Field) : Except Gap (Option Int) :=
  match fs.get? whole, fs.get? hundreds, fs.get? rest with
  | y, none, none => .ok y
  | some y, _, _ =>
    if 0 ≤ y && fs.agreesCentury hundreds rest y then .ok (some y) else .error .contradiction
  | none, some q, some r =>
    let y := q * 100 + r
    if y ≤ Number.largestSigned 32 then .ok (some y) else .error .contradiction
  | none, none, some r => .ok (some (r + if r < 70 then 2000 else 1900))
  | none, some _, none => .error .missing

/-- Does the date have the year, month and day said? -/
def agreesDay (fs : Fields) (d : Date) : Bool :=
  fs.agrees .year d.year && fs.agreesCentury .century .yearOfCentury d.year &&
    fs.agrees .month d.month && fs.agrees .day d.day

/-- Does the date have the numbered week and the day of the week said? -/
def agreesIsoWeek (fs : Fields) (d : Date) : Bool :=
  let (year, week) := d.isoWeek
  fs.agrees .isoYear year && fs.agreesCentury .isoCentury .isoYearOfCentury year &&
    fs.agrees .isoWeek week && fs.agrees .weekday d.weekday

/-- Does the date have the day of the year and the weeks of the year said? -/
def agreesOrdinal (fs : Fields) (d : Date) : Bool :=
  fs.agrees .ordinal d.ordinal && fs.agrees .weekFromSunday (d.weekFrom 6) &&
    fs.agrees .weekFromMonday (d.weekFrom 0)

/-- The date of a day in a week of a year whose weeks begin on `start`. -/
def ofWeek (year : Int) (week weekday start : Nat) : Except Gap Date :=
  match dateOfOrdinal? year 1 with
  | none => .error .contradiction
  | some first =>
    let firstWeek := 1 + (start + 7 - first.weekday) % 7
    let n : Int := firstWeek + ((week : Int) - 1) * 7 + ((weekday + 7 - start) % 7 : Nat)
    if n ≤ 0 then .error .contradiction
    else match dateOfOrdinal? year n.toNat with
      | some d => .ok d
      | none => .error .contradiction

/-- A date found from some fields, if the others agree with it. -/
def checked (d : Option Date) (agrees : Date → Bool) : Except Gap Date :=
  match d with
  | some d => if agrees d then .ok d else .error .contradiction
  | none => .error .contradiction

/-- The date that the fields say: by year, month and day, else by the day of the year, else by a
week of the year, else by a numbered week. -/
def date (fs : Fields) : Except Gap Date := do
  let year ← fs.resolveYear .year .century .yearOfCentury
  let isoYear ← fs.resolveYear .isoYear .isoCentury .isoYearOfCentury
  let others (d : Date) : Bool := fs.agreesDay d && fs.agreesIsoWeek d && fs.agreesOrdinal d
  let found ←
    match year, fs.get? .month, fs.get? .day, fs.get? .ordinal, fs.get? .weekday,
        fs.get? .weekFromSunday, fs.get? .weekFromMonday, isoYear, fs.get? .isoWeek with
    | some y, some m, some d, _, _, _, _, _, _ =>
      checked (date? y m.toNat d.toNat) fun d => fs.agreesIsoWeek d && fs.agreesOrdinal d
    | some y, _, _, some n, _, _, _, _, _ => checked (dateOfOrdinal? y n.toNat) others
    | some y, _, _, _, some wd, some w, _, _, _ => do
      checked (some (← ofWeek y w.toNat wd.toNat 6)) others
    | some y, _, _, _, some wd, _, some w, _, _ => do
      checked (some (← ofWeek y w.toNat wd.toNat 0)) others
    | _, _, _, _, some wd, _, _, some y, some w =>
      checked (dateOfIsoWeek? y w.toNat wd.toNat) fun d => fs.agreesDay d && fs.agreesOrdinal d
    | _, _, _, _, _, _, _, _, _ => .error .missing
  if fs.agrees .quarter found.quarter then return found else throw .contradiction

/-- The time of day that the fields say, as seconds and nanoseconds. Seconds may be left out, but
not where a fraction of them is given; second 60 is the one before it made longer. -/
def clock (fs : Fields) : Except Gap (Nat × Nat) :=
  match fs.get? .half, fs.get? .hourOfHalf, fs.get? .minute with
  | some half, some hour, some minute =>
    let second := (fs.get? .second).getD 0
    let whole := (half * 12 + hour) * 3600 + minute * 60 + (if second = 60 then 59 else second)
    let leap := if second = 60 then 1000000000 else 0
    match fs.get? .nanosecond, fs.get? .second with
    | some _, none => .error .missing
    | nano, _ => .ok (whole.toNat, leap + (nano.getD 0).toNat)
  | _, _, _ => .error .missing

/-- The fields of a timestamp filled in: year, day of the year, hour, minute and second. A leap
second said may be the second at the timestamp or the one before it. -/
def ofTimestamp (fs : Fields) (seconds : Int) : Option Fields := do
  let stamp := Moment.ofSeconds seconds
  guard (inRange stamp.date.year)
  let (fs, m) ←
    if fs.get? .second = some 60 then
      if stamp.second % 60 = 59 then some (fs, stamp)
      else if stamp.second % 60 = 0 then some (fs, Moment.ofSeconds (seconds - 1))
      else none
    else (fs.set? .second (stamp.second % 60)).map fun fs => (fs, stamp)
  let fs ← fs.set? .year m.date.year
  let fs ← fs.set? .ordinal m.date.ordinal
  let fs ← fs.setHour? (m.second / 3600)
  fs.set? .minute (m.second / 60 % 60)

/-- The local moment that the fields say, ahead of the timestamp by `offset` seconds. A timestamp
stands in for fields that are missing. -/
def moment? (fs : Fields) (offset : Int) : Option Moment :=
  match fs.date, fs.clock, fs.get? .timestamp with
  | .ok date, .ok (second, nanosecond), given =>
    let m : Moment := ⟨date, second, nanosecond⟩
    let stamp := m.toSeconds - offset
    let fits (t : Int) : Bool := t == stamp || (1000000000 ≤ nanosecond && t == stamp + 1)
    if given.all fits then some m else none
  | .error .contradiction, _, _ => none
  | _, .error .contradiction, _ => none
  | _, _, some given => do
    let filled ← fs.ofTimestamp (given + offset)
    match filled.date, filled.clock with
    | .ok date, .ok (second, nanosecond) => some ⟨date, second, nanosecond⟩
    | _, _ => none
  | _, _, none => none

end Fields

end Switchboard.Time
