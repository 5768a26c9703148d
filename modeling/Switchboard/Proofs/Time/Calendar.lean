import Switchboard.Time.Calendar
import Mathlib.Algebra.GroupWithZero.Nat
import Mathlib.Algebra.Order.Group.Int
import Mathlib.Order.Monotone.Basic

/-!
# Dates and their days

A day has one date and a date has one day: the years lie end to end (`daysBefore_succ`), the year of
a day is the one that it lies in (`daysBefore_yearOf`), and a walk through the lengths of its months
comes to a month and a day of it that together make up the way (`walkMonths_spec`). So the date of a
day is in the calendar and leads back to the day (`Date.isValid_ofDays`, `Date.toDays_ofDays`), and
the same holds of moments (`Moment.toSeconds_ofSeconds`).
-/

namespace Switchboard.Time

/-! ## Years -/

theorem daysInYear_eq (year : Int) :
    (daysInYear year = 366 ∧ year % 4 = 0 ∧ (year % 100 ≠ 0 ∨ year % 400 = 0)) ∨
      (daysInYear year = 365 ∧ ¬ (year % 4 = 0 ∧ (year % 100 ≠ 0 ∨ year % 400 = 0))) := by
  have leap : isLeap year = true ↔ year % 4 = 0 ∧ (year % 100 ≠ 0 ∨ year % 400 = 0) := by
    simp [isLeap]
  unfold daysInYear
  by_cases h : isLeap year = true
  · exact .inl ⟨if_pos h, leap.1 h⟩
  · exact .inr ⟨if_neg h, fun hl => h (leap.2 hl)⟩

theorem daysBefore_eq (year : Int) : daysBefore year =
    365 * (year - 1) + (year - 1) / 4 - (year - 1) / 100 + (year - 1) / 400 - 719162 := rfl

/-- A year begins where the one before it ends. -/
theorem daysBefore_succ (year : Int) : daysBefore (year + 1) = daysBefore year + daysInYear year := by
  have days := daysInYear_eq year
  rw [daysBefore_eq, daysBefore_eq]
  omega

/-- A day lies in its year. -/
theorem daysBefore_yearOf (days : Int) :
    daysBefore (yearOf days) ≤ days ∧ days < daysBefore (yearOf days + 1) := by
  have bounds : ∀ y, y = (days + 719162) * 400 / 146097 + 1 →
      daysBefore (y - 1) ≤ days ∧ days < daysBefore (y + 2) := by
    intro y hy
    rw [daysBefore_eq, daysBefore_eq]
    omega
  obtain ⟨low, high⟩ := bounds _ rfl
  unfold yearOf
  dsimp only
  split
  · next early =>
    refine ⟨low, ?_⟩
    rwa [Int.sub_add_cancel]
  · split
    · next late => exact ⟨late, by rwa [Int.add_assoc]⟩
    · next early late => exact ⟨by omega, by omega⟩

theorem yearOf_offset (days : Int) :
    0 ≤ days - daysBefore (yearOf days) ∧
      days - daysBefore (yearOf days) < daysInYear (yearOf days) := by
  have inside := daysBefore_yearOf days
  have next := daysBefore_succ (yearOf days)
  omega

theorem daysBefore_lt_iff {year year' : Int} : daysBefore year < daysBefore year' ↔ year < year' := by
  have grows : StrictMono daysBefore := by
    refine strictMono_int_of_lt_succ fun year => ?_
    have days := daysInYear_eq year
    rw [daysBefore_succ]
    omega
  exact grows.lt_iff_lt

/-- A day lies in a year or before it if the next year has not begun. -/
theorem yearOf_le_iff (days year : Int) : yearOf days ≤ year ↔ days < daysBefore (year + 1) := by
  obtain ⟨low, high⟩ := daysBefore_yearOf days
  constructor
  · intro h
    refine high.trans_le (Int.not_lt.1 fun earlier => ?_)
    have before := daysBefore_lt_iff.1 earlier
    omega
  · intro h
    have before := daysBefore_lt_iff.1 (low.trans_lt h)
    omega

/-- A day lies in a year or after it if the year has begun. -/
theorem le_yearOf_iff {days year : Int} : year ≤ yearOf days ↔ daysBefore year ≤ days := by
  have before := yearOf_le_iff days (year - 1)
  rw [Int.sub_add_cancel] at before
  omega

/-! ## Months -/

/-- The months make up the year. -/
theorem sum_monthLengths (year : Int) : (monthLengths year).sum = daysInYear year := by
  unfold monthLengths daysInYear
  split <;> rfl

theorem monthLength_le {year : Int} {i length : Nat} (h : (monthLengths year)[i]? = some length) :
    i < 12 ∧ length ≤ 31 := by
  have bound : i < (monthLengths year).length := (List.getElem?_eq_some_iff.1 h).1
  refine ⟨bound, ?_⟩
  have mem := List.mem_of_getElem? h
  unfold monthLengths at mem
  split at mem <;> simp at mem <;> omega

/-- A walk of less than all months ends in one of them, at a day of it, and has come past the months
before it. -/
theorem walkMonths_spec {lengths : List Nat} {n : Nat} (h : n < lengths.sum) (month : Nat) :
    ∃ i length day, walkMonths lengths month n = (month + i, day) ∧ lengths[i]? = some length ∧
      1 ≤ day ∧ day ≤ length ∧ (lengths.take i).sum + day = n + 1 := by
  induction lengths generalizing n month with
  | nil => simp at h
  | cons length rest ih =>
    rw [walkMonths]
    rw [List.sum_cons] at h
    by_cases inside : n < length
    · refine ⟨0, length, n + 1, by simp [inside], rfl, ?_, ?_, ?_⟩
      · omega
      · omega
      · simp
    · obtain ⟨i, l, day, walk, at_, low, high, way⟩ := ih (n := n - length) (by omega) (month + 1)
      refine ⟨i + 1, l, day, ?_, by simpa using at_, low, high, ?_⟩
      · rw [if_neg inside, walk]
        congr 1
        omega
      · rw [List.take_succ_cons, List.sum_cons]
        omega

/-! ## Dates -/

namespace Date

/-- The date of a day in a year is in the calendar, and leads back to the day. -/
theorem ofOrdinal_spec {year : Int} {n : Nat} (low : 1 ≤ n) (high : n ≤ daysInYear year) :
    (ofOrdinal year n).year = year ∧ (ofOrdinal year n).isValid = true ∧
      (ofOrdinal year n).ordinal = n := by
  have inside : n - 1 < (monthLengths year).sum := by
    rw [sum_monthLengths]
    omega
  obtain ⟨i, length, day, walk, at_, first, last, way⟩ := walkMonths_spec inside 1
  have date : ofOrdinal year n = ⟨year, 1 + i, day⟩ := by
    unfold ofOrdinal
    rw [walk]
  have folded (ls : List Nat) : ls.foldr (· + ·) day = ls.sum + day := by
    induction ls with
    | nil => simp
    | cons l ls ih =>
      rw [List.foldr_cons, ih, List.sum_cons]
      omega
  rw [date]
  refine ⟨rfl, ?_, ?_⟩
  · unfold isValid
    simp [at_, first, last]
  · unfold ordinal
    simp only [Nat.add_sub_cancel_left]
    rw [folded, way]
    omega

/-- A count of days is a valid date in the year that it falls into. -/
theorem ofDays_spec (days : Int) :
    (ofDays days).year = yearOf days ∧ (ofDays days).isValid = true ∧
      (ofDays days).ordinal = (days - daysBefore (yearOf days)).toNat + 1 := by
  have inside := yearOf_offset days
  unfold ofDays
  exact ofOrdinal_spec (by omega) (by omega)

theorem isValid_ofDays (days : Int) : (ofDays days).isValid = true := (ofDays_spec days).2.1

/-- The days of a date that was made of days are those days. -/
theorem toDays_ofDays (days : Int) : (ofDays days).toDays = days := by
  obtain ⟨year, -, ordinal⟩ := ofDays_spec days
  have inside := yearOf_offset days
  unfold toDays
  rw [year, ordinal]
  omega

theorem weekday_lt (d : Date) : d.weekday < 7 := by
  unfold weekday
  omega

theorem bounds_of_isValid {d : Date} (h : d.isValid = true) :
    1 ≤ d.month ∧ d.month ≤ 12 ∧ 1 ≤ d.day ∧ d.day ≤ 31 := by
  unfold isValid at h
  simp only [Bool.and_eq_true, decide_eq_true_eq] at h
  obtain ⟨⟨month, day⟩, at_⟩ := h
  split at at_
  · next length hl =>
    have bounds := monthLength_le hl
    have inside : d.day ≤ length := of_decide_eq_true at_
    omega
  · cases at_

end Date

/-- A valid date in the calendar is made of its parts. -/
theorem date?_of_isValid {d : Date} (h : d.isValid = true) (year : inRange d.year = true) :
    date? d.year d.month d.day = some d := by
  unfold date?
  dsimp only
  rw [year, h]
  rfl

/-! ## Moments -/

namespace Moment

theorem second_ofSeconds (seconds : Int) :
    ((ofSeconds seconds).second : Int) = seconds % 86400 ∧ (ofSeconds seconds).second < 86400 := by
  unfold ofSeconds
  dsimp only
  omega

/-- The seconds of a moment that was made of seconds are those seconds. -/
theorem toSeconds_ofSeconds (seconds : Int) : (ofSeconds seconds).toSeconds = seconds := by
  obtain ⟨second, -⟩ := second_ofSeconds seconds
  unfold toSeconds
  rw [second]
  change (Date.ofDays (seconds / 86400)).toDays * 86400 + seconds % 86400 = seconds
  rw [Date.toDays_ofDays]
  omega

theorem year_ofSeconds (seconds : Int) : (ofSeconds seconds).date.year = yearOf (seconds / 86400) :=
  (Date.ofDays_spec _).1

end Moment

/-- The first second that dates reach. -/
def firstSecond : Int := daysBefore leastYear * 86400

/-- The last second that dates reach. -/
def lastSecond : Int := daysBefore (largestYear + 1) * 86400 - 1

/-- The seconds that dates reach are those from the first to the last one. -/
theorem inRange_ofSeconds_iff {seconds : Int} :
    inRange (Moment.ofSeconds seconds).date.year = true ↔
      firstSecond ≤ seconds ∧ seconds ≤ lastSecond := by
  unfold inRange firstSecond lastSecond
  rw [Moment.year_ofSeconds, Bool.and_eq_true, decide_eq_true_eq, decide_eq_true_eq,
    le_yearOf_iff, yearOf_le_iff]
  omega

end Switchboard.Time
