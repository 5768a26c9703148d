import Switchboard.Proofs.Number.Decimal
import Switchboard.Proofs.Time.Calendar
import Switchboard.Time.HttpDate
import Mathlib.Tactic.IntervalCases

/-!
# Dates in headers read back

What is written of a moment is read as this moment (`HttpDate.parseChars?_renderChars`), for the
years that four digits write. Each scan reads its own part of the text and gives the rest
(`HttpDate.fields?_spelled`). The fields say the date, the day of the week and the time of day, and
they go together because they were taken from one moment (`HttpDate.moment?_said`).
-/

namespace Switchboard.Time

/-! ## Scans -/

theorem isBlank_of_isDigit {c : Char} (h : c.isDigit = true) : Text.isBlank c = false := by
  rw [Char.isDigit_iff_toNat] at h
  change 48 ≤ c.toNat ∧ c.toNat ≤ 57 at h
  unfold Text.isBlank
  simp only [Bool.or_eq_false_iff, Bool.and_eq_false_iff, decide_eq_false_iff_not,
    beq_eq_false_iff_ne]
  omega

/-- There is no blank in front of a digit. -/
theorem skipBlanks_digits {ds : List Char} (digits : ∀ c ∈ ds, c.isDigit = true) (some : ds ≠ [])
    (rest : List Char) : skipBlanks (ds ++ rest) = ds ++ rest := by
  cases ds with
  | nil => exact absurd rfl some
  | cons d ds =>
    have first := isBlank_of_isDigit (digits d List.mem_cons_self)
    exact List.dropWhile_cons_of_neg (by simp [first])

/-- A scan for a number takes the digits and stops behind them. -/
theorem number?_digits {ds : List Char} (digits : ∀ c ∈ ds, c.isDigit = true) {least most : Nat}
    (enough : least ≤ ds.length) (few : ds.length ≤ most)
    (small : (Number.ofDigits ds : Int) ≤ Number.largestSigned 64) {c : Char}
    (stop : c.isDigit = false) (rest : List Char) :
    number? least most (ds ++ c :: rest) = some ((Number.ofDigits ds : Int), c :: rest) := by
  have taken : ((ds ++ c :: rest).take most).takeWhile Char.isDigit = ds := by
    rw [List.take_append, List.take_of_length_le few, List.takeWhile_append_of_pos digits]
    cases most - ds.length with
    | zero => simp
    | succ k => simp [stop]
  unfold number?
  simp [taken, enough, small]

namespace HttpDate

theorem ofDigits_zeros (k : Nat) (ds : List Char) :
    Number.ofDigits (List.replicate k '0' ++ ds) = Number.ofDigits ds := by
  induction k with
  | zero => rfl
  | succ k ih =>
    rw [List.replicate_succ, List.cons_append, ← ih]
    rfl

theorem isDigit_of_mem_padded {width n : Nat} {c : Char} (hc : c ∈ padded width n) :
    c.isDigit = true := by
  rcases List.mem_append.1 hc with hc | hc
  · rw [List.eq_of_mem_replicate hc]
    rfl
  · exact Number.isDigit_of_mem_digitChars hc

/-- A padded number has its width in digits and is read as that number. -/
theorem padded_spec {width n : Nat} (positive : 0 < width) (h : n < 10 ^ width) :
    (padded width n).length = width ∧ (∀ c ∈ padded width n, c.isDigit = true) ∧
      Number.ofDigits (padded width n) = n := by
  have fits : (Number.digitChars n).length ≤ width :=
    (Nat.length_toDigits_le_iff (by decide) positive).2 h
  refine ⟨?_, fun c => isDigit_of_mem_padded, ?_⟩
  · unfold padded
    dsimp only
    rw [List.length_append, List.length_replicate]
    omega
  · unfold padded
    dsimp only
    rw [ofDigits_zeros, Number.ofDigits_digitChars]

theorem skipBlanks_padded {width n : Nat} (positive : 0 < width) (h : n < 10 ^ width)
    (rest : List Char) : skipBlanks (padded width n ++ rest) = padded width n ++ rest := by
  obtain ⟨length, digits, -⟩ := padded_spec positive h
  refine skipBlanks_digits digits (fun none => ?_) rest
  rw [none] at length
  simp at length
  omega

/-- A padded number is read up to what stands behind it. -/
theorem number?_padded {width n : Nat} (positive : 0 < width) (h : n < 10 ^ width)
    (short : width ≤ 4) {least most : Nat} (enough : least ≤ width) (few : width ≤ most) {c : Char}
    (stop : c.isDigit = false) (rest : List Char) :
    number? least most (padded width n ++ c :: rest) = some ((n : Int), c :: rest) := by
  obtain ⟨length, digits, value⟩ := padded_spec positive h
  have bound : n < 10 ^ 4 := Nat.lt_of_lt_of_le h (Nat.pow_le_pow_right (by decide) short)
  have small : (Number.ofDigits (padded width n) : Int) ≤ Number.largestSigned 64 := by
    have large : (10 ^ 4 : Int) ≤ Number.largestSigned 64 := by decide
    rw [value]
    omega
  have read := number?_digits digits (by omega : least ≤ _) (by omega : _ ≤ most) small stop rest
  rwa [value] at read

/-! ## Names -/

/-- The name of a day is read as that day. -/
theorem name?_dayNames {w : Nat} (h : w < 7) (rest : List Char) :
    name? dayStarts dayEnds false ((dayNames[w]?.getD "").toList ++ rest) = some (w, rest) := by
  interval_cases w <;> rfl

/-- The name of a month is read as that month. -/
theorem name?_monthNames {i : Nat} (h : i < 12) (rest : List Char) :
    name? monthStarts monthEnds false ((monthNames[i]?.getD "").toList ++ rest) = some (i, rest) := by
  interval_cases i <;> rfl

theorem skipBlanks_dayNames {w : Nat} (h : w < 7) (rest : List Char) :
    skipBlanks ((dayNames[w]?.getD "").toList ++ rest) =
      (dayNames[w]?.getD "").toList ++ rest := by
  interval_cases w <;> rfl

theorem skipBlanks_monthNames {i : Nat} (h : i < 12) (rest : List Char) :
    skipBlanks ((monthNames[i]?.getD "").toList ++ rest) =
      (monthNames[i]?.getD "").toList ++ rest := by
  interval_cases i <;> rfl

/-! ## The text of a moment -/

/-- A day of the week, a date and a time of day as they are written. -/
def spelled (weekday day month year hour minute second : Nat) : List Char :=
  (dayNames[weekday]?.getD "").toList ++ ',' :: ' ' :: (padded 2 day ++ ' ' ::
    ((monthNames[month - 1]?.getD "").toList ++ ' ' :: (padded 4 year ++ ' ' ::
      (padded 2 hour ++ ':' :: (padded 2 minute ++ ':' :: (padded 2 second ++
        [' ', 'G', 'M', 'T']))))))

/-- A moment is written by its fields. -/
theorem renderChars_eq {seconds : Int} {m : Moment} (hm : Moment.ofSeconds seconds = m)
    {year : Nat} (hy : m.date.year = year) (four : year ≤ 9999) :
    renderChars seconds = spelled m.date.weekday m.date.day m.date.month year (m.second / 3600)
      (m.second / 60 % 60) (m.second % 60) := by
  have text : yearText m.date.year = padded 4 year := by
    unfold yearText
    rw [hy, if_neg (by omega), if_neg (by omega), Int.natAbs_natCast]
  unfold renderChars spelled
  dsimp only
  rw [hm, text]
  simp only [List.append_assoc, List.cons_append, List.nil_append]

/-- The fields that such a text says, the last one first. -/
def said (weekday day month year hour minute second : Nat) : Fields :=
  [(.offset, 0), (.second, second), (.minute, minute), (.hourOfHalf, (hour % 12 : Nat)),
    (.half, (hour / 12 : Nat)), (.year, year), (.month, month), (.day, day), (.weekday, weekday)]

/-- A field that is not set takes any value in its range. -/
theorem set?_new {fs : Fields} {f : Field} {v : Int} (low : f.range.1 ≤ v) (high : v ≤ f.range.2)
    (new : fs.get? f = none) : fs.set? f v = some ((f, v) :: fs) := by
  unfold Fields.set?
  rw [new]
  simp [low, high]

theorem setHour?_new {fs : Fields} {hour : Nat} (h : hour < 24) (half : fs.get? .half = none)
    (rest : fs.get? .hourOfHalf = none) : fs.setHour? hour =
      some ((.hourOfHalf, ((hour % 12 : Nat) : Int)) :: (.half, ((hour / 12 : Nat) : Int)) :: fs) := by
  have first : (if (hour : Int) < 12 then 0 else (hour : Int) / 12) = ((hour / 12 : Nat) : Int) := by
    split <;> omega
  have second : (if (hour : Int) < 12 then (hour : Int) else (hour : Int) % 12) =
      ((hour % 12 : Nat) : Int) := by
    split <;> omega
  have below : ((hour / 12 : Nat) : Int) ≤ 1 := by omega
  have inside : ((hour % 12 : Nat) : Int) ≤ 11 := by omega
  unfold Fields.setHour?
  rw [first, second, set?_new (Int.natCast_nonneg _) below half]
  exact set?_new (Int.natCast_nonneg _) inside rest

theorem dayName?_dayNames {weekday : Nat} (h : weekday < 7) (rest : List Char) :
    dayName? [] ((dayNames[weekday]?.getD "").toList ++ ',' :: rest) =
      some ([(.weekday, (weekday : Int))], rest) := by
  have said : Fields.set? [] .weekday weekday = some [(.weekday, (weekday : Int))] :=
    set?_new (Int.natCast_nonneg _) (by change (weekday : Int) ≤ 6; omega) rfl
  unfold dayName?
  rw [name?_dayNames h]
  dsimp only
  rw [said]
  rfl

theorem skipComments_nil : skipComments [] = [] := by
  rw [skipComments]
  rfl

/-- Two digits are read up to what stops them, with a blank in front of them or not. -/
theorem two_digits {n : Nat} (h : n < 60) {c : Char} (stop : c.isDigit = false)
    (rest : List Char) :
    blanks? (' ' :: (padded 2 n ++ c :: rest)) = some (padded 2 n ++ c :: rest) ∧
      ∀ least ≤ 2, number? least 2 (padded 2 n ++ c :: rest) = some ((n : Int), c :: rest) ∧
        number? least 2 (skipBlanks (padded 2 n ++ c :: rest)) = some ((n : Int), c :: rest) := by
  have small : n < 10 ^ 2 := by omega
  have kept := skipBlanks_padded (by decide) small (c :: rest)
  refine ⟨congrArg some kept, fun least enough => ?_⟩
  rw [kept, and_self]
  exact number?_padded (by decide) small (by decide) enough (by decide) stop rest

/-- Four digits with a blank in front of them are read as a number, and as a year. -/
theorem four_digits {n : Nat} (h : n ≤ 9999) (rest : List Char) :
    blanks? (' ' :: (padded 4 n ++ ' ' :: rest)) = some (padded 4 n ++ ' ' :: rest) ∧
      number? 2 (padded 4 n ++ ' ' :: rest).length (padded 4 n ++ ' ' :: rest) =
        some ((n : Int), ' ' :: rest) ∧
      (padded 4 n ++ ' ' :: rest).length - (' ' :: rest).length = 4 := by
  have small : n < 10 ^ 4 := by omega
  have length := (padded_spec (by decide : 0 < 4) small).1
  have all : (padded 4 n ++ ' ' :: rest).length = 4 + (' ' :: rest).length := by
    rw [List.length_append, length]
  refine ⟨congrArg some (skipBlanks_padded (by decide) small _), ?_, by omega⟩
  exact number?_padded (by decide) small (by decide) (by decide) (by omega) rfl rest

/-- The step of a reading after what it has read. -/
theorem bind_of_eq_some {α β : Type} {x : Option α} {a : α} {f : α → Option β} {b : Option β}
    (read : x = some a) (rest : f a = b) : (x >>= f) = b := by
  rw [read]
  exact rest

/-- **The fields of a text are those that it was made of.** -/
theorem fields?_spelled {weekday day month year hour minute second : Nat} (hw : weekday < 7)
    (hd : 1 ≤ day ∧ day ≤ 31) (hm : 1 ≤ month ∧ month ≤ 12) (hy : year ≤ 9999) (hh : hour < 24)
    (hn : minute < 60) (hs : second < 60) :
    fields? (spelled weekday day month year hour minute second) =
      some (said weekday day month year hour minute second) := by
  have hd' : day < 60 := by omega
  have hh' : hour < 60 := by omega
  have hm' : month - 1 < 12 := by omega
  have month_ : ((month - 1 : Nat) : Int) + 1 = month := by omega
  unfold fields? spelled
  -- The date.
  rw [skipBlanks_dayNames hw]
  refine bind_of_eq_some (dayName?_dayNames hw _) ?_
  dsimp only
  refine bind_of_eq_some ((two_digits hd' rfl _).2 1 (by decide)).2 ?_
  dsimp only
  refine bind_of_eq_some (set?_new (by change (1 : Int) ≤ day; omega)
    (by change (day : Int) ≤ 31; omega) rfl) ?_
  refine bind_of_eq_some (congrArg some (skipBlanks_monthNames hm' _)) ?_
  refine bind_of_eq_some (name?_monthNames hm' _) ?_
  dsimp only
  rw [month_]
  refine bind_of_eq_some (set?_new (by change (1 : Int) ≤ month; omega)
    (by change (month : Int) ≤ 12; omega) rfl) ?_
  refine bind_of_eq_some (four_digits hy _).1 ?_
  refine bind_of_eq_some (four_digits hy _).2.1 ?_
  dsimp only
  rw [(four_digits hy _).2.2]
  refine bind_of_eq_some (set?_new (v := (year : Int)) (by change -2147483648 ≤ (year : Int); omega)
    (by change (year : Int) ≤ 2147483647; omega) rfl) ?_
  -- The time of day.
  refine bind_of_eq_some (two_digits hh' rfl _).1 ?_
  refine bind_of_eq_some ((two_digits hh' rfl _).2 2 (by decide)).1 ?_
  dsimp only
  refine bind_of_eq_some (setHour?_new hh rfl rfl) ?_
  refine bind_of_eq_some (a := padded 2 minute ++ ':' :: _) rfl ?_
  refine bind_of_eq_some ((two_digits hn rfl _).2 2 (by decide)).2 ?_
  dsimp only
  refine bind_of_eq_some (set?_new (Int.natCast_nonneg _)
    (by change (minute : Int) ≤ 59; omega) rfl) ?_
  rw [show char? ':' (skipBlanks (':' :: (padded 2 second ++ [' ', 'G', 'M', 'T']))) =
    some (padded 2 second ++ [' ', 'G', 'M', 'T']) from rfl]
  refine bind_of_eq_some ((two_digits hs rfl _).2 2 (by decide)).1 ?_
  dsimp only
  refine bind_of_eq_some (set?_new (Int.natCast_nonneg _)
    (by change (second : Int) ≤ 60; omega) rfl) ?_
  -- The zone, with no comment behind it.
  refine bind_of_eq_some rfl ?_
  refine bind_of_eq_some (a := ['G', 'M', 'T']) rfl ?_
  refine bind_of_eq_some (a := (0, [])) (by decide) ?_
  refine bind_of_eq_some (set?_new (by decide) (by decide) rfl) ?_
  dsimp only
  rw [skipComments_nil]
  rfl

/-! ## The moment of a text -/

theorem agrees_of_some {fs : Fields} {f : Field} {v : Int} (h : fs.get? f = some v) :
    fs.agrees f v = true := by
  unfold Fields.agrees
  rw [h]
  exact beq_self_eq_true v

theorem agrees_of_none {fs : Fields} {f : Field} (h : fs.get? f = none) (v : Int) :
    fs.agrees f v = true := by
  unfold Fields.agrees
  rw [h]
  rfl

theorem agreesCentury_of_none {fs : Fields} {hundreds rest : Field}
    (first : fs.get? hundreds = none) (second : fs.get? rest = none) (y : Int) :
    fs.agreesCentury hundreds rest y = true := by
  unfold Fields.agreesCentury
  rw [agrees_of_none first, agrees_of_none second, first, second]
  exact ite_self true

theorem agreesIsoWeek_said (d : Date) (year hour minute second : Nat) :
    (said d.weekday d.day d.month year hour minute second).agreesIsoWeek d = true := by
  unfold Fields.agreesIsoWeek
  dsimp only
  rw [agrees_of_none rfl, agreesCentury_of_none rfl rfl, agrees_of_none rfl, agrees_of_some rfl]
  rfl

theorem agreesOrdinal_said (d : Date) (year hour minute second : Nat) :
    (said d.weekday d.day d.month year hour minute second).agreesOrdinal d = true := by
  unfold Fields.agreesOrdinal
  rw [agrees_of_none rfl, agrees_of_none rfl, agrees_of_none rfl]
  rfl

theorem checked_of_agrees {d : Date} {agrees : Date → Bool} (h : agrees d = true) :
    Fields.checked (some d) agrees = .ok d := if_pos h

theorem year_inRange {year : Int} (low : 0 ≤ year) (high : year ≤ 9999) : inRange year = true := by
  unfold inRange leastYear largestYear
  simp only [Bool.and_eq_true, decide_eq_true_eq]
  omega

/-- The fields that were written say the date. -/
theorem date_said {d : Date} (valid : d.isValid = true) {year : Nat} (hy : d.year = year)
    (four : year ≤ 9999) (hour minute second : Nat) :
    (said d.weekday d.day d.month year hour minute second).date = .ok d := by
  have there : date? year ((d.month : Int).toNat) ((d.day : Int).toNat) = some d := by
    rw [← hy]
    exact date?_of_isValid valid (year_inRange (by omega) (by omega))
  change (Fields.checked (date? year ((d.month : Int).toNat) ((d.day : Int).toNat)) _ >>= _) = _
  rw [there, checked_of_agrees]
  · rfl
  · rw [agreesIsoWeek_said, agreesOrdinal_said]
    rfl

/-- They say the time of day. -/
theorem clock_said (weekday day month year hour minute : Nat) {second : Nat} (hs : second < 60) :
    (said weekday day month year hour minute second).clock =
      .ok (hour * 3600 + minute * 60 + second, 0) := by
  have whole : (((hour / 12 : Nat) : Int) * 12 + (hour % 12 : Nat)) * 3600 + (minute : Int) * 60 +
      (if (second : Int) = 60 then 59 else (second : Int)) =
        ((hour * 3600 + minute * 60 + second : Nat) : Int) := by
    rw [if_neg (by omega)]
    omega
  change Except.ok (((((hour / 12 : Nat) : Int) * 12 + (hour % 12 : Nat)) * 3600 +
    (minute : Int) * 60 + (if (second : Int) = 60 then 59 else (second : Int))).toNat,
    (if (second : Int) = 60 then 1000000000 else 0) + 0) = _
  rw [whole, if_neg (by omega), Int.toNat_natCast]

/-- **The fields of a moment say this moment.** -/
theorem moment?_said {d : Date} (valid : d.isValid = true) {year : Nat} (hy : d.year = year)
    (four : year ≤ 9999) (second : Nat) :
    (said d.weekday d.day d.month year (second / 3600) (second / 60 % 60) (second % 60)).moment? 0 =
      some ⟨d, second, 0⟩ := by
  have parts : second / 3600 * 3600 + second / 60 % 60 * 60 + second % 60 = second := by omega
  have clock := clock_said d.weekday d.day d.month year (second / 3600) (second / 60 % 60)
    (Nat.mod_lt second (by decide : 0 < 60))
  unfold Fields.moment?
  rw [date_said valid hy four, clock, parts]
  rfl

/-! ## Reading back what is written -/

theorem trimBy_spelled {weekday : Nat} (hw : weekday < 7) (day month year hour minute second : Nat) :
    Text.trimBy Text.isBlank (spelled weekday day month year hour minute second) =
      spelled weekday day month year hour minute second := by
  have start : (spelled weekday day month year hour minute second).dropWhile Text.isBlank =
      spelled weekday day month year hour minute second := skipBlanks_dayNames hw _
  have stop : ∃ before, (spelled weekday day month year hour minute second).reverse =
      'T' :: before := by
    unfold spelled
    simp only [List.reverse_append, List.reverse_cons, List.append_assoc, List.reverse_nil,
      List.nil_append, List.cons_append]
    exact ⟨_, rfl⟩
  obtain ⟨before, back⟩ := stop
  unfold Text.trimBy
  rw [start, back, List.dropWhile_cons_of_neg (by decide), ← back, List.reverse_reverse]

/-- **What is written of a moment is read as this moment**, in the years of four digits. -/
theorem parseChars?_renderChars {seconds : Int}
    (low : 0 ≤ (Moment.ofSeconds seconds).date.year)
    (high : (Moment.ofSeconds seconds).date.year ≤ 9999) :
    parseChars? (renderChars seconds) = some seconds := by
  obtain ⟨year, hy⟩ := Int.eq_ofNat_of_zero_le low
  have four : year ≤ 9999 := by omega
  have valid : (Moment.ofSeconds seconds).date.isValid = true := Date.isValid_ofDays _
  obtain ⟨month, month', day, day'⟩ := Date.bounds_of_isValid valid
  have small := (Moment.second_ofSeconds seconds).2
  have weekday := Date.weekday_lt (Moment.ofSeconds seconds).date
  rw [renderChars_eq rfl hy four]
  unfold parseChars?
  rw [trimBy_spelled weekday, fields?_spelled weekday ⟨day, day'⟩ ⟨month, month'⟩ four (by omega)
    (by omega) (by omega)]
  refine bind_of_eq_some rfl ?_
  refine bind_of_eq_some (a := ()) rfl ?_
  refine bind_of_eq_some (moment?_said valid hy four _) ?_
  have back : (⟨(Moment.ofSeconds seconds).date, (Moment.ofSeconds seconds).second, 0⟩ :
      Moment).toSeconds - 0 = seconds := by
    rw [Int.sub_zero]
    exact Moment.toSeconds_ofSeconds seconds
  change (guard (inRange (Moment.ofSeconds (Moment.toSeconds _ - 0)).date.year) >>= fun _ =>
    some (Moment.toSeconds _ - 0)) = _
  rw [back, year_inRange low high]
  rfl

/-- **A moment that was written is read back**, in the years of four digits. -/
theorem parse?_render {seconds : Int} (low : 0 ≤ (Moment.ofSeconds seconds).date.year)
    (high : (Moment.ofSeconds seconds).date.year ≤ 9999) :
    parse? (render seconds) = some seconds := by
  unfold parse? render
  rw [String.toList_ofList]
  exact parseChars?_renderChars low high

end HttpDate

end Switchboard.Time
