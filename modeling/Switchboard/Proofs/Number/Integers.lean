import Switchboard.Number.Decimal
import Switchboard.Proofs.Number.Rounding
import Mathlib.Data.List.TakeWhile
import Mathlib.Data.Nat.Digits.Defs

/-!
# Integers as numbers of a format

Rounding keeps the order (`Format.nearest_mono`), so integers are compared by the numbers nearest to
them, save that two integers may have one nearest number (`Binary.le_ofInt_iff`). They have so
only from the first integer on that needs more digits than a significand has, and then they are
no further apart than the numbers of the format are there (`Binary.eq_or_near_of_ofInt_eq`).
-/

namespace Switchboard.Number

namespace Format

variable {f : Format} {num num' den e m : Nat}

/-! ## Rounding keeps the order -/

theorem roundDiv_mono (le : num ≤ num') : roundDiv num den ≤ roundDiv num' den := by
  have cases := roundDiv_cases num den
  have cases' := roundDiv_cases num' den
  have quotients : num / den ≤ num' / den := Nat.div_le_div_right le
  rcases Nat.lt_or_eq_of_le quotients with apart | same
  · omega
  · -- one quotient: the remainders are in order, and one half is not rounded both ways
    have parts := Nat.div_add_mod num den
    have parts' := Nat.div_add_mod num' den
    rw [same] at parts cases
    omega

/-- Rounding to the nearest keeps the order. -/
theorem nearest_mono (proper : f.IsProper) (hd : 0 < den) (le : num ≤ num') :
    f.nearest num den ≤ f.nearest num' den := by
  obtain ⟨e, shift⟩ : ∃ e, f.IsShift num den e := ⟨_, isShift proper num hd⟩
  obtain ⟨e', shift'⟩ : ∃ e, f.IsShift num' den e := ⟨_, isShift proper num' hd⟩
  rw [nearest_eq proper hd shift, nearest_eq proper hd shift']
  refine min_le_min_left _ ?_
  rcases Nat.lt_or_eq_of_le (shift.le_of_lt (lt_of_le_of_lt le shift'.under)) with below | rfl
  · have most := (shift.roundDiv_le hd).1
    have least := (shift'.roundDiv_le hd).2.resolve_left (by omega)
    have places : (e + 1) * f.binade ≤ e' * f.binade := Nat.mul_le_mul_right _ below
    rw [Nat.succ_mul] at places
    omega
  · exact Nat.add_le_add_left (roundDiv_mono le) _

/-! ## How far the nearest number is -/

/-- A whole number of a significand's length, shifted at will, is its own rounding. -/
theorem units_nearest_of_short (proper : f.IsProper) {s : Nat} (short : s ≤ 2 * f.binade)
    (finite : f.nearest (s * 2 ^ e) 1 < f.infinity) :
    f.units (f.nearest (s * 2 ^ e) 1) = s * 2 ^ e := by
  obtain ⟨code, own⟩ : ∃ code, f.units code = s * 2 ^ e := by
    rcases Nat.lt_or_eq_of_le short with less | rfl
    · exact exists_units_eq proper less e
    · have pos := f.binade_pos
      obtain ⟨code, own⟩ := exists_units_eq proper (s := f.binade) (by omega) (e + 1)
      exact ⟨code, own.trans (by ring)⟩
  rw [← own, ← Nat.mul_one (f.units code)] at finite ⊢
  rcases Nat.le_total code f.infinity with low | high
  · rw [nearest_units proper one_pos low, Nat.mul_one]
  · have reached : f.nearest (f.units f.infinity * 1) 1 ≤ f.nearest (f.units code * 1) 1 :=
      nearest_mono proper one_pos (Nat.mul_le_mul_right 1 ((strictMono_units f).monotone high))
    rw [nearest_units proper one_pos le_rfl] at reached
    omega

/-- Rounding to an integer moves a quotient by half a unit at most. -/
theorem roundDiv_near (num : Nat) (hd : 0 < den) :
    2 * (roundDiv num den * den) ≤ 2 * num + den ∧
      2 * num ≤ 2 * (roundDiv num den * den) + den := by
  have parts := Nat.div_add_mod num den
  have rest := Nat.mod_lt num hd
  rw [Nat.mul_comm] at parts
  rcases roundDiv_cases num den with ⟨down, half, -⟩ | ⟨up, half, -⟩
  · rw [down]
    omega
  · rw [up, Nat.succ_mul (num / den)]
    omega

/-- A number of at most `m` digits more than a significand is rounded by half of a place at most. -/
theorem units_nearest_near (proper : f.IsProper) (small : num ≤ 2 * f.binade * 2 ^ m)
    (finite : f.nearest num 1 < f.infinity) :
    2 * f.units (f.nearest num 1) ≤ 2 * num + 2 ^ m ∧
      2 * num ≤ 2 * f.units (f.nearest num 1) + 2 ^ m := by
  rcases Nat.lt_or_eq_of_le small with less | rfl
  · obtain ⟨e, shift⟩ : ∃ e, f.IsShift num 1 e := ⟨_, isShift proper num one_pos⟩
    obtain ⟨high, normal⟩ := shift.roundDiv_le one_pos
    have near := nearest_eq proper one_pos shift
    rw [near, min_lt_iff, lt_self_iff_false, false_or] at finite
    rw [near, min_eq_right finite.le, units_shifted high normal, one_mul]
    rw [← one_mul (2 ^ m)] at less
    have place : 2 ^ e ≤ 2 ^ m := Nat.pow_le_pow_right (by decide) (shift.le_of_lt less)
    have half := roundDiv_near num (Nat.two_pow_pos e)
    omega
  · rw [units_nearest_of_short proper le_rfl finite]
    exact ⟨Nat.le_add_right _ _, Nat.le_add_right _ _⟩

/-! ## Codes of whole numbers -/

/-- The code nearest to a whole number. -/
def wholeCode (f : Format) (n : Nat) : Nat := f.nearest (n * 2 ^ f.depth) 1

variable {a b k : Nat}

/-- Codes of whole numbers are in order. -/
theorem wholeCode_mono (proper : f.IsProper) (le : a ≤ b) : f.wholeCode a ≤ f.wholeCode b :=
  nearest_mono proper one_pos (Nat.mul_le_mul_right _ le)

theorem wholeCode_zero (proper : f.IsProper) : f.wholeCode 0 = 0 := by
  have zero : f.units 0 = 0 := if_pos f.binade_pos
  have own : f.nearest (f.units 0 * 1) 1 = 0 := nearest_units proper one_pos (Nat.zero_le _)
  rw [zero, Nat.zero_mul] at own
  unfold wholeCode
  rw [Nat.zero_mul, own]

theorem wholeCode_pos (proper : f.IsProper) (some : 0 < a) : 0 < f.wholeCode a := by
  have pos := f.binade_pos
  have infinity : 1 ≤ f.infinity := by
    rw [infinity_eq proper]
    exact Nat.mul_pos (Nat.succ_pos _) pos
  -- the smallest magnitude is a unit, and a whole number is no less
  have unit : f.units (0 * f.binade + 1) = 1 * 2 ^ 0 := units_shifted (by omega) (.inl rfl)
  rw [Nat.zero_mul, Nat.zero_add, Nat.one_mul, pow_zero] at unit
  have own := nearest_units proper one_pos infinity
  rw [unit, Nat.mul_one] at own
  have reached : f.nearest 1 1 ≤ f.wholeCode a :=
    nearest_mono proper one_pos (Nat.mul_pos some (Nat.two_pow_pos _))
  omega

/-- A short whole number is exact. -/
theorem units_wholeCode (proper : f.IsProper) (short : a ≤ 2 ^ f.precision)
    (finite : f.wholeCode a < f.infinity) : f.units (f.wholeCode a) = a * 2 ^ f.depth := by
  rw [← two_mul_binade proper] at short
  exact units_nearest_of_short proper short finite

theorem units_wholeCode_near (proper : f.IsProper) (small : a ≤ 2 ^ (f.precision + k))
    (finite : f.wholeCode a < f.infinity) :
    2 * f.units (f.wholeCode a) ≤ 2 * (a * 2 ^ f.depth) + 2 ^ (k + f.depth) ∧
      2 * (a * 2 ^ f.depth) ≤ 2 * f.units (f.wholeCode a) + 2 ^ (k + f.depth) := by
  refine units_nearest_near proper ?_ finite
  calc a * 2 ^ f.depth ≤ 2 ^ (f.precision + k) * 2 ^ f.depth := Nat.mul_le_mul_right _ small
    _ = 2 * f.binade * 2 ^ (k + f.depth) := by
      rw [two_mul_binade proper]
      ring

/-- Whole numbers of one code need more digits than a significand has, and are near each other. -/
theorem near_of_wholeCode_eq (proper : f.IsProper) (less : a < b)
    (same : f.wholeCode a = f.wholeCode b) (finite : f.wholeCode b < f.infinity)
    (small : b ≤ 2 ^ (f.precision + k)) : 2 ^ f.precision ≤ a ∧ b ≤ a + 2 ^ k := by
  constructor
  · -- a short number is told from the next one, which has the same code as well
    by_contra short
    have next : f.wholeCode (a + 1) = f.wholeCode b :=
      Nat.le_antisymm (wholeCode_mono proper less) (same ▸ wholeCode_mono proper a.le_succ)
    have own := units_wholeCode proper (a := a) (by omega) (same ▸ finite)
    have own' := units_wholeCode proper (a := a + 1) (by omega) (next ▸ finite)
    rw [same] at own
    rw [next, own] at own'
    have := Nat.eq_of_mul_eq_mul_right (Nat.two_pow_pos _) own'
    omega
  · have low := (units_wholeCode_near proper (Nat.le_trans less.le small) (same ▸ finite)).1
    have high := (units_wholeCode_near proper small finite).2
    rw [same] at low
    refine Nat.le_of_mul_le_mul_right ?_ (Nat.two_pow_pos f.depth)
    rw [Nat.add_mul, ← pow_add]
    omega

end Format

/-! ## Numbers nearest to integers -/

namespace Binary

variable {f : Format} {a b : Int}

theorem le_congr {x x' y y' : Binary f} (hx : x.rank? = x'.rank?) (hy : y.rank? = y'.rank?) :
    x.le y = x'.le y' := by
  unfold le
  rw [hx, hy]

/-- Numbers compare as their ranks. -/
theorem le_iff_of_rank? {x y : Binary f} {r s : Int} (hx : x.rank? = some r)
    (hy : y.rank? = some s) : x.le y = true ↔ r ≤ s := by
  unfold le
  rw [hx, hy]
  exact decide_eq_true_iff

theorem ofInt_eq (n : Int) : (ofInt n : Binary f) = value (n < 0) (f.wholeCode n.natAbs) := rfl

/-- The rank of the number nearest to an integer. -/
def intRank (f : Format) (n : Int) : Int :=
  if n < 0 then -(f.wholeCode n.natAbs : Int) else f.wholeCode n.natAbs

theorem rank?_ofInt (n : Int) : (ofInt n : Binary f).rank? = some (intRank f n) := by
  rw [ofInt_eq]
  unfold rank? intRank
  simp only [decide_eq_true_eq]

/-- Ranks of integers are in order. -/
theorem intRank_mono (proper : f.IsProper) (le : a ≤ b) : intRank f a ≤ intRank f b := by
  unfold intRank
  split <;> split
  · have := Format.wholeCode_mono proper (show b.natAbs ≤ a.natAbs by omega)
    omega
  · omega
  · omega
  · have := Format.wholeCode_mono proper (show a.natAbs ≤ b.natAbs by omega)
    omega

theorem ofInt_eq_ofInt_iff (proper : f.IsProper) :
    (ofInt a : Binary f) = ofInt b ↔ intRank f a = intRank f b := by
  constructor
  · intro same
    have ranks := congrArg rank? same
    rwa [rank?_ofInt, rank?_ofInt, Option.some.injEq] at ranks
  · intro same
    -- only zero has the rank of zero, so numbers of one rank have one sign
    have apart {n : Int} (negative : n < 0) : 0 < f.wholeCode n.natAbs :=
      Format.wholeCode_pos proper (by omega)
    unfold intRank at same
    rw [ofInt_eq, ofInt_eq, value.injEq, decide_eq_decide]
    split at same <;> split at same
    · next ha hb => exact ⟨iff_of_true ha hb, by omega⟩
    · next ha hb => have := apart ha; omega
    · next ha hb => have := apart hb; omega
    · next ha hb => exact ⟨iff_of_false ha hb, by omega⟩

/-- **Integers are in the order of the numbers nearest to them**, where these are not one. -/
theorem le_ofInt_iff (proper : f.IsProper) :
    (ofInt a : Binary f).le (ofInt b) = true ↔ a ≤ b ∨ (ofInt a : Binary f) = ofInt b := by
  rw [le_iff_of_rank? (rank?_ofInt a) (rank?_ofInt b), ofInt_eq_ofInt_iff proper]
  constructor
  · intro le
    rcases Int.le_total a b with low | high
    · exact .inl low
    · exact .inr (Int.le_antisymm le (intRank_mono proper high))
  · rintro (low | same)
    · exact intRank_mono proper low
    · exact Int.le_of_eq same

theorem intRank_bounds (n : Int) :
    -(f.infinity : Int) ≤ intRank f n ∧ intRank f n ≤ f.infinity := by
  have most : f.wholeCode n.natAbs ≤ f.infinity := min_le_left _ _
  unfold intRank
  split <;> omega

theorem infinite_le_ofInt (n : Int) : (infinite true : Binary f).le (ofInt n) = true :=
  (le_iff_of_rank? rfl (rank?_ofInt n)).2 (intRank_bounds n).1

theorem ofInt_le_infinite (n : Int) : (ofInt n : Binary f).le (infinite false) = true :=
  (le_iff_of_rank? (rank?_ofInt n) rfl).2 (intRank_bounds n).2

/-- **Integers of one nearest number are near each other**, if they are not one: both need more
digits than a significand has, and they are no further apart than a last place of theirs. -/
theorem eq_or_near_of_ofInt_eq (proper : f.IsProper) {k : Nat}
    (same : (ofInt a : Binary f) = ofInt b) (finite : (ofInt a : Binary f).isFinite = true)
    (ha : a.natAbs ≤ 2 ^ (f.precision + k)) (hb : b.natAbs ≤ 2 ^ (f.precision + k)) :
    a = b ∨ 2 ^ f.precision ≤ a.natAbs ∧ 2 ^ f.precision ≤ b.natAbs ∧
      (a - b).natAbs ≤ 2 ^ k := by
  have low : f.wholeCode a.natAbs < f.infinity := of_decide_eq_true finite
  rw [ofInt_eq, ofInt_eq, value.injEq, decide_eq_decide] at same
  obtain ⟨signs, codes⟩ := same
  rcases Nat.lt_trichotomy a.natAbs b.natAbs with less | equal | more
  · have := Format.near_of_wholeCode_eq proper less codes (codes ▸ low) hb
    omega
  · exact .inl (by omega)
  · have := Format.near_of_wholeCode_eq proper more codes.symm low ha
    omega

end Binary

/-! ## Integer literals -/

section Literals

variable {f : Format} {ds : List Char}

theorem toLower_of_isDigit {c : Char} (digit : c.isDigit = true) : c.toLower = c := by
  unfold Char.toLower
  refine dif_neg fun upper => ?_
  have below : c.toNat ≤ 57 := (Char.isDigit_iff_toNat.1 digit).2
  have above : 65 ≤ c.toNat := UInt32.le_iff_toNat_le.1 upper.1
  omega

/-- Digits in lower case are themselves, so they are no word that has a letter. -/
theorem lower_digits_ne {w : String} (digits : ∀ c ∈ ds, c.isDigit = true)
    (letter : ∃ c ∈ w.toList, c.isDigit = false) : Text.lower (String.ofList ds) ≠ w := by
  rintro rfl
  unfold Text.lower at letter
  rw [String.toList_ofList, String.toList_ofList,
    List.map_congr_left fun c hc => toLower_of_isDigit (digits c hc), List.map_id'] at letter
  obtain ⟨c, hc, letter⟩ := letter
  exact Bool.false_ne_true (letter.symm.trans (digits c hc))

theorem readDecimal?_digits (nonempty : ds ≠ []) (digits : ∀ c ∈ ds, c.isDigit = true) :
    readDecimal? ds = some ⟨ofDigits ds, 0⟩ := by
  have span : ds.span Char.isDigit = (ds, []) := by
    rw [List.span_eq_takeWhile_dropWhile, List.takeWhile_eq_self_iff.2 digits,
      List.dropWhile_eq_nil_iff.2 digits]
  unfold readDecimal?
  rw [span]
  simp [nonempty, readExponent?]

/-- Digits with a sign are read as the nearest number. -/
theorem read?_digits {s : String} {negative : Bool} (sign : takeSign s.toList = (negative, ds))
    (nonempty : ds ≠ []) (digits : ∀ c ∈ ds, c.isDigit = true) :
    (read? s : Option (Binary f)) = some (.ofDecimal negative (ofDigits ds) 0) := by
  have noWord {w : String} (letter : ∃ c ∈ w.toList, c.isDigit = false) :
      (Text.lower (String.ofList ds) == w) = false :=
    beq_false_of_ne (lower_digits_ne digits letter)
  unfold read?
  rw [sign]
  dsimp only
  rw [noWord (w := "inf") ⟨'i', by decide, by decide⟩,
    noWord (w := "infinity") ⟨'i', by decide, by decide⟩,
    noWord (w := "nan") ⟨'n', by decide, by decide⟩, readDecimal?_digits nonempty digits]
  rfl

/-- A number that is not zero and not above all numbers of the formats is rounded as it is. -/
theorem ofDecimal_whole (negative : Bool) {n : Nat} (some : 0 < n) (small : n < 10 ^ 401) :
    (Binary.ofDecimal negative n 0 : Binary f) = .value negative (f.wholeCode n) := by
  have count : Binary.digitCount n ≤ 401 := by
    unfold Binary.digitCount
    rw [if_neg (by omega)]
    exact Nat.toDigits_length 10 n 401 (by decide) small
  unfold Binary.ofDecimal
  rw [if_neg (by omega), if_neg (by omega), if_neg (by omega), if_pos le_rfl]
  change Binary.ofRatio negative (n * 1) 1 = _
  rw [Nat.mul_one]
  rfl

/-- **An integer literal is read as the number nearest to the integer.** Minus zero keeps its sign,
which does not count where numbers are compared. -/
theorem exists_read?_of_readInt? (proper : f.IsProper) {s : String} {n : Int}
    (literal : readInt? s.toList = some n) (small : n.natAbs < 10 ^ 401) :
    ∃ x : Binary f, read? s = some x ∧ x.rank? = (Binary.ofInt n : Binary f).rank? := by
  unfold readInt? at literal
  split at literal
  next negative ds sign =>
  rw [Option.ite_none_right_eq_some, Bool.and_eq_true, decide_eq_true_eq, List.all_eq_true,
    Option.some.injEq] at literal
  obtain ⟨⟨nonempty, digits⟩, value⟩ := literal
  refine ⟨_, read?_digits sign nonempty digits, ?_⟩
  generalize ofDigits ds = d at value
  rcases Nat.eq_zero_or_pos d with rfl | pos
  · have zero : n = 0 := by
      rw [← value]
      split <;> rfl
    rw [zero, Binary.ofInt_eq, Int.natAbs_zero, Format.wholeCode_zero proper]
    cases negative <;> rfl
  · have magnitude : n.natAbs = d := by
      rw [← value]
      split <;> omega
    have side : decide (n < 0) = negative := by
      rw [← value]
      cases negative with
      | false => exact decide_eq_false (by simp)
      | true => exact decide_eq_true (by simpa using pos)
    rw [ofDecimal_whole negative pos (magnitude ▸ small), Binary.ofInt_eq, magnitude, side]

end Literals

end Switchboard.Number
