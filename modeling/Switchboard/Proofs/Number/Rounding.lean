import Switchboard.Number.Binary
import Mathlib.Algebra.Order.Field.Rat
import Mathlib.Algebra.Order.Ring.Nat
import Mathlib.Order.Monotone.Basic
import Mathlib.Tactic.Linarith
import Mathlib.Tactic.Positivity
import Mathlib.Tactic.Ring

/-!
# Rounding to a format

A code is a significand and a shift (`Format.exists_shifted`), larger codes are larger magnitudes,
and a fraction is rounded at the one shift that brings its quotient under two binades
(`Format.nearest_eq`). Two facts follow. A magnitude of the format is its own rounding
(`Format.nearest_units`), so a number comes back from every format that is wider
(`Binary.convert_convert`). And there is one magnitude from which on all numbers are rounded to
infinity (`Format.nearest_eq_infinity_iff`), so whether a number overflows in another format is
told by its magnitude (`Binary.isFinite_convert`).
-/

namespace Switchboard.Number

namespace Format

variable {f : Format} {num den code e s : Nat}

/-! ## Magnitudes -/

theorem binade_pos (f : Format) : 0 < f.binade := Nat.two_pow_pos _

/-- A code counts whole binades and then the places of its own. -/
theorem units_shifted (high : s ≤ 2 * f.binade) (normal : e = 0 ∨ f.binade ≤ s) :
    f.units (e * f.binade + s) = s * 2 ^ e := by
  have pos := f.binade_pos
  unfold units
  change (if e * f.binade + s < f.binade then e * f.binade + s else
    ((e * f.binade + s) % f.binade + f.binade) * 2 ^ ((e * f.binade + s) / f.binade - 1)) = _
  generalize f.binade = b at *
  by_cases small : s < b
  · have none : e = 0 := normal.resolve_right (by omega)
    subst none
    rw [Nat.zero_mul, Nat.zero_add, if_pos small, pow_zero, Nat.mul_one]
  · have large : ¬ e * b + s < b := by
      have := Nat.le_mul_of_pos_right e pos
      omega
    rw [if_neg large]
    by_cases top : s = 2 * b
    · subst top
      have next : e * b + 2 * b = b * (e + 2) := by ring
      rw [next, Nat.mul_mod_right, Nat.mul_div_cancel_left _ pos]
      change (0 + b) * 2 ^ (e + 1) = _
      ring
    · obtain ⟨r, rfl⟩ := Nat.exists_eq_add_of_le (Nat.le_of_not_lt small)
      have inside : r < b := by omega
      have own : e * b + (b + r) = b * (e + 1) + r := by ring
      rw [own, Nat.mul_add_mod, Nat.mod_eq_of_lt inside, Nat.mul_add_div pos,
        Nat.div_eq_of_lt inside]
      change (r + b) * 2 ^ e = _
      ring

theorem exists_shifted (f : Format) (code : Nat) :
    ∃ e s, code = e * f.binade + s ∧ s < 2 * f.binade ∧ (e = 0 ∨ f.binade ≤ s) := by
  have pos := f.binade_pos
  by_cases small : code < f.binade
  · exact ⟨0, code, by omega, by omega, .inl rfl⟩
  · have some : 1 ≤ code / f.binade := Nat.div_pos (Nat.le_of_not_lt small) pos
    have rest := Nat.mod_lt code pos
    refine ⟨code / f.binade - 1, code % f.binade + f.binade, ?_, by omega,
      .inr (Nat.le_add_left _ _)⟩
    calc code = f.binade * (code / f.binade) + code % f.binade := (Nat.div_add_mod _ _).symm
      _ = f.binade * (code / f.binade - 1 + 1) + code % f.binade := by rw [Nat.sub_add_cancel some]
      _ = (code / f.binade - 1) * f.binade + (code % f.binade + f.binade) := by ring

/-- A greater code stands for a greater magnitude. -/
theorem strictMono_units (f : Format) : StrictMono f.units := by
  refine strictMono_nat_of_lt_succ fun code => ?_
  obtain ⟨e, s, rfl, high, normal⟩ := f.exists_shifted code
  rw [units_shifted (by omega) normal, Nat.add_assoc, units_shifted (by omega) (by omega)]
  exact Nat.mul_lt_mul_of_pos_right (Nat.lt_succ_self s) (Nat.two_pow_pos e)

/-! ## The nearest integer -/

/-- A quotient is rounded down or up, a half to the even side. -/
theorem roundDiv_cases (num den : Nat) :
    (roundDiv num den = num / den ∧ 2 * (num % den) ≤ den ∧
      (2 * (num % den) = den → num / den % 2 = 0)) ∨
    (roundDiv num den = num / den + 1 ∧ den ≤ 2 * (num % den) ∧
      (2 * (num % den) = den → num / den % 2 = 1)) := by
  unfold roundDiv
  dsimp only
  split
  · exact .inl ⟨rfl, by omega, by omega⟩
  · split
    · exact .inr ⟨rfl, by omega, by omega⟩
    · rcases Nat.mod_two_eq_zero_or_one (num / den) with even | odd
      · exact .inl ⟨by omega, by omega, fun _ => even⟩
      · exact .inr ⟨by omega, by omega, fun _ => odd⟩

theorem roundDiv_mul (q : Nat) (hd : 0 < den) : roundDiv (q * den) den = q := by
  have cases := roundDiv_cases (q * den) den
  rw [Nat.mul_div_cancel _ hd, Nat.mul_mod_left] at cases
  omega

/-- An even number is reached from the half below it on. -/
theorem le_roundDiv_iff (num : Nat) {m : Nat} (pos : 0 < m) (even : m % 2 = 0) (hd : 0 < den) :
    m ≤ roundDiv num den ↔ (2 * m - 1) * den ≤ 2 * num := by
  have cases := roundDiv_cases num den
  have parts := Nat.div_add_mod num den
  have rest := Nat.mod_lt num hd
  generalize num / den = q at *
  generalize num % den = r at *
  rcases Nat.lt_trichotomy m (q + 1) with below | here | above
  · have within : (2 * m - 1) * den ≤ 2 * q * den := Nat.mul_le_mul_right _ (by omega)
    have : 2 * q * den = 2 * (den * q) := by ring
    omega
  · subst here
    have : (2 * (q + 1) - 1) * den = 2 * (den * q) + den := by
      change (2 * q + 1) * den = _
      ring
    omega
  · have beyond : (2 * q + 3) * den ≤ (2 * m - 1) * den := Nat.mul_le_mul_right _ (by omega)
    have : (2 * q + 3) * den = 2 * (den * q) + 3 * den := by ring
    omega

/-- Rounding makes nothing more than twice as large. -/
theorem roundDiv_mul_le (num den : Nat) : roundDiv num den * den ≤ 2 * num := by
  have parts := Nat.div_add_mod num den
  rcases roundDiv_cases num den with ⟨down, -, -⟩ | ⟨up, half, -⟩
  · rw [down, Nat.mul_comm]
    omega
  · rw [up, Nat.add_mul, Nat.mul_comm]
    omega

/-! ## The nearest code -/

/-- Significands have a leading bit, and infinity is not the only exponent of theirs. -/
structure IsProper (f : Format) : Prop where
  precision : 1 ≤ f.precision
  exponent : 2 ≤ f.exponentBits

theorem isProper_single : single.IsProper := ⟨by decide, by decide⟩

theorem isProper_double : double.IsProper := ⟨by decide, by decide⟩

/-- A fraction is rounded at a shift: the least that brings it under two binades. -/
structure IsShift (f : Format) (num den e : Nat) : Prop where
  under : num < 2 * f.binade * (den * 2 ^ e)
  least : e = 0 ∨ f.binade * (den * 2 ^ e) ≤ num

/-- A shift is no larger than any that brings the fraction under two binades. -/
theorem IsShift.le_of_lt {e' : Nat} (h : f.IsShift num den e)
    (under : num < 2 * f.binade * (den * 2 ^ e')) : e ≤ e' := by
  rcases h.least with none | some
  · omega
  · by_contra more
    have power : 2 * 2 ^ e' ≤ 2 ^ e := by
      rw [← pow_succ']
      exact Nat.pow_le_pow_right (by decide) (by omega)
    have step : f.binade * den * (2 * 2 ^ e') ≤ f.binade * den * 2 ^ e :=
      Nat.mul_le_mul_left _ power
    have : 2 * f.binade * (den * 2 ^ e') = f.binade * den * (2 * 2 ^ e') := by ring
    have : f.binade * (den * 2 ^ e) = f.binade * den * 2 ^ e := by ring
    omega

theorem IsShift.unique {e' : Nat} (h : f.IsShift num den e) (h' : f.IsShift num den e') :
    e = e' :=
  Nat.le_antisymm (h.le_of_lt h'.under) (h'.le_of_lt h.under)

theorem two_mul_binade (proper : f.IsProper) : 2 * f.binade = 2 ^ f.precision := by
  have binade : f.binade = 2 ^ (f.precision - 1) := rfl
  rw [binade, ← pow_succ', Nat.sub_add_cancel proper.precision]

/-- Every fraction has its shift. -/
theorem isShift (proper : f.IsProper) (num : Nat) (hd : 0 < den) :
    f.IsShift num den ((num / den).log2 + 1 - f.precision) := by
  have precision := proper.precision
  have binade : f.binade = 2 ^ (f.precision - 1) := rfl
  have two := two_mul_binade proper
  constructor
  · have above : num / den < 2 ^ (f.precision + ((num / den).log2 + 1 - f.precision)) :=
      Nat.lt_of_lt_of_le Nat.lt_log2_self (Nat.pow_le_pow_right (by decide) (by omega))
    rw [Nat.div_lt_iff_lt_mul hd, pow_add, ← two] at above
    refine Nat.lt_of_lt_of_eq above ?_
    ring
  · by_cases none : (num / den).log2 + 1 - f.precision = 0
    · exact .inl none
    · right
      have some : num / den ≠ 0 := by
        intro zero
        rw [zero, Nat.log2_zero] at none
        omega
      have below : 2 ^ (f.precision - 1 + ((num / den).log2 + 1 - f.precision)) ≤ num / den := by
        refine Nat.le_trans (Nat.pow_le_pow_right (by decide) ?_) (Nat.log2_self_le some)
        omega
      rw [Nat.le_div_iff_mul_le hd, pow_add, ← binade] at below
      refine Nat.le_trans (Nat.le_of_eq ?_) below
      ring

/-- The nearest code is the rounded fraction at the shift, unless that is too large. -/
theorem nearest_eq (proper : f.IsProper) (hd : 0 < den) (h : f.IsShift num den e) :
    f.nearest num den = min f.infinity (e * f.binade + roundDiv num (den * 2 ^ e)) := by
  rw [h.unique (isShift proper num hd)]
  rfl

theorem IsShift.roundDiv_le (h : f.IsShift num den e) (hd : 0 < den) :
    roundDiv num (den * 2 ^ e) ≤ 2 * f.binade ∧
      (e = 0 ∨ f.binade ≤ roundDiv num (den * 2 ^ e)) := by
  have unit : 0 < den * 2 ^ e := Nat.mul_pos hd (Nat.two_pow_pos e)
  have cases := roundDiv_cases num (den * 2 ^ e)
  have high : num / (den * 2 ^ e) < 2 * f.binade := (Nat.div_lt_iff_lt_mul unit).2 h.under
  refine ⟨by omega, h.least.imp_right fun low => ?_⟩
  have low : f.binade ≤ num / (den * 2 ^ e) := (Nat.le_div_iff_mul_le unit).2 low
  omega

/-- **A magnitude of the format is its own rounding.** -/
theorem nearest_units (proper : f.IsProper) (hd : 0 < den) (finite : code ≤ f.infinity) :
    f.nearest (f.units code * den) den = code := by
  obtain ⟨e, s, rfl, high, normal⟩ := f.exists_shifted code
  have unit : 0 < den * 2 ^ e := Nat.mul_pos hd (Nat.two_pow_pos e)
  have whole : f.units (e * f.binade + s) * den = s * (den * 2 ^ e) := by
    rw [units_shifted (Nat.le_of_lt high) normal]
    ring
  have shift : f.IsShift (s * (den * 2 ^ e)) den e :=
    ⟨Nat.mul_lt_mul_of_pos_right high unit, normal.imp_right (Nat.mul_le_mul_right _)⟩
  rw [whole, nearest_eq proper hd shift, roundDiv_mul s unit]
  exact min_eq_right finite

/-- The shift of the largest finite magnitudes. -/
def top (f : Format) : Nat := 2 ^ f.exponentBits - 3

theorem infinity_eq (proper : f.IsProper) : f.infinity = (f.top + 2) * f.binade := by
  have most : 2 ^ 2 ≤ 2 ^ f.exponentBits := Nat.pow_le_pow_right (by decide) proper.exponent
  unfold infinity top
  change (2 ^ f.exponentBits - 1) * _ = _
  congr 1
  omega

/-- **Overflow**: infinity is the nearest from half a place above the largest finite magnitude on. -/
theorem nearest_eq_infinity_iff (proper : f.IsProper) (num : Nat) (hd : 0 < den) :
    f.nearest num den = f.infinity ↔ (4 * f.binade - 1) * (den * 2 ^ f.top) ≤ 2 * num := by
  have pos := f.binade_pos
  have shift := isShift proper num hd
  generalize (num / den).log2 + 1 - f.precision = e at shift
  obtain ⟨high, normal⟩ := shift.roundDiv_le hd
  have double {a b : Nat} (h : a < b) : 2 * (den * 2 ^ a) ≤ den * 2 ^ b := by
    rw [Nat.mul_left_comm, ← pow_succ']
    exact Nat.mul_le_mul_left den (Nat.pow_le_pow_right (by decide) h)
  have infinite : (f.top + 2) * f.binade = f.top * f.binade + 2 * f.binade := Nat.add_mul _ _ _
  rw [nearest_eq proper hd shift, min_eq_left_iff, infinity_eq proper, infinite]
  rcases Nat.lt_trichotomy e f.top with below | rfl | above
  · refine iff_of_false ?_ (Nat.not_le_of_lt ?_)
    · have lower := Nat.mul_le_mul_right f.binade (Nat.succ_le_of_lt below)
      rw [Nat.succ_mul] at lower
      omega
    · calc 2 * num < 2 * (2 * f.binade * (den * 2 ^ e)) := by linarith [shift.under]
        _ = 2 * f.binade * (2 * (den * 2 ^ e)) := by ring
        _ ≤ 2 * f.binade * (den * 2 ^ f.top) := Nat.mul_le_mul_left _ (double below)
        _ ≤ (4 * f.binade - 1) * (den * 2 ^ f.top) := Nat.mul_le_mul_right _ (by omega)
  · have half := le_roundDiv_iff num (Nat.mul_pos two_pos pos) (Nat.mul_mod_right 2 _)
      (Nat.mul_pos hd (Nat.two_pow_pos f.top))
    have four : 2 * (2 * f.binade) = 4 * f.binade := by ring
    rw [Nat.add_le_add_iff_left, half, four]
  · have some : e ≠ 0 := by omega
    refine iff_of_true ?_ ?_
    · have upper := Nat.mul_le_mul_right f.binade (Nat.succ_le_of_lt above)
      rw [Nat.succ_mul] at upper
      have place := normal.resolve_left some
      omega
    · calc (4 * f.binade - 1) * (den * 2 ^ f.top)
          ≤ 4 * f.binade * (den * 2 ^ f.top) := Nat.mul_le_mul_right _ (Nat.sub_le _ _)
        _ = 2 * f.binade * (2 * (den * 2 ^ f.top)) := by ring
        _ ≤ 2 * f.binade * (den * 2 ^ e) := Nat.mul_le_mul_left _ (double above)
        _ = 2 * (f.binade * (den * 2 ^ e)) := by ring
        _ ≤ 2 * num := Nat.mul_le_mul_left _ (shift.least.resolve_left some)

theorem units_nearest_le (proper : f.IsProper) (num : Nat) (hd : 0 < den) :
    f.units (f.nearest num den) * den ≤ 2 * num := by
  have shift := isShift proper num hd
  generalize (num / den).log2 + 1 - f.precision = e at shift
  obtain ⟨high, normal⟩ := shift.roundDiv_le hd
  have le := roundDiv_mul_le num (den * 2 ^ e)
  rw [nearest_eq proper hd shift]
  refine Nat.le_trans (Nat.mul_le_mul_right _ ((strictMono_units f).monotone (min_le_right _ _))) ?_
  rw [units_shifted high normal]
  linarith

/-- Rounding makes nothing that is a place or more less than half as large. -/
theorem le_units_nearest (proper : f.IsProper) (hd : 0 < den) (some : den ≤ num)
    (finite : f.nearest num den < f.infinity) :
    num ≤ 2 * (f.units (f.nearest num den) * den) := by
  have shift := isShift proper num hd
  generalize (num / den).log2 + 1 - f.precision = e at shift
  obtain ⟨high, normal⟩ := shift.roundDiv_le hd
  have near := nearest_eq proper hd shift
  rw [near, min_lt_iff, lt_self_iff_false, false_or] at finite
  rw [near, min_eq_right finite.le, units_shifted high normal]
  have under := shift.under
  rcases Nat.eq_zero_or_pos e with rfl | pos
  · have parts := Nat.div_add_mod num den
    have rest := Nat.mod_lt num hd
    have one : 1 ≤ num / den := Nat.div_pos some hd
    have least : num / den ≤ roundDiv num den := by
      have cases := roundDiv_cases num den
      omega
    have whole : den * (num / den) ≤ den * roundDiv num den := Nat.mul_le_mul_left den least
    have unit : den * 1 ≤ den * (num / den) := Nat.mul_le_mul_left den one
    rw [pow_zero, Nat.mul_one, Nat.mul_one, Nat.mul_comm _ den]
    omega
  · have leading := Nat.mul_le_mul_right (den * 2 ^ e) (normal.resolve_left (by omega))
    linarith

/-- A significand of the format may be shifted at will. -/
theorem exists_units_eq (proper : f.IsProper) (short : s < 2 * f.binade) (e : Nat) :
    ∃ code, f.units code = s * 2 ^ e := by
  have shift := isShift proper (s * 2 ^ e) one_pos
  generalize (s * 2 ^ e / 1).log2 + 1 - f.precision = e' at shift
  have within : s * 2 ^ e < 2 * f.binade * (1 * 2 ^ e) := by
    rw [one_mul]
    exact Nat.mul_lt_mul_of_pos_right short (Nat.two_pow_pos e)
  obtain ⟨d, rfl⟩ := Nat.exists_eq_add_of_le (shift.le_of_lt within)
  have under := shift.under
  have least := shift.least
  rw [one_mul] at under least
  have own : s * 2 ^ (e' + d) = s * 2 ^ d * 2 ^ e' := by ring
  rw [own] at under least ⊢
  have pos := Nat.two_pow_pos e'
  refine ⟨e' * f.binade + s * 2 ^ d, units_shifted ?_ ?_⟩
  · exact Nat.le_of_lt (Nat.lt_of_mul_lt_mul_right under)
  · exact least.imp_right fun low => Nat.le_of_mul_le_mul_right low pos

end Format

/-! ## Numbers -/

namespace Format

/-- From this magnitude on, half a place above the largest finite one, numbers are rounded to
infinity. -/
def limit (f : Format) : ℚ := (4 * f.binade - 1) * 2 ^ f.top / (2 * 2 ^ f.depth)

end Format

namespace Binary

variable {f g : Format}

/-- The number itself. -/
def toRat : Binary f → ℚ
  | nan => 0
  | value negative code => (if negative then -1 else 1) * (f.units code / 2 ^ f.depth)

theorem exists_of_isFinite {x : Binary f} (finite : x.isFinite = true) :
    ∃ negative code, x = value negative code ∧ code < f.infinity := by
  cases x with
  | nan => cases finite
  | value negative code => exact ⟨negative, code, rfl, of_decide_eq_true finite⟩

theorem abs_toRat_value (negative : Bool) (code : Nat) :
    |(value negative code : Binary f).toRat| = f.units code / 2 ^ f.depth := by
  have pos : (0 : ℚ) ≤ f.units code / 2 ^ f.depth := by positivity
  unfold toRat
  cases negative <;> simp [abs_of_nonneg pos]

theorem isFinite_ofRatio (proper : f.IsProper) (negative : Bool) (num : Nat) {den : Nat}
    (hd : 0 < den) :
    (ofRatio negative num den : Binary f).isFinite = true ↔ (num / den : ℚ) < f.limit := by
  have most : f.nearest (num * 2 ^ f.depth) den ≤ f.infinity := min_le_left _ _
  have infinite := Format.nearest_eq_infinity_iff proper (num * 2 ^ f.depth) hd
  have pos : 1 ≤ 4 * f.binade := by have := f.binade_pos; omega
  have apart : (num / den : ℚ) < f.limit ↔
      2 * (num * 2 ^ f.depth) < (4 * f.binade - 1) * (den * 2 ^ f.top) := by
    unfold Format.limit
    rw [div_lt_div_iff₀ (by positivity) (by positivity), ← Nat.cast_lt (α := ℚ)]
    push_cast [Nat.cast_sub pos]
    constructor <;> intro h <;> linarith
  rw [apart, ← not_le, ← infinite]
  change decide (f.nearest (num * 2 ^ f.depth) den < f.infinity) = true ↔ _
  rw [decide_eq_true_eq]
  omega

theorem abs_toRat_ofRatio_le (proper : f.IsProper) (negative : Bool) (num : Nat) {den : Nat}
    (hd : 0 < den) : |(ofRatio negative num den : Binary f).toRat| ≤ 2 * (num / den) := by
  have le := Format.units_nearest_le proper (num * 2 ^ f.depth) hd
  unfold ofRatio
  rw [abs_toRat_value, ← mul_div_assoc, div_le_div_iff₀ (by positivity) (by positivity)]
  change ((f.units (f.nearest (num * 2 ^ f.depth) den) : ℕ) : ℚ) * _ ≤ _
  rw [← Nat.cast_le (α := ℚ)] at le
  push_cast at le
  linarith

/-- A finite number is below the limit of its format. -/
theorem abs_toRat_lt_limit (proper : f.IsProper) {x : Binary f} (finite : x.isFinite = true) :
    |x.toRat| < f.limit := by
  obtain ⟨negative, code, rfl, low⟩ := exists_of_isFinite finite
  have own : (ofRatio negative (f.units code) (2 ^ f.depth) : Binary f) = value negative code := by
    change value negative (f.nearest (f.units code * 2 ^ f.depth) (2 ^ f.depth)) = _
    rw [Format.nearest_units proper (Nat.two_pow_pos _) (Nat.le_of_lt low)]
  rw [← own, isFinite_ofRatio proper _ _ (Nat.two_pow_pos _), Nat.cast_pow, Nat.cast_ofNat]
    at finite
  rwa [abs_toRat_value]

/-- An integer is finite as a number just below the limit of the format. -/
theorem isFinite_ofInt (proper : f.IsProper) (n : Int) :
    (ofInt n : Binary f).isFinite = true ↔ |(n : ℚ)| < f.limit := by
  unfold ofInt
  rw [isFinite_ofRatio proper _ _ one_pos, Nat.cast_one, div_one, Nat.cast_natAbs, Int.cast_abs]

/-- An integer that is no larger than a finite one is finite. -/
theorem isFinite_ofInt_of_le (proper : f.IsProper) {m n : Int} (le : |m| ≤ |n|)
    (finite : (ofInt n : Binary f).isFinite = true) : (ofInt m : Binary f).isFinite = true := by
  rw [isFinite_ofInt proper] at finite ⊢
  refine lt_of_le_of_lt ?_ finite
  rw [← Int.cast_abs, ← Int.cast_abs]
  exact Int.cast_le.2 le

theorem abs_toRat_ofInt_le (proper : f.IsProper) (n : Int) :
    |(ofInt n : Binary f).toRat| ≤ 2 * |(n : ℚ)| := by
  have le := abs_toRat_ofRatio_le proper (n < 0) n.natAbs one_pos
  rwa [Nat.cast_one, div_one, Nat.cast_natAbs, Int.cast_abs] at le

theorem le_abs_toRat_ofInt (proper : f.IsProper) {n : Int}
    (finite : (ofInt n : Binary f).isFinite = true) :
    |(n : ℚ)| ≤ 2 * |(ofInt n : Binary f).toRat| := by
  by_cases zero : n = 0
  · rw [zero, Int.cast_zero, abs_zero]
    positivity
  · have some : 1 ≤ n.natAbs * 2 ^ f.depth :=
      Nat.mul_pos (Int.natAbs_pos.2 zero) (Nat.two_pow_pos f.depth)
    have le := Format.le_units_nearest proper one_pos some (of_decide_eq_true finite)
    unfold ofInt ofRatio
    rw [abs_toRat_value, ← mul_div_assoc, le_div_iff₀ (by positivity), ← Int.cast_abs,
      ← Nat.cast_natAbs]
    rw [Nat.mul_one, ← Nat.cast_le (α := ℚ)] at le
    push_cast at le
    exact le

/-- A quotient by one or more is no larger than what is divided. -/
theorem isFinite_div (proper : f.IsProper) {x y : Binary f} (hx : x.isFinite = true)
    (hy : y.isFinite = true) (large : 1 ≤ |y.toRat|) : (x.div y).isFinite = true := by
  have below := abs_toRat_lt_limit proper hx
  obtain ⟨s, a, rfl, ha⟩ := exists_of_isFinite hx
  obtain ⟨t, b, rfl, hb⟩ := exists_of_isFinite hy
  have places : (0 : ℚ) < 2 ^ f.depth := by positivity
  rw [abs_toRat_value] at below large
  rw [le_div_iff₀ places, one_mul] at large
  have pos : (0 : ℚ) < f.units b := places.trans_le large
  have some : (b == 0) = false := by
    refine beq_false_of_ne ?_
    rintro rfl
    have zero : f.units 0 = 0 := if_pos f.binade_pos
    rw [zero, Nat.cast_zero] at pos
    exact lt_irrefl _ pos
  have ratio : (value s a : Binary f).div (value t b) =
      ofRatio (s != t) (f.units a) (f.units b) := by
    unfold div
    simp [Nat.not_le_of_lt ha, Nat.not_le_of_lt hb, some]
  rw [ratio, isFinite_ofRatio proper _ _ (Nat.cast_pos.1 pos)]
  refine lt_of_le_of_lt ?_ below
  exact div_le_div_of_nonneg_left (Nat.cast_nonneg _) places large

/-- A product of numbers is a number, if not a finite one. -/
theorem isFinite_mul {x y : Binary f} (hx : x.isFinite = true) (hy : y.isFinite = true)
    (low : (x.mul y).isInfinite = false) : (x.mul y).isFinite = true := by
  obtain ⟨s, a, rfl, ha⟩ := exists_of_isFinite hx
  obtain ⟨t, b, rfl, hb⟩ := exists_of_isFinite hy
  have product : (value s a : Binary f).mul (value t b) =
      ofRatio (s != t) (f.units a * f.units b) (Nat.pow 2 (2 * f.depth)) := by
    unfold mul
    simp [Nat.not_le_of_lt ha, Nat.not_le_of_lt hb]
  rw [product] at low ⊢
  exact decide_eq_true (Nat.lt_of_not_le (of_decide_eq_false low))

theorem isFinite_neg (x : Binary f) : x.neg.isFinite = x.isFinite := by
  cases x <;> rfl

theorem convert_value {code : Nat} (finite : code < f.infinity) (negative : Bool) :
    (value negative code : Binary f).convert =
      (ofRatio negative (f.units code) (2 ^ f.depth) : Binary g) :=
  if_neg (Nat.not_le_of_lt finite)

/-- **A number overflows in another format by its magnitude alone.** -/
theorem isFinite_convert (proper : g.IsProper) {x : Binary f} (finite : x.isFinite = true) :
    (x.convert : Binary g).isFinite = true ↔ |x.toRat| < g.limit := by
  obtain ⟨negative, code, rfl, low⟩ := exists_of_isFinite finite
  rw [convert_value low, isFinite_ofRatio proper _ _ (Nat.two_pow_pos _), abs_toRat_value,
    Nat.cast_pow, Nat.cast_ofNat]

end Binary

/-! ## A wider format -/

namespace Format

/-- All numbers of a format are in another. -/
structure Embeds (f g : Format) : Prop where
  precision : f.precision ≤ g.precision
  depth : f.depth ≤ g.depth
  range : f.units f.infinity * 2 ^ (g.depth - f.depth) ≤ g.units g.infinity

theorem embeds_single_double : single.Embeds double :=
  ⟨by decide, by decide, by decide +kernel⟩

variable {f g : Format}

theorem Embeds.exists_code (embeds : f.Embeds g) (proper : g.IsProper) {code : Nat}
    (finite : code < f.infinity) :
    ∃ wide, wide < g.infinity ∧ g.units wide * 2 ^ f.depth = f.units code * 2 ^ g.depth := by
  obtain ⟨e, s, rfl, high, normal⟩ := f.exists_shifted code
  have short : s < 2 * g.binade := by
    have : f.binade ≤ g.binade :=
      Nat.pow_le_pow_right (by decide) (Nat.sub_le_sub_right embeds.precision 1)
    omega
  obtain ⟨wide, same⟩ := exists_units_eq proper short (e + (g.depth - f.depth))
  rw [pow_add, ← Nat.mul_assoc, ← units_shifted (Nat.le_of_lt high) normal] at same
  refine ⟨wide, (strictMono_units g).lt_iff_lt.1 ?_, ?_⟩
  · rw [same]
    refine Nat.lt_of_lt_of_le ?_ embeds.range
    exact Nat.mul_lt_mul_of_pos_right (strictMono_units f finite) (Nat.two_pow_pos _)
  · rw [same, Nat.mul_assoc, ← pow_add, Nat.sub_add_cancel embeds.depth]

end Format

namespace Binary

variable {f g : Format}

/-- **A number comes back from a wider format**, where it was finite too. -/
theorem convert_convert (embeds : f.Embeds g) (narrow : f.IsProper) (proper : g.IsProper)
    {x : Binary f} (finite : x.isFinite = true) :
    (x.convert : Binary g).isFinite = true ∧ (x.convert : Binary g).convert = x := by
  obtain ⟨negative, code, rfl, low⟩ := exists_of_isFinite finite
  obtain ⟨wide, within, same⟩ := embeds.exists_code proper low
  have there : (value negative code : Binary f).convert = (value negative wide : Binary g) := by
    rw [convert_value low]
    change value negative (g.nearest (f.units code * 2 ^ g.depth) (2 ^ f.depth)) = _
    rw [← same, Format.nearest_units proper (Nat.two_pow_pos _) (Nat.le_of_lt within)]
  have back : (value negative wide : Binary g).convert = (value negative code : Binary f) := by
    rw [convert_value within]
    change value negative (f.nearest (g.units wide * 2 ^ f.depth) (2 ^ g.depth)) = _
    rw [same, Format.nearest_units narrow (Nat.two_pow_pos _) (Nat.le_of_lt low)]
  rw [there, back]
  exact ⟨decide_eq_true within, rfl⟩

end Binary

end Switchboard.Number
