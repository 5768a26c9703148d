import Switchboard.Proofs.Dictionary
import Switchboard.Proofs.Json.Reading
import Switchboard.Proofs.Number.Rounding
import Mathlib.Tactic.NormNum

/-!
# Numbers that are read

Every number of a document that is read is an integer of 64 bits, signed or unsigned, or a finite
number of the double format (`Json.numbersValid_of_parse?`). A literal that overflows is refused where
it is multiplied by a power of ten (`Json.isFinite_of_scaled?`); a division by one never overflows.
-/

namespace Switchboard.Json

/-- An integer of 64 bits, signed or unsigned, or a finite number. -/
def Number.IsValid : Number → Prop
  | .int n => Number.leastSigned 64 ≤ n ∧ n ≤ Number.largestUnsigned 64
  | .float x => x.isFinite = true

/-! ## Digits -/

namespace Significand

variable {s : Significand} (small : s.digits ≤ Number.largestUnsigned 64) (cs : List Char)

include small

theorem digits_whole_le : (s.whole cs).digits ≤ Number.largestUnsigned 64 := by
  induction cs generalizing s with
  | nil => exact small
  | cons c cs ih =>
    rw [whole]
    split
    · next fits => exact ih (of_decide_eq_true fits)
    · exact small

theorem digits_fraction_le : (s.fraction cs).digits ≤ Number.largestUnsigned 64 := by
  induction cs generalizing s with
  | nil => exact small
  | cons c cs ih =>
    rw [fraction]
    split
    · next fits => exact ih (of_decide_eq_true fits)
    · exact small

end Significand

/-! ## Powers of ten -/

open Switchboard.Number (Double Format Binary)

/-- Integers of 64 bits, signed or unsigned, are far from infinity. -/
theorem isFinite_ofInt_of_abs_le {n : Int} (small : |n| ≤ 2 ^ 64) :
    (Binary.ofInt n : Double).isFinite = true := by
  have most : (Binary.ofInt (2 ^ 64) : Double).isFinite = true := by decide +kernel
  exact Binary.isFinite_ofInt_of_le Format.isProper_double (small.trans (le_abs_self _)) most

theorem Number.abs_le_of_isValid {k : Int} (valid : (Number.int k).IsValid) : |k| ≤ 2 ^ 64 := by
  have least : Number.leastSigned 64 = -2 ^ 63 := rfl
  have most : Number.largestUnsigned 64 = 2 ^ 64 - 1 := rfl
  obtain ⟨low, high⟩ := valid
  rw [abs_le]
  omega

/-- A power of ten of the double format. -/
def tenPow (e : Nat) : Double := .ofInt (Nat.pow 10 e)

theorem isFinite_tenPow_of_le {d e : Nat} (le : d ≤ e) (finite : (tenPow e).isFinite = true) :
    (tenPow d).isFinite = true := by
  refine Binary.isFinite_ofInt_of_le Format.isProper_double ?_ finite
  rw [Nat.abs_cast, Nat.abs_cast]
  exact Int.ofNat_le.2 (Nat.pow_le_pow_right (by decide) le)

/-- The powers of ten that are divided by are finite. -/
theorem isFinite_tenPow {e : Nat} (he : e ≤ largestPower) : (tenPow e).isFinite = true :=
  isFinite_tenPow_of_le he (by decide +kernel)

/-- A positive power of ten does not come below one. -/
theorem one_le_tenPow {e : Nat} (some : 1 ≤ e) (he : e ≤ largestPower) :
    1 ≤ |(tenPow e).toRat| := by
  have half := Binary.le_abs_toRat_ofInt Format.isProper_double (isFinite_tenPow he)
  have ten : 10 ^ 1 ≤ 10 ^ e := Nat.pow_le_pow_right (by decide) some
  have large : (10 : ℚ) ≤ |(((10 ^ e : ℕ) : ℤ) : ℚ)| := by
    rw [Int.cast_natCast, Nat.abs_cast]
    exact_mod_cast ten
  have both : (10 : ℚ) ≤ 2 * |(tenPow e).toRat| := large.trans half
  linarith

theorem isFinite_divideByPower {x : Double} (finite : x.isFinite = true) {e : Nat} (some : 1 ≤ e) :
    (divideByPower x e).isFinite = true := by
  fun_induction divideByPower x e with
  | case1 x e he =>
    exact Binary.isFinite_div Format.isProper_double finite (isFinite_tenPow he)
      (one_le_tenPow some he)
  | case2 x e he zero => exact finite
  | case3 x e he zero ih =>
    have power : 1 ≤ largestPower := by decide
    refine ih ?_ (by omega)
    exact Binary.isFinite_div Format.isProper_double finite (isFinite_tenPow le_rfl)
      (one_le_tenPow power le_rfl)

/-- **A literal that overflows is refused**, and any other is read as a finite number. -/
theorem isFinite_of_scaled? {digits : Nat} {scale : Int} {x : Double}
    (small : digits ≤ Number.largestUnsigned 64) (h : scaled? digits scale = some x) :
    x.isFinite = true := by
  have start : (Binary.ofInt digits : Double).isFinite = true := by
    have below : digits ≤ 2 ^ 64 := Nat.le_trans small (by decide)
    refine isFinite_ofInt_of_abs_le ?_
    rw [Nat.abs_cast]
    exact_mod_cast below
  unfold scaled? at h
  dsimp only at h
  split at h
  · cases h
    exact isFinite_divideByPower start (by omega)
  · split at h
    · next he =>
      split at h
      · cases h
      · next low =>
        cases h
        refine Binary.isFinite_mul start (isFinite_tenPow ?_) (Bool.eq_false_iff.2 low)
        omega
    · split at h
      · cases h
        exact start
      · cases h

/-! ## Literals -/

/-- The number of a significand and its scale, with a sign. -/
def signed? (negative : Bool) (digits : Nat) (scale : Int) : Option Number :=
  (scaled? digits scale).map fun x => .float (if negative then x.neg else x)

/-- A number that is read from digits and a scale is valid. -/
theorem isValid_of_signed? (negative : Bool) {digits : Nat} {scale : Int} {n : Number}
    (small : digits ≤ Number.largestUnsigned 64) (h : signed? negative digits scale = some n) :
    n.IsValid := by
  obtain ⟨x, scaled, rfl⟩ := Option.map_eq_some_iff.1 h
  have finite := isFinite_of_scaled? small scaled
  cases negative with
  | false => exact finite
  | true => exact (Binary.isFinite_neg x).trans finite

/-- **A number that is read fits.** -/
theorem isValid_of_readNumber? {cs : List Char} {n : Number} (h : readNumber? cs = some n) :
    n.IsValid := by
  unfold readNumber? at h
  split at h
  next negative digits _ =>
    dsimp only at h
    obtain ⟨-, -, h⟩ := Option.bind_eq_some_iff.1 h
    have small := Significand.digits_whole_le (s := ⟨0, 0⟩) (Nat.zero_le _)
      (digits.span Char.isDigit).1
    generalize Significand.whole ⟨0, 0⟩ (digits.span Char.isDigit).1 = s at h small
    have behind (parts : List Char × List Char)
        (h : ((Number.readExponent? parts.2).bind fun exponent =>
          signed? negative (s.fraction parts.1).digits ((s.fraction parts.1).scale + exponent)) =
            some n) : n.IsValid := by
      obtain ⟨exponent, -, h⟩ := Option.bind_eq_some_iff.1 h
      exact isValid_of_signed? negative (Significand.digits_fraction_le small _) h
    split at h
    · split at h
      · split at h
        · next fits =>
          cases h
          rw [Bool.and_eq_true, decide_eq_true_eq, decide_eq_true_eq] at fits
          exact ⟨fits.2, (Int.neg_nonpos_of_nonneg (Int.natCast_nonneg _)).trans
            (Int.natCast_nonneg _)⟩
        · exact isValid_of_signed? true small h
      · split at h
        · next fits =>
          cases h
          have least : Number.leastSigned 64 ≤ 0 := by decide
          exact ⟨least.trans (Int.natCast_nonneg _), Int.ofNat_le.2 fits⟩
        · exact isValid_of_signed? false small h
    · split at h
      · split at h
        · cases h
        · exact behind _ h
      · exact behind ([], _) h

/-! ## Documents -/

/-- The numbers within are of 64 bits or finite. -/
inductive NumbersValid : Json → Prop where
  | null : NumbersValid .null
  | bool (b : Bool) : NumbersValid (.bool b)
  | number {n : Number} (valid : n.IsValid) : NumbersValid (.number n)
  | text (s : String) : NumbersValid (.text s)
  | array {items : List Json} (each : ∀ v ∈ items, NumbersValid v) : NumbersValid (.array items)
  | object {fields : List (String × Json)} (each : ∀ f ∈ fields, NumbersValid f.2) :
      NumbersValid (.object fields)

/-- Valid numbers are kept by every step of the reader. -/
theorem kept_numbersValid : Kept NumbersValid where
  null := .null
  bool := .bool
  text := .text
  number read := .number (isValid_of_readNumber? read)
  array := .array
  ofFields each := .object fun f hf => each f (Dictionary.mem_ofPairs hf)

/-- **The numbers of a document that is read are of 64 bits or finite.** -/
theorem numbersValid_of_parse? {s : String} {doc : Json} (h : parse? s = some doc) :
    doc.NumbersValid :=
  kept_numbersValid.of_parse? h

end Switchboard.Json
