import Switchboard.Bind.Validator
import Switchboard.Proofs.Json.Numbers
import Switchboard.Proofs.Number.Integers
import Switchboard.Proofs.Param.Value

/-!
# Integers between bounds

A range is checked on numbers of the double format: an integer and the bounds it is compared with
are rounded first. Rounding keeps their order, so an integer between the bounds is always accepted
(`Validator.range_of_integers`). One outside is accepted exactly if it is rounded to the same number
as the bound that it is beyond. This takes a bound of more than 53 digits in base two, and an
integer that is at most 1024 from it; on all smaller ones the check is exact.
-/

namespace Switchboard.Validator

open Number (Binary Double Format)

/-- A bound as an integer: none where the marker has no such attribute, else the integer of 64 bits
that the attribute's text is a literal of, blanks around it left out. -/
inductive IntBound (m : Marker) (key : String) : Option Int → Prop where
  | missing (absent : m.attribute? key = none) : IntBound m key none
  | literal {text : String} {n : Int} (sent : m.attribute? key = some text)
      (reads : Number.readInt? (Text.trim text).toList = some n)
      (fits : Width.long.holds n = true) : IntBound m key (some n)

/-- Two integers are rounded to one number of the double format. -/
def SameDouble (a b : Int) : Prop := (Binary.ofInt a : Double) = Binary.ofInt b

instance (a b : Int) : Decidable (SameDouble a b) :=
  inferInstanceAs (Decidable ((Binary.ofInt a : Double) = Binary.ofInt b))

/-! ## Integers of 64 bits -/

theorem natAbs_le_of_holds {width : Width} {n : Int} (fits : width.holds n = true) :
    n.natAbs ≤ 2 ^ (Format.double.precision + 10) := by
  have range : (2 : Nat) ^ (Format.double.precision + 10) = 2 ^ 63 := rfl
  have least : Number.leastSigned 64 = -2 ^ 63 := rfl
  have most : Number.largestSigned 64 = 2 ^ 63 - 1 := rfl
  have bounds := Width.bounds_of_holds fits
  omega

/-- Integers that are rounded to one number are the same, or near each other and large. -/
theorem SameDouble.eq_or_near {width width' : Width} {a b : Int} (same : SameDouble a b)
    (ha : width.holds a = true) (hb : width'.holds b = true) :
    a = b ∨ 2 ^ 53 ≤ a.natAbs ∧ 2 ^ 53 ≤ b.natAbs ∧ (a - b).natAbs ≤ 1024 := by
  have small := natAbs_le_of_holds ha
  have finite : (Binary.ofInt a : Double).isFinite = true := by
    refine Json.isFinite_ofInt_of_abs_le ?_
    have range : (2 : Nat) ^ (Format.double.precision + 10) = 2 ^ 63 := rfl
    rw [abs_le]
    omega
  exact Binary.eq_or_near_of_ofInt_eq Format.isProper_double same finite small
    (natAbs_le_of_holds hb)

/-! ## Bounds -/

section Bounds

variable {m : Marker} {n : Int} {b : Option Int}

theorem bound_of_missing {key : String} (absent : m.attribute? key = none) (unbounded : Double) :
    bound m key unbounded = unbounded := by
  unfold bound
  rw [absent]
  rfl

/-- A literal is read as the number nearest to it, up to the sign of zero. -/
theorem rank?_bound {key text : String} (sent : m.attribute? key = some text)
    (reads : Number.readInt? (Text.trim text).toList = some n) (fits : Width.long.holds n = true)
    (unbounded : Double) :
    (bound m key unbounded).rank? = (Binary.ofInt n : Double).rank? := by
  have short : n.natAbs < 10 ^ 401 :=
    lt_of_le_of_lt (natAbs_le_of_holds fits) (by decide +kernel)
  obtain ⟨x, read, rank⟩ := Number.exists_read?_of_readInt? Format.isProper_double reads short
  unfold bound
  rw [sent, Option.bind_some, read]
  exact rank

theorem IntBound.holds {key : String} (h : IntBound m key b) (own : n ∈ b) :
    Width.long.holds n = true := by
  cases h with
  | missing => cases own
  | literal _ _ fits =>
    cases own
    exact fits

theorem low_le_iff (low : IntBound m "min" b) (n : Int) :
    (bound m "min" (.infinite true)).le (.ofInt n) = true ↔ ∀ l ∈ b, l ≤ n ∨ SameDouble l n := by
  cases low with
  | missing absent =>
    rw [bound_of_missing absent]
    exact iff_of_true (Binary.infinite_le_ofInt n) fun _ none => nomatch none
  | literal sent reads fits =>
    rw [Binary.le_congr (rank?_bound sent reads fits _) rfl,
      Binary.le_ofInt_iff Format.isProper_double]
    simp only [Option.mem_some_iff, forall_eq', SameDouble]

theorem le_high_iff (high : IntBound m "max" b) (n : Int) :
    (Binary.ofInt n : Double).le (bound m "max" (.infinite false)) = true ↔
      ∀ h ∈ b, n ≤ h ∨ SameDouble n h := by
  cases high with
  | missing absent =>
    rw [bound_of_missing absent]
    exact iff_of_true (Binary.ofInt_le_infinite n) fun _ none => nomatch none
  | literal sent reads fits =>
    rw [Binary.le_congr rfl (rank?_bound sent reads fits _),
      Binary.le_ofInt_iff Format.isProper_double]
    simp only [Option.mem_some_iff, forall_eq', SameDouble]

end Bounds

/-- **An integer is accepted exactly if it is between the bounds, or is rounded to the same number
as the bound that it is beyond**, which takes magnitudes of 2 ^ 53 and more that are at most 1024
apart. -/
theorem range_of_integers {width : Width} {n : Int} {m : Marker} {low high : Option Int}
    (fits : width.holds n = true) (least : IntBound m "min" low) (most : IntBound m "max" high) :
    (range (.whole width n) m = true ↔
      (∀ l ∈ low, l ≤ n ∨ SameDouble l n) ∧ ∀ h ∈ high, n ≤ h ∨ SameDouble n h) ∧
    ∀ b, b ∈ low ∨ b ∈ high → SameDouble b n →
      b = n ∨ 2 ^ 53 ≤ b.natAbs ∧ 2 ^ 53 ≤ n.natAbs ∧ (b - n).natAbs ≤ 1024 := by
  constructor
  · rw [← low_le_iff least, ← le_high_iff most, ← Bool.and_eq_true]
    rfl
  · rintro b (own | own) same
    · exact same.eq_or_near (least.holds own) fits
    · exact same.eq_or_near (most.holds own) fits

/-- A range from -5 to 2 ^ 53. -/
def wide : Marker where
  name := "Range"
  attributes := [("max", " +9007199254740992"), ("min", "-5")]

theorem intBound_wide_min : IntBound wide "min" (some (-5)) :=
  .literal rfl (by decide +kernel) (by decide)

theorem intBound_wide_max : IntBound wide "max" (some (2 ^ 53)) :=
  .literal rfl (by decide +kernel) (by decide)

/-- The integer after the upper bound is accepted, the one after that is refused, and so is the one
before the lower bound. -/
theorem range_of_integers_wide :
    range (.whole .long (2 ^ 53 + 1)) wide = true ∧
      range (.whole .long (2 ^ 53 + 2)) wide = false ∧
      range (.whole .byte (-6)) wide = false := by
  have law {width : Width} {n : Int} (fits : width.holds n = true) :=
    (range_of_integers fits intBound_wide_min intBound_wide_max).1
  simp only [Option.mem_some_iff, forall_eq'] at law
  refine ⟨(law (by decide)).2 ?_, Bool.eq_false_iff.2 fun accepted => ?_,
    Bool.eq_false_iff.2 fun accepted => ?_⟩
  · decide +kernel
  · exact absurd ((law (by decide)).1 accepted) (by decide +kernel)
  · exact absurd ((law (by decide)).1 accepted) (by decide +kernel)

/-- Not every integer that is accepted is between the bounds. -/
theorem not_forall_between :
    ¬ ∀ (width : Width) (n : Int) (m : Marker) (low high : Option Int), width.holds n = true →
      IntBound m "min" low → IntBound m "max" high →
      (range (.whole width n) m = true ↔ (∀ l ∈ low, l ≤ n) ∧ ∀ h ∈ high, n ≤ h) := by
  intro exact
  have accepted : range (.whole .long (2 ^ 53 + 1)) wide = true := by decide +kernel
  have between := (exact .long (2 ^ 53 + 1) wide _ _ (by decide) intBound_wide_min
    intBound_wide_max).1 accepted
  exact absurd (between.2 _ rfl) (by decide)

end Switchboard.Validator
