import Switchboard.Number.Decimal
import Mathlib.Data.List.Basic

/-!
# Numbers in decimal read back

The digits of a number are read as this number. A numeral may have more: zeros in front, and a plus
sign before them.
-/

namespace Switchboard.Number

theorem ofDigits_eq (cs : List Char) : ofDigits cs = Nat.ofDigitChars 10 cs 0 := by
  unfold ofDigits Nat.ofDigitChars
  congr
  funext n c
  rw [Nat.mul_comm]
  rfl

/-- The digits of a number are read as that number. -/
theorem ofDigits_digitChars (n : Nat) : ofDigits (digitChars n) = n := by
  rw [ofDigits_eq]
  exact Nat.ofDigitChars_toDigits (by decide) (by decide)

theorem isDigit_of_mem_digitChars {n : Nat} {c : Char} (hc : c ∈ digitChars n) :
    c.isDigit = true := Nat.isDigit_of_mem_toDigits (by decide) (by decide) hc

theorem isDigit_of_mem_toString {n : Nat} {c : Char} (hc : c ∈ (toString n).toList) :
    c.isDigit = true := by
  rw [Nat.toString_eq_repr, Nat.toList_repr] at hc
  exact isDigit_of_mem_digitChars hc

/-- A numeral of a number: digits, with a plus sign in front or not. -/
def IsNumeral (s : String) (n : Nat) : Prop :=
  ∃ ds, (s.toList = ds ∨ s.toList = '+' :: ds) ∧ ds ≠ [] ∧ (∀ c ∈ ds, c.isDigit = true) ∧
    ofDigits ds = n

/-- A plus sign in front does not count, and what is left is read. -/
theorem readNat?_of_sign {most : Nat} {s : String} {ds : List Char} {n : Nat}
    (sign : s.toList = '+' :: ds ∨ s.toList = ds ∧ ∀ rest, ds ≠ '+' :: rest) :
    readNat? most s = some n ↔
      ds ≠ [] ∧ (∀ c ∈ ds, c.isDigit = true) ∧ ofDigits ds = n ∧ n ≤ most := by
  have read : readNat? most s =
      if ds ≠ [] && ds.all Char.isDigit && ofDigits ds ≤ most then some (ofDigits ds) else none := by
    unfold readNat?
    rcases sign with chars | ⟨chars, plain⟩
    · rw [chars]
      rfl
    · rw [chars]
      dsimp only
      split
      · rename_i rest
        exact absurd rfl (plain rest)
      · rfl
  simp only [read, Option.ite_none_right_eq_some, Bool.and_eq_true, decide_eq_true_eq,
    List.all_eq_true, Option.some.injEq, and_assoc]
  refine and_congr_right fun _ => and_congr_right fun _ => ?_
  constructor
  · rintro ⟨small, rfl⟩
    exact ⟨rfl, small⟩
  · rintro ⟨rfl, small⟩
    exact ⟨small, rfl⟩

/-- A text is read exactly if it is a numeral of a number that is small enough. -/
theorem readNat?_eq_some_iff {most : Nat} {s : String} {n : Nat} :
    readNat? most s = some n ↔ IsNumeral s n ∧ n ≤ most := by
  constructor
  · intro h
    by_cases plus : ∃ ds, s.toList = '+' :: ds
    · obtain ⟨ds, chars⟩ := plus
      obtain ⟨some, digits, value, small⟩ := (readNat?_of_sign (Or.inl chars)).1 h
      exact ⟨⟨ds, Or.inr chars, some, digits, value⟩, small⟩
    · have plain : ∀ rest, s.toList ≠ '+' :: rest := fun rest chars => plus ⟨rest, chars⟩
      obtain ⟨some, digits, value, small⟩ := (readNat?_of_sign (Or.inr ⟨rfl, plain⟩)).1 h
      exact ⟨⟨s.toList, Or.inl rfl, some, digits, value⟩, small⟩
  · rintro ⟨⟨ds, chars | chars, some, digits, value⟩, small⟩
    · refine (readNat?_of_sign (Or.inr ⟨chars, ?_⟩)).2 ⟨some, digits, value, small⟩
      rintro rest rfl
      -- a plus sign is no digit
      exact absurd (digits '+' List.mem_cons_self) (by decide)
    · exact (readNat?_of_sign (Or.inl chars)).2 ⟨some, digits, value, small⟩

/-- A number is written as a numeral of it. -/
theorem isNumeral_toString (n : Nat) : IsNumeral (toString n) n := by
  refine ⟨digitChars n, Or.inl ?_, Nat.toDigits_ne_nil, fun c => isDigit_of_mem_digitChars,
    ofDigits_digitChars n⟩
  exact String.toList_ofList

end Switchboard.Number
