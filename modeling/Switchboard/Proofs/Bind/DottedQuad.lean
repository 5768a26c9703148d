import Switchboard.Bind.Validator
import Switchboard.Proofs.Number.Decimal
import Switchboard.Proofs.Text.Split

/-!
# Four numbers with points between them

A text is taken for a network address if it has four parts with points between them and each part is
read as a number of at most 255. Such a part is digits, and may have a plus sign in front, so more
than dotted quads are accepted: these are exactly the accepted texts without a plus sign
(`Validator.ipv4_of_text`).
-/

namespace Switchboard.Validator

/-- One digit or more that write a number of at most 255. -/
def IsOctet (cs : List Char) : Prop :=
  cs ≠ [] ∧ (∀ c ∈ cs, c.isDigit = true) ∧ Number.ofDigits cs ≤ 255

/-- An octet, with a plus sign in front or not. -/
def IsSignedOctet (cs : List Char) : Prop := ∃ ds, (cs = ds ∨ cs = '+' :: ds) ∧ IsOctet ds

/-- Four parts of a kind with points between them. -/
def IsQuad (part : List Char → Prop) (cs : List Char) : Prop :=
  ∃ parts : List (List Char), parts.length = 4 ∧ (∀ p ∈ parts, part p) ∧
    cs = List.intercalate ['.'] parts

/-! ## Parts -/

theorem IsOctet.notMem {cs : List Char} (h : IsOctet cs) {c : Char} (other : c.isDigit = false) :
    c ∉ cs := Text.notMem_of_forall h.2.1 other

theorem IsSignedOctet.point_notMem {cs : List Char} (h : IsSignedOctet cs) : '.' ∉ cs := by
  obtain ⟨ds, rfl | rfl, octet⟩ := h
  · exact octet.notMem (by decide)
  · intro there
    apply octet.notMem (c := '.') (by decide)
    exact (List.mem_cons.1 there).resolve_left (by decide)

/-- Without a plus, a part is one of a dotted quad. -/
theorem isSignedOctet_iff {cs : List Char} (plain : '+' ∉ cs) : IsSignedOctet cs ↔ IsOctet cs := by
  constructor
  · rintro ⟨ds, rfl | rfl, octet⟩
    · exact octet
    · exact absurd List.mem_cons_self plain
  · intro octet
    exact ⟨cs, Or.inl rfl, octet⟩

/-- The parts of a kind without points are those that the text is split into. -/
theorem isQuad_iff {part : List Char → Prop} (plain : ∀ p, part p → '.' ∉ p) (cs : List Char) :
    IsQuad part cs ↔ (cs.splitOn '.').length = 4 ∧ ∀ p ∈ cs.splitOn '.', part p := by
  constructor
  · rintro ⟨parts, four, parted, rfl⟩
    have some : parts ≠ [] := by
      rintro rfl
      cases four
    rw [List.splitOn_intercalate '.' (fun p hp => plain p (parted p hp)) some]
    exact ⟨four, parted⟩
  · rintro ⟨four, parted⟩
    exact ⟨cs.splitOn '.', four, parted, (List.intercalate_splitOn '.').symm⟩

/-! ## What is read as a number -/

theorem isSome_readNat?_iff (cs : List Char) :
    (Number.readNat? 255 (String.ofList cs)).isSome = true ↔ IsSignedOctet cs := by
  simp only [Option.isSome_iff_exists, Number.readNat?_eq_some_iff, Number.IsNumeral,
    String.toList_ofList]
  constructor
  · rintro ⟨n, ⟨ds, sign, some, digits, rfl⟩, small⟩
    exact ⟨ds, sign, some, digits, small⟩
  · rintro ⟨ds, sign, some, digits, small⟩
    exact ⟨Number.ofDigits ds, ⟨ds, sign, some, digits, rfl⟩, small⟩

/-- The check takes four parts, each of which may have a plus before it. -/
theorem isDottedQuad_iff (s : String) : isDottedQuad s = true ↔ IsQuad IsSignedOctet s.toList := by
  rw [isQuad_iff fun p => IsSignedOctet.point_notMem]
  unfold isDottedQuad Text.splitOn
  simp only [Bool.and_eq_true, beq_iff_eq, List.length_map, List.all_map, List.all_eq_true,
    Function.comp_apply, isSome_readNat?_iff]

/-- **A text is accepted if it has four parts with points between them, each of them digits that
write a number of at most 255, with a plus sign in front or not.** Where no part has one, it is a
dotted quad. -/
theorem ipv4_of_text (s : String) (m : Marker) :
    (ipv4 (.text s) m = true ↔ IsQuad IsSignedOctet s.toList) ∧
      (IsQuad IsOctet s.toList ↔ ipv4 (.text s) m = true ∧ '+' ∉ s.toList) := by
  have accepted : ipv4 (.text s) m = true ↔ IsQuad IsSignedOctet s.toList := isDottedQuad_iff s
  refine ⟨accepted, ?_⟩
  rw [accepted]
  constructor
  · rintro ⟨parts, four, octets, whole⟩
    refine ⟨⟨parts, four, fun p hp => ⟨p, Or.inl rfl, octets p hp⟩, whole⟩, ?_⟩
    intro plus
    rw [whole] at plus
    obtain point | ⟨p, hp, there⟩ := Text.mem_intercalate plus
    · cases point
    · exact (octets p hp).notMem (by decide) there
  · rintro ⟨⟨parts, four, signed, whole⟩, plain⟩
    refine ⟨parts, four, fun p hp => (isSignedOctet_iff fun plus => ?_).1 (signed p hp), whole⟩
    rw [whole] at plain
    exact plain (Text.mem_intercalate_of_mem hp plus)

/-- A text that is no dotted quad is accepted. -/
theorem not_forall_quad :
    ¬ ∀ (s : String) (m : Marker), ipv4 (.text s) m = true ↔ IsQuad IsOctet s.toList := by
  intro law
  have accepted : ipv4 (.text "+1.2.3.4") { name := "IPv4Address" } = true := by decide +kernel
  have quad := (law "+1.2.3.4" { name := "IPv4Address" }).1 accepted
  rw [isQuad_iff fun p octet => octet.notMem (by decide)] at quad
  have octet : IsOctet ['+', '1'] := quad.2 _ (by decide +kernel)
  exact absurd (octet.2.1 '+' List.mem_cons_self) (by decide)

end Switchboard.Validator
