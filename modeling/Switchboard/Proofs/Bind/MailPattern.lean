import Switchboard.Proofs.Bind.MailAddress
import Mathlib.Computability.Language

/-!
# Mail addresses as a regular expression

The texts that are addresses are those that a regular expression matches (`Validator.mem_pattern_iff`):
atoms and labels are repeated characters, and their sequences repeated parts with points in front or
behind. With this, and with what an address looks like, `Validator.email_of_text` says what is accepted.
-/

namespace Switchboard.Validator

open scoped Computability

/-- One character of a kind. -/
def one (p : Char → Bool) : Language Char := {cs | ∃ c, p c = true ∧ cs = [c]}

/-- Once or more. -/
def repeated (l : Language Char) : Language Char := l * l∗

/-- What follows the first character of a label. -/
def labelRest : Language Char := 1 + (one isLabelChar)∗ * one Text.isWord

/-- What stands before the `@`. -/
def localPattern : Language Char :=
  repeated (one isAtomChar) * (one (· == '.') * repeated (one isAtomChar))∗

/-- What stands behind the `@`. -/
def domainPattern : Language Char :=
  repeated (one Text.isWord * labelRest * one (· == '.')) * (one Char.isAlphanum * labelRest)

/-- The expression that a text has to match. -/
def pattern : Language Char := localPattern * one (· == '@') * domainPattern

variable {p : Char → Bool} {l : Language Char} {cs : List Char}

theorem mem_one_beq {c : Char} : cs ∈ one (· == c) ↔ cs = [c] := by
  constructor
  · rintro ⟨d, same, rfl⟩
    rw [beq_iff_eq.1 same]
  · intro same
    exact ⟨c, beq_self_eq_true c, same⟩

theorem mem_kstar_one : cs ∈ (one p)∗ ↔ ∀ c ∈ cs, p c = true := by
  constructor
  · rintro ⟨parts, rfl, each⟩
    intro c hc
    obtain ⟨part, there, hc⟩ := List.mem_flatten.1 hc
    obtain ⟨d, hd, rfl⟩ := each part there
    rw [List.mem_singleton.1 hc]
    exact hd
  · intro all
    refine ⟨cs.map ([·]), ?_, ?_⟩
    · rw [← List.flatMap_def, List.flatMap_singleton']
    · intro part there
      obtain ⟨c, hc, rfl⟩ := List.mem_map.1 there
      exact ⟨c, all c hc, rfl⟩

theorem mem_repeated_one : cs ∈ repeated (one p) ↔ cs ≠ [] ∧ ∀ c ∈ cs, p c = true := by
  simp only [repeated, Language.mem_mul, mem_kstar_one]
  constructor
  · rintro ⟨_, ⟨c, hc, rfl⟩, rest, all, rfl⟩
    exact ⟨List.cons_ne_nil c rest, List.forall_mem_cons.2 ⟨hc, all⟩⟩
  · rintro ⟨some, all⟩
    obtain ⟨c, rest, rfl⟩ := List.exists_cons_of_ne_nil some
    exact ⟨[c], ⟨c, all c List.mem_cons_self, rfl⟩, rest,
      fun d hd => all d (List.mem_cons_of_mem c hd), rfl⟩

/-- Parts with points between them. -/
theorem mem_mul_kstar_point :
    cs ∈ l * (one (· == '.') * l)∗ ↔
      ∃ parts last, (∀ p ∈ parts, p ∈ l) ∧ last ∈ l ∧ cs = pointed parts ++ last := by
  constructor
  · rintro ⟨first, hf, _, ⟨more, rfl, each⟩, rfl⟩
    -- parts are taken off the front, so the first one varies
    induction more generalizing first with
    | nil => exact ⟨[], first, fun p hp => absurd hp List.not_mem_nil, hf, List.append_nil first⟩
    | cons part more ih =>
      obtain ⟨front, hp, next, hn, rfl⟩ := each part List.mem_cons_self
      rw [mem_one_beq.1 hp]
      obtain ⟨parts, last, hs, hl, split⟩ := ih next hn fun q hq => each q (List.mem_cons_of_mem _ hq)
      refine ⟨first :: parts, last, List.forall_mem_cons.2 ⟨hf, hs⟩, hl, ?_⟩
      simp only [pointed, List.flatten_cons, List.flatMap_cons, List.append_assoc] at split ⊢
      rw [split]
  · rintro ⟨parts, last, hs, hl, rfl⟩
    induction parts with
    | nil => exact ⟨last, hl, [], Language.nil_mem_kstar _, List.append_nil last⟩
    | cons part parts ih =>
      obtain ⟨next, hn, _, ⟨more, rfl, each⟩, split⟩ := ih fun q hq => hs q (List.mem_cons_of_mem _ hq)
      refine ⟨part, hs part List.mem_cons_self, _, ⟨(['.'] ++ next) :: more, rfl, ?_⟩, ?_⟩
      · exact List.forall_mem_cons.2 ⟨Language.append_mem_mul (mem_one_beq.2 rfl) hn, each⟩
      · simp only [pointed, List.flatten_cons, List.flatMap_cons, List.append_assoc] at split ⊢
        rw [← split]

/-- Parts with points behind them. -/
theorem mem_kstar_pointed :
    cs ∈ (l * one (· == '.'))∗ ↔ ∃ parts, (∀ p ∈ parts, p ∈ l) ∧ cs = pointed parts := by
  constructor
  · rintro ⟨more, rfl, each⟩
    induction more with
    | nil => exact ⟨[], fun p hp => absurd hp List.not_mem_nil, rfl⟩
    | cons part more ih =>
      obtain ⟨first, hf, point, hp, rfl⟩ := each part List.mem_cons_self
      obtain ⟨parts, hs, split⟩ := ih fun q hq => each q (List.mem_cons_of_mem _ hq)
      refine ⟨first :: parts, List.forall_mem_cons.2 ⟨hf, hs⟩, ?_⟩
      rw [List.flatten_cons, split, mem_one_beq.1 hp, pointed, pointed, List.flatMap_cons]
  · rintro ⟨parts, hs, rfl⟩
    refine ⟨parts.map (· ++ ['.']), List.flatMap_def, ?_⟩
    intro part there
    obtain ⟨q, hq, rfl⟩ := List.mem_map.1 there
    exact Language.append_mem_mul (hs q hq) (mem_one_beq.2 rfl)

theorem mem_repeated_pointed :
    cs ∈ repeated (l * one (· == '.')) ↔
      ∃ parts, parts ≠ [] ∧ (∀ p ∈ parts, p ∈ l) ∧ cs = pointed parts := by
  simp only [repeated, Language.mem_mul (l := l * one (· == '.')), mem_kstar_pointed]
  constructor
  · rintro ⟨_, ⟨first, hf, point, hp, rfl⟩, _, ⟨parts, hs, rfl⟩, rfl⟩
    refine ⟨first :: parts, List.cons_ne_nil _ _, List.forall_mem_cons.2 ⟨hf, hs⟩, ?_⟩
    rw [mem_one_beq.1 hp, pointed, pointed, List.flatMap_cons]
  · rintro ⟨parts, some, hs, rfl⟩
    obtain ⟨first, parts, rfl⟩ := List.exists_cons_of_ne_nil some
    obtain ⟨hf, hs⟩ := List.forall_mem_cons.1 hs
    exact ⟨first ++ ['.'], Language.append_mem_mul hf (mem_one_beq.2 rfl), pointed parts,
      ⟨parts, hs, rfl⟩, (List.flatMap_cons (f := (· ++ ['.']))).symm⟩

theorem mem_labelRest : cs ∈ labelRest ↔ (∀ c ∈ cs, isLabelChar c = true) ∧ '-' ∉ cs.getLast? := by
  rw [labelRest, Language.mem_add, Language.mem_one, Language.mem_mul]
  simp only [mem_kstar_one]
  constructor
  · rintro (rfl | ⟨inside, all, _, ⟨d, hd, rfl⟩, rfl⟩)
    · exact ⟨fun c hc => absurd hc List.not_mem_nil, fun none => nomatch none⟩
    · refine ⟨forall_mem_concat all (isLabelChar_iff.2 (Or.inl hd)), ?_⟩
      rw [List.getLast?_concat]
      intro last
      exact ne_hyphen_of_isWord hd (Option.some.inj last)
  · rintro ⟨all, last⟩
    rcases List.eq_nil_or_concat' cs with rfl | ⟨inside, d, rfl⟩
    · exact Or.inl rfl
    · obtain ⟨all, hd⟩ := List.forall_mem_append.1 all
      rw [List.getLast?_concat] at last
      refine Or.inr ⟨inside, all, [d], ⟨d, ?_, rfl⟩, rfl⟩
      apply isWord_of_isLabelChar (hd d List.mem_cons_self)
      rintro rfl
      exact last rfl

/-- A label that begins with a character of a kind. -/
theorem mem_one_mul_labelRest (words : ∀ c, p c = true → Text.isWord c = true) :
    cs ∈ one p * labelRest ↔ IsLabel cs ∧ ∃ c ∈ cs.head?, p c = true := by
  simp only [Language.mem_mul, mem_labelRest]
  constructor
  · rintro ⟨_, ⟨c, hc, rfl⟩, rest, ⟨all, last⟩, rfl⟩
    refine ⟨⟨⟨List.cons_ne_nil c rest, ?_, ?_⟩, ?_⟩, c, rfl, hc⟩
    · exact List.forall_mem_cons.2 ⟨isLabelChar_iff.2 (Or.inl (words c hc)), all⟩
    · intro first
      exact ne_hyphen_of_isWord (words c hc) (Option.some.inj first)
    · intro ends
      rw [List.singleton_append, List.getLast?_cons] at ends
      cases split : rest.getLast? with
      | none =>
        rw [split] at ends
        exact ne_hyphen_of_isWord (words c hc) (Option.some.inj ends)
      | some d =>
        rw [split] at ends last
        exact last ends
  · rintro ⟨label, c, first, hc⟩
    obtain ⟨d, rest, rfl, -⟩ := label.exists_word
    obtain rfl := Option.some.inj first
    have last := label.last
    refine ⟨[d], ⟨d, hc, rfl⟩, rest, ⟨(List.forall_mem_cons.1 label.chars).2, ?_⟩, rfl⟩
    intro ends
    rw [List.getLast?_cons, Option.mem_def.1 ends] at last
    exact last rfl

/-- The labels of the pattern are those that the reader takes. -/
theorem mem_label : cs ∈ one Text.isWord * labelRest ↔ IsLabel cs := by
  rw [mem_one_mul_labelRest fun c hc => hc]
  constructor
  · exact And.left
  · intro label
    obtain ⟨c, rest, rfl, hc⟩ := label.exists_word
    exact ⟨label, c, rfl, hc⟩

/-- What may stand before the at sign. -/
theorem mem_localPattern : cs ∈ localPattern ↔ IsLocal cs := by
  rw [localPattern, mem_mul_kstar_point, isLocal_iff]
  simp only [mem_repeated_one, IsAtom]

/-- What may stand behind the at sign. -/
theorem mem_domainPattern : cs ∈ domainPattern ↔ IsDomain cs := by
  rw [domainPattern, Language.mem_mul]
  simp only [mem_repeated_pointed, mem_label,
    mem_one_mul_labelRest fun c hc => isWord_of_isAlphanum hc]
  constructor
  · rintro ⟨_, ⟨labels, several, hl, rfl⟩, last, ⟨h, begins⟩, rfl⟩
    rw [← intercalate_concat]
    exact .of several hl h begins
  · rintro ⟨several, hl, h, begins⟩
    exact ⟨_, ⟨_, several, hl, rfl⟩, _, ⟨h, begins⟩, (intercalate_concat _ _).symm⟩

/-- The expression matches addresses, and nothing else. -/
theorem mem_pattern_iff : cs ∈ pattern ↔ IsAddress cs := by
  rw [pattern, Language.mem_mul]
  simp only [Language.mem_mul, mem_localPattern, mem_one_beq, mem_domainPattern]
  constructor
  · rintro ⟨_, ⟨front, hf, _, rfl, rfl⟩, back, hb, rfl⟩
    rw [List.append_assoc]
    exact .of hf hb
  · rintro ⟨hf, hb⟩
    exact ⟨_, ⟨_, hf, _, rfl, rfl⟩, _, hb, List.append_assoc _ _ _⟩

/-! ## What is accepted -/

/-- **A text is accepted exactly if it is an address**, and these are what the expression matches.
An address has one `@`, and on both sides of it no point in front, at the end, or next to another. -/
theorem email_of_text (s : String) (m : Marker) :
    (email (.text s) m = true ↔ IsAddress s.toList) ∧
      (email (.text s) m = true ↔ s.toList ∈ pattern) ∧
      (email (.text s) m = true → ∃ front back, s.toList = front ++ '@' :: back ∧
        ('@' ∉ front ∧ SinglePoints front) ∧ ('@' ∉ back ∧ SinglePoints back)) := by
  have accepted : email (.text s) m = true ↔ IsAddress s.toList := isAddress_iff
  refine ⟨accepted, accepted.trans mem_pattern_iff.symm, ?_⟩
  intro yes
  have address := accepted.1 yes
  generalize s.toList = cs at address ⊢
  obtain ⟨hf, hb⟩ := address
  exact ⟨_, _, rfl, hf.apart, hb.apart⟩

end Switchboard.Validator
