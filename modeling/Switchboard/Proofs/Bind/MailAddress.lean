import Switchboard.Bind.Validator
import Switchboard.Proofs.Text.Split
import Switchboard.Proofs.Text.Utf8

/-!
# Mail addresses

An address is some atoms with points between them, an `@`, and two labels or more with points between
them (`Validator.IsAddress`). It is read in one pass. At each character the stage says what the text
began with (`AddressStage.Stands`, kept by each step), so nothing but addresses is accepted; and as an
address is read part by part, all of them are (`Validator.isAddress_iff`).
-/

namespace Switchboard.Validator

open AddressStage

/-! ## What an address looks like -/

/-- One character or more, none of them a point or an `@`. -/
def IsAtom (cs : List Char) : Prop := cs ≠ [] ∧ ∀ c ∈ cs, isAtomChar c = true

/-- A character of a label. -/
def isLabelChar (c : Char) : Bool := Text.isWord c || c == '-'

/-- The beginning of a label: one word character or more, and hyphens, but none in front. -/
structure IsLabelStart (cs : List Char) : Prop where
  some : cs ≠ []
  chars : ∀ c ∈ cs, isLabelChar c = true
  first : '-' ∉ cs.head?

/-- A label: no hyphen at its end either. -/
structure IsLabel (cs : List Char) : Prop extends IsLabelStart cs where
  last : '-' ∉ cs.getLast?

/-- What stands before the `@`: one atom or more with points between them. -/
inductive IsLocal : List Char → Prop
  | of {atoms : List (List Char)} {last : List Char} (ha : ∀ a ∈ atoms, IsAtom a)
      (hl : IsAtom last) : IsLocal (List.intercalate ['.'] (atoms ++ [last]))

/-- What stands behind the `@`: two labels or more with points between them, of which the last
begins with a letter or digit of ASCII. -/
inductive IsDomain : List Char → Prop
  | of {labels : List (List Char)} {last : List Char} (several : labels ≠ [])
      (hl : ∀ l ∈ labels, IsLabel l) (h : IsLabel last)
      (plain : ∃ c ∈ last.head?, c.isAlphanum = true) :
      IsDomain (List.intercalate ['.'] (labels ++ [last]))

inductive IsAddress : List Char → Prop
  | of {front back : List Char} (hf : IsLocal front) (hb : IsDomain back) :
      IsAddress (front ++ '@' :: back)

/-! ## Parts with points behind them -/

/-- Each part with a point behind it. -/
def pointed (parts : List (List Char)) : List Char := parts.flatMap (· ++ ['.'])

theorem pointed_concat (parts : List (List Char)) (part : List Char) :
    pointed (parts ++ [part]) = pointed parts ++ part ++ ['.'] := by
  simp only [pointed, List.flatMap_append, List.flatMap_singleton, List.append_assoc]

theorem intercalate_concat (parts : List (List Char)) (last : List Char) :
    List.intercalate ['.'] (parts ++ [last]) = pointed parts ++ last := by
  induction parts with
  | nil => exact List.intercalate_singleton
  | cons part parts ih =>
    have split : List.intercalate ['.'] (part :: (parts ++ [last])) =
        part ++ ['.'] ++ List.intercalate ['.'] (parts ++ [last]) := by
      cases parts with
      | nil => exact List.intercalate_cons_cons
      | cons => exact List.intercalate_cons_cons
    rw [List.cons_append, split, ih]
    simp only [pointed, List.flatMap_cons, List.append_assoc]

theorem forall_mem_concat {α : Type} {p : α → Prop} {l : List α} {last : α}
    (hl : ∀ x ∈ l, p x) (h : p last) : ∀ x ∈ l ++ [last], p x :=
  List.forall_mem_append.2 ⟨hl, List.forall_mem_singleton.2 h⟩

/-! ## Characters -/

theorem isWord_hyphen : Text.isWord '-' = false := by decide +kernel

/-- Letters and digits of ASCII are letters of words. -/
theorem isWord_of_isAlphanum {c : Char} (h : c.isAlphanum = true) : Text.isWord c = true :=
  Utf8.forall_ascii (p := fun c _ => c.isAlphanum = true → Text.isWord c = true)
    (by decide +kernel) (Utf8.ascii_of_isAlphanum h) h

/-- A label has letters of words and hyphens. -/
theorem isLabelChar_iff {c : Char} : isLabelChar c = true ↔ Text.isWord c = true ∨ c = '-' := by
  simp only [isLabelChar, Bool.or_eq_true, beq_iff_eq]

theorem ne_hyphen_of_isWord {c : Char} (h : Text.isWord c = true) : c ≠ '-' := by
  rintro rfl
  rw [isWord_hyphen] at h
  cases h

theorem isWord_of_isLabelChar {c : Char} (h : isLabelChar c = true) (other : c ≠ '-') :
    Text.isWord c = true := (isLabelChar_iff.1 h).resolve_right other

/-! ## Parts that grow -/

theorem isAtom_singleton {c : Char} (hc : isAtomChar c = true) : IsAtom [c] :=
  ⟨List.cons_ne_nil _ _, List.forall_mem_singleton.2 hc⟩

/-- An atom grows by any of its characters. -/
theorem IsAtom.concat {cs : List Char} {c : Char} (h : IsAtom cs) (hc : isAtomChar c = true) :
    IsAtom (cs ++ [c]) :=
  ⟨List.append_ne_nil_of_left_ne_nil h.1 _, forall_mem_concat h.2 hc⟩

theorem isLabelStart_singleton {c : Char} (hc : Text.isWord c = true) : IsLabelStart [c] where
  some := List.cons_ne_nil _ _
  chars := List.forall_mem_singleton.2 (isLabelChar_iff.2 (Or.inl hc))
  first := by
    intro h
    exact ne_hyphen_of_isWord hc (Option.some.inj h)

/-- The start of a label grows by a letter of a word or a hyphen. -/
theorem IsLabelStart.concat {cs : List Char} {c : Char} (h : IsLabelStart cs)
    (hc : isLabelChar c = true) : IsLabelStart (cs ++ [c]) where
  some := List.append_ne_nil_of_left_ne_nil h.some _
  chars := forall_mem_concat h.chars hc
  first := by
    rw [List.head?_append_of_ne_nil cs h.some]
    exact h.first

/-- A local part is atoms with points behind them and one more atom. -/
theorem isLocal_iff {cs : List Char} :
    IsLocal cs ↔ ∃ atoms last, (∀ a ∈ atoms, IsAtom a) ∧ IsAtom last ∧
      cs = pointed atoms ++ last := by
  constructor
  · rintro ⟨ha, hl⟩
    exact ⟨_, _, ha, hl, intercalate_concat _ _⟩
  · rintro ⟨atoms, last, ha, hl, rfl⟩
    rw [← intercalate_concat]
    exact .of ha hl

/-! ## One step -/

/-- The steps from one stage to the next. -/
inductive AddressStage.Step : AddressStage → Char → AddressStage → Prop
  | begin {c : Char} (hc : isAtomChar c = true) : Step .atomStart c .atom
  | more {c : Char} (hc : isAtomChar c = true) : Step .atom c .atom
  | point : Step .atom '.' .atomStart
  | turn : Step .atom '@' (.labelStart false)
  | first {c : Char} {inner : Bool} (hc : Text.isWord c = true) :
      Step (.labelStart inner) c (.label inner c.isAlphanum true)
  | word {c : Char} {inner plain closed : Bool} (hc : Text.isWord c = true) :
      Step (.label inner plain closed) c (.label inner plain true)
  | hyphen {inner plain closed : Bool} :
      Step (.label inner plain closed) '-' (.label inner plain false)
  | close {inner plain : Bool} : Step (.label inner plain true) '.' (.labelStart true)

/-- The reader goes on exactly by the steps. -/
theorem AddressStage.next?_eq_some_iff {st st' : AddressStage} {c : Char} :
    st.next? c = some st' ↔ st.Step c st' := by
  constructor
  · intro h
    cases st with
    | atomStart =>
      simp only [next?, Option.ite_none_right_eq_some, Option.some.injEq] at h
      obtain ⟨hc, rfl⟩ := h
      exact .begin hc
    | atom =>
      simp only [next?] at h
      split at h
      · next hc =>
        cases h
        exact .more hc
      · split at h
        · next hc =>
          cases h
          subst hc
          exact .point
        · simp only [Option.ite_none_right_eq_some, Option.some.injEq] at h
          obtain ⟨rfl, rfl⟩ := h
          exact .turn
    | labelStart inner =>
      simp only [next?, Option.ite_none_right_eq_some, Option.some.injEq] at h
      obtain ⟨hc, rfl⟩ := h
      exact .first hc
    | label inner plain closed =>
      simp only [next?, Bool.and_eq_true, decide_eq_true_eq] at h
      split at h
      · next hc =>
        cases h
        exact .word hc
      · split at h
        · next hc =>
          cases h
          subst hc
          exact .hyphen
        · simp only [Option.ite_none_right_eq_some, Option.some.injEq] at h
          obtain ⟨⟨rfl, rfl⟩, rfl⟩ := h
          exact .close
  · intro h
    cases h with
    | begin hc => exact if_pos hc
    | more hc => exact if_pos hc
    | point => rfl
    | turn => rfl
    | first hc => exact if_pos hc
    | word hc => exact if_pos hc
    | hyphen =>
      simp only [next?, isWord_hyphen, Bool.false_eq_true, ↓reduceIte]
    | close =>
      have point : Text.isWord '.' = false := by decide +kernel
      simp only [next?, point, Bool.false_eq_true, ↓reduceIte]
      rfl

/-! ## What has been read -/

/-- What a text began with when its reading stands at a stage. What a stage notes of it is true; of
what it does not note nothing is said. -/
def AddressStage.Stands : AddressStage → List Char → Prop
  | .atomStart, read => ∃ atoms, (∀ a ∈ atoms, IsAtom a) ∧ read = pointed atoms
  | .atom, read => IsLocal read
  | .labelStart inner, read => ∃ front labels, IsLocal front ∧ (∀ l ∈ labels, IsLabel l) ∧
      (inner = true → labels ≠ []) ∧ read = front ++ '@' :: pointed labels
  | .label inner plain closed, read => ∃ front labels part, IsLocal front ∧
      (∀ l ∈ labels, IsLabel l) ∧ (inner = true → labels ≠ []) ∧ IsLabelStart part ∧
      (plain = true → ∃ c ∈ part.head?, c.isAlphanum = true) ∧
      (closed = true → '-' ∉ part.getLast?) ∧ read = front ++ '@' :: (pointed labels ++ part)

/-- One character more. -/
theorem AddressStage.Stands.step {st st' : AddressStage} {read : List Char} {c : Char}
    (h : st.Stands read) (step : st.Step c st') : st'.Stands (read ++ [c]) := by
  cases step with
  | begin hc =>
    obtain ⟨atoms, ha, rfl⟩ := h
    exact isLocal_iff.2 ⟨atoms, [c], ha, isAtom_singleton hc, rfl⟩
  | more hc =>
    obtain ⟨atoms, last, ha, hl, rfl⟩ := isLocal_iff.1 h
    exact isLocal_iff.2 ⟨atoms, last ++ [c], ha, hl.concat hc, List.append_assoc _ _ _⟩
  | point =>
    obtain ⟨atoms, last, ha, hl, rfl⟩ := isLocal_iff.1 h
    exact ⟨atoms ++ [last], forall_mem_concat ha hl, (pointed_concat atoms last).symm⟩
  | turn =>
    refine ⟨read, [], h, ?_, ?_, rfl⟩
    · intro l hl
      cases hl
    · intro inner
      cases inner
  | first hc =>
    obtain ⟨front, labels, hf, hl, several, rfl⟩ := h
    refine ⟨front, labels, [c], hf, hl, several, isLabelStart_singleton hc, ?_, ?_, ?_⟩
    · intro plain
      exact ⟨c, rfl, plain⟩
    · intro _ last
      exact ne_hyphen_of_isWord hc (Option.some.inj last)
    · simp only [List.append_assoc, List.cons_append]
  | word hc =>
    obtain ⟨front, labels, part, hf, hl, several, begun, letter, -, rfl⟩ := h
    refine ⟨front, labels, part ++ [c], hf, hl, several, begun.concat (isLabelChar_iff.2 (.inl hc)),
      ?_, ?_, ?_⟩
    · rw [List.head?_append_of_ne_nil part begun.some]
      exact letter
    · intro _ last
      rw [List.getLast?_concat] at last
      exact ne_hyphen_of_isWord hc (Option.some.inj last)
    · simp only [List.append_assoc, List.cons_append]
  | hyphen =>
    -- the label may go on behind a hyphen, but not end with it
    obtain ⟨front, labels, part, hf, hl, several, begun, letter, -, rfl⟩ := h
    refine ⟨front, labels, part ++ ['-'], hf, hl, several,
      begun.concat (isLabelChar_iff.2 (.inr rfl)), ?_, ?_, ?_⟩
    · rw [List.head?_append_of_ne_nil part begun.some]
      exact letter
    · intro closed
      cases closed
    · simp only [List.append_assoc, List.cons_append]
  | close =>
    obtain ⟨front, labels, part, hf, hl, several, begun, -, ends, rfl⟩ := h
    refine ⟨front, labels ++ [part], hf, forall_mem_concat hl ⟨begun, ends rfl⟩, ?_, ?_⟩
    · intro _
      exact List.append_ne_nil_of_right_ne_nil _ (List.cons_ne_nil _ _)
    · rw [pointed_concat]
      simp only [List.append_assoc, List.cons_append]

/-- Any number of characters more. -/
theorem AddressStage.Stands.foldlM {st st' : AddressStage} {read cs : List Char}
    (h : st.Stands read) (run : cs.foldlM AddressStage.next? st = some st') :
    st'.Stands (read ++ cs) := by
  induction cs generalizing st read with
  | nil =>
    cases run
    rw [List.append_nil]
    exact h
  | cons c cs ih =>
    rw [List.foldlM_cons] at run
    obtain ⟨next, step, run⟩ := Option.bind_eq_some_iff.1 run
    have whole := ih (h.step (next?_eq_some_iff.1 step)) run
    rwa [List.append_assoc, List.singleton_append] at whole

/-- Where the reader may end it has read an address. -/
theorem isAddress_of_stands {st : AddressStage} {cs : List Char} (h : st.Stands cs)
    (ends : st.isEnd = true) : IsAddress cs := by
  match st, ends with
  | .label true true true, _ =>
    obtain ⟨front, labels, part, hf, hl, several, begun, letter, solid, rfl⟩ := h
    rw [← intercalate_concat]
    exact .of hf (.of (several rfl) hl ⟨begun, solid rfl⟩ (letter rfl))

/-! ## Reading part by part -/

theorem IsLabelStart.exists_word {cs : List Char} (h : IsLabelStart cs) :
    ∃ c rest, cs = c :: rest ∧ Text.isWord c = true := by
  obtain ⟨some, chars, first⟩ := h
  obtain ⟨c, rest, rfl⟩ := List.exists_cons_of_ne_nil some
  refine ⟨c, rest, rfl, isWord_of_isLabelChar (chars c List.mem_cons_self) ?_⟩
  rintro rfl
  exact first rfl

theorem foldlM_cons_of_step {st st' : AddressStage} {c : Char} (step : st.Step c st')
    (cs : List Char) :
    (c :: cs).foldlM AddressStage.next? st = cs.foldlM AddressStage.next? st' := by
  rw [List.foldlM_cons, next?_eq_some_iff.2 step]
  rfl

theorem foldlM_append_of {st st' : AddressStage} {cs : List Char}
    (run : cs.foldlM AddressStage.next? st = some st') (ds : List Char) :
    (cs ++ ds).foldlM AddressStage.next? st = ds.foldlM AddressStage.next? st' := by
  rw [List.foldlM_append, run]
  rfl

theorem foldlM_atom {cs : List Char} (h : ∀ c ∈ cs, isAtomChar c = true) :
    cs.foldlM AddressStage.next? .atom = some .atom := by
  induction cs with
  | nil => rfl
  | cons c cs ih =>
    rw [foldlM_cons_of_step (.more (h c List.mem_cons_self))]
    exact ih fun d hd => h d (List.mem_cons_of_mem _ hd)

/-- An atom is read from its start to its end. -/
theorem IsAtom.foldlM {cs : List Char} (h : IsAtom cs) :
    cs.foldlM AddressStage.next? .atomStart = some .atom := by
  obtain ⟨some, chars⟩ := h
  cases cs with
  | nil => exact absurd rfl some
  | cons c cs =>
    rw [foldlM_cons_of_step (.begin (chars c List.mem_cons_self))]
    exact foldlM_atom fun d hd => chars d (List.mem_cons_of_mem _ hd)

/-- Whether a label may end is up to its last character. -/
theorem foldlM_label {inner plain closed : Bool} {cs : List Char}
    (h : ∀ c ∈ cs, isLabelChar c = true) :
    cs.foldlM AddressStage.next? (.label inner plain closed) =
      some (.label inner plain ((cs.getLast?.map (· != '-')).getD closed)) := by
  induction cs generalizing closed with
  | nil => rfl
  | cons c cs ih =>
    have step : (AddressStage.label inner plain closed).Step c (.label inner plain (c != '-')) := by
      rcases isLabelChar_iff.1 (h c List.mem_cons_self) with hc | rfl
      · rw [bne_iff_ne.2 (ne_hyphen_of_isWord hc)]
        exact .word hc
      · exact .hyphen
    rw [foldlM_cons_of_step step, ih fun d hd => h d (List.mem_cons_of_mem _ hd),
      List.getLast?_cons]
    cases cs.getLast? with
    | none => rfl
    | some d => rfl

/-- A label is read from its start to a place where it may end. -/
theorem IsLabel.foldlM {cs : List Char} (h : IsLabel cs) (inner : Bool) :
    cs.foldlM AddressStage.next? (.labelStart inner) =
      some (.label inner (cs.head?.any Char.isAlphanum) true) := by
  obtain ⟨c, rest, rfl, word⟩ := h.exists_word
  have chars : ∀ d ∈ rest, isLabelChar d = true := fun d hd => h.chars d (List.mem_cons_of_mem _ hd)
  have last := h.last
  rw [foldlM_cons_of_step (.first word), foldlM_label chars]
  rw [List.getLast?_cons] at last
  cases ends : rest.getLast? with
  | none => rfl
  | some d =>
    have solid : (d != '-') = true := by
      rw [bne_iff_ne]
      rintro rfl
      rw [ends] at last
      exact last rfl
    simp only [Option.map_some, Option.getD_some, solid]
    rfl

/-- Parts with points behind them, where each leads back to the stage that it began at. -/
theorem foldlM_pointed {st : AddressStage} {parts : List (List Char)}
    (each : ∀ p ∈ parts, (p ++ ['.']).foldlM AddressStage.next? st = some st) :
    (pointed parts).foldlM AddressStage.next? st = some st := by
  induction parts with
  | nil => rfl
  | cons p parts ih =>
    rw [pointed, List.flatMap_cons, foldlM_append_of (each p List.mem_cons_self)]
    exact ih fun q hq => each q (List.mem_cons_of_mem _ hq)

theorem IsAtom.foldlM_point {cs : List Char} (h : IsAtom cs) :
    (cs ++ ['.']).foldlM AddressStage.next? .atomStart = some .atomStart := by
  rw [foldlM_append_of h.foldlM, foldlM_cons_of_step .point]
  rfl

theorem IsLabel.foldlM_point {cs : List Char} (h : IsLabel cs) (inner : Bool) :
    (cs ++ ['.']).foldlM AddressStage.next? (.labelStart inner) = some (.labelStart true) := by
  rw [foldlM_append_of (h.foldlM inner), foldlM_cons_of_step .close]
  rfl

/-- A local part is read up to where the sign for the domain may stand. -/
theorem IsLocal.foldlM {cs : List Char} (h : IsLocal cs) :
    cs.foldlM AddressStage.next? .atomStart = some .atom := by
  obtain ⟨atoms, last, ha, hl, rfl⟩ := isLocal_iff.1 h
  rw [foldlM_append_of (foldlM_pointed fun a there => (ha a there).foldlM_point)]
  exact hl.foldlM

/-- A domain is read to a place where an address may end. -/
theorem IsDomain.foldlM {cs : List Char} (h : IsDomain cs) :
    cs.foldlM AddressStage.next? (.labelStart false) = some (.label true true true) := by
  cases h with
  | @of labels last several hl h plain =>
    obtain ⟨c, first, letter⟩ := plain
    obtain ⟨label, labels, rfl⟩ := List.exists_cons_of_ne_nil several
    have begins : last.head?.any Char.isAlphanum = true := by
      rw [Option.mem_def.1 first]
      exact letter
    have inside : (pointed labels).foldlM AddressStage.next? (.labelStart true) =
        some (.labelStart true) :=
      foldlM_pointed fun l there => (hl l (List.mem_cons_of_mem _ there)).foldlM_point true
    rw [intercalate_concat, pointed, List.flatMap_cons, List.append_assoc,
      foldlM_append_of ((hl label List.mem_cons_self).foldlM_point false), ← pointed,
      foldlM_append_of inside, h.foldlM, begins]

/-! ## What is accepted -/

/-- The reading ends well on addresses, and on nothing else. -/
theorem isAddress_iff {cs : List Char} : isAddress cs = true ↔ IsAddress cs := by
  unfold isAddress
  constructor
  · intro h
    obtain ⟨st, run, ends⟩ := (Option.any_eq_true _ _).1 h
    have start : AddressStage.atomStart.Stands [] := by
      refine ⟨[], ?_, rfl⟩
      intro a ha
      cases ha
    exact isAddress_of_stands (start.foldlM run) ends
  · rintro ⟨hf, hb⟩
    rw [foldlM_append_of hf.foldlM, foldlM_cons_of_step .turn, hb.foldlM]
    rfl

/-! ## The points of an address -/

/-- No point in front, none at the end, and no two without something between them. -/
structure SinglePoints (cs : List Char) : Prop where
  first : '.' ∉ cs.head?
  last : '.' ∉ cs.getLast?
  apart : ¬ ['.', '.'] <:+: cs

/-- Points stand apart where no part between them is empty. -/
theorem singlePoints_of_splitOn {cs : List Char} (h : [] ∉ cs.splitOn '.') : SinglePoints cs where
  first := by
    intro first
    obtain ⟨rest, rfl⟩ := List.head?_eq_some_iff.1 first
    rw [← List.nil_append ('.' :: rest), List.splitOn_append_cons_self] at h
    exact h List.mem_cons_self
  last := by
    intro last
    obtain ⟨front, rfl⟩ := List.getLast?_eq_some_iff.1 last
    rw [List.splitOn_append_cons_self] at h
    exact h (List.mem_append_right _ List.mem_cons_self)
  apart := by
    rintro ⟨front, rest, rfl⟩
    have split : front ++ ['.', '.'] ++ rest = front ++ '.' :: ([] ++ '.' :: rest) := by simp
    rw [split, List.splitOn_append_cons_self, List.splitOn_append_cons_self] at h
    exact h (List.mem_append_right _ List.mem_cons_self)

/-- Parts that are not empty and have no points are joined by points that stand apart. -/
theorem singlePoints_intercalate {parts : List (List Char)} (some : parts ≠ [])
    (plain : ∀ p ∈ parts, p ≠ [] ∧ '.' ∉ p) : SinglePoints (List.intercalate ['.'] parts) := by
  apply singlePoints_of_splitOn
  rw [List.splitOn_intercalate '.' (fun p hp => (plain p hp).2) some]
  intro empty
  exact (plain [] empty).1 rfl

theorem IsLocal.apart {cs : List Char} (h : IsLocal cs) : '@' ∉ cs ∧ SinglePoints cs := by
  have mark : isAtomChar '@' = false := by decide +kernel
  have point : isAtomChar '.' = false := by decide +kernel
  cases h with
  | @of atoms last ha hl =>
    have each := forall_mem_concat ha hl
    constructor
    · intro there
      obtain same | ⟨a, ha, there⟩ := Text.mem_intercalate there
      · cases same
      · exact Text.notMem_of_forall (each a ha).2 mark there
    · apply singlePoints_intercalate
      · exact List.append_ne_nil_of_right_ne_nil _ (List.cons_ne_nil _ _)
      · intro a ha
        exact ⟨(each a ha).1, Text.notMem_of_forall (each a ha).2 point⟩

theorem IsDomain.apart {cs : List Char} (h : IsDomain cs) : '@' ∉ cs ∧ SinglePoints cs := by
  have mark : isLabelChar '@' = false := by decide +kernel
  have point : isLabelChar '.' = false := by decide +kernel
  cases h with
  | @of labels last several hl h begins =>
    have each := forall_mem_concat hl h
    constructor
    · intro there
      obtain same | ⟨l, hl, there⟩ := Text.mem_intercalate there
      · cases same
      · exact Text.notMem_of_forall (each l hl).chars mark there
    · apply singlePoints_intercalate
      · exact List.append_ne_nil_of_right_ne_nil _ (List.cons_ne_nil _ _)
      · intro l hl
        exact ⟨(each l hl).some, Text.notMem_of_forall (each l hl).chars point⟩

end Switchboard.Validator
