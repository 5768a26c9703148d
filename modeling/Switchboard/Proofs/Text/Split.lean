import Switchboard.Text.Split
import Mathlib.Data.List.DropRight
import Mathlib.Data.String.Basic

/-!
# Laws of cutting

What cutting and splitting do to a text that was put together around a separator.
-/

namespace Switchboard.Text

/-- A text is cut at the first character that is looked for. -/
theorem cutBy?_append {p : Char → Bool} {before : List Char} (h : ∀ c ∈ before, p c = false)
    {c : Char} (hc : p c = true) (after : List Char) :
    cutBy? p (before ++ c :: after) = some (before, after) := by
  induction before with
  | nil => rw [List.nil_append, cutBy?, if_pos hc]
  | cons d before ih =>
    have hd : ¬ p d = true := by
      rw [h d List.mem_cons_self]
      exact Bool.false_ne_true
    rw [List.cons_append, cutBy?, if_neg hd, ih fun e he => h e (List.mem_cons_of_mem _ he)]
    rfl

/-- What a character of another kind is not among. -/
theorem notMem_of_forall {p : Char → Bool} {cs : List Char} (h : ∀ c ∈ cs, p c = true) {c : Char}
    (other : p c = false) : c ∉ cs := by
  intro there
  rw [h c there] at other
  cases other

theorem forall_beq_false_of_notMem {sep : Char} {cs : List Char} (h : sep ∉ cs) :
    ∀ c ∈ cs, (c == sep) = false := by
  intro c hc
  refine beq_false_of_ne ?_
  rintro rfl
  exact h hc

/-- A text is cut where it was put together, if the separator is not in its first part. -/
theorem cut?_append {sep : Char} {before : String} (h : sep ∉ before.toList) (after : String) :
    cut? sep (before ++ String.singleton sep ++ after) = some (before, after) := by
  unfold cut?
  rw [String.toList_append, String.toList_append, String.toList_singleton, List.append_assoc,
    List.singleton_append, cutBy?_append (forall_beq_false_of_notMem h) (beq_self_eq_true sep)]
  simp only [Option.map_some, String.ofList_toList]

/-- What is cut in two had such a character in between. -/
theorem exists_of_cutBy?_eq_some {p : Char → Bool} {cs before after : List Char}
    (h : cutBy? p cs = some (before, after)) :
    ∃ c, p c = true ∧ cs = before ++ c :: after := by
  induction cs generalizing before with
  | nil => cases h
  | cons d cs ih =>
    rw [cutBy?] at h
    split at h
    · next hd =>
      cases h
      exact ⟨d, hd, rfl⟩
    · obtain ⟨⟨first, rest⟩, cut, same⟩ := Option.map_eq_some_iff.1 h
      cases same
      obtain ⟨c, hc, rfl⟩ := ih cut
      exact ⟨c, hc, rfl⟩

theorem cutBy?_eq_none {p : Char → Bool} {cs : List Char} (h : ∀ c ∈ cs, p c = false) :
    cutBy? p cs = none := by
  rw [Option.eq_none_iff_forall_ne_some]
  rintro ⟨before, after⟩ cut
  obtain ⟨c, hc, rfl⟩ := exists_of_cutBy?_eq_some cut
  exact Bool.false_ne_true ((h c (List.mem_append_right _ List.mem_cons_self)).symm.trans hc)

/-- A text without the separator is not cut. -/
theorem cut?_eq_none {sep : Char} {s : String} (h : sep ∉ s.toList) : cut? sep s = none := by
  unfold cut?
  rw [cutBy?_eq_none (forall_beq_false_of_notMem h)]
  rfl

/-- The two parts of a cut and the separator are the whole text. -/
theorem eq_append_of_cut?_eq_some {sep : Char} {s before after : String}
    (h : cut? sep s = some (before, after)) : s = before ++ String.singleton sep ++ after := by
  obtain ⟨⟨first, rest⟩, cut, same⟩ := Option.map_eq_some_iff.1 h
  cases same
  obtain ⟨c, hc, split⟩ := exists_of_cutBy?_eq_some cut
  rw [beq_iff_eq.1 hc] at split
  rw [← String.toList_inj, split]
  simp only [String.toList_append, String.toList_ofList, String.toList_singleton,
    List.append_assoc, List.singleton_append]

/-! ## Beginnings and ends -/

/-- What follows a beginning is what is put behind it. -/
theorem after?_eq_some {start s rest : String} : after? start s = some rest ↔ s = start ++ rest := by
  unfold after?
  rw [← String.toList_inj, String.toList_append]
  constructor
  · intro h
    split at h
    · rename_i hp
      obtain ⟨tail, ht⟩ := List.isPrefixOf_iff_prefix.1 hp
      cases h
      rw [String.toList_ofList, ← ht, ← String.length_toList, List.drop_left]
    · cases h
  · intro h
    have hp : start.toList.isPrefixOf s.toList = true :=
      List.isPrefixOf_iff_prefix.2 ⟨rest.toList, h.symm⟩
    rw [if_pos hp, h, ← String.length_toList, List.drop_left, String.ofList_toList]

/-- A text ends with what stands behind all else. -/
theorem endsWith_iff {finish s : String} :
    endsWith finish s = true ↔ ∃ before, s = before ++ finish := by
  unfold endsWith
  rw [List.isSuffixOf_iff_suffix]
  constructor
  · rintro ⟨before, h⟩
    refine ⟨String.ofList before, ?_⟩
    rw [← String.toList_inj, String.toList_append, String.toList_ofList, h]
  · rintro ⟨before, rfl⟩
    rw [String.toList_append]
    exact List.suffix_append _ _

theorem startsWith_append {start s : String} (h : start.length ≤ s.length) (rest : String) :
    startsWith start (s ++ rest) = startsWith start s := by
  unfold startsWith
  rw [← String.length_toList, ← String.length_toList] at h
  rw [Bool.eq_iff_iff, List.isPrefixOf_iff_prefix, List.isPrefixOf_iff_prefix, String.toList_append]
  exact ⟨fun hp => List.prefix_of_prefix_length_le hp (List.prefix_append _ _) h,
    fun hp => hp.trans (List.prefix_append _ _)⟩

/-- What stands behind another character is not trimmed. -/
theorem trimStartOf_append {c d : Char} (ne : d ≠ c) (front rest : String) :
    trimStartOf c (front ++ String.singleton d ++ rest) =
      trimStartOf c front ++ String.singleton d ++ rest := by
  have stop : (d :: rest.toList).dropWhile (· == c) = d :: rest.toList :=
    List.dropWhile_cons_of_neg (by simpa using ne)
  unfold trimStartOf
  rw [← String.toList_inj]
  simp only [String.toList_append, String.toList_ofList, String.toList_singleton,
    List.append_assoc, List.singleton_append, List.dropWhile_append, stop]
  split
  · next empty => rw [List.isEmpty_iff.1 empty, List.nil_append]
  · rfl

theorem notMem_trimStartOf {c d : Char} {s : String} (h : d ∉ s.toList) :
    d ∉ (trimStartOf c s).toList := by
  unfold trimStartOf
  rw [String.toList_ofList]
  exact fun there => h ((List.dropWhile_suffix _).subset there)

theorem trimEndOf_trimEndOf (c : Char) (s : String) :
    trimEndOf c (trimEndOf c s) = trimEndOf c s := by
  unfold trimEndOf
  rw [String.toList_ofList, List.reverse_reverse, List.dropWhile_idempotent]

theorem trimEndOf_trimEndOf_append (c : Char) (s : String) :
    trimEndOf c (trimEndOf c s ++ String.singleton c) = trimEndOf c s := by
  unfold trimEndOf
  rw [String.toList_append, String.toList_ofList, String.toList_singleton, List.reverse_append,
    List.reverse_reverse, List.reverse_singleton, List.singleton_append,
    List.dropWhile_cons_of_pos (p := (· == c)) (beq_self_eq_true c), List.dropWhile_idempotent]

/-- What is trimmed does not end so. -/
theorem endsWith_trimEndOf (c : Char) (s : String) :
    endsWith (String.singleton c) (trimEndOf c s) = false := by
  rw [← Bool.not_eq_true, endsWith_iff]
  rintro ⟨before, split⟩
  have last := congrArg (fun s => s.toList.reverse.head?) split
  unfold trimEndOf at last
  simp only [String.toList_ofList, List.reverse_reverse, String.toList_append,
    String.toList_singleton, List.reverse_append, List.reverse_singleton, List.singleton_append,
    List.head?_cons] at last
  have stopped := List.head?_dropWhile_not (· == c) s.toList.reverse
  rw [last] at stopped
  simp at stopped

theorem trimEndOf_eq_self {c : Char} {s : String} (h : endsWith (String.singleton c) s = false) :
    trimEndOf c s = s := by
  unfold trimEndOf
  cases hl : s.toList.reverse with
  | nil =>
    rw [← String.toList_inj, List.reverse_eq_nil_iff.1 hl]
    rfl
  | cons d ds =>
    have other : ¬ (d == c) = true := by
      rw [beq_iff_eq]
      rintro rfl
      have ends : endsWith (String.singleton d) s = true := by
        refine endsWith_iff.2 ⟨String.ofList ds.reverse, ?_⟩
        rw [← String.toList_inj, ← List.reverse_inj, hl]
        simp
      rw [h] at ends
      cases ends
    rw [List.dropWhile_cons_of_neg (p := (· == c)) other, ← hl, List.reverse_reverse,
      String.ofList_toList]

/-! ## Blanks at the ends -/

/-- Neither the first character nor the last is one of those that are cut off. -/
structure SolidEnds (p : Char → Bool) (cs : List Char) : Prop where
  first : ∀ c ∈ cs.head?, p c = false
  last : ∀ c ∈ cs.getLast?, p c = false

instance (p : Char → Bool) (cs : List Char) : Decidable (SolidEnds p cs) :=
  decidable_of_iff (cs.head?.all (!p ·) = true ∧ cs.getLast?.all (!p ·) = true) <| by
    simp only [Option.all_eq_true, Bool.not_eq_true']
    exact ⟨fun ⟨first, last⟩ => ⟨first, last⟩, fun ⟨first, last⟩ => ⟨first, last⟩⟩

section Trim

variable {p : Char → Bool} {before middle after : List Char}

theorem SolidEnds.of_forall (none : ∀ c ∈ middle, p c = false) : SolidEnds p middle :=
  ⟨fun c hc => none c (List.mem_of_mem_head? hc), fun c hc => none c (List.mem_of_getLast? hc)⟩

theorem dropWhile_eq_self (first : ∀ c ∈ middle.head?, p c = false) :
    middle.dropWhile p = middle := by
  cases middle with
  | nil => rfl
  | cons c cs =>
    refine List.dropWhile_cons_of_neg ?_
    rw [first c rfl]
    exact Bool.false_ne_true

/-- What is put around a text is cut off again, if it is of the kind that is cut off, and no more. -/
theorem trimBy_append (hb : ∀ c ∈ before, p c = true) (ha : ∀ c ∈ after, p c = true)
    (hm : SolidEnds p middle) : trimBy p (before ++ middle ++ after) = middle := by
  unfold trimBy
  rw [List.append_assoc, List.dropWhile_append_of_pos hb]
  cases middle with
  | nil =>
    rw [List.nil_append, List.dropWhile_eq_nil_iff.2 ha]
    rfl
  | cons c cs =>
    have first : ¬ p c = true := by
      rw [hm.first c rfl]
      exact Bool.false_ne_true
    have last : ∀ d ∈ (c :: cs).reverse.head?, p d = false := by
      rw [List.head?_reverse]
      exact hm.last
    rw [List.cons_append, List.dropWhile_cons_of_neg first, ← List.cons_append, List.reverse_append,
      List.dropWhile_append_of_pos fun d hd => ha d (List.mem_reverse.1 hd),
      dropWhile_eq_self last, List.reverse_reverse]

theorem trimBy_eq_self (hm : SolidEnds p middle) : trimBy p middle = middle := by
  have none : ∀ c ∈ ([] : List Char), p c = true := fun c hc => absurd hc List.not_mem_nil
  have whole := trimBy_append none none hm
  rwa [List.nil_append, List.append_nil] at whole

/-- Trimming takes off what is to be dropped at the two ends, and nothing else. -/
theorem exists_around_trimBy (p : Char → Bool) (cs : List Char) :
    ∃ before after, (∀ c ∈ before, p c = true) ∧ (∀ c ∈ after, p c = true) ∧
      cs = before ++ trimBy p cs ++ after := by
  let rest := cs.dropWhile p
  refine ⟨cs.takeWhile p, (rest.reverse.takeWhile p).reverse, fun c => List.mem_takeWhile_imp,
    fun c hc => List.mem_takeWhile_imp (List.mem_reverse.1 hc), ?_⟩
  unfold trimBy
  rw [List.append_assoc, ← List.reverse_append, List.takeWhile_append_dropWhile,
    List.reverse_reverse, List.takeWhile_append_dropWhile]

/-- What is trimmed has solid ends. -/
theorem solidEnds_trimBy (p : Char → Bool) (cs : List Char) : SolidEnds p (trimBy p cs) := by
  have stops (l : List Char) {c : Char} (hc : c ∈ (l.dropWhile p).head?) : p c = false := by
    have stopped := List.head?_dropWhile_not p l
    rw [Option.mem_def.1 hc] at stopped
    exact stopped
  unfold trimBy
  constructor
  · intro c hc
    rw [List.head?_reverse] at hc
    obtain ⟨dropped, parts⟩ := List.dropWhile_suffix (l := (cs.dropWhile p).reverse) p
    have last : c ∈ (cs.dropWhile p).reverse.getLast? := by
      rw [← parts, List.getLast?_append, Option.mem_def.1 hc]
      rfl
    rw [List.getLast?_reverse] at last
    exact stops cs last
  · intro c hc
    rw [List.getLast?_reverse] at hc
    exact stops _ hc

/-- What is put around a text does not count, if it is of the kind that is cut off. -/
theorem trimBy_around (hb : ∀ c ∈ before, p c = true) (ha : ∀ c ∈ after, p c = true) :
    trimBy p (before ++ middle ++ after) = trimBy p middle := by
  obtain ⟨front, back, hf, hk, parts⟩ := exists_around_trimBy p middle
  have wide : before ++ middle ++ after = (before ++ front) ++ trimBy p middle ++ (back ++ after) := by
    conv_lhs => rw [parts]
    simp only [List.append_assoc]
  rw [wide]
  exact trimBy_append (List.forall_mem_append.2 ⟨hb, hf⟩) (List.forall_mem_append.2 ⟨hk, ha⟩)
    (solidEnds_trimBy p middle)

end Trim

/-- Blanks are no letters. -/
theorem toLower_of_isBlank {c : Char} (blank : isBlank c = true) : c.toLower = c := by
  unfold Char.toLower
  refine dif_neg ?_
  rintro ⟨low, high⟩
  have low : 65 ≤ c.toNat := UInt32.le_iff_toNat_le.1 low
  have high : c.toNat ≤ 90 := UInt32.le_iff_toNat_le.1 high
  simp only [isBlank, Bool.or_eq_true, Bool.and_eq_true, decide_eq_true_eq, beq_iff_eq] at blank
  omega

/-! ## The parts between separators -/

/-- A separator stands between parts. -/
theorem splitOn_append (sep : Char) (before after : String) :
    splitOn sep (before ++ String.singleton sep ++ after) =
      splitOn sep before ++ splitOn sep after := by
  unfold splitOn
  rw [String.toList_append, String.toList_append, String.toList_singleton, List.append_assoc,
    List.singleton_append, List.splitOn_append_cons_self, List.map_append]

theorem splitOn_ne_nil (sep : Char) (s : String) : splitOn sep s ≠ [] := by
  unfold splitOn
  rw [Ne, List.map_eq_nil_iff]
  exact List.splitOn_ne_nil _ _

theorem forall_mem_splitOnP {p : Char → Bool} {cs part : List Char} (h : part ∈ cs.splitOnP p) :
    ∀ c ∈ part, p c = false := by
  induction cs generalizing part with
  | nil =>
    rw [List.splitOnP_nil, List.mem_singleton] at h
    subst h
    exact fun c hc => absurd hc List.not_mem_nil
  | cons d cs ih =>
    rw [List.splitOnP_cons_eq_if_modifyHead] at h
    split at h
    · cases h with
      | head => exact fun c hc => absurd hc List.not_mem_nil
      | tail _ h => exact ih h
    · rename_i hd
      cases hs : cs.splitOnP p with
      | nil =>
        rw [hs] at h
        exact absurd h List.not_mem_nil
      | cons first others =>
        rw [hs, List.modifyHead_cons] at h
        rw [hs] at ih
        cases h with
        | head =>
          intro c hc
          cases hc with
          | head => exact eq_false_of_ne_true hd
          | tail _ hc => exact ih List.mem_cons_self c hc
        | tail _ h => exact ih (List.mem_cons_of_mem _ h)

/-- No part has the separator in it. -/
theorem sep_not_mem_of_mem_splitOn {sep : Char} {s part : String} (h : part ∈ splitOn sep s) :
    sep ∉ part.toList := by
  obtain ⟨cs, hcs, rfl⟩ := List.mem_map.1 h
  intro hm
  rw [String.toList_ofList] at hm
  exact absurd (forall_mem_splitOnP hcs sep hm) (by simp)

/-- Blanks around a text change its parts at their ends only. -/
theorem map_trimBy_splitOn_around {p : Char → Bool} {sep : Char} (solid : p sep = false)
    {before after : List Char} (hb : ∀ c ∈ before, p c = true) (ha : ∀ c ∈ after, p c = true)
    (cs : List Char) :
    ((before ++ cs ++ after).splitOn sep).map (trimBy p) = (cs.splitOn sep).map (trimBy p) := by
  have apart {blanks : List Char} (h : ∀ c ∈ blanks, p c = true) : sep ∉ blanks := by
    intro there
    rw [h sep there] at solid
    cases solid
  by_cases there : sep ∈ cs
  · obtain ⟨first, rest, rfl, plain⟩ := List.eq_append_cons_of_mem there
    have none : ∀ c ∈ ([] : List Char), p c = true := fun c hc => absurd hc List.not_mem_nil
    have front : sep ∉ before ++ first := by
      rw [List.mem_append]
      exact not_or.2 ⟨apart hb, plain⟩
    have trimmed : trimBy p (before ++ first ++ []) = trimBy p first := trimBy_around hb none
    rw [List.append_nil] at trimmed
    have split : before ++ (first ++ sep :: rest) ++ after =
        (before ++ first) ++ sep :: (rest ++ after) := by simp
    -- the blanks in front are in the first part, those behind it in the others
    have others := map_trimBy_splitOn_around solid none ha rest
    rw [List.nil_append] at others
    rw [split, List.splitOn_append_cons_self, List.splitOn_append_cons_self, List.map_append,
      List.map_append, others, List.splitOn_eq_singleton front, List.splitOn_eq_singleton plain,
      List.map_singleton, List.map_singleton, trimmed]
  · have alone : sep ∉ before ++ cs ++ after := by
      rw [List.mem_append, List.mem_append]
      exact not_or.2 ⟨not_or.2 ⟨apart hb, there⟩, apart ha⟩
    rw [List.splitOn_eq_singleton alone, List.splitOn_eq_singleton there, List.map_singleton,
      List.map_singleton, trimBy_around hb ha]
termination_by cs.length
decreasing_by subst_vars; simp only [List.length_append, List.length_cons]; omega

theorem map_trim_splitOn_trim {sep : Char} (solid : isBlank sep = false) (s : String) :
    (splitOn sep (trim s)).map trim = (splitOn sep s).map trim := by
  obtain ⟨before, after, hb, ha, parts⟩ := exists_around_trimBy isBlank s.toList
  have same := map_trimBy_splitOn_around solid hb ha (trimBy isBlank s.toList)
  rw [← parts] at same
  have pieces (t : String) : (splitOn sep t).map trim =
      ((t.toList.splitOn sep).map (trimBy isBlank)).map String.ofList := by
    unfold splitOn
    rw [List.map_map, List.map_map]
    refine List.map_congr_left fun part _ => ?_
    simp only [Function.comp_apply, trim, String.toList_ofList]
  rw [pieces, pieces, same, trim, String.toList_ofList]

/-! ## Parts put together -/

/-- What is in a join is the separator or in a part. -/
theorem mem_intercalate {α : Type} {sep c : α} {parts : List (List α)}
    (h : c ∈ List.intercalate [sep] parts) : c = sep ∨ ∃ part ∈ parts, c ∈ part := by
  induction parts with
  | nil => cases h
  | cons part parts ih =>
    cases parts with
    | nil =>
      rw [List.intercalate_singleton] at h
      exact Or.inr ⟨part, List.mem_cons_self, h⟩
    | cons next parts =>
      rw [List.intercalate_cons_cons, List.mem_append, List.mem_append, List.mem_singleton] at h
      rcases h with (h | h) | h
      · exact Or.inr ⟨part, List.mem_cons_self, h⟩
      · exact Or.inl h
      · obtain here | ⟨part', there, hc⟩ := ih h
        · exact Or.inl here
        · exact Or.inr ⟨part', List.mem_cons_of_mem _ there, hc⟩

theorem mem_intercalate_of_mem {α : Type} {sep c : α} {part : List α} {parts : List (List α)}
    (hp : part ∈ parts) (hc : c ∈ part) : c ∈ List.intercalate [sep] parts := by
  induction parts with
  | nil => cases hp
  | cons first parts ih =>
    cases parts with
    | nil =>
      rw [List.mem_singleton.1 hp] at hc
      rwa [List.intercalate_singleton]
    | cons next parts =>
      rw [List.intercalate_cons_cons, List.mem_append, List.mem_append]
      rcases List.mem_cons.1 hp with rfl | there
      · exact Or.inl (Or.inl hc)
      · exact Or.inr (ih there)

end Switchboard.Text
