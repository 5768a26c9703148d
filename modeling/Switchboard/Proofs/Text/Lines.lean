import Switchboard.Proofs.Text.Split

/-!
# Words and lines

The words of a text do not depend on the blanks around and between them, and a text without words is
one of blanks only. A line of a text ends at a line feed, or at a carriage return with a line feed,
so lines that were put together are read back.
-/

namespace Switchboard.Text

/-! ## Words -/

section Words

variable {cs before after : List Char}

theorem words_ofList (cs : List Char) :
    words (String.ofList cs) = ((cs.splitOnP isBlank).filter (· ≠ [])).map String.ofList := by
  unfold words
  rw [String.toList_ofList]

/-- A blank stands between words. -/
theorem words_blank {c : Char} (blank : isBlank c = true) (before after : List Char) :
    words (String.ofList (before ++ c :: after)) =
      words (String.ofList before) ++ words (String.ofList after) := by
  rw [words_ofList, words_ofList, words_ofList, List.splitOnP_append_cons _ _ blank,
    List.filter_append, List.map_append]

theorem words_eq_singleton (some : cs ≠ []) (solid : ∀ c ∈ cs, isBlank c = false) :
    words (String.ofList cs) = [String.ofList cs] := by
  rw [words_ofList, List.splitOnP_eq_singleton solid, List.filter_cons_of_pos (by simpa using some)]
  rfl

theorem words_of_blanks (blank : ∀ c ∈ cs, isBlank c = true) : words (String.ofList cs) = [] := by
  induction cs with
  | nil => rfl
  | cons c cs ih =>
    have split := words_blank (blank c List.mem_cons_self) [] cs
    rw [List.nil_append] at split
    rw [split, ih fun d hd => blank d (List.mem_cons_of_mem _ hd)]
    rfl

/-- Blanks in front of words do not count. -/
theorem words_append_of_blanks (blank : ∀ c ∈ before, isBlank c = true) (cs : List Char) :
    words (String.ofList (before ++ cs)) = words (String.ofList cs) := by
  induction before with
  | nil => rfl
  | cons c before ih =>
    have split := words_blank (blank c List.mem_cons_self) [] (before ++ cs)
    rw [List.nil_append] at split
    rw [List.cons_append, split, ih fun d hd => blank d (List.mem_cons_of_mem _ hd)]
    rfl

/-- Nor do blanks behind them. -/
theorem words_append_blanks (cs : List Char) (blank : ∀ c ∈ after, isBlank c = true) :
    words (String.ofList (cs ++ after)) = words (String.ofList cs) := by
  cases after with
  | nil => rw [List.append_nil]
  | cons c after =>
    rw [words_blank (blank c List.mem_cons_self),
      words_of_blanks fun d hd => blank d (List.mem_cons_of_mem _ hd), List.append_nil]

theorem words_trim (s : String) : words (trim s) = words s := by
  obtain ⟨before, after, hb, ha, parts⟩ := exists_around_trimBy isBlank s.toList
  rw [← String.ofList_toList (s := s), parts, words_append_blanks _ ha,
    words_append_of_blanks hb, ← parts, String.ofList_toList]
  rfl

theorem solid_of_mem_words {s w : String} (h : w ∈ words s) :
    w ≠ "" ∧ ∀ c ∈ w.toList, isBlank c = false := by
  unfold words at h
  obtain ⟨cs, hcs, rfl⟩ := List.mem_map.1 h
  obtain ⟨part, some⟩ := List.mem_filter.1 hcs
  rw [String.toList_ofList]
  refine ⟨fun empty => ?_, forall_mem_splitOnP part⟩
  rw [← String.toList_inj, String.toList_ofList] at empty
  simp [empty] at some

/-- Where something is not blank there is a word. -/
theorem exists_word {c : Char} (hc : c ∈ cs) (solid : isBlank c = false) :
    ∃ part ∈ cs.splitOnP isBlank, part ≠ [] := by
  induction cs with
  | nil => exact absurd hc List.not_mem_nil
  | cons d cs ih =>
    rw [List.splitOnP_cons_eq_if_modifyHead]
    split
    · rename_i blank
      have later : c ∈ cs := by
        refine (List.mem_cons.1 hc).resolve_left ?_
        rintro rfl
        rw [solid] at blank
        cases blank
      obtain ⟨part, hp, some⟩ := ih later
      exact ⟨part, List.mem_cons_of_mem _ hp, some⟩
    · obtain ⟨part, parts, hs⟩ := List.exists_cons_of_ne_nil (List.splitOnP_ne_nil isBlank cs)
      rw [hs, List.modifyHead_cons]
      exact ⟨d :: part, List.mem_cons_self, List.cons_ne_nil _ _⟩

/-- A text without words is one of blanks. -/
theorem trim_eq_empty_iff {s : String} : trim s = "" ↔ words s = [] := by
  constructor
  · intro h
    rw [← words_trim, h]
    rfl
  · intro none
    have blank : ∀ c ∈ s.toList, isBlank c = true := by
      intro c hc
      by_contra solid
      obtain ⟨part, hp, some⟩ := exists_word hc (by simpa using solid)
      have word : String.ofList part ∈ words s :=
        List.mem_map_of_mem (List.mem_filter.2 ⟨hp, by simpa using some⟩)
      rw [none] at word
      exact absurd word List.not_mem_nil
    unfold trim trimBy
    rw [List.dropWhile_eq_nil_iff.2 blank]
    rfl

/-- A text without blanks has none to be cut off. -/
theorem trim_eq_self {s : String} (solid : ∀ c ∈ s.toList, isBlank c = false) : trim s = s := by
  rw [trim, trimBy_eq_self (.of_forall solid), String.ofList_toList]

end Words

/-! ## Lines -/

section Lines

variable {line : String}

/-- What ends a line. -/
def IsLineEnd (ending : String) : Prop := ending = "\n" ∨ ending = "\r\n"

/-- What can be said in one line. -/
def IsLine (s : String) : Prop := ∀ c ∈ s.toList, c ≠ '\n' ∧ c ≠ '\r'

/-- A line feed ends the first line. -/
theorem lines_newline (h : '\n' ∉ line.toList) (rest : String) :
    lines (line ++ "\n" ++ rest) =
      String.ofList (if line.toList.getLast? = some '\r' then line.toList.dropLast
        else line.toList) :: lines rest := by
  have parts : (line ++ "\n" ++ rest).toList.splitOn '\n' =
      line.toList :: rest.toList.splitOn '\n' := by
    rw [String.toList_append, String.toList_append, List.append_assoc]
    exact List.splitOn_append_cons_self_of_not_mem h _
  obtain ⟨first, others, hs⟩ := List.exists_cons_of_ne_nil
    (List.splitOn_ne_nil '\n' rest.toList)
  have ended : (if (line.toList :: first :: others).getLast? = some [] then
      (line.toList :: first :: others).dropLast else line.toList :: first :: others) =
      line.toList :: (if (first :: others).getLast? = some [] then (first :: others).dropLast
        else first :: others) := by
    rw [List.getLast?_cons_cons, List.dropLast_cons_cons]
    split <;> rfl
  unfold lines
  dsimp only
  rw [parts, hs, ended, List.zipIdx_cons', List.map_cons, List.map_map]
  congr 1
  · simp
  · refine List.map_congr_left fun e _ => ?_
    simp

theorem lines_ending {ending : String} (he : IsLineEnd ending) (plain : IsLine line)
    (rest : String) : lines (line ++ ending ++ rest) = line :: lines rest := by
  have feed : '\n' ∉ line.toList := fun hm => (plain _ hm).1 rfl
  rcases he with rfl | rfl
  · have last : line.toList.getLast? ≠ some '\r' :=
      fun hl => (plain _ (List.mem_of_getLast? hl)).2 rfl
    rw [lines_newline feed, if_neg last, String.ofList_toList]
  · have feed' : '\n' ∉ (line ++ "\r").toList := by
      rw [String.toList_append, List.mem_append]
      exact not_or.2 ⟨feed, by decide⟩
    have split : line ++ "\r\n" ++ rest = (line ++ "\r") ++ "\n" ++ rest := by
      simp [← String.toList_inj]
    have last : (line ++ "\r").toList = line.toList ++ ['\r'] := String.toList_append
    rw [split, lines_newline feed', last, List.getLast?_concat, if_pos rfl, List.dropLast_concat,
      String.ofList_toList]

/-- The last line need not be ended. -/
theorem lines_last (some : line ≠ "") (plain : IsLine line) : lines line = [line] := by
  have feed : '\n' ∉ line.toList := fun hm => (plain _ hm).1 rfl
  have chars : line.toList ≠ [] := by simpa using some
  unfold lines
  rw [List.splitOn_eq_singleton feed]
  simp [chars]

theorem lines_empty : lines "" = [] := by decide

/-- Lines that are ended one by one are read back. -/
theorem lines_join {ending : String} (he : IsLineEnd ending) {ls : List String}
    (plain : ∀ l ∈ ls, IsLine l) : lines (String.join (ls.map (· ++ ending))) = ls := by
  induction ls with
  | nil => exact lines_empty
  | cons l ls ih =>
    rw [List.map_cons, String.join_cons, lines_ending he (plain l List.mem_cons_self),
      ih fun k hk => plain k (List.mem_cons_of_mem _ hk)]

/-- Lines with ends between them are read back, if none of them is empty. -/
theorem lines_intercalate {ending : String} (he : IsLineEnd ending) {ls : List String}
    (plain : ∀ l ∈ ls, IsLine l) (some : ∀ l ∈ ls, l ≠ "") :
    lines (ending.intercalate ls) = ls := by
  induction ls with
  | nil => exact lines_empty
  | cons l ls ih =>
    have first := plain l List.mem_cons_self
    cases ls with
    | nil => exact lines_last (some l List.mem_cons_self) first
    | cons k ls =>
      rw [String.intercalate_cons_cons, lines_ending he first,
        ih (fun k hk => plain k (List.mem_cons_of_mem _ hk))
          (fun k hk => some k (List.mem_cons_of_mem _ hk))]

end Lines

end Switchboard.Text
