import Switchboard.Http.Language
import Switchboard.Proofs.Text.Split

/-!
# Languages by their weights

The languages of a header are those that its entries name, each as often as it is named
(`Language.perm_byWeight`), and entries of larger weight come first (`Language.sorts_byWeight`). A
weight may be no number, and then it is neither more nor less than any other: nothing passes an entry
of this weight, and what stands on its two sides is sorted by itself. That is so where entries are
inserted one by one; a sort of many entries may give up over such weights, and so the result is stated
for headers that can be sorted (`Language.Sortable`).
-/

namespace Switchboard.Language

open Number

/-! ## What an entry says -/

/-- The language of an entry: what stands in front of its first semicolon, without the blanks around
it. -/
def languageOf (entry : String) : String := Text.trim ((Text.splitOn ';' entry).headD "")

/-- The number behind `q=` in a parameter. -/
def weight? (parameter : String) : Option Double :=
  (Text.after? "q=" (Text.trim parameter)).bind read?

/-- The weight of an entry: the first number that its parameters give, or one. -/
def weightOf (entry : String) : Double :=
  ((Text.splitOn ';' entry).tail.findSome? weight?).getD (.ofInt 1)

/-- The entries of a header that name a language. -/
def entries (header : String) : List Weighted :=
  ((Text.splitOn ',' header).filter (languageOf · ≠ "")).map fun e => ⟨weightOf e, languageOf e⟩

/-- Blanks around an entry do not count. -/
theorem ofEntry?_eq (entry : String) :
    ofEntry? entry =
      if languageOf entry = "" then none else some ⟨weightOf entry, languageOf entry⟩ := by
  have solid : Text.isBlank ';' = false := by decide
  have same := Text.map_trim_splitOn_trim solid entry
  have ofTrim (parameters : List String) :
      parameters.findSome? weight? =
        (parameters.map Text.trim).findSome? fun p => (Text.after? "q=" p).bind read? := by
    rw [List.findSome?_map, Function.comp_def]
    unfold weight?
    rfl
  obtain ⟨l, ps, parts⟩ := List.exists_cons_of_ne_nil (Text.splitOn_ne_nil ';' entry)
  obtain ⟨l', ps', parts'⟩ := List.exists_cons_of_ne_nil (Text.splitOn_ne_nil ';' (Text.trim entry))
  rw [parts, parts', List.map_cons, List.map_cons, List.cons.injEq] at same
  unfold languageOf weightOf ofEntry?
  rw [parts, parts', List.headD_cons, List.tail_cons, ← same.1, ofTrim, ← same.2, ← ofTrim]
  rfl

theorem filterMap_ofEntry? (header : String) :
    (Text.splitOn ',' header).filterMap ofEntry? = entries header := by
  unfold entries
  induction Text.splitOn ',' header with
  | nil => rfl
  | cons e es ih =>
    by_cases none : languageOf e = ""
    · rw [List.filterMap_cons_none (by rw [ofEntry?_eq, if_pos none]), ih,
        List.filter_cons_of_neg (by simpa using none)]
    · rw [List.filterMap_cons_some (by rw [ofEntry?_eq, if_neg none]), ih,
        List.filter_cons_of_pos (by simpa using none), List.map_cons]

/-! ## Sorting -/

/-- Entries sorted as the languages of a header are. -/
def byWeight (l : List Weighted) : List Weighted :=
  (l.foldl (fun sorted x => insert x sorted) []).reverse

theorem parse_eq (header : String) :
    parse header = (byWeight (entries header)).map (·.language) := by
  rw [← filterMap_ofEntry?]
  rfl

theorem byWeight_concat (l : List Weighted) (x : Weighted) :
    byWeight (l ++ [x]) = (insert x (byWeight l).reverse).reverse := by
  unfold byWeight
  rw [List.foldl_concat, List.reverse_reverse]

theorem perm_insert (x : Weighted) (l : List Weighted) : (insert x l).Perm (x :: l) := by
  induction l with
  | nil => exact .refl _
  | cons y l ih =>
    rw [insert]
    split
    · exact (ih.cons y).trans (.swap x y l)
    · exact .refl _

/-- Each entry is there once. -/
theorem perm_byWeight (l : List Weighted) : (byWeight l).Perm l := by
  induction l using List.reverseRecOn with
  | nil => exact .refl _
  | append_singleton l x ih =>
    rw [byWeight_concat]
    have inserted := perm_insert x (byWeight l).reverse
    have front := inserted.trans (((List.reverse_perm _).trans ih).cons x)
    exact ((List.reverse_perm _).trans front).trans (List.perm_append_singleton x l).symm

/-! ## Weights that are numbers -/

theorem exists_rank {f : Format} {x : Binary f} (number : x ≠ .nan) : ∃ n, x.rank? = some n := by
  cases x with
  | nan => exact absurd rfl number
  | value s code => exact ⟨_, rfl⟩

theorem lt_eq_false_iff {f : Format} {x y : Binary f} {m n : Int} (hx : x.rank? = some m)
    (hy : y.rank? = some n) : x.lt y = false ↔ n ≤ m := by
  unfold Binary.lt
  rw [hx, hy]
  simp

/-- `sorted` has the entries of `l`, none of them in front of one of larger weight, and those of one
weight stand as they do in `l`. -/
structure Ordered (l sorted : List Weighted) : Prop where
  perm : sorted.Perm l
  descending : sorted.Pairwise fun a b => a.weight.lt b.weight = false
  ties : ∀ n, sorted.filter (fun x => x.weight.rank? = some n) =
    l.filter fun x => x.weight.rank? = some n

/-- Every weight is a number. -/
def Numeric (l : List Weighted) : Prop := ∀ x ∈ l, x.weight ≠ .nan

instance (l : List Weighted) : Decidable (Numeric l) :=
  inferInstanceAs (Decidable (∀ x ∈ l, x.weight ≠ .nan))

/-- Of the entries of one weight the new one comes last, which is in front here. -/
theorem filter_insert (x : Weighted) (l : List Weighted) (n : Int) :
    (insert x l).filter (fun y => y.weight.rank? = some n) =
      (x :: l).filter fun y => y.weight.rank? = some n := by
  induction l with
  | nil => rfl
  | cons y l ih =>
    rw [insert]
    split
    · next less =>
      rw [List.filter_cons, ih]
      by_cases hy : y.weight.rank? = some n
      · -- the entry that is passed is of another weight
        have other : x.weight.rank? ≠ some n := by
          intro hx
          have stays := (lt_eq_false_iff hy hx).2 le_rfl
          rw [less] at stays
          cases stays
        rw [List.filter_cons_of_neg (by simpa using other), if_pos (by simpa using hy),
          List.filter_cons_of_neg (by simpa using other), List.filter_cons_of_pos (by simpa using hy)]
      · rw [if_neg (by simpa using hy), List.filter_cons, List.filter_cons,
          List.filter_cons_of_neg (by simpa using hy)]
    · rfl

/-- A list that ends with its largest weight still does so. -/
theorem pairwise_insert {x : Weighted} {l : List Weighted} (number : x.weight ≠ .nan)
    (numbers : Numeric l) (ascending : l.Pairwise fun a b => b.weight.lt a.weight = false) :
    (insert x l).Pairwise fun a b => b.weight.lt a.weight = false := by
  induction l with
  | nil => exact List.pairwise_singleton _ _
  | cons y l ih =>
    obtain ⟨low, rest⟩ := List.pairwise_cons.1 ascending
    have others : Numeric l := fun z hz => numbers z (List.mem_cons_of_mem _ hz)
    obtain ⟨m, hm⟩ := exists_rank number
    obtain ⟨n, hn⟩ := exists_rank (numbers y List.mem_cons_self)
    rw [insert]
    split
    · next less =>
      refine List.pairwise_cons.2 ⟨fun z hz => ?_, ih others rest⟩
      rcases List.mem_cons.1 ((perm_insert x l).mem_iff.1 hz) with rfl | hz
      · rw [lt_eq_false_iff hm hn]
        have more : ¬ m ≤ n := by
          rw [← lt_eq_false_iff hn hm, less]
          decide
        omega
      · exact low z hz
    · next least =>
      rw [Bool.not_eq_true, lt_eq_false_iff hn hm] at least
      refine List.pairwise_cons.2 ⟨fun z hz => ?_, ascending⟩
      rcases List.mem_cons.1 hz with rfl | hz
      · rwa [lt_eq_false_iff hn hm]
      · obtain ⟨k, hk⟩ := exists_rank (others z hz)
        have above := low z hz
        rw [lt_eq_false_iff hk hn] at above
        rw [lt_eq_false_iff hk hm]
        omega

theorem Ordered.concat {l s : List Weighted} (h : Ordered l s) {x : Weighted}
    (number : x.weight ≠ .nan) (numbers : Numeric l) :
    Ordered (l ++ [x]) (insert x s.reverse).reverse := by
  have seen : Numeric s.reverse := fun y hy =>
    numbers y (h.perm.mem_iff.1 (List.mem_reverse.1 hy))
  have inserted := (perm_insert x s.reverse).trans (((List.reverse_perm s).trans h.perm).cons x)
  refine ⟨?_, ?_, fun n => ?_⟩
  · exact ((List.reverse_perm _).trans inserted).trans (List.perm_append_singleton x l).symm
  · rw [List.pairwise_reverse]
    exact pairwise_insert number seen (List.pairwise_reverse.2 h.descending)
  · rw [List.filter_reverse, filter_insert, ← List.reverse_concat, List.filter_reverse,
      List.reverse_reverse, List.filter_append, List.filter_append, h.ties]

/-- Entries whose weights are numbers are in the order of their weights. -/
theorem ordered_byWeight {l : List Weighted} (numbers : Numeric l) : Ordered l (byWeight l) := by
  induction l using List.reverseRecOn with
  | nil => exact ⟨.refl _, .nil, fun _ => rfl⟩
  | append_singleton l x ih =>
    have before : Numeric l := fun y hy => numbers y (List.mem_append_left _ hy)
    rw [byWeight_concat]
    exact (ih before).concat (numbers x (by simp)) before

/-! ## Weights that are no numbers -/

section Nan

variable {x : Weighted} (none : x.weight = .nan)
include none

theorem insert_of_nan (l : List Weighted) : insert x l = x :: l := by
  cases l with
  | nil => rfl
  | cons y l =>
    have stays : y.weight.lt x.weight = false := by
      rw [none]
      cases y.weight <;> rfl
    rw [insert, stays]
    rfl

/-- Nothing passes an entry whose weight is no number. -/
theorem insert_append (y : Weighted) (before after : List Weighted) :
    insert y (before ++ x :: after) = insert y before ++ x :: after := by
  induction before with
  | nil =>
    have stays : x.weight.lt y.weight = false := by
      rw [none]
      rfl
    change (if x.weight.lt y.weight then x :: insert y after else y :: x :: after) = _
    rw [stays]
    rfl
  | cons z before ih =>
    rw [List.cons_append, insert, insert]
    split
    · rw [ih, List.cons_append]
    · rfl

theorem byWeight_append (before after : List Weighted) :
    byWeight (before ++ x :: after) = byWeight before ++ x :: byWeight after := by
  induction after using List.reverseRecOn with
  | nil =>
    rw [byWeight_concat, insert_of_nan none, List.reverse_cons, List.reverse_reverse]
    rfl
  | append_singleton after y ih =>
    rw [← List.cons_append, ← List.append_assoc, byWeight_concat, ih, byWeight_concat,
      List.reverse_append, List.reverse_cons, List.append_assoc, List.singleton_append,
      insert_append none, List.reverse_append, List.reverse_cons, List.reverse_reverse,
      List.append_assoc, List.singleton_append]

end Nan

/-- `sorted` is `l` with each stretch between two weights that are no numbers sorted by itself. -/
inductive Sorts : List Weighted → List Weighted → Prop
  | stretch {l sorted : List Weighted} (numbers : Numeric l) (ordered : Ordered l sorted) :
      Sorts l sorted
  | divided {x : Weighted} {before after s t : List Weighted} (none : x.weight = .nan)
      (left : Sorts before s) (right : Sorts after t) : Sorts (before ++ x :: after) (s ++ x :: t)

theorem sorts_byWeight (l : List Weighted) : Sorts l (byWeight l) := by
  by_cases numbers : Numeric l
  · exact .stretch numbers (ordered_byWeight numbers)
  · obtain ⟨x, hx, none⟩ : ∃ x ∈ l, x.weight = .nan := by
      simpa [Numeric] using numbers
    obtain ⟨before, after, rfl⟩ := List.append_of_mem hx
    rw [byWeight_append none]
    exact .divided none (sorts_byWeight before) (sorts_byWeight after)
termination_by l.length
decreasing_by all_goals subst_vars; simp only [List.length_append, List.length_cons]; omega

/-- Every sort gives some entries their order: the weights are numbers, which compare as a sort asks
for, or there are no more than are inserted one by one. -/
def Sortable (l : List Weighted) : Prop := Numeric l ∨ l.length ≤ 20

/-- **Languages come by their weights.** The languages of a header that can be sorted are those that
its entries name, each as often as it is named. If every weight is a number, those of larger weight
come first, and those of one weight stand as they do in the header. With other weights among them up
to twenty entries are sorted stretch by stretch. -/
theorem parse_by_weight (header : String) (sortable : Sortable (entries header)) :
    ∃ sorted, parse header = sorted.map (·.language) ∧ sorted.Perm (entries header) ∧
      (Numeric (entries header) → Ordered (entries header) sorted) ∧
      Sorts (entries header) sorted := by
  refine ⟨byWeight (entries header), parse_eq header, perm_byWeight _, ordered_byWeight, ?_⟩
  rcases sortable with numbers | few
  · exact .stretch numbers (ordered_byWeight numbers)
  · exact sorts_byWeight _

/-- An entry without a number behind `q=` has the weight one, and `0.50` is as much as `0.5`. -/
theorem parse_by_weight_ties :
    let header := "en;q=0.5, ko, fr;level=1;q=0.50, de;q=much"
    Numeric (entries header) ∧ Sortable (entries header) ∧
      ∃ sorted, sorted.map (·.language) = ["ko", "de", "en", "fr"] ∧
        Ordered (entries header) sorted := by
  intro header
  have numbers : Numeric (entries header) := by decide +kernel
  have read : parse header = ["ko", "de", "en", "fr"] := by decide +kernel
  obtain ⟨sorted, languages, -, ordered, -⟩ := parse_by_weight header (.inl numbers)
  exact ⟨numbers, .inl numbers, sorted, languages.symm.trans read, ordered numbers⟩

/-- Not every header gives its languages by their weights: one whose weight is no number keeps those
behind it from those in front. -/
theorem not_forall_ordered :
    ¬ ∀ header, ∃ sorted, parse header = sorted.map (·.language) ∧
      Ordered (entries header) sorted := by
  intro always
  let header := "a;q=0.5, b;q=nan, c;q=0.9"
  obtain ⟨sorted, languages, ordered⟩ := always header
  have read : parse header = ["a", "b", "c"] := by decide +kernel
  obtain ⟨x, rest, rfl, hx, hrest⟩ := List.map_eq_cons_iff.1 (languages.symm.trans read)
  obtain ⟨z, hz, named⟩ : ∃ z ∈ rest, z.language = "c" := by
    refine List.mem_map.1 ?_
    rw [hrest]
    simp
  have weights : ∀ x ∈ entries header, ∀ z ∈ entries header, x.language = "a" → z.language = "c" →
      x.weight.lt z.weight = true := by decide +kernel
  have less := weights x (ordered.perm.mem_iff.1 List.mem_cons_self) z
    (ordered.perm.mem_iff.1 (List.mem_cons_of_mem _ hz)) hx named
  rw [(List.pairwise_cons.1 ordered.descending).1 z hz] at less
  cases less

end Switchboard.Language
