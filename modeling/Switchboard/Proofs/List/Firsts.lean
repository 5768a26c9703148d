import Mathlib.Data.List.Nodup

/-!
# The first of each key

`firsts key` keeps of a list the first element of each key. Adding elements one by one, each unless
one of its key is there, comes to the same (`foldl_addNew`), and so a table that is filled in this way
holds the firsts of all that it was offered.
-/

namespace Switchboard

variable {α κ : Type} [BEq κ]

/-- The first element of each key, in order. -/
def firsts (key : α → κ) : List α → List α
  | [] => []
  | a :: rest => a :: (firsts key rest).filter fun b => key b != key a

/-- Adds an element at the end, unless one of its key is there. -/
def addNew (key : α → κ) (l : List α) (a : α) : List α :=
  if (l.map key).contains (key a) then l else l ++ [a]

variable {key : α → κ}

theorem firsts_sublist (l : List α) : (firsts key l).Sublist l := by
  induction l with
  | nil => exact .refl _
  | cons a rest ih => exact (List.filter_sublist.trans ih).cons_cons a

variable [LawfulBEq κ]

/-- No key is there twice. -/
theorem nodup_map_firsts (l : List α) : ((firsts key l).map key).Nodup := by
  induction l with
  | nil => exact List.nodup_nil
  | cons a rest ih =>
    rw [firsts, List.map_cons, List.nodup_cons]
    constructor
    · intro h
      obtain ⟨b, hb, he⟩ := List.mem_map.1 h
      exact bne_iff_ne.1 (List.mem_filter.1 hb).2 he
    · exact ih.sublist (List.filter_sublist.map key)

/-- Every key that is there has a first element. -/
theorem mem_map_firsts {k : κ} {l : List α} : k ∈ (firsts key l).map key ↔ k ∈ l.map key := by
  induction l with
  | nil => rfl
  | cons a rest ih =>
    rw [firsts, List.map_cons, List.map_cons, List.mem_cons, List.mem_cons, ← ih]
    refine or_congr_right' fun other => ?_
    simp only [List.mem_map, List.mem_filter, bne_iff_ne]
    constructor
    · rintro ⟨b, ⟨hb, -⟩, rfl⟩
      exact ⟨b, hb, rfl⟩
    · rintro ⟨b, hb, rfl⟩
      exact ⟨b, ⟨hb, other⟩, rfl⟩

/-- The firsts of some keys are the keys themselves, each once. -/
theorem nodup_firsts_id (l : List κ) : (firsts id l).Nodup := by
  have once : ((firsts id l).map id).Nodup := nodup_map_firsts l
  rwa [List.map_id] at once

theorem mem_firsts_id {k : κ} {l : List κ} : k ∈ firsts id l ↔ k ∈ l := by
  have there : k ∈ (firsts id l).map id ↔ k ∈ l.map id := mem_map_firsts
  rwa [List.map_id, List.map_id] at there

theorem firsts_of_nodup {l : List α} (h : (l.map key).Nodup) : firsts key l = l := by
  induction l with
  | nil => rfl
  | cons a rest ih =>
    rw [List.map_cons, List.nodup_cons] at h
    rw [firsts, ih h.2]
    congr 1
    refine List.filter_eq_self.2 fun b hb => ?_
    exact bne_iff_ne.2 fun he => h.1 (he ▸ List.mem_map_of_mem hb)

theorem foldl_addNew (l rest : List α) :
    rest.foldl (addNew key) l =
      l ++ (firsts key rest).filter fun b => !(l.map key).contains (key b) := by
  induction rest generalizing l with
  | nil => exact (List.append_nil l).symm
  | cons a rest ih =>
    rw [List.foldl_cons, ih, firsts]
    unfold addNew
    by_cases ha : key a ∈ l.map key
    · have hc : (l.map key).contains (key a) = true := List.contains_iff_mem.2 ha
      rw [if_pos hc, List.filter_cons_of_neg (by rw [hc]; decide), List.filter_filter]
      congr 1
      refine List.filter_congr fun b _ => ?_
      by_cases hb : key b = key a
      · rw [hb, hc]
        rfl
      · rw [bne_iff_ne.2 hb, Bool.and_true]
    · have hc : (l.map key).contains (key a) = false := by
        rw [← Bool.not_eq_true, List.contains_iff_mem]
        exact ha
      rw [hc, if_neg Bool.false_ne_true, List.filter_cons_of_pos (by rw [hc]; decide),
        List.append_assoc, List.singleton_append, List.filter_filter]
      congr 2
      refine List.filter_congr fun b _ => ?_
      rw [List.map_append, List.map_singleton, List.contains_append, Bool.not_or]
      congr 1
      simp [bne]

/-- **What is added one by one are the firsts.** -/
theorem foldl_addNew_nil (l : List α) : l.foldl (addNew key) [] = firsts key l := by
  rw [foldl_addNew, List.nil_append]
  exact List.filter_eq_self.2 fun b _ => by simp

/-- What comes behind adds the keys that are new. -/
theorem firsts_append (l rest : List α) :
    firsts key (l ++ rest) = rest.foldl (addNew key) (firsts key l) := by
  rw [← foldl_addNew_nil, ← foldl_addNew_nil, List.foldl_append]

theorem firsts_concat (l : List α) (a : α) :
    firsts key (l ++ [a]) = addNew key (firsts key l) a := firsts_append l [a]

end Switchboard
