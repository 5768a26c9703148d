import Mathlib.Data.List.Perm.Basic
import Mathlib.Order.Lattice

/-!
# Stable sorting

A list sorted by a key in which elements of one key keep their order. There is just one such list
(`StablySorted.unique`), and a merge sort gives it (`stablySorted_mergeSort`).
-/

namespace Switchboard

variable {α κ : Type} [LinearOrder κ]

/-- `sorted` is `l` in ascending order of a key, and elements of one key stand as they do in `l`. -/
structure StablySorted (key : α → κ) (l sorted : List α) : Prop where
  ascending : sorted.Pairwise fun a b => key a ≤ key b
  ties : ∀ k, sorted.filter (fun a => key a = k) = l.filter fun a => key a = k

variable {key : α → κ} {l s t : List α}

/-- Sorted lists are equal if they have the same elements of each key in the same order. -/
theorem eq_of_ascending_of_ties (hs : s.Pairwise fun a b => key a ≤ key b)
    (ht : t.Pairwise fun a b => key a ≤ key b)
    (same : ∀ k, s.filter (fun a => key a = k) = t.filter fun a => key a = k) : s = t := by
  induction s generalizing t with
  | nil =>
    cases t with
    | nil => rfl
    | cons b t =>
      have h := same (key b)
      rw [List.filter_nil, List.filter_cons_of_pos (by simp)] at h
      cases h
  | cons a s ih =>
    cases t with
    | nil =>
      have h := same (key a)
      rw [List.filter_nil, List.filter_cons_of_pos (by simp)] at h
      cases h
    | cons b t =>
      obtain ⟨lowS, restS⟩ := List.pairwise_cons.1 hs
      obtain ⟨lowT, restT⟩ := List.pairwise_cons.1 ht
      -- each head stands in the other list, too, so neither has the smaller key
      have inT : a ∈ b :: t := by
        have ha : a ∈ (a :: s).filter fun c => key c = key a := by simp
        rw [same] at ha
        exact (List.mem_filter.1 ha).1
      have inS : b ∈ a :: s := by
        have hb : b ∈ (b :: t).filter fun c => key c = key b := by simp
        rw [← same] at hb
        exact (List.mem_filter.1 hb).1
      have le : key b ≤ key a := by
        rcases List.mem_cons.1 inT with rfl | h
        · exact le_refl _
        · exact lowT a h
      have ge : key a ≤ key b := by
        rcases List.mem_cons.1 inS with rfl | h
        · exact le_refl _
        · exact lowS b h
      have equal : key b = key a := le_antisymm le ge
      have heads := same (key a)
      rw [List.filter_cons_of_pos (by simp), List.filter_cons_of_pos (by simpa using equal)] at heads
      obtain rfl := (List.cons.inj heads).1
      congr 1
      refine ih restS restT fun k => ?_
      by_cases hk : key a = k
      · rw [← hk]
        exact (List.cons.inj heads).2
      · have rest := same k
        rwa [List.filter_cons_of_neg (by simpa using hk),
          List.filter_cons_of_neg (by simpa using hk)] at rest

namespace StablySorted

/-- A list has one stable sort. -/
theorem unique (hs : StablySorted key l s) (ht : StablySorted key l t) : s = t :=
  eq_of_ascending_of_ties hs.ascending ht.ascending fun k => (hs.ties k).trans (ht.ties k).symm

theorem perm (h : StablySorted key l s) : s.Perm l := by
  classical
  refine List.perm_iff_count.2 fun a => ?_
  have tied : ∀ m : List α, (m.filter fun b => key b = key a).count a = m.count a :=
    fun m => List.count_filter (by simp)
  rw [← tied s, h.ties, tied l]

end StablySorted

/-- **A merge sort by a key is a stable sort.** -/
theorem stablySorted_mergeSort (key : α → κ) (l : List α) :
    StablySorted key l (l.mergeSort fun a b => key a ≤ key b) := by
  have trans : ∀ a b c : α, decide (key a ≤ key b) = true → decide (key b ≤ key c) = true →
      decide (key a ≤ key c) = true := by
    simp only [decide_eq_true_eq]
    exact fun a b c => le_trans
  have total : ∀ a b : α, (decide (key a ≤ key b) || decide (key b ≤ key a)) = true := by
    simp only [Bool.or_eq_true, decide_eq_true_eq]
    exact fun a b => le_total _ _
  constructor
  · have sorted := List.pairwise_mergeSort trans total l
    exact sorted.imp fun h => of_decide_eq_true h
  · intro k
    have perm := List.mergeSort_perm l fun a b => decide (key a ≤ key b)
    have tied : (l.filter fun a => key a = k).Pairwise fun a b => decide (key a ≤ key b) = true := by
      refine List.pairwise_of_forall_mem_list fun a ha b hb => ?_
      have hak : key a = k := by simpa using (List.mem_filter.1 ha).2
      have hbk : key b = k := by simpa using (List.mem_filter.1 hb).2
      rw [hak, hbk]
      exact decide_eq_true (le_refl k)
    have kept := (List.sublist_mergeSort trans total tied List.filter_sublist).filter
      fun a => decide (key a = k)
    rw [List.filter_filter] at kept
    simp only [Bool.and_self] at kept
    exact (kept.eq_of_length (perm.filter _).length_eq.symm).symm

/-- What is picked out of a sorted list is sorted as it would be by itself. -/
theorem filter_mergeSort (key : α → κ) (p : α → Bool) (l : List α) :
    (l.mergeSort fun a b => key a ≤ key b).filter p =
      (l.filter p).mergeSort fun a b => key a ≤ key b := by
  have sorted := stablySorted_mergeSort key l
  refine StablySorted.unique ⟨sorted.ascending.filter _, fun k => ?_⟩ (stablySorted_mergeSort key _)
  have swap (m : List α) : (m.filter p).filter (fun a => key a = k) =
      (m.filter fun a => key a = k).filter p := by
    rw [List.filter_filter, List.filter_filter]
    simp only [Bool.and_comm]
  rw [swap, sorted.ties, swap]

end Switchboard
