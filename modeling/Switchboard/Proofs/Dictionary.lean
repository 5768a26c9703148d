import Switchboard.Dictionary
import Mathlib.Data.List.Induction
import Mathlib.Data.List.Nodup
import Mathlib.Data.String.Basic

/-!
# Laws of dictionaries

What each operation does to the value at a key, and that the entries stay in ascending order of
their keys. The first needs no order; with it no key has two entries, so a dictionary has as many
entries as keys.
-/

namespace Switchboard.Dictionary

variable {α : Type}

/-! ## The value at a key -/

@[simp] theorem get?_nil (key : String) : get? ([] : Dictionary α) key = none := rfl

theorem get?_cons (k key : String) (v : α) (d : Dictionary α) :
    get? ((k, v) :: d) key = if k = key then some v else get? d key := by
  unfold get?
  by_cases h : k = key <;> simp [h]

/-- What was put under a key is there. -/
@[simp] theorem get?_put_self (d : Dictionary α) (key : String) (v : α) :
    get? (put key v d) key = some v := by
  induction d with
  | nil => simp [put, get?_cons]
  | cons e d ih =>
    obtain ⟨k, w⟩ := e
    unfold put
    split
    · simp [get?_cons]
    · split
      · simp [get?_cons]
      · rename_i hk
        rw [get?_cons, ih]
        simp_all

theorem get?_put_of_ne {d : Dictionary α} {key other : String} (v : α) (h : other ≠ key) :
    get? (put key v d) other = get? d other := by
  induction d with
  | nil => simp [put, get?_cons, h.symm]
  | cons e d ih =>
    obtain ⟨k, w⟩ := e
    unfold put
    split
    · rw [get?_cons, if_neg h.symm]
    · split
      · rename_i hk
        obtain rfl : k = key := eq_of_beq hk
        rw [get?_cons, get?_cons, if_neg h.symm, if_neg h.symm]
      · rw [get?_cons, get?_cons, ih]

/-- A put decides on its own key and on no other. -/
theorem get?_put (d : Dictionary α) (key other : String) (v : α) :
    get? (put key v d) other = if other = key then some v else get? d other := by
  by_cases h : other = key
  · rw [h, get?_put_self, if_pos rfl]
  · rw [get?_put_of_ne v h, if_neg h]

/-- A change at a key is made of what is there, and of nothing else. -/
theorem get?_modify (d : Dictionary α) (key other : String) (f : Option α → α) :
    get? (modify d key f) other = if other = key then some (f (get? d key)) else get? d other :=
  get?_put d key other _

/-- An erased key has no value, and all others have theirs. -/
theorem get?_erase (d : Dictionary α) (key other : String) :
    get? (erase d key) other = if other = key then none else get? d other := by
  unfold get? erase
  rw [List.find?_filter]
  split
  · rename_i h
    subst h
    rw [List.find?_eq_none.2 (by simp), Option.map_none]
  · rename_i h
    congr 2
    funext e
    by_cases he : e.1 = other
    · simp [he, h]
    · simp [he]

theorem erase_put (d : Dictionary α) (key : String) (v : α) :
    erase (put key v d) key = erase d key := by
  unfold erase
  induction d with
  | nil => simp [put]
  | cons e d ih =>
    obtain ⟨k, w⟩ := e
    unfold put
    split
    · rw [List.filter_cons_of_neg (by simp)]
    · split
      · rename_i hk
        rw [List.filter_cons_of_neg (by simp), List.filter_cons_of_neg (by simpa using hk)]
      · rw [List.filter_cons, List.filter_cons, ih]

theorem erase_erase (d : Dictionary α) (key : String) : erase (erase d key) key = erase d key := by
  unfold erase
  rw [List.filter_filter]
  simp

theorem erase_of_get?_eq_none {d : Dictionary α} {key : String} (h : get? d key = none) :
    erase d key = d := by
  refine List.filter_eq_self.2 fun e he => ?_
  have hk := List.find?_eq_none.1 (Option.map_eq_none_iff.1 h) e he
  simpa using hk

theorem mem_of_get? {d : Dictionary α} {key : String} {v : α} (h : get? d key = some v) :
    (key, v) ∈ d := by
  obtain ⟨e, he, rfl⟩ := Option.map_eq_some_iff.1 h
  have hk : e.1 = key := by simpa using List.find?_some he
  subst hk
  exact List.mem_of_find?_eq_some he

/-- A key has a value just if it is one of the keys. -/
theorem isSome_get?_iff {d : Dictionary α} {key : String} :
    (get? d key).isSome ↔ key ∈ keys d := by
  unfold get? keys
  simp [List.mem_map]

/-! ## Order of the keys -/

/-- Entries stand in ascending order of their keys, one entry a key. -/
def Sorted (d : Dictionary α) : Prop := d.Pairwise fun a b => a.1 < b.1

theorem mem_put {d : Dictionary α} {key : String} {v : α} {e : String × α}
    (h : e ∈ put key v d) : e = (key, v) ∨ e ∈ d := by
  induction d with
  | nil => exact Or.inl (by simpa [put] using h)
  | cons f d ih =>
    obtain ⟨k, w⟩ := f
    unfold put at h
    split at h
    · exact List.mem_cons.1 h
    · split at h
      · exact (List.mem_cons.1 h).imp_right (List.mem_cons_of_mem _)
      · rcases List.mem_cons.1 h with rfl | h
        · exact Or.inr List.mem_cons_self
        · exact (ih h).imp_right (List.mem_cons_of_mem _)

theorem sorted_nil : Sorted ([] : Dictionary α) := List.Pairwise.nil

/-- A put keeps the keys in order. -/
theorem Sorted.put {d : Dictionary α} (h : Sorted d) (key : String) (v : α) :
    Sorted (put key v d) := by
  induction d with
  | nil => exact List.pairwise_singleton _ _
  | cons e d ih =>
    obtain ⟨k, w⟩ := e
    obtain ⟨hlt, hd⟩ := List.pairwise_cons.1 h
    unfold Dictionary.put
    split
    · rename_i hk
      refine List.pairwise_cons.2 ⟨fun a ha => ?_, h⟩
      rcases List.mem_cons.1 ha with rfl | ha
      · exact hk
      · exact lt_trans hk (hlt a ha)
    · rename_i hk
      split
      · rename_i he
        obtain rfl : k = key := eq_of_beq he
        exact List.pairwise_cons.2 ⟨hlt, hd⟩
      · rename_i he
        have hk' : k < key := lt_of_le_of_ne (not_lt.1 hk) (by simpa using he)
        refine List.pairwise_cons.2 ⟨fun a ha => ?_, ih hd⟩
        rcases mem_put ha with rfl | ha
        · exact hk'
        · exact hlt a ha

/-- So does an erasure. -/
theorem Sorted.erase {d : Dictionary α} (h : Sorted d) (key : String) : Sorted (erase d key) :=
  h.sublist List.filter_sublist

theorem mem_ofPairs {pairs : List (String × α)} {e : String × α} (h : e ∈ ofPairs pairs) :
    e ∈ pairs := by
  have key : ∀ d : Dictionary α, e ∈ pairs.foldl (fun d f => Dictionary.put f.1 f.2 d) d →
      e ∈ d ∨ e ∈ pairs := by
    clear h
    induction pairs with
    | nil => exact fun d h => Or.inl h
    | cons f pairs ih =>
      intro d h
      rcases ih _ h with h | h
      · rcases mem_put h with rfl | h
        · exact Or.inr List.mem_cons_self
        · exact Or.inl h
      · exact Or.inr (List.mem_cons_of_mem _ h)
  exact (key [] h).resolve_left List.not_mem_nil

/-- Of the pairs with one key the last is kept. -/
theorem get?_ofPairs (pairs : List (String × α)) (key : String) :
    get? (ofPairs pairs) key = pairs.reverse.lookup key := by
  induction pairs using List.reverseRecOn with
  | nil => rfl
  | append_singleton pairs e ih =>
    obtain ⟨k, v⟩ := e
    have last : ofPairs (pairs ++ [(k, v)]) = put k v (ofPairs pairs) := List.foldl_concat ..
    rw [last, get?_put, List.reverse_concat]
    by_cases h : key = k
    · subst h
      rw [if_pos rfl, List.lookup_cons_self]
    · rw [if_neg h, List.lookup_cons, beq_false_of_ne h, ih]

/-- A dictionary that is made of pairs is in order. -/
theorem sorted_ofPairs (pairs : List (String × α)) : Sorted (ofPairs pairs) := by
  have key : ∀ d : Dictionary α, Sorted d →
      Sorted (pairs.foldl (fun d e => Dictionary.put e.1 e.2 d) d) := by
    induction pairs with
    | nil => exact fun d h => h
    | cons e pairs ih => exact fun d h => ih _ (h.put e.1 e.2)
  exact key [] sorted_nil

/-- In a dictionary no key has two entries. -/
theorem Sorted.nodup_keys {d : Dictionary α} (h : Sorted d) : (keys d).Nodup :=
  List.pairwise_map.2 (h.imp fun hlt => ne_of_lt hlt)

/-- In order, every entry is found under its key. -/
theorem Sorted.get?_of_mem {d : Dictionary α} (h : Sorted d) {key : String} {v : α}
    (hm : (key, v) ∈ d) : get? d key = some v := by
  induction d with
  | nil => cases hm
  | cons e d ih =>
    obtain ⟨k, w⟩ := e
    obtain ⟨hlt, hd⟩ := List.pairwise_cons.1 h
    rw [get?_cons]
    rcases List.mem_cons.1 hm with he | hm
    · obtain ⟨rfl, rfl⟩ := Prod.mk.inj he
      exact if_pos rfl
    · rw [if_neg (ne_of_lt (hlt _ hm)), ih hd hm]

/-- Entries that are set one after the other go before those that are there. -/
theorem Sorted.get?_foldl_put {entries : Dictionary α} (h : Sorted entries) (d : Dictionary α)
    (key : String) :
    get? (entries.foldl (fun d e => Dictionary.put e.1 e.2 d) d) key =
      (get? entries key).or (get? d key) := by
  induction entries generalizing d with
  | nil => rfl
  | cons e rest ih =>
    obtain ⟨k, v⟩ := e
    obtain ⟨hlt, hrest⟩ := List.pairwise_cons.1 h
    rw [List.foldl_cons, ih hrest, get?_cons, get?_put]
    by_cases hk : k = key
    · subst hk
      have absent : get? rest k = none := by
        by_contra there
        obtain ⟨w, hw⟩ := Option.ne_none_iff_exists'.1 there
        exact lt_irrefl k (hlt _ (mem_of_get? hw))
      rw [absent, if_pos rfl, if_pos rfl]
      rfl
    · rw [if_neg hk, if_neg (Ne.symm hk)]

/-- The entry at a key can be put in front of the others. -/
theorem Sorted.perm_cons_erase {d : Dictionary α} (h : Sorted d) {key : String} {v : α}
    (hg : get? d key = some v) : d.Perm ((key, v) :: Dictionary.erase d key) := by
  induction d with
  | nil => cases hg
  | cons e d ih =>
    obtain ⟨k, w⟩ := e
    obtain ⟨hlt, hd⟩ := List.pairwise_cons.1 h
    rw [get?_cons] at hg
    split at hg
    · rename_i hk
      subst hk
      cases hg
      have rest : Dictionary.erase ((k, v) :: d) k = d := by
        unfold Dictionary.erase
        rw [List.filter_cons_of_neg (by simp), List.filter_eq_self]
        exact fun a ha => by simpa using (ne_of_lt (hlt a ha)).symm
      rw [rest]
    · rename_i hk
      have rest : Dictionary.erase ((k, w) :: d) key = (k, w) :: Dictionary.erase d key :=
        List.filter_cons_of_pos (by simpa using hk)
      rw [rest]
      exact ((ih hd hg).cons _).trans (.swap _ _ _)

/-- What is there already can be set again. -/
theorem Sorted.put_of_get? {d : Dictionary α} (h : Sorted d) {key : String} {v : α}
    (hg : get? d key = some v) : Dictionary.put key v d = d := by
  induction d with
  | nil => cases hg
  | cons e d ih =>
    obtain ⟨k, w⟩ := e
    obtain ⟨hlt, hd⟩ := List.pairwise_cons.1 h
    rw [get?_cons] at hg
    unfold Dictionary.put
    split at hg
    · rename_i hk
      subst hk
      cases hg
      simp
    · rename_i hk
      have behind : k < key := hlt _ (mem_of_get? hg)
      rw [if_neg (lt_asymm behind), if_neg (by simpa using hk), ih hd hg]

theorem Sorted.put_perm {d : Dictionary α} (h : Sorted d) (key : String) (v : α) :
    (Dictionary.put key v d).Perm ((key, v) :: Dictionary.erase d key) := by
  have front := (h.put key v).perm_cons_erase (get?_put_self d key v)
  rwa [erase_put] at front

/-- Pairs that have no key twice are all kept. -/
theorem ofPairs_perm {pairs : List (String × α)} (nodup : (pairs.map Prod.fst).Nodup) :
    (ofPairs pairs).Perm pairs := by
  induction pairs using List.reverseRecOn with
  | nil => exact .refl _
  | append_singleton pairs e ih =>
    obtain ⟨k, v⟩ := e
    rw [List.map_append, List.map_singleton] at nodup
    obtain ⟨distinct, -, apart⟩ := List.nodup_append.1 nodup
    have free : get? (ofPairs pairs) k = none := by
      rw [get?_ofPairs, List.lookup_eq_none_iff]
      intro e he
      have there : e.1 ∈ pairs.map Prod.fst := List.mem_map_of_mem (List.mem_reverse.1 he)
      exact bne_iff_ne.2 (apart e.1 there k (List.mem_singleton_self _)).symm
    have last : ofPairs (pairs ++ [(k, v)]) = put k v (ofPairs pairs) := List.foldl_concat ..
    have put := (sorted_ofPairs pairs).put_perm k v
    rw [erase_of_get?_eq_none free, ← last] at put
    exact put.trans (((ih distinct).cons _).trans (List.perm_append_singleton _ _).symm)

end Switchboard.Dictionary
