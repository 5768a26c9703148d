import Mathlib.Data.List.Nodup

/-!
# Entries under keys

Looking up a key in a list of entries: behind a filter on keys, and in lists that have no key twice,
where it finds any entry that is there and the order says nothing.
-/

namespace Switchboard

variable {κ α : Type} [BEq κ] [LawfulBEq κ]

/-- A filter on keys keeps what it keeps of a table. -/
theorem lookup_filter_key (keep : κ → Bool) (key : κ) (l : List (κ × α)) :
    (l.filter fun e => keep e.1).lookup key = if keep key then l.lookup key else none := by
  induction l with
  | nil => simp
  | cons e l ih =>
    obtain ⟨k, v⟩ := e
    by_cases hk : key = k
    · subst hk
      cases hp : keep key with
      | true => simp [hp]
      | false => simp [hp, ih]
    · have differs : (key == k) = false := beq_false_of_ne hk
      cases hp : keep k with
      | true => simp [hp, ih, List.lookup_cons, differs]
      | false => simp [hp, ih, List.lookup_cons, differs]

theorem mem_of_lookup {l : List (κ × α)} {key : κ} {v : α} (h : l.lookup key = some v) :
    (key, v) ∈ l := by
  obtain ⟨before, after, rfl, -⟩ := List.lookup_eq_some_iff.1 h
  exact List.mem_append_right _ List.mem_cons_self

/-- Where no key is there twice, every entry is found. -/
theorem lookup_eq_some_iff_mem {l : List (κ × α)} (nodup : (l.map Prod.fst).Nodup) {key : κ}
    {v : α} : l.lookup key = some v ↔ (key, v) ∈ l := by
  refine ⟨mem_of_lookup, fun hm => ?_⟩
  obtain ⟨before, after, rfl⟩ := List.append_of_mem hm
  rw [List.map_append, List.nodup_append] at nodup
  refine List.lookup_eq_some_iff.2 ⟨before, after, rfl, fun e he => ?_⟩
  have apart := nodup.2.2 e.1 (List.mem_map_of_mem he) key List.mem_cons_self
  exact bne_iff_ne.2 apart.symm

theorem lookup_perm {l l' : List (κ × α)} (perm : l.Perm l') (nodup : (l.map Prod.fst).Nodup)
    (key : κ) : l.lookup key = l'.lookup key := by
  have nodup' : (l'.map Prod.fst).Nodup := (perm.map Prod.fst).nodup_iff.1 nodup
  ext v
  rw [lookup_eq_some_iff_mem nodup, lookup_eq_some_iff_mem nodup', perm.mem_iff]

/-! ## Entries that the elements of a list give -/

section Given

variable {γ : Type} {f : γ → Option (κ × α)} {l : List γ} {key : κ}

theorem lookup_reverse_filterMap_of_none (none : ∀ (j : Nat) (w : α), l[j]?.bind f ≠ some (key, w)) :
    (l.filterMap f).reverse.lookup key = .none := by
  rw [List.lookup_eq_none_iff]
  intro e he
  obtain ⟨a, ha, given⟩ := List.mem_filterMap.1 (List.mem_reverse.1 he)
  obtain ⟨j, hj⟩ := List.mem_iff_getElem?.1 ha
  rw [bne_iff_ne]
  rintro rfl
  apply none j e.2
  rw [hj, Option.bind_some, given]

/-- Looked up from the end, a key has what the last element gives for it. -/
theorem lookup_reverse_filterMap_of_last {i : Nat} {v : α}
    (at_ : l[i]?.bind f = some (key, v))
    (last : ∀ (j : Nat) (w : α), l[j]?.bind f = some (key, w) → j ≤ i) :
    (l.filterMap f).reverse.lookup key = some v := by
  obtain ⟨a, ha, given⟩ := Option.bind_eq_some_iff.1 at_
  have behind : ((l.drop (i + 1)).filterMap f).reverse.lookup key = none := by
    apply lookup_reverse_filterMap_of_none
    intro j w there
    rw [List.getElem?_drop] at there
    have early := last _ w there
    omega
  obtain ⟨below, rfl⟩ := List.getElem?_eq_some_iff.1 ha
  have split : l = l.take i ++ (l[i] :: l.drop (i + 1)) := by
    rw [List.getElem_cons_drop, List.take_append_drop]
  rw [split, List.filterMap_append, List.filterMap_cons, given, List.reverse_append,
    List.reverse_cons, List.append_assoc, List.lookup_append, behind, Option.none_or]
  exact List.lookup_cons_self

end Given

end Switchboard
