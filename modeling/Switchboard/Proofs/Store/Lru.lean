import Switchboard.Store.Lru
import Switchboard.Proofs.List.Keyed

/-!
# What a cache of bounded size holds

What a cache tells of a key is one of its entries. Using it adds no entry, and setting an entry adds
no other one, so what the cache tells of other keys is what it told before. There are never more
entries than fit.
-/

namespace Switchboard.Lru

variable {κ α : Type} [BEq κ] {c : Lru κ α} {key : κ} {v : α} {e : κ × α}

/-- What is there for a key is one of the entries. -/
theorem mem_of_peek? [LawfulBEq κ] (h : c.peek? key = some v) : (key, v) ∈ c.entries := by
  obtain ⟨before, after, he, -⟩ := List.lookup_eq_some_iff.1 h
  rw [he]
  exact List.mem_append_right _ List.mem_cons_self

theorem mem_of_mem_touch [LawfulBEq κ] (h : e ∈ (c.touch key).entries) : e ∈ c.entries := by
  unfold touch at h
  split at h
  · rename_i v hp
    rcases List.mem_cons.1 h with rfl | h
    · exact mem_of_peek? hp
    · exact List.mem_of_mem_filter h
  · exact h

/-- A put brings in its own entry and no other. -/
theorem mem_of_mem_put (h : e ∈ (c.put key v).entries) : e = (key, v) ∨ e ∈ c.entries := by
  unfold put at h
  rcases List.mem_cons.1 (List.mem_of_mem_take h) with he | he
  · exact .inl he
  · exact .inr (List.mem_of_mem_filter he)

@[simp] theorem capacity_touch (c : Lru κ α) (key : κ) : (c.touch key).capacity = c.capacity := by
  unfold touch
  split <;> rfl

@[simp] theorem capacity_put (c : Lru κ α) (key : κ) (v : α) :
    (c.put key v).capacity = c.capacity := rfl

/-- What is used is kept. -/
theorem peek?_touch_self [LawfulBEq κ] (h : c.peek? key = some v) :
    (c.touch key).peek? key = some v := by
  unfold touch
  rw [h]
  exact List.lookup_cons_self

/-- What was set last is there, if there is room for anything. -/
theorem peek?_put_self [LawfulBEq κ] (room : c.capacity ≠ 0) :
    (c.put key v).peek? key = some v := by
  obtain ⟨n, hn⟩ := Nat.exists_eq_succ_of_ne_zero room
  unfold put peek?
  rw [hn, List.take_succ_cons]
  exact List.lookup_cons_self

/-- Using an entry changes nothing that the cache tells. -/
theorem peek?_touch [LawfulBEq κ] (c : Lru κ α) (key other : κ) :
    (c.touch key).peek? other = c.peek? other := by
  unfold touch
  split
  · next v hit =>
    show ((key, v) :: c.entries.filter fun e => e.1 != key).lookup other = _
    rw [List.lookup_cons, lookup_filter_key (· != key)]
    by_cases same : other = key
    · subst same
      simp [hit]
    · simp [beq_false_of_ne same, same, peek?]
  · rfl

/-- What is told after setting an entry was set or told before. -/
theorem peek?_of_peek?_put [LawfulBEq κ] {other : κ} {w : α}
    (h : (c.put key v).peek? other = some w) :
    other = key ∧ w = v ∨ other ≠ key ∧ c.peek? other = some w := by
  have whole : ((key, v) :: c.entries.filter fun e => e.1 != key).lookup other = some w := by
    rw [← List.take_append_drop c.capacity ((key, v) :: c.entries.filter fun e => e.1 != key),
      List.lookup_append]
    exact Option.or_eq_some_iff.2 (.inl h)
  rw [List.lookup_cons, lookup_filter_key (· != key)] at whole
  by_cases same : other = key
  · subst same
    rw [beq_self_eq_true, Option.some.injEq] at whole
    exact .inl ⟨rfl, whole.symm⟩
  · rw [beq_false_of_ne same, if_pos (bne_iff_ne.2 same)] at whole
    exact .inr ⟨same, whole⟩

/-! ## Size -/

theorem size_touch_le [LawfulBEq κ] (c : Lru κ α) (key : κ) : (c.touch key).size ≤ c.size := by
  unfold touch size
  split
  · next v hit =>
    have removed : (c.entries.filter fun e => e.1 != key).length < c.entries.length :=
      List.length_filter_lt_length_iff_exists.2 ⟨(key, v), mem_of_peek? hit, by simp⟩
    exact removed
  · exact Nat.le_refl _

/-- There are never more entries than fit. -/
theorem size_put_le (c : Lru κ α) (key : κ) (v : α) : (c.put key v).size ≤ c.capacity :=
  List.length_take_le _ _

end Switchboard.Lru
