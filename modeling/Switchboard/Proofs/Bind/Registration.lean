import Switchboard.Proofs.Bind.Shape
import Switchboard.Proofs.List.Firsts
import Mathlib.Data.List.Induction

/-!
# The binder of a type

Binders are registered one after the other, and a type may come again. `BindManager.binder_of_calls`
says which binder a type has after any registrations: the last that was registered for it, else the
last of the first registered type that takes its values. A type keeps the place of its first
registration, and the index of the types always leads there.

`Holds` ties a manager to the registrations that filled it: the entries stand in the order of first
registration, and each has the binder that came last.
-/

namespace Switchboard.BindManager

variable {m : BindManager} {calls : List (ParamType × Binder)} {type : ParamType} {b : Binder}
  {i : Nat}

/-! ## What the registrations say -/

/-- The types that are registered, in order of first registration. -/
def typesOf (calls : List (ParamType × Binder)) : List ParamType := firsts id (calls.map Prod.fst)

/-- The binder that is registered last for a type. -/
def lastFor? (calls : List (ParamType × Binder)) (type : ParamType) : Option Binder :=
  calls.reverse.lookup type

/-- The types are those that some registration names. -/
theorem mem_typesOf : type ∈ typesOf calls ↔ type ∈ calls.map Prod.fst := mem_firsts_id

/-- One more registration adds its type, if that is new. -/
theorem typesOf_concat (calls : List (ParamType × Binder)) (type : ParamType) (b : Binder) :
    typesOf (calls ++ [(type, b)]) =
      if type ∈ typesOf calls then typesOf calls else typesOf calls ++ [type] := by
  unfold typesOf
  rw [List.map_append, List.map_singleton, firsts_concat, addNew, List.map_id]
  simp only [id, List.contains_iff_mem]

/-- One more registration decides on its own type and on no other. -/
theorem lastFor?_concat (calls : List (ParamType × Binder)) (other type : ParamType) (b : Binder) :
    lastFor? (calls ++ [(type, b)]) other =
      if other = type then some b else lastFor? calls other := by
  unfold lastFor?
  rw [List.reverse_concat, List.lookup_cons]
  by_cases same : other = type
  · rw [if_pos same, beq_iff_eq.2 same]
  · rw [if_neg same, beq_false_of_ne same]

theorem lastFor?_eq_none_iff : lastFor? calls type = none ↔ type ∉ typesOf calls := by
  rw [mem_typesOf, lastFor?, List.lookup_eq_none_iff]
  simp only [List.mem_reverse, bne_iff_ne, List.mem_map, not_exists, not_and]
  exact forall₂_congr fun e he => ne_comm

/-! ## One registration -/

theorem index_eq_none_iff : m.index.lookup type = none ↔ type ∉ m.binders.map Prod.fst := by
  rw [Option.eq_none_iff_forall_ne_some, List.mem_iff_getElem?, not_exists]
  exact forall_congr' fun i => not_congr (m.indexed type i)

/-- A type that is known gets another binder in its place. -/
theorem binders_addBinder_of_index (h : m.index.lookup type = some i) (b : Binder) :
    (m.addBinder type b).binders = m.binders.modify i fun e => (e.1, b) := by
  unfold addBinder
  split
  · next j place =>
    cases h.symm.trans place
    rfl
  · next new => cases h.symm.trans new

/-- A new type comes behind the others. -/
theorem binders_addBinder_of_new (h : m.index.lookup type = none) (b : Binder) :
    (m.addBinder type b).binders = m.binders ++ [(type, b)] := by
  unfold addBinder
  split
  · next j place => cases h.symm.trans place
  · rfl

/-! ## A manager and its registrations -/

/-- A manager has the binders of some registrations. -/
structure Holds (m : BindManager) (calls : List (ParamType × Binder)) : Prop where
  types : m.binders.map Prod.fst = typesOf calls
  last : ∀ (i : Nat) (type : ParamType) (b : Binder),
    m.binders[i]? = some (type, b) → lastFor? calls type = some b

namespace Holds

theorem empty : Holds {} [] := ⟨rfl, nofun⟩

theorem index_eq_none_iff (h : Holds m calls) :
    m.index.lookup type = none ↔ type ∉ typesOf calls := by
  rw [← h.types]
  exact BindManager.index_eq_none_iff

/-- The step for a type that is known. -/
theorem replaced (h : Holds m calls) (place : m.index.lookup type = some i) (b : Binder) :
    Holds (m.addBinder type b) (calls ++ [(type, b)]) := by
  have binders := binders_addBinder_of_index place b
  have known : type ∈ typesOf calls := by
    by_contra new
    cases place.symm.trans (h.index_eq_none_iff.2 new)
  constructor
  · rw [binders, Indexes.map_fst_replace, h.types, typesOf_concat, if_pos known]
  · intro j other c entry
    rw [binders, List.getElem?_modify] at entry
    obtain ⟨⟨t, old⟩, there, same⟩ := Option.map_eq_some_iff.1 entry
    have own : m.index.lookup t = some j := by
      rw [m.indexed, List.getElem?_map, there]
      rfl
    rw [lastFor?_concat]
    by_cases here : i = j
    · subst here
      rw [if_pos rfl] at same
      cases same
      have the : t = type := by
        have places := (m.indexed t i).1 own
        rw [(m.indexed type i).1 place] at places
        exact (Option.some.inj places).symm
      exact if_pos the
    · rw [if_neg here] at same
      cases same
      rw [if_neg ?_]
      · exact h.last j other c there
      · rintro rfl
        cases place.symm.trans own
        exact here rfl

/-- The step for a new type. -/
theorem added (h : Holds m calls) (new : m.index.lookup type = none) (b : Binder) :
    Holds (m.addBinder type b) (calls ++ [(type, b)]) := by
  have binders := binders_addBinder_of_new new b
  have unknown := h.index_eq_none_iff.1 new
  constructor
  · rw [binders, List.map_append, h.types, typesOf_concat, if_neg unknown]
    rfl
  · intro j other c entry
    rw [binders] at entry
    rw [lastFor?_concat]
    rcases List.mem_append.1 (List.mem_of_getElem? entry) with old | own
    · obtain ⟨k, there⟩ := List.mem_iff_getElem?.1 old
      have known : other ∈ typesOf calls := by
        rw [← h.types]
        exact List.mem_map_of_mem old
      rw [if_neg ?_]
      · exact h.last k other c there
      · rintro rfl
        exact unknown known
    · cases List.mem_singleton.1 own
      exact if_pos rfl

/-- The manager holds one more registration after each. -/
theorem addBinder (h : Holds m calls) (type : ParamType) (b : Binder) :
    Holds (m.addBinder type b) (calls ++ [(type, b)]) := by
  cases place : m.index.lookup type with
  | some i => exact h.replaced place b
  | none => exact h.added place b

/-- A type has its own binder, else that of the first type that takes its values. -/
theorem findBinder_eq (h : Holds m calls) (target : ParamType) :
    m.findBinder target =
      (lastFor? calls target).or
        (((typesOf calls).find? (·.isAssignableFrom target)).bind (lastFor? calls)) := by
  cases place : m.index.lookup target with
  | some i =>
    obtain ⟨b, entry, found⟩ := findBinder_of_index place
    rw [found, h.last i target b entry, Option.some_or]
  | none =>
    have unknown := h.index_eq_none_iff.1 place
    rw [findBinder_of_index_eq_none place, lastFor?_eq_none_iff.2 unknown, Option.none_or,
      ← h.types, List.find?_map]
    change (m.binders.find? ((·.isAssignableFrom target) ∘ Prod.fst)).map Prod.snd = _
    cases taker : m.binders.find? ((·.isAssignableFrom target) ∘ Prod.fst) with
    | none => rfl
    | some e =>
      obtain ⟨j, there⟩ := List.mem_iff_getElem?.1 (List.mem_of_find?_eq_some taker)
      exact (h.last j e.1 e.2 there).symm

end Holds

/-- A manager holds the registrations that made it, in order. -/
theorem holds_ofBinders (calls : List (ParamType × Binder)) : Holds (ofBinders calls) calls := by
  induction calls using List.reverseRecOn with
  | nil => exact .empty
  | append_singleton calls e ih =>
    unfold ofBinders
    rw [List.foldl_concat]
    exact ih.addBinder e.1 e.2

/-- **The binder of a type after any registrations**: the last that was registered for it, or else
the last that was registered for the first type that takes its values. Each registered type has one
entry, and the index leads from a type to its entry and from no other. -/
theorem binder_of_calls (calls : List (ParamType × Binder)) :
    (∀ target, (ofBinders calls).findBinder target =
      (lastFor? calls target).or
        (((typesOf calls).find? (·.isAssignableFrom target)).bind (lastFor? calls))) ∧
    (∀ type, ((ofBinders calls).binders.map Prod.fst).count type =
      if type ∈ calls.map Prod.fst then 1 else 0) ∧
    ∀ type i, (ofBinders calls).index.lookup type = some i ↔
      ∃ b, (ofBinders calls).binders[i]? = some (type, b) ∧ lastFor? calls type = some b := by
  have holds := holds_ofBinders calls
  refine ⟨holds.findBinder_eq, fun type => ?_, fun type i => ?_⟩
  · have once : (typesOf calls).Nodup := nodup_firsts_id _
    rw [holds.types, once.count]
    simp only [mem_typesOf]
  · constructor
    · intro place
      obtain ⟨b, entry, -⟩ := findBinder_of_index place
      exact ⟨b, entry, holds.last i type b entry⟩
    · rintro ⟨b, entry, -⟩
      rw [(ofBinders calls).indexed, List.getElem?_map, entry]
      rfl

/-- A class that is registered again is still the first to take what descends from it. -/
example :
    let animal := Tag.ofName "Animal"
    let pet := (Tag.ofName "Pet").extend animal
    (ofBinders [(.object pet, .text), (.object animal, .number),
      (.object pet, .boolean)]).findBinder (.object ((Tag.ofName "Dog").extend pet)) =
        some .boolean := rfl

end Switchboard.BindManager
