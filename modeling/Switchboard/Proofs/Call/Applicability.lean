import Switchboard.Proofs.Call.Aspects

/-!
# Which aspects an action has

Of the aspects of its class an action has those that its markers let run. An aspect may name markers
that an action needs and markers that it must not have; taken together they say which actions the
aspect is meant for (`Aspect.Admits`). `Aspect.appliesTo` looks at the second list only where the
first is empty, so an aspect with both lists also runs for actions that it excludes
(`Aspect.Overlooks`). `AspectRegistry.resolveFor_by_markers` says that these are the only ones too
many.
-/

namespace Switchboard

variable {σ : Type}

namespace Aspect

variable {a : Aspect σ} {markers : List String}

/-- The action has none of the markers to avoid, and one of the markers to have if there are any. -/
def Admits (a : Aspect σ) (markers : List String) : Prop :=
  (∀ m ∈ a.notWith, m ∉ markers) ∧ (a.onlyWith ≠ [] → ∃ m ∈ a.onlyWith, m ∈ markers)

/-- The action has one of the markers to have and one of the markers to avoid. -/
def Overlooks (a : Aspect σ) (markers : List String) : Prop :=
  (∃ m ∈ a.onlyWith, m ∈ markers) ∧ ∃ m ∈ a.notWith, m ∈ markers

instance (a : Aspect σ) (markers : List String) : Decidable (a.Admits markers) :=
  inferInstanceAs (Decidable (_ ∧ _))

instance (a : Aspect σ) (markers : List String) : Decidable (a.Overlooks markers) :=
  inferInstanceAs (Decidable (_ ∧ _))

theorem appliesTo_of_onlyWith (some : a.onlyWith ≠ []) :
    a.appliesTo markers = true ↔ ∃ m ∈ a.onlyWith, m ∈ markers := by
  unfold appliesTo
  rw [if_pos (by simpa using some), List.any_eq_true]
  simp only [List.contains_iff_mem]

theorem appliesTo_of_onlyWith_eq_nil (none : a.onlyWith = []) :
    a.appliesTo markers = true ↔ ∀ m ∈ a.notWith, m ∉ markers := by
  unfold appliesTo
  rw [if_neg (by simp [none]), Bool.not_eq_true', List.any_eq_false]
  simp only [List.contains_iff_mem]

/-- An aspect runs where it is meant to, and where it has one marker of either list. -/
theorem appliesTo_iff : a.appliesTo markers = true ↔ a.Admits markers ∨ a.Overlooks markers := by
  by_cases none : a.onlyWith = []
  · rw [appliesTo_of_onlyWith_eq_nil none, Admits, Overlooks, none]
    simp
  · rw [appliesTo_of_onlyWith none, Admits, Overlooks]
    constructor
    · intro has
      by_cases avoided : ∃ m ∈ a.notWith, m ∈ markers
      · exact .inr ⟨has, avoided⟩
      · exact .inl ⟨fun m hm there => avoided ⟨m, hm, there⟩, fun _ => has⟩
    · rintro (⟨-, has⟩ | ⟨has, -⟩)
      · exact has none
      · exact has

end Aspect

theorem AspectSet.get_filtered (s : AspectSet σ) (markers : List String) (kind : AspectKind) :
    (s.filtered markers).get kind = (s.get kind).filter (·.appliesTo markers) := by
  cases kind <;> rfl

namespace AspectRegistry

/-- **Which aspects an action has**: those of its class that are meant for its markers, and those
that have one of its markers in either list, in the order of the class. So all that are meant for it
are there and keep their order, what names markers to have finds one of them, and what names none
finds none of the markers to avoid. -/
theorem resolveFor_by_markers (r : AspectRegistry σ) (type : String) (markers : List String)
    (kind : AspectKind) :
    let all := (r.resolve type).get kind
    let found := (r.resolveFor type markers).get kind
    found = all.filter (fun a => a.Admits markers ∨ a.Overlooks markers) ∧
      found.filter (fun a => a.Admits markers) = all.filter (fun a => a.Admits markers) ∧
      (∀ a ∈ found, a.onlyWith ≠ [] → ∃ m ∈ a.onlyWith, m ∈ markers) ∧
      ∀ a ∈ found, a.onlyWith = [] → ∀ m ∈ a.notWith, m ∉ markers := by
  dsimp only
  have filtered := (r.resolve type).get_filtered markers kind
  rw [resolveFor, filtered]
  refine ⟨List.filter_congr fun a _ => ?_, ?_, fun a ha some => ?_, fun a ha none => ?_⟩
  · rw [Bool.eq_iff_iff, decide_eq_true_eq]
    exact Aspect.appliesTo_iff
  · rw [List.filter_filter]
    refine List.filter_congr fun a _ => ?_
    by_cases admits : a.Admits markers
    · rw [Aspect.appliesTo_iff.2 (.inl admits), Bool.and_true]
    · rw [decide_eq_false admits, Bool.false_and]
  · exact (Aspect.appliesTo_of_onlyWith some).1 (List.mem_filter.1 ha).2
  · exact (Aspect.appliesTo_of_onlyWith_eq_nil none).1 (List.mem_filter.1 ha).2

/-- An audit of guarded actions that leaves the public ones alone. -/
def auditing : Aspect Unit where
  owner := "Users"
  method := "audit"
  kind := .before
  onlyWith := ["Secured"]
  notWith := ["Public"]
  body := fun _ _ => pure { model := .empty }

/-- Not every aspect of an action is meant for its markers: an audit runs for an action that it
excludes. -/
theorem not_forall_admitted :
    ¬ ∀ (r : AspectRegistry Unit) (type : String) (markers : List String) (kind : AspectKind),
      ∀ a ∈ (r.resolveFor type markers).get kind, a.Admits markers := by
  intro admitted
  have there : auditing ∈
      ((ofCalls [.register auditing]).resolveFor "Users" ["Secured", "Public"]).get .before := by
    rw [resolveFor, AspectSet.get_filtered, (represents_ofCalls _).get_resolve]
    refine List.mem_filter.2 ⟨List.mem_mergeSort.2 ?_, by decide⟩
    exact List.mem_singleton_self auditing
  exact (admitted _ _ _ _ _ there).1 "Public" (by decide) (by decide)

end AspectRegistry

end Switchboard
