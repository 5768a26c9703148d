import Switchboard.Call.Aspect
import Switchboard.Proofs.Dictionary
import Switchboard.Proofs.List.Firsts
import Switchboard.Proofs.List.StableSort

/-!
# Which aspects a class has

A registry is filled by calls in any order: aspects are declared on their owners, and classes are
given companions. `AspectRegistry.resolve_ofCalls` says what a class has after any calls: the aspects
of the class and then of its companions by first mention, of each identity the first that was
declared, one list for each kind, by priority.

`Represents` ties a registry to the calls that filled it: it holds the firsts of what each owner
declared and of the companions each class was given. All else is said of the calls, so calls that
concern different owners or classes can change places.
-/

namespace Switchboard

variable {σ : Type}

/-- What identifies an aspect. -/
def Aspect.identity (a : Aspect σ) : String × String := (a.owner, a.method)

/-- Two aspects are the same just if owner and method are. -/
theorem Aspect.sameIdentity_iff {a b : Aspect σ} :
    a.sameIdentity b = true ↔ a.identity = b.identity := by
  unfold Aspect.sameIdentity Aspect.identity
  rw [Bool.and_eq_true, beq_iff_eq, beq_iff_eq, Prod.mk.injEq]

/-- A call that fills a registry. -/
inductive AspectCall (σ : Type) where
  | register (a : Aspect σ)
  | use (type : String) (companions : List String)

namespace AspectCall

/-- The aspect that a call declares on an owner. -/
def declaredOn? (owner : String) : AspectCall σ → Option (Aspect σ)
  | register a => if a.owner = owner then some a else none
  | use _ _ => none

/-- The companions that a call gives a class. -/
def givenTo (type : String) : AspectCall σ → List String
  | register _ => []
  | use t companions => if t = type then companions else []

/-- Two calls concern different owners or different classes. -/
def Apart : AspectCall σ → AspectCall σ → Prop
  | register a, register b => a.owner ≠ b.owner
  | use t _, use u _ => t ≠ u
  | register _, use _ _ => True
  | use _ _, register _ => True

end AspectCall

/-! ## What the calls say -/

section Calls

variable (calls : List (AspectCall σ))

/-- The aspects declared on an owner, the first of each identity. -/
def aspectsOf (owner : String) : List (Aspect σ) :=
  firsts Aspect.identity (calls.filterMap (AspectCall.declaredOn? owner))

/-- A class and its companions in the order of their first mention. -/
def ownersFor (type : String) : List String :=
  firsts id (type :: calls.flatMap (AspectCall.givenTo type))

/-- The aspects that a class has, before they are put in order of priority. -/
def aspectsFor (type : String) : List (Aspect σ) := (ownersFor calls type).flatMap (aspectsOf calls)

variable {calls}

theorem owner_of_mem_aspectsOf {owner : String} {a : Aspect σ} (h : a ∈ aspectsOf calls owner) :
    a.owner = owner := by
  obtain ⟨call, -, hc⟩ := List.mem_filterMap.1 ((firsts_sublist _).subset h)
  cases call with
  | register b =>
    simp only [AspectCall.declaredOn?, Option.ite_none_right_eq_some, Option.some.injEq] at hc
    obtain ⟨ho, rfl⟩ := hc
    exact ho
  | use t companions => cases hc

variable (calls)

/-- No identity occurs twice. -/
theorem nodup_identity_aspectsFor (type : String) :
    ((aspectsFor calls type).map Aspect.identity).Nodup := by
  unfold aspectsFor
  rw [List.map_flatMap, List.nodup_flatMap]
  constructor
  · intro owner _
    exact nodup_map_firsts _
  · have owners : (ownersFor calls type).Nodup := nodup_firsts_id _
    refine owners.imp ?_
    intro o p hne i hi hj
    obtain ⟨a, ha, rfl⟩ := List.mem_map.1 hi
    obtain ⟨b, hb, he⟩ := List.mem_map.1 hj
    have own := owner_of_mem_aspectsOf ha
    have other := owner_of_mem_aspectsOf hb
    have same : b.owner = a.owner := (Prod.mk.inj he).1
    exact hne (own.symm.trans (same.symm.trans other))

theorem aspectsOf_swap {x y : AspectCall σ} (apart : x.Apart y)
    (before after : List (AspectCall σ)) (owner : String) :
    aspectsOf (before ++ y :: x :: after) owner = aspectsOf (before ++ x :: y :: after) owner := by
  have one : [y, x].filterMap (AspectCall.declaredOn? owner) =
      [x, y].filterMap (AspectCall.declaredOn? owner) := by
    cases x with
    | use t companions => rfl
    | register a =>
      cases y with
      | use t companions => rfl
      | register b =>
        have hne : a.owner ≠ b.owner := apart
        by_cases ha : a.owner = owner
        · have hb : b.owner ≠ owner := fun h => hne (ha.trans h.symm)
          simp [AspectCall.declaredOn?, ha, hb]
        · simp [AspectCall.declaredOn?, ha, List.filterMap_cons]
  have split (u v : AspectCall σ) : before ++ u :: v :: after = before ++ ([u, v] ++ after) := rfl
  unfold aspectsOf
  rw [split, split, List.filterMap_append, List.filterMap_append, one, ← List.filterMap_append,
    ← List.filterMap_append]

theorem ownersFor_swap {x y : AspectCall σ} (apart : x.Apart y)
    (before after : List (AspectCall σ)) (type : String) :
    ownersFor (before ++ y :: x :: after) type = ownersFor (before ++ x :: y :: after) type := by
  have one : [y, x].flatMap (AspectCall.givenTo type) =
      [x, y].flatMap (AspectCall.givenTo type) := by
    cases x with
    | register a => simp [AspectCall.givenTo]
    | use t companions =>
      cases y with
      | register a => simp [AspectCall.givenTo]
      | use u others =>
        have hne : t ≠ u := apart
        by_cases ht : t = type
        · have hu : u ≠ type := fun h => hne (ht.trans h.symm)
          simp [AspectCall.givenTo, ht, hu]
        · simp [AspectCall.givenTo, ht]
  have split (u v : AspectCall σ) : before ++ u :: v :: after = before ++ ([u, v] ++ after) := rfl
  unfold ownersFor
  rw [split, split, List.flatMap_append, List.flatMap_append, one, ← List.flatMap_append,
    ← List.flatMap_append]

end Calls

/-! ## A set of aspects by kind -/

namespace AspectSet

theorem addTo_eq (l : List (Aspect σ)) (a : Aspect σ) : addTo l a = addNew Aspect.identity l a := by
  have same : l.any a.sameIdentity = (l.map Aspect.identity).contains a.identity := by
    rw [Bool.eq_iff_iff, List.any_eq_true, List.contains_iff_mem, List.mem_map]
    constructor
    · rintro ⟨b, hb, hs⟩
      exact ⟨b, hb, (Aspect.sameIdentity_iff.1 hs).symm⟩
    · rintro ⟨b, hb, he⟩
      exact ⟨b, hb, Aspect.sameIdentity_iff.2 he.symm⟩
  unfold addTo addNew
  rw [same]

/-- An insert adds to its own kind and to no other. -/
theorem get_insert (s : AspectSet σ) (a : Aspect σ) (kind : AspectKind) :
    (s.insert a).get kind =
      if a.kind = kind then addNew Aspect.identity (s.get kind) a else s.get kind := by
  rw [← addTo_eq]
  unfold insert
  cases ha : a.kind <;> cases kind <;> rfl

/-- An aspect that is added lands in the list of its kind. -/
theorem get_foldl_insert (l : List (Aspect σ)) (s : AspectSet σ) (kind : AspectKind) :
    (l.foldl insert s).get kind =
      (l.filter fun a => a.kind = kind).foldl (addNew Aspect.identity) (s.get kind) := by
  induction l generalizing s with
  | nil => rfl
  | cons a l ih =>
    rw [List.foldl_cons, ih, get_insert]
    by_cases h : a.kind = kind
    · rw [if_pos h, List.filter_cons_of_pos (by simpa using h), List.foldl_cons]
    · rw [if_neg h, List.filter_cons_of_neg (by simpa using h)]

theorem get_empty (kind : AspectKind) : ({} : AspectSet σ).get kind = [] := by
  cases kind <;> rfl

/-- Each kind is sorted by priority, and ties stay as they were. -/
theorem get_sort (s : AspectSet σ) (kind : AspectKind) :
    s.sort.get kind = (s.get kind).mergeSort fun a b => a.priority ≤ b.priority := by
  cases kind <;> rfl

theorem ext_get {s t : AspectSet σ} (h : ∀ kind, s.get kind = t.get kind) : s = t := by
  obtain ⟨before, after, rescue, ensure⟩ := s
  obtain ⟨before', after', rescue', ensure'⟩ := t
  have hb : before = before' := h .before
  have ha : after = after' := h .after
  have hr : rescue = rescue' := h .rescue
  have he : ensure = ensure' := h .ensure
  rw [hb, ha, hr, he]

end AspectSet

/-! ## A registry and its calls -/

namespace AspectRegistry

/-- A registry after one more call. -/
def apply (r : AspectRegistry σ) : AspectCall σ → AspectRegistry σ
  | .register a => r.register a
  | .use type companions => r.use type companions

/-- The registry that some calls fill. -/
def ofCalls (calls : List (AspectCall σ)) : AspectRegistry σ := calls.foldl apply {}

/-- A registry holds what some calls say. -/
structure Represents (r : AspectRegistry σ) (calls : List (AspectCall σ)) : Prop where
  declared : ∀ owner, r.declaredBy owner = aspectsOf calls owner
  companions : ∀ type, r.companionsOf type = firsts id (calls.flatMap (AspectCall.givenTo type))

namespace Represents

variable {r : AspectRegistry σ} {calls : List (AspectCall σ)}

theorem empty : Represents ({} : AspectRegistry σ) [] := ⟨fun _ => rfl, fun _ => rfl⟩

/-- A registry represents one more aspect. -/
theorem register (h : Represents r calls) (a : Aspect σ) :
    Represents (r.register a) (calls ++ [.register a]) := by
  have added : (r.register a).declaredBy a.owner =
      addNew Aspect.identity (r.declaredBy a.owner) a := by
    rw [← AspectSet.addTo_eq]
    unfold AspectRegistry.register AspectSet.addTo contains
    split
    · rfl
    · unfold declaredBy
      rw [Dictionary.get?_put_self, Option.getD_some]
  have others : ∀ owner ≠ a.owner, (r.register a).declaredBy owner = r.declaredBy owner := by
    intro owner hne
    unfold AspectRegistry.register
    split
    · rfl
    · unfold declaredBy
      rw [Dictionary.get?_put_of_ne _ hne]
  constructor
  · intro owner
    unfold aspectsOf
    rw [List.filterMap_append]
    by_cases ho : a.owner = owner
    · subst ho
      have one : [AspectCall.register a].filterMap (AspectCall.declaredOn? a.owner) = [a] := by
        simp [AspectCall.declaredOn?]
      rw [added, h.declared, one, firsts_concat]
      rfl
    · have none : [AspectCall.register a].filterMap (AspectCall.declaredOn? owner) = [] := by
        simp [AspectCall.declaredOn?, ho]
      rw [others owner (Ne.symm ho), h.declared, none, List.append_nil]
      rfl
  · intro type
    have same : (r.register a).companionsOf type = r.companionsOf type := by
      unfold AspectRegistry.register
      split <;> rfl
    rw [same, h.companions, List.flatMap_append]
    simp [AspectCall.givenTo]

/-- It represents one more use. -/
theorem use (h : Represents r calls) (type : String) (companions : List String) :
    Represents (r.use type companions) (calls ++ [.use type companions]) := by
  have step : (fun (l : List String) (c : String) => if l.contains c then l else l ++ [c]) =
      addNew id := by
    funext l c
    unfold addNew
    rw [List.map_id]
    rfl
  constructor
  · intro owner
    unfold aspectsOf
    rw [List.filterMap_append]
    exact (h.declared owner).trans (congrArg _ (List.append_nil _).symm)
  · intro other
    rw [List.flatMap_append]
    unfold companionsOf AspectRegistry.use
    dsimp only
    rw [step, Dictionary.get?_put]
    by_cases ht : other = type
    · subst ht
      have one : [AspectCall.use (σ := σ) other companions].flatMap (AspectCall.givenTo other) =
          companions := by
        simp [AspectCall.givenTo]
      rw [if_pos rfl, Option.getD_some, h.companions, one, firsts_append]
    · have none : [AspectCall.use (σ := σ) type companions].flatMap (AspectCall.givenTo other) =
          [] := by
        simp [AspectCall.givenTo, Ne.symm ht]
      rw [if_neg ht, none, List.append_nil]
      exact h.companions other

theorem foldl (h : Represents r calls) (rest : List (AspectCall σ)) :
    Represents (rest.foldl apply r) (calls ++ rest) := by
  induction rest generalizing r calls with
  | nil => rwa [List.append_nil]
  | cons call rest ih =>
    have next : Represents (r.apply call) (calls ++ [call]) := by
      cases call with
      | register a => exact h.register a
      | use type companions => exact h.use type companions
    have rest := ih next
    rwa [List.append_assoc, List.singleton_append] at rest

end Represents

/-! ## What a class has -/

section Kind

variable (calls : List (AspectCall σ)) (kind : AspectKind)

/-- The aspects of one kind that an owner has. -/
def aspectsOfKind (owner : String) : List (Aspect σ) :=
  (aspectsOf calls owner).filter fun a => a.kind = kind

theorem nodup_identity_aspectsOfKind (owner : String) :
    ((aspectsOfKind calls kind owner).map Aspect.identity).Nodup :=
  (nodup_map_firsts _).sublist (List.filter_sublist.map _)

/-- What has not the identity of an owner's aspect is what the other owners have. -/
theorem filter_flatMap_others (owner : String) (owners : List String) :
    (owners.flatMap (aspectsOfKind calls kind)).filter
        (fun a => !((aspectsOfKind calls kind owner).map Aspect.identity).contains a.identity) =
      (owners.filter (· != owner)).flatMap (aspectsOfKind calls kind) := by
  induction owners with
  | nil => rfl
  | cons other rest ih =>
    rw [List.flatMap_cons, List.filter_append, ih]
    by_cases ho : other = owner
    · subst ho
      rw [List.filter_cons_of_neg (by simp), List.filter_eq_nil_iff.2, List.nil_append]
      intro a ha
      rw [List.contains_iff_mem.2 (List.mem_map_of_mem ha)]
      decide
    · rw [List.filter_cons_of_pos (by simpa using ho), List.flatMap_cons]
      congr 1
      refine List.filter_eq_self.2 fun a ha => ?_
      rw [Bool.not_eq_true', ← Bool.not_eq_true, List.contains_iff_mem]
      intro h
      obtain ⟨b, hb, he⟩ := List.mem_map.1 h
      have ownA := owner_of_mem_aspectsOf (List.mem_filter.1 ha).1
      have ownB := owner_of_mem_aspectsOf (List.mem_filter.1 hb).1
      have same : b.owner = a.owner := (Prod.mk.inj he).1
      exact ho (ownA.symm.trans (same.symm.trans ownB))

/-- An owner that comes again adds nothing: its aspects are there. -/
theorem firsts_flatMap (owners : List String) :
    firsts Aspect.identity (owners.flatMap (aspectsOfKind calls kind)) =
      (firsts id owners).flatMap (aspectsOfKind calls kind) := by
  induction owners with
  | nil => rfl
  | cons owner rest ih =>
    rw [List.flatMap_cons, firsts_append, foldl_addNew, ih,
      firsts_of_nodup (nodup_identity_aspectsOfKind calls kind owner), filter_flatMap_others]
    rfl

end Kind

/-- A class that names itself as a companion, or one more than once, has no more for it. -/
theorem firsts_cons_firsts (type : String) (mentions : List String) :
    firsts id (type :: firsts id mentions) = firsts id (type :: mentions) := by
  have once : ((firsts id mentions).map id).Nodup := nodup_map_firsts _
  rw [firsts, firsts, firsts_of_nodup once]

/-- What a class has of one kind, in order of priority. -/
theorem Represents.get_resolve {r : AspectRegistry σ} {calls : List (AspectCall σ)}
    (h : Represents r calls) (type : String) (kind : AspectKind) :
    (r.resolve type).get kind =
      ((aspectsFor calls type).filter fun a => a.kind = kind).mergeSort
        fun a b => a.priority ≤ b.priority := by
  have declared : r.declaredBy = aspectsOf calls := funext h.declared
  have found : ((type :: r.companionsOf type).flatMap r.declaredBy).filter
      (fun a => a.kind = kind) =
      (type :: r.companionsOf type).flatMap (aspectsOfKind calls kind) := by
    rw [declared, List.filter_flatMap]
    rfl
  have had : (aspectsFor calls type).filter (fun a => a.kind = kind) =
      (ownersFor calls type).flatMap (aspectsOfKind calls kind) := by
    unfold aspectsFor
    rw [List.filter_flatMap]
    rfl
  unfold resolve
  rw [AspectSet.get_sort, AspectSet.get_foldl_insert, AspectSet.get_empty, foldl_addNew_nil, found,
    firsts_flatMap, h.companions, firsts_cons_firsts, had]
  rfl

/-- A registry represents the calls that made it. -/
theorem represents_ofCalls (calls : List (AspectCall σ)) : Represents (ofCalls calls) calls :=
  Represents.empty.foldl calls

theorem get_resolve_ofCalls (calls : List (AspectCall σ)) (type : String) (kind : AspectKind) :
    StablySorted Aspect.priority ((aspectsFor calls type).filter fun a => a.kind = kind)
      (((ofCalls calls).resolve type).get kind) := by
  rw [(represents_ofCalls calls).get_resolve]
  exact stablySorted_mergeSort Aspect.priority _

theorem nodup_identity_resolve (calls : List (AspectCall σ)) (type : String) :
    ((AspectKind.all.flatMap ((ofCalls calls).resolve type).get).map Aspect.identity).Nodup := by
  have distinct := nodup_identity_aspectsFor calls type
  have listed (kind : AspectKind) := (get_resolve_ofCalls calls type kind).perm
  rw [List.map_flatMap, List.nodup_flatMap]
  constructor
  · intro kind _
    rw [((listed kind).map Aspect.identity).nodup_iff]
    exact distinct.sublist (List.filter_sublist.map _)
  · have kinds : AspectKind.all.Nodup := by decide
    refine kinds.imp ?_
    intro k l hne i hi hj
    obtain ⟨a, ha, rfl⟩ := List.mem_map.1 hi
    obtain ⟨b, hb, he⟩ := List.mem_map.1 hj
    obtain ⟨inA, kindA⟩ := List.mem_filter.1 ((listed k).mem_iff.1 ha)
    obtain ⟨inB, kindB⟩ := List.mem_filter.1 ((listed l).mem_iff.1 hb)
    -- one identity is one aspect, and that has one kind
    obtain rfl := List.inj_on_of_nodup_map distinct inB inA he
    simp only [decide_eq_true_eq] at kindA kindB
    exact hne (kindA.symm.trans kindB)

/-- Two calls that are apart may change places. -/
theorem resolve_swap {x y : AspectCall σ} (apart : x.Apart y) (before after : List (AspectCall σ))
    (type : String) :
    (ofCalls (before ++ y :: x :: after)).resolve type =
      (ofCalls (before ++ x :: y :: after)).resolve type := by
  have same : aspectsFor (before ++ y :: x :: after) type =
      aspectsFor (before ++ x :: y :: after) type := by
    unfold aspectsFor
    rw [ownersFor_swap apart, funext (aspectsOf_swap apart before after)]
  apply AspectSet.ext_get
  intro kind
  rw [(represents_ofCalls _).get_resolve, (represents_ofCalls _).get_resolve, same]

/-- **What a class has after any calls**: of its own aspects and then its companions', of each identity
the first, one list for each kind by priority. No aspect occurs twice in all the lists, and calls that
concern different owners or classes can change places. -/
theorem resolve_ofCalls (calls : List (AspectCall σ)) (type : String) :
    (∀ kind l, ((ofCalls calls).resolve type).get kind = l ↔
      StablySorted Aspect.priority ((aspectsFor calls type).filter fun a => a.kind = kind) l) ∧
    ((AspectKind.all.flatMap ((ofCalls calls).resolve type).get).map Aspect.identity).Nodup ∧
    ∀ before x y after, calls = before ++ x :: y :: after → x.Apart y →
      (ofCalls (before ++ y :: x :: after)).resolve type = (ofCalls calls).resolve type := by
  refine ⟨fun kind l => ⟨?_, ?_⟩, nodup_identity_resolve calls type, ?_⟩
  · rintro rfl
    exact get_resolve_ofCalls calls type kind
  · intro sorted
    exact (get_resolve_ofCalls calls type kind).unique sorted
  · rintro before x y after rfl apart
    exact resolve_swap apart before after type

/-- Declares an aspect that replies with nothing. -/
def silent (owner method : String) (kind : AspectKind) (priority : Int) : AspectCall Unit :=
  .register { owner, method, kind, priority, body := fun _ _ => pure { model := .empty } }

/-- A class that names itself a companion and declares an aspect again, as one of another kind. -/
theorem resolve_ofCalls_again :
    let found := (ofCalls [.use "Users" ["Audit", "Users", "Audit"], silent "Audit" "log" .before 1,
      silent "Users" "own" .before 1, silent "Users" "own" .after 0]).resolve "Users"
    ((found.get .before).map Aspect.name, (found.get .after).map Aspect.name) =
        (["Users#own", "Audit#log"], []) ∧
      (ofCalls [.use "Users" ["Audit", "Users", "Audit"], silent "Users" "own" .before 1,
        silent "Audit" "log" .before 1, silent "Users" "own" .after 0]).resolve "Users" = found := by
  have sorted : ∀ kind, ((aspectsFor [.use "Users" ["Audit", "Users", "Audit"],
      silent "Audit" "log" .before 1, silent "Users" "own" .before 1,
      silent "Users" "own" .after 0] "Users").filter fun a => a.kind = kind).Pairwise
        fun a b => a.priority ≤ b.priority := by
    intro kind
    cases kind <;> decide
  have get := fun kind => ((resolve_ofCalls _ "Users").1 kind _).2 ⟨sorted kind, fun _ => rfl⟩
  have apart : (silent "Audit" "log" .before 1).Apart (silent "Users" "own" .before 1) :=
    (by decide : "Audit" ≠ "Users")
  refine ⟨?_, (resolve_ofCalls _ "Users").2.2 [.use "Users" ["Audit", "Users", "Audit"]] _ _
    [silent "Users" "own" .after 0] rfl apart⟩
  rw [get .before, get .after]
  decide

end AspectRegistry

end Switchboard
