import Switchboard.Call.Aspect
import Switchboard.Proofs.List.Firsts
import Mathlib.Logic.Relation

/-!
# Descent of classes

A tag carries the names of all classes it descends from, copied from its parents when it was
declared. So what a tag says of its descent is right just if its parents were complete by then and
no name stands for two tags. Under these conditions (`TagDeclaration.IsFamily`) a tag descends from
another exactly if a chain of declarations leads there, and types built from such tags take values
of each other in a reflexive and transitive way (`TagDeclaration.descent_of_family`).

The names in a tag are the firsts of all names that its declaration goes through
(`TagDeclaration.lineage_tag`); what is said of names and of how often they occur is read off that.
-/

namespace Switchboard

/-! ## The names in a tag -/

namespace Tag

/-- The name of a tag and of all classes it descends from. -/
def lineage (t : Tag) : List String := t.name :: t.ancestors

/-- A tag is another just if it has its name among its own. -/
theorem isA_iff {t u : Tag} : t.isA u = true ↔ u.name ∈ t.lineage := by
  unfold isA lineage
  rw [Bool.or_eq_true, beq_iff_eq, List.contains_iff_mem, List.mem_cons, eq_comm]

theorem isA_self (t : Tag) : t.isA t = true := isA_iff.2 List.mem_cons_self

theorem lineage_addAncestor (t : Tag) (name : String) :
    (t.addAncestor name).lineage = addNew id t.lineage name := by
  unfold addAncestor addNew lineage
  rw [List.map_id, List.contains_cons, id]
  by_cases known : (name == t.name || t.ancestors.contains name) = true
  · rw [if_pos known, if_pos (by simpa using known)]
  · rw [if_neg known, if_neg (by simpa using known)]
    rfl

theorem lineage_foldl_addAncestor (names : List String) (t : Tag) :
    (names.foldl addAncestor t).lineage = names.foldl (addNew id) t.lineage := by
  induction names generalizing t with
  | nil => rfl
  | cons name names ih => rw [List.foldl_cons, List.foldl_cons, ih, lineage_addAncestor]

/-- A parent adds the names in it that are new. -/
theorem lineage_extend {t : Tag} {names : List String} (h : t.lineage = firsts id names)
    (parent : Tag) : (t.extend parent).lineage = firsts id (names ++ parent.lineage) := by
  rw [firsts_append, ← h]
  exact lineage_foldl_addAncestor parent.lineage t

theorem lineage_foldl_extend {t : Tag} {names : List String} (h : t.lineage = firsts id names)
    (parents : List Tag) :
    (parents.foldl extend t).lineage = firsts id (names ++ parents.flatMap lineage) := by
  induction parents generalizing t names with
  | nil =>
    rw [List.flatMap_nil, List.append_nil]
    exact h
  | cons parent parents ih =>
    rw [List.foldl_cons, ih (lineage_extend h parent), List.flatMap_cons, List.append_assoc]

end Tag

/-- A tag as it is declared: its name, and the tags it extends one after the other. -/
structure TagDeclaration where
  name : String
  parents : List Tag := []

namespace TagDeclaration

/-- The tag that a declaration makes. -/
def tag (d : TagDeclaration) : Tag := d.parents.foldl Tag.extend (.ofName d.name)

/-- A tag has its own name and then those of its parents, each once. -/
theorem lineage_tag (d : TagDeclaration) :
    d.tag.lineage = firsts id (d.name :: d.parents.flatMap Tag.lineage) := by
  have own : (Tag.ofName d.name).lineage = firsts id [d.name] := rfl
  exact Tag.lineage_foldl_extend own d.parents

theorem name_tag (d : TagDeclaration) : d.tag.name = d.name :=
  (List.cons.inj d.lineage_tag).1

theorem ancestors_tag {d : TagDeclaration} (none : d.parents = []) : d.tag.ancestors = [] := by
  unfold tag
  rw [none]
  rfl

/-- No name is there twice. -/
theorem nodup_lineage_tag (d : TagDeclaration) : d.tag.lineage.Nodup := by
  rw [lineage_tag]
  exact nodup_firsts_id _

/-- A tag descends from what one of its parents descends from, and from nothing else but itself. -/
theorem isA_tag_iff {d : TagDeclaration} {u : Tag} :
    d.tag.isA u = true ↔ d.name = u.name ∨ ∃ p ∈ d.parents, p.isA u = true := by
  simp only [Tag.isA_iff]
  rw [lineage_tag, mem_firsts_id, List.mem_cons, List.mem_flatMap, eq_comm]

/-! ## Families -/

/-- Declarations, the newest first, that extend complete tags only. -/
inductive Complete : List TagDeclaration → Prop
  | nil : Complete []
  | cons {d : TagDeclaration} {ds : List TagDeclaration} (earlier : Complete ds)
      (parents : ∀ p ∈ d.parents, p ∈ ds.map tag) : Complete (d :: ds)

/-- Declarations by which a name stands for one tag and the class of all objects has no parent. -/
structure IsFamily (ds : List TagDeclaration) : Prop where
  complete : Complete ds
  unique : ∀ d ∈ ds, ∀ e ∈ ds, d.name = e.name → d.tag = e.tag
  object : ∀ d ∈ ds, d.name = "Object" → d.parents = []

/-- A declaration of the one tag extends the other. -/
def Extends (ds : List TagDeclaration) (t parent : Tag) : Prop :=
  ∃ d ∈ ds, d.tag = t ∧ parent ∈ d.parents

section Family

open Relation

variable {ds : List TagDeclaration} {t u v : Tag}

/-- Who descends from another is one. -/
theorem isA_of_chain (chain : ReflTransGen (Extends ds) t u) : t.isA u = true := by
  induction chain using ReflTransGen.head_induction_on with
  | refl => exact u.isA_self
  | head step _ ih =>
    obtain ⟨d, -, rfl, hp⟩ := step
    exact isA_tag_iff.2 (.inr ⟨_, hp, ih⟩)

variable (family : IsFamily ds)

include family

/-- Who is another descends from it. -/
theorem chain_of_isA (hu : u ∈ ds.map tag) {part : List TagDeclaration} (complete : Complete part)
    (within : part ⊆ ds) {d : TagDeclaration} (hd : d ∈ part) (isA : d.tag.isA u = true) :
    ReflTransGen (Extends ds) d.tag u := by
  obtain ⟨e, he, rfl⟩ := List.mem_map.1 hu
  induction complete generalizing d with
  | nil => cases hd
  | cons earlier parents ih =>
    obtain ⟨here, before⟩ := List.cons_subset.1 within
    rcases List.mem_cons.1 hd with rfl | hd
    · rcases isA_tag_iff.1 isA with own | ⟨p, hp, isA⟩
      · rw [family.unique _ here e he (own.trans e.name_tag)]
      · obtain ⟨f, hf, rfl⟩ := List.mem_map.1 (parents p hp)
        exact (ih before hf isA).head ⟨_, here, rfl, hp⟩
    · exact ih before hd isA

/-- A tag descends from another exactly if declarations lead there. -/
theorem isA_iff_chain (ht : t ∈ ds.map tag) (hu : u ∈ ds.map tag) :
    t.isA u = true ↔ ReflTransGen (Extends ds) t u := by
  refine ⟨fun isA => ?_, isA_of_chain⟩
  obtain ⟨d, hd, rfl⟩ := List.mem_map.1 ht
  exact chain_of_isA family hu family.complete (List.Subset.refl ds) hd isA

theorem isA_trans (ht : t ∈ ds.map tag) (hu : u ∈ ds.map tag) (hv : v ∈ ds.map tag)
    (h : t.isA u = true) (h' : u.isA v = true) : t.isA v = true :=
  isA_of_chain (((isA_iff_chain family ht hu).1 h).trans ((isA_iff_chain family hu hv).1 h'))

/-- The class of all objects descends from itself alone. -/
theorem name_eq_of_isA_of_object (ht : t ∈ ds.map tag) (object : t.name = "Object")
    (isA : t.isA u = true) : u.name = "Object" := by
  obtain ⟨d, hd, rfl⟩ := List.mem_map.1 ht
  have none := ancestors_tag (family.object d hd (d.name_tag.symm.trans object))
  rw [Tag.isA_iff, Tag.lineage, none, List.mem_singleton] at isA
  exact isA.trans object

end Family

end TagDeclaration

/-! ## Types that take values of others -/

namespace ParamType

/-- A type without a class, of which null is a value. -/
inductive IsClassless : ParamType → Prop
  | boxed (kind : Scalar) : IsClassless (.boxed kind)
  | text : IsClassless .text
  | array (element : ParamType) : IsClassless (.array element)
  | context (kind : ContextKind) : IsClassless (.context kind)

/-- A type takes the values of another. -/
inductive Takes : ParamType → ParamType → Prop
  | same (type : ParamType) : Takes type type
  | object {a b : Tag} (isA : b.isA a = true) : Takes (.object a) (.object b)
  | raw {a raw : Tag} {args : List ParamType} (isA : raw.isA a = true) :
      Takes (.object a) (.generic raw args)
  | generic {a b : Tag} {as bs : List ParamType} (isA : b.isA a = true) :
      Takes (.generic a as) (.generic b bs)
  | all {a : Tag} {other : ParamType} (object : a.name = "Object") (classless : other.IsClassless) :
      Takes (.object a) other

theorem isAssignableFrom_self (type : ParamType) : type.isAssignableFrom type = true := by
  unfold isAssignableFrom
  rw [Bool.or_eq_true, decide_eq_true_eq]
  exact .inl rfl

/-- A type takes exactly the values that the rules let it take. -/
theorem isAssignableFrom_iff {type other : ParamType} :
    type.isAssignableFrom other = true ↔ type.Takes other := by
  constructor
  · intro h
    unfold isAssignableFrom at h
    rw [Bool.or_eq_true, decide_eq_true_eq] at h
    rcases h with rfl | h
    · exact .same _
    · cases type with
      | object a =>
        cases other with
        | object b => exact .object h
        | generic raw args => exact .raw h
        | scalar kind => cases h
        | boxed kind => exact .all (eq_of_beq h) (.boxed kind)
        | text => exact .all (eq_of_beq h) .text
        | array element => exact .all (eq_of_beq h) (.array element)
        | context kind => exact .all (eq_of_beq h) (.context kind)
      | generic a as =>
        cases other with
        | generic b bs => exact .generic h
        | _ => cases h
      | _ => cases h
  · intro h
    cases h with
    | same => exact type.isAssignableFrom_self
    | object isA | raw isA | generic isA =>
      unfold isAssignableFrom
      rw [Bool.or_eq_true]
      exact .inr isA
    | all object classless =>
      unfold isAssignableFrom
      rw [Bool.or_eq_true]
      cases classless <;> exact .inr (beq_iff_eq.2 object)

theorem eq_of_isAssignableFrom {type other : ParamType}
    (h : type.isAssignableFrom other = true) (object : ∀ tag, type ≠ .object tag)
    (generic : ∀ raw args, type ≠ .generic raw args) : other = type := by
  cases isAssignableFrom_iff.1 h with
  | same => rfl
  | object | raw | all => exact absurd rfl (object _)
  | generic => exact absurd rfl (generic _ _)

/-- A type whose classes are among some tags. -/
inductive BuiltFrom (tags : List Tag) : ParamType → Prop
  | scalar (kind : Scalar) : BuiltFrom tags (.scalar kind)
  | boxed (kind : Scalar) : BuiltFrom tags (.boxed kind)
  | text : BuiltFrom tags .text
  | array {element : ParamType} (h : BuiltFrom tags element) : BuiltFrom tags (.array element)
  | object {tag : Tag} (known : tag ∈ tags) : BuiltFrom tags (.object tag)
  | generic {raw : Tag} {args : List ParamType} (known : raw ∈ tags)
      (each : ∀ a ∈ args, BuiltFrom tags a) : BuiltFrom tags (.generic raw args)
  | context (kind : ContextKind) : BuiltFrom tags (.context kind)

variable {tags : List Tag} {x y z : ParamType}

theorem BuiltFrom.of_object {tag : Tag} (h : BuiltFrom tags (.object tag)) : tag ∈ tags := by
  cases h with
  | object known => exact known

theorem BuiltFrom.of_generic {raw : Tag} {args : List ParamType}
    (h : BuiltFrom tags (.generic raw args)) : raw ∈ tags := by
  cases h with
  | generic known => exact known

/-- A type without a class takes its own values alone. -/
theorem Takes.eq_of_isClassless (h : y.Takes z) (classless : y.IsClassless) : z = y := by
  cases classless <;> cases h <;> rfl

open TagDeclaration in
/-- What takes a type that takes another takes that one as well. -/
theorem Takes.trans {ds : List TagDeclaration} (family : IsFamily ds)
    (hx : BuiltFrom (ds.map tag) x) (hy : BuiltFrom (ds.map tag) y) (hz : BuiltFrom (ds.map tag) z)
    (h : x.Takes y) (h' : y.Takes z) : x.Takes z := by
  cases h with
  | same => exact h'
  | object isA =>
    cases h' with
    | same => exact .object isA
    | object isA' =>
      exact .object (isA_trans family hz.of_object hy.of_object hx.of_object isA' isA)
    | raw isA' => exact .raw (isA_trans family hz.of_generic hy.of_object hx.of_object isA' isA)
    | all object classless =>
      exact .all (name_eq_of_isA_of_object family hy.of_object object isA) classless
  | raw isA =>
    cases h' with
    | same => exact .raw isA
    | generic isA' =>
      exact .raw (isA_trans family hz.of_generic hy.of_generic hx.of_object isA' isA)
  | generic isA =>
    cases h' with
    | same => exact .generic isA
    | generic isA' =>
      exact .generic (isA_trans family hz.of_generic hy.of_generic hx.of_generic isA' isA)
  | all object classless =>
    obtain rfl := h'.eq_of_isClassless classless
    exact .all object classless

end ParamType

/-! ## What a family says -/

namespace TagDeclaration

/-- **Descent in a family of tags.** No tag names itself or a class it descends from twice. Tags
descend from themselves, descent is transitive, and it is what chains of declarations lead to. Types
built from the tags take their own values, and what a type takes whose values another takes, that
takes as well. A rescue of some classes handles the failures of all that descend from one of
them. -/
theorem descent_of_family {σ : Type} {ds : List TagDeclaration} (family : IsFamily ds) :
    (∀ t ∈ ds.map tag, (t.name :: t.ancestors).Nodup) ∧
    (∀ t ∈ ds.map tag, t.isA t = true) ∧
    (∀ t ∈ ds.map tag, ∀ u ∈ ds.map tag, ∀ v ∈ ds.map tag,
      t.isA u = true → u.isA v = true → t.isA v = true) ∧
    (∀ t ∈ ds.map tag, ∀ u ∈ ds.map tag,
      t.isA u = true ↔ Relation.ReflTransGen (Extends ds) t u) ∧
    (∀ x : ParamType, x.BuiltFrom (ds.map tag) → x.isAssignableFrom x = true) ∧
    (∀ x y z : ParamType, x.BuiltFrom (ds.map tag) → y.BuiltFrom (ds.map tag) →
      z.BuiltFrom (ds.map tag) → x.isAssignableFrom y = true → y.isAssignableFrom z = true →
      x.isAssignableFrom z = true) ∧
    ∀ a : Aspect σ, (∀ c ∈ a.rescues, c ∈ ds.map tag) → ∀ t ∈ ds.map tag,
      a.handles t = true ↔ ∃ c ∈ a.rescues, Relation.ReflTransGen (Extends ds) t c := by
  refine ⟨fun t ht => ?_, fun t _ => t.isA_self,
    fun t ht u hu v hv => isA_trans family ht hu hv, fun t ht u hu => isA_iff_chain family ht hu,
    fun x _ => x.isAssignableFrom_self, fun x y z hx hy hz h h' => ?_, fun a known t ht => ?_⟩
  · obtain ⟨d, -, rfl⟩ := List.mem_map.1 ht
    exact d.nodup_lineage_tag
  · rw [ParamType.isAssignableFrom_iff] at h h' ⊢
    exact h.trans family hx hy hz h'
  · unfold Aspect.handles
    rw [List.any_eq_true]
    exact exists_congr fun c => and_congr_right fun hc => isA_iff_chain family ht (known c hc)

/-- Two built-in classes of failures with a class that descends from both. -/
def refusals : List TagDeclaration :=
  [{ name := "RefusedUserException", parents := [.notFound, .validation] },
    { name := "NotFoundException", parents := [.exception] },
    { name := "ValidationException", parents := [.exception] },
    { name := "Exception" }, { name := "Object" }]

theorem isFamily_refusals : IsFamily refusals where
  complete := by
    refine .cons (.cons (.cons (.cons (.cons .nil ?_) ?_) ?_) ?_) ?_ <;> decide
  unique := by decide
  object := by decide

/-- A rescue of all failures. -/
def rescuing : Aspect Unit where
  owner := "Users"
  method := "rescue"
  kind := .rescue
  rescues := [.exception]
  body := fun _ _ => pure { model := .empty }

/-- The class that descends from both. -/
def refusedUser : Tag := ((Tag.ofName "RefusedUserException").extend .notFound).extend .validation

/-- Failures of a class that descends from a rescued one along two ways are rescued. -/
theorem descent_of_family_refusals :
    IsFamily refusals ∧ refusedUser ∈ refusals.map tag ∧
      refusedUser.ancestors = ["NotFoundException", "Exception", "ValidationException"] ∧
      rescuing.handles refusedUser = true ∧
      ParamType.isAssignableFrom (.object .exception) (.generic refusedUser [.text]) = true := by
  obtain ⟨-, -, -, -, -, takes, handled⟩ := descent_of_family (σ := Unit) isFamily_refusals
  have known : refusedUser ∈ refusals.map tag := by decide
  have middle : Tag.notFound ∈ refusals.map tag := by decide
  have top : Tag.exception ∈ refusals.map tag := by decide
  refine ⟨isFamily_refusals, known, by decide, ?_, ?_⟩
  · refine (handled rescuing (List.forall_mem_singleton.2 top) _ known).2
      ⟨.exception, List.mem_singleton_self _, ?_⟩
    have first : Extends refusals refusedUser .notFound :=
      ⟨_, List.mem_cons_self, rfl, List.mem_cons_self⟩
    have second : Extends refusals .notFound .exception :=
      ⟨_, List.mem_cons_of_mem _ List.mem_cons_self, rfl, List.mem_cons_self⟩
    exact .head first (.head second .refl)
  · exact takes _ (.object .notFound) _ (.object top) (.object middle)
      (.generic known (List.forall_mem_singleton.2 .text)) (by decide) (by decide)

end TagDeclaration

end Switchboard
