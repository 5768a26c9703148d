import Switchboard.Call.Model
import Switchboard.Param.Parameter

/-!
# Aspects

Bodies that run around a handler: before it, after it, when something failed, or in any case. An
action carries the aspects of its handler's class and of that class's companions, each identity
once, in order of priority.
-/

namespace Switchboard

/-- When an aspect runs. -/
inductive AspectKind where
  | before
  | after
  /-- When something failed. -/
  | rescue
  /-- In any case, at the end. -/
  | ensure
  deriving DecidableEq, Repr

/-- Every kind. -/
def AspectKind.all : List AspectKind := [before, after, rescue, ensure]

/-- The name of a kind. -/
def AspectKind.name : AspectKind → String
  | before => "before"
  | after => "after"
  | rescue => "catch"
  | ensure => "finally"

/-- An aspect. -/
structure Aspect (σ : Type) where
  owner : String
  method : String
  kind : AspectKind
  /-- Lower runs earlier. -/
  priority : Int := 0
  /-- Runs only for actions with one of these markers, if there are any. -/
  onlyWith : List String := []
  /-- Runs only for actions with none of these markers. -/
  notWith : List String := []
  /-- The classes of failures a rescue handles. -/
  rescues : List Tag := []
  /-- The view for what a rescue replies. -/
  view : Option String := none
  params : List Parameter := []
  body : Body σ

namespace Aspect
variable {σ : Type}

/-- The name shown for an aspect. -/
def name (a : Aspect σ) : String := s!"{a.owner}#{a.method}"

/-- Do two aspects have one owner and one name? -/
def sameIdentity (a b : Aspect σ) : Bool := a.owner == b.owner && a.method == b.method

/-- Does the aspect run for an action with these markers? The markers to avoid do not matter where
there are markers to have. -/
def appliesTo (a : Aspect σ) (markers : List String) : Bool :=
  if !a.onlyWith.isEmpty then a.onlyWith.any markers.contains
  else !a.notWith.any markers.contains

/-- Does the aspect handle failures of a class? -/
def handles (a : Aspect σ) (tag : Tag) : Bool := a.rescues.any tag.isA

end Aspect

/-- The aspects of an action by kind, each list in the order in which they run. -/
structure AspectSet (σ : Type) where
  before : List (Aspect σ) := []
  after : List (Aspect σ) := []
  rescue : List (Aspect σ) := []
  ensure : List (Aspect σ) := []

namespace AspectSet
variable {σ : Type}

instance : Inhabited (AspectSet σ) := ⟨{}⟩

/-- The aspects of one kind. -/
def get (s : AspectSet σ) : AspectKind → List (Aspect σ)
  | .before => s.before
  | .after => s.after
  | .rescue => s.rescue
  | .ensure => s.ensure

/-- Changes the list of each kind. -/
def map (f : List (Aspect σ) → List (Aspect σ)) (s : AspectSet σ) : AspectSet σ :=
  ⟨f s.before, f s.after, f s.rescue, f s.ensure⟩

/-- Adds an aspect behind those of a list, unless one of its identity is there. -/
def addTo (list : List (Aspect σ)) (a : Aspect σ) : List (Aspect σ) :=
  if list.any a.sameIdentity then list else list ++ [a]

/-- Adds an aspect to those of its kind. -/
def insert (s : AspectSet σ) (a : Aspect σ) : AspectSet σ :=
  match a.kind with
  | .before => { s with before := addTo s.before a }
  | .after => { s with after := addTo s.after a }
  | .rescue => { s with rescue := addTo s.rescue a }
  | .ensure => { s with ensure := addTo s.ensure a }

/-- Sorts each list by priority; those of one priority keep their order. -/
def sort (s : AspectSet σ) : AspectSet σ :=
  s.map fun list => list.mergeSort fun a b => a.priority ≤ b.priority

/-- The aspects that run for an action with these markers. -/
def filtered (s : AspectSet σ) (markers : List String) : AspectSet σ :=
  s.map fun list => list.filter (·.appliesTo markers)

/-- The first rescue that handles failures of a class. -/
def rescueFor (s : AspectSet σ) (tag : Tag) : Option (Aspect σ) :=
  s.rescue.find? (·.handles tag)

/-- The number of aspects. -/
def size (s : AspectSet σ) : Nat :=
  s.before.length + s.after.length + s.rescue.length + s.ensure.length

end AspectSet

/-- The aspects declared by each class, and the companions of handlers' classes. -/
structure AspectRegistry (σ : Type) where
  declared : Dictionary (List (Aspect σ)) := []
  companions : Dictionary (List String) := []

namespace AspectRegistry
variable {σ : Type}

instance : Inhabited (AspectRegistry σ) := ⟨{}⟩

/-- The aspects a class declares, in order of registration. -/
def declaredBy (r : AspectRegistry σ) (owner : String) : List (Aspect σ) :=
  (Dictionary.get? r.declared owner).getD []

/-- The companions of a class, in order of first mention. -/
def companionsOf (r : AspectRegistry σ) (type : String) : List String :=
  (Dictionary.get? r.companions type).getD []

/-- Is an aspect of this identity declared? -/
def contains (r : AspectRegistry σ) (a : Aspect σ) : Bool :=
  (r.declaredBy a.owner).any a.sameIdentity

/-- Declares an aspect on its owner, unless one of its identity is declared. -/
def register (r : AspectRegistry σ) (a : Aspect σ) : AspectRegistry σ :=
  if r.contains a then r
  else { r with declared := Dictionary.put a.owner (r.declaredBy a.owner ++ [a]) r.declared }

/-- Gives a class companions, each one once. -/
def use (r : AspectRegistry σ) (type : String) (companions : List String) : AspectRegistry σ :=
  let add (l : List String) (c : String) : List String := if l.contains c then l else l ++ [c]
  { r with
    companions := Dictionary.put type (companions.foldl add (r.companionsOf type)) r.companions }

/-- The aspects of a class: its own, then those of each companion. -/
def resolve (r : AspectRegistry σ) (type : String) : AspectSet σ :=
  (((type :: r.companionsOf type).flatMap r.declaredBy).foldl AspectSet.insert {}).sort

/-- The aspects of an action of a class with these markers. -/
def resolveFor (r : AspectRegistry σ) (type : String) (markers : List String) : AspectSet σ :=
  (r.resolve type).filtered markers

end AspectRegistry

end Switchboard
