import Switchboard.Call.Action

/-!
# Declared handlers

A handler as an application declares it. Under a route it gets the aspects of its class, and no two
of its parameters may take their values from one name.
-/

namespace Switchboard

/-- A handler without a route. -/
structure Declaration (σ : Type) where
  type : String
  method : String
  params : List Parameter := []
  markers : List Marker := []
  view : Option String := none
  body : Body σ

/-- Two parameters of a handler that are sent under one name. -/
structure DuplicateSource where
  handler : String
  name : String
  deriving DecidableEq, Repr

/-- How the failure reads. -/
def DuplicateSource.message (e : DuplicateSource) : String :=
  s!"{e.handler} declares the source name `{e.name}` more than once"

/-- The first text that was there before in a list. -/
def firstRepeated? : (seen : List String) → List String → Option String
  | _, [] => none
  | seen, s :: rest => if seen.contains s then some s else firstRepeated? (s :: seen) rest

namespace Declaration
variable {σ : Type}

/-- The name shown for a handler. -/
def name (d : Declaration σ) : String := s!"{d.type}#{d.method}"

/-- The names that values are sent under, in order of declaration. -/
def sourceNames (d : Declaration σ) : List String :=
  (d.params.filter fun p => !p.isContext).map Parameter.sourceName

/-- The handler under a route, with the aspects that run for it. -/
def attach (d : Declaration σ) (aspects : AspectRegistry σ) (verb : Verb) (pattern : String) :
    Except DuplicateSource (Handler σ) :=
  match firstRepeated? [] d.sourceNames with
  | some source => .error ⟨d.name, source⟩
  | none => .ok {
      type := d.type
      method := d.method
      verb, pattern
      params := d.params
      markers := d.markers
      view := d.view
      aspects := aspects.resolveFor d.type (d.markers.map (·.name))
      body := d.body }

end Declaration

end Switchboard
