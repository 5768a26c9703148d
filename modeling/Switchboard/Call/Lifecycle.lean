import Switchboard.Bind.Manager
import Switchboard.Call.Action

/-!
# The course of a call

The aspects before the handler, the binding of its arguments, the handler, the aspects after it. The
first failure ends this; a rescue that handles the failure may put a reply in its place. The aspects
that run in any case come last and change nothing of the outcome.
-/

namespace Switchboard

/-- What a call came to: a model, and the name of the view it is for. -/
structure Outcome where
  model : Model
  view : Option String
  deriving Inhabited

/-- A course of steps over an exchange that a failure ends. -/
abbrev Course (σ α : Type) := ExceptT Failure (StateM (Exchange σ)) α

/-- What gives a handler its arguments: it reads the request and may change the world of the
application. -/
abbrev Binding (σ : Type) := Request → ExceptT Failure (StateM σ) (List Value)

/-- A binding that reads the request and changes nothing. -/
def Binding.reading {σ : Type} (f : Request → Except Failure (List Value)) : Binding σ :=
  fun request => ExceptT.mk (pure (f request))

namespace Lifecycle
variable {σ : Type}

/-- The outcome of a reply; a view it names goes before the one declared. -/
def outcome (reply : Reply) (declared : Option String) : Outcome :=
  ⟨reply.model, reply.view.or declared⟩

/-- Calls a body. -/
def callBody (body : Body σ) (args : List Value) (cause : Option Failure) : Course σ Reply :=
  ExceptT.mk do
    match ← (body args cause).run with
    | .ok reply => return .ok reply
    | .error fault => return .error (.raised fault)

/-- Binds the arguments of a handler. -/
def callBinding (bind : Binding σ) : Course σ (List Value) :=
  ExceptT.mk do
    let x ← get
    let (result, world) := (bind x.request).run.run x.world
    set { x with world }
    return result

/-- Calls an aspect with the parts of the call that it asks for. -/
def callAspect (a : Aspect σ) (cause : Option Failure) : Course σ Reply := do
  let x ← get
  callBody a.body (contextArguments x.request a.params cause) cause

/-- Calls aspects in order up to the first that fails. -/
def callAll : List (Aspect σ) → Course σ Unit
  | [] => return ()
  | a :: rest => do
    let _ ← callAspect a none
    callAll rest

/-- Calls aspects in order, whatever they return. -/
def callEach (cause : Option Failure) : List (Aspect σ) → StateM (Exchange σ) Unit
  | [] => return ()
  | a :: rest => do
    let _ ← (callAspect a cause).run
    callEach cause rest

/-- The call as it goes if nothing fails. -/
def attempt (h : Handler σ) (bind : Binding σ) : Course σ Outcome := do
  callAll h.aspects.before
  let args ← callBinding bind
  let reply ← callBody h.body args none
  callAll h.aspects.after
  return outcome reply h.view

/-- Lets the first rescue that handles a failure reply in its place. -/
def recover (h : Handler σ) (failure : Failure) : Course σ Outcome :=
  match h.aspects.rescueFor failure.tag with
  | none => throw failure
  | some a => do
    let reply ← callAspect a (some failure)
    return outcome reply a.view

/-- The whole course of a call. -/
def execute (h : Handler σ) (bind : Binding σ) : Course σ Outcome :=
  ExceptT.mk do
    let result ←
      match ← (attempt h bind).run with
      | .ok found => pure (.ok found)
      | .error failure => (recover h failure).run
    let cause : Option Failure := match result with
      | .ok _ => none
      | .error failure => some failure
    callEach cause h.aspects.ensure
    return result

end Lifecycle

end Switchboard
