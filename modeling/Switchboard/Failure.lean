import Switchboard.Http.Verb
import Switchboard.Http.Response
import Switchboard.Param.Tag

/-!
# Failures

What can go wrong between a request and its response. Every failure has a class, so that aspects
that catch failures match those of handlers and those found before a handler runs alike.
-/

namespace Switchboard

/-- A failure raised by a handler or an aspect, with the texts of what caused it, the outermost
first. -/
structure Fault where
  tag : Tag
  message : String
  causes : List String := []
  deriving DecidableEq, Repr, Inhabited

namespace Fault

/-- What was asked for is not there. -/
def notFound (message : String) : Fault := { tag := .notFound, message }

/-- An argument is not acceptable. -/
def illegalArgument (message : String) : Fault := { tag := .illegalArgument, message }

end Fault

/-- The parameter that a validator refused, by its source name, and the validator's marker. -/
structure Refusal where
  parameter : String
  marker : String
  deriving DecidableEq, Repr, Inhabited

/-- Why a request could not be served. -/
inductive Failure where
  | routeNotFound (verb : Verb) (path : String)
  | refused (refusal : Refusal)
  | noOverload (path : String)
  | malformedPayload (reason : String)
  | raised (fault : Fault)
  | noView (name : String)
  deriving DecidableEq, Repr, Inhabited

namespace Failure

/-- The class of a failure. -/
def tag : Failure → Tag
  | routeNotFound _ _ => .notFound
  | refused _ => .validation
  | noOverload _ => .illegalArgument
  | malformedPayload _ => .unsupportedOperation
  | raised fault => fault.tag
  | noView _ => .invalidView

/-- Is it that something is not there, whoever says so? -/
def isNotFound (f : Failure) : Bool := f.tag.isA (.ofName "NotFoundException")

/-- The status that tells of a failure. -/
def status (f : Failure) : Status :=
  if f.isNotFound then 404
  else match f with
    | refused _ | noOverload _ | malformedPayload _ => 400
    | raised _ | noView _ | routeNotFound _ _ => 500

/-- What went wrong, without the class. -/
def message : Failure → String
  | routeNotFound verb path => s!"no route for {verb.name} {path}"
  | refused refusal => s!"{refusal.parameter} is not valid"
  | noOverload path => s!"no overload of {path} accepts the payload"
  | malformedPayload reason => s!"malformed payload: {reason}"
  | raised fault => fault.message
  | noView name => s!"no view available to render {name}"

/-- What went wrong as a client reads it; a handler's failure shows its class. -/
def display : Failure → String
  | raised fault => s!"{fault.tag.name}: {fault.message}"
  | other => other.message

/-- The texts of what caused a failure. -/
def causes : Failure → List String
  | raised fault => fault.causes
  | _ => []

/-- The class and message of a failure, and a line for each cause. -/
def trace (f : Failure) : String :=
  String.intercalate "\n"
    (s!"{f.tag.name}: {f.message}" :: f.causes.map fun cause => s!"caused by: {cause}")

end Failure

end Switchboard
