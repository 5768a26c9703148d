import Switchboard.Call.Action
import Switchboard.Json.Reader
import Switchboard.Rpc.Shape

/-!
# Overloads of procedures

A path of a procedure has candidates in order of registration. The payload of a call is an object
that names the parameters or an array that lists them, and the first candidate that it fits is
called. Parameters that stand for parts of the call are not in the payload.
-/

namespace Switchboard

/-- The payload of a call: its parameters by name or in order. -/
inductive Payload where
  | named (fields : Dictionary Json)
  | listed (items : List Json)
  deriving Inhabited

namespace Payload
variable {σ : Type}

/-- Does a candidate take a payload? -/
def fits (h : Handler σ) : Payload → Bool
  | named fields =>
    h.ownParams.length == fields.length &&
      h.ownParams.all fun p => (Dictionary.get? fields p.sourceName).any p.type.accepts
  | listed items =>
    h.ownParams.length == items.length &&
      (h.ownParams.zip items).all fun (p, node) => p.type.accepts node

/-- The text of a payload: an empty one is an empty object or an empty array. -/
def textOf (byName : Bool) (body : String) : String :=
  let text := Text.trim body
  if text = "" then if byName then "\x7b\x7d" else "[]" else text

/-- The payload that a document is, in the form asked for. -/
def ofJson : (byName : Bool) → Json → Except Failure Payload
  | true, .object fields => .ok (named fields)
  | false, .array items => .ok (listed items)
  | true, _ => .error (.malformedPayload "expected a JSON object")
  | false, _ => .error (.malformedPayload "expected a JSON array")

end Payload

/-- A candidate with the payload that it takes. -/
structure RpcMatch (σ : Type) where
  handler : Handler σ
  payload : Payload

/-- The candidates by path, in order of registration. -/
structure RpcTable (σ : Type) where
  candidates : Dictionary (List (Handler σ)) := []

namespace RpcTable
variable {σ : Type}

instance : Inhabited (RpcTable σ) := ⟨{}⟩

/-- Adds a candidate behind those of its path. -/
def add (t : RpcTable σ) (path : String) (h : Handler σ) : RpcTable σ :=
  ⟨Dictionary.modify t.candidates path fun old => old.getD [] ++ [h]⟩

/-- Has the path candidates? -/
def contains (t : RpcTable σ) (path : String) : Bool :=
  (Dictionary.get? t.candidates path).isSome

/-- Is there no candidate at all? -/
def isEmpty (t : RpcTable σ) : Bool := t.candidates.isEmpty

/-- The name of a candidate with the types of its payload. -/
def signature (h : Handler σ) : String :=
  let types := String.intercalate ", " (h.ownParams.map (·.type.display))
  s!"{h.name}({types})"

/-- The signatures of each path's candidates. -/
def entries (t : RpcTable σ) : Dictionary (List String) :=
  Dictionary.mapValues (List.map signature) t.candidates

/-- The candidate that a request calls. Where there is no such path, or no document in the body,
there is no route. -/
def resolve (t : RpcTable σ) (path : String) (request : Request) :
    Except Failure (RpcMatch σ) :=
  match Dictionary.get? t.candidates path with
  | none => .error (.routeNotFound request.verb path)
  | some candidates =>
    let byName := request.usesParameterNames
    match Json.parse? (Payload.textOf byName request.bodyText) with
    | none => .error (.routeNotFound request.verb path)
    | some document => do
      let payload ← Payload.ofJson byName document
      match candidates.find? (payload.fits ·) with
      | some handler => return ⟨handler, payload⟩
      | none => throw (.noOverload path)

/-- The action that a request calls. -/
def route (t : RpcTable σ) (path : String) (request : Request) : Action σ :=
  match t.resolve path request with
  | .ok found => .handler found.handler
  | .error (.routeNotFound _ _) => .nothing
  | .error _ => .invalid

end RpcTable

end Switchboard
