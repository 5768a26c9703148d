import Switchboard.Call.Model

/-!
# Answers to failures

What a client gets when a failure has not been handled: a status and a short text, or for a
procedure a document. Only clients' own mistakes are told in words.
-/

namespace Switchboard

/-- Writes the page for what is not there. -/
abbrev NotFoundPage := Request → Response → Response

/-- A plain text naming what is not there. -/
def NotFoundPage.plain : NotFoundPage := fun request r =>
  { r with
    contentType := some "text/plain"
    output := some s!"Not Found: {request.verb.name} {request.path}".toUTF8 }

namespace Failure

/-- The fields that tell a client of a procedure what went wrong, in their order. -/
def rpcFields (f : Failure) : List (String × Json) :=
  [("type", .text f.tag.name), ("message", .text f.message)] ++
    match f with
    | routeNotFound _ _ => []
    | _ => [("stacktrace", .text f.trace)]

/-- The document that tells a client of a procedure what went wrong. -/
def rpcBody (f : Failure) : String := (Json.object f.rpcFields).render

/-- Answers a request that failed. -/
def respond (f : Failure) (page : NotFoundPage) (request : Request) (r : Response) : Response :=
  let r := { r with status := f.status, cause := some f.trace, output := none, contentType := none }
  if f.isNotFound then page request r
  else
    let body := if 500 ≤ f.status then "Internal Server Error" else f.display
    { r with contentType := some "text/plain", output := some body.toUTF8 }

/-- Answers a call of a procedure that failed. -/
def respondRpc (f : Failure) (r : Response) : Response :=
  { r with
    status := f.status
    cause := some f.trace
    contentType := some "application/json"
    output := some f.rpcBody.toUTF8 }

end Failure

end Switchboard
