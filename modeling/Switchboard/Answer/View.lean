import Switchboard.Call.Model

/-!
# Views

A view writes a model onto a response. A view that is not registered gives way to the default one.
-/

namespace Switchboard

/-- Writes a model onto a response, or fails. -/
abbrev View := Model → Request → ExceptT Failure (StateM Response) Unit

namespace View

/-- Documents. An empty model leaves the output as it is. -/
def json : View := fun model _ => do
  modify fun r => { r with contentType := some "application/json" }
  match model with
  | .empty => return ()
  | other => modify fun r => { r with output := some other.toJson.render.toUTF8 }

/-- Pages: texts and bytes as they are, and documents as their text. -/
def html : View := fun model _ =>
  modify fun r =>
    { r with
      contentType := some "text/html"
      output := match model with
        | .empty => none
        | .text s => some s.toUTF8
        | .bytes data => some data
        | other => some other.toMessage.toUTF8 }

/-- Copies a response that a handler made. -/
def raw : View := fun model _ =>
  match model with
  | .raw given => modify fun r =>
    { given.cookies.foldl Response.setCookie r with
      status := given.status
      encoding := given.encoding
      contentType := given.contentType
      output := given.output
      headers := ⟨r.headers.fields ++ given.headers.fields⟩ }
  | _ => throw (.noView "raw view needs a response model")

/-- The place a URL leads to: one that begins with `http` as it is, any other on the host and port
of the request. -/
def absoluteUrl (request : Request) (url : String) : String :=
  if Text.startsWith "http" url then url
  else
    let host := request.host.getD "localhost"
    s!"http://{host}:{request.port}{url}"

/-- The URL that a model names. -/
def urlOf? : Model → Option String
  | .text url => some url
  | .json (.text url) => some url
  | _ => none

/-- Sends the client to a URL. -/
def redirect : View := fun model request =>
  match urlOf? model with
  | some url =>
    modify fun r => { r with status := 301 }.setHeader "location" (absoluteUrl request url)
  | none => throw (.noView "redirect view needs a URL")

end View

/-- The views in force. -/
structure Views where
  named : Dictionary View :=
    Dictionary.ofPairs
      [("json", .json), ("html", .html), ("raw", .raw), ("redirect", .redirect)]
  default : String := "json"

namespace Views

/-- Registers a view, in place of an earlier one of its name. -/
def register (v : Views) (name : String) (view : View) : Views :=
  { v with named := Dictionary.put name view v.named }

/-- The view of a name if there is one, else the default. -/
def resolve (v : Views) (name : Option String) : Except Failure View :=
  match (name.bind (Dictionary.get? v.named ·)).or (Dictionary.get? v.named v.default) with
  | some view => .ok view
  | none => .error (.noView (name.getD v.default))

end Views

end Switchboard
