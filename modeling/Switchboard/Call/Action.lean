import Switchboard.Call.Aspect
import Switchboard.Time.Calendar

/-!
# Actions

What a route leads to: a handler, a static resource, a redirect, a fixed status, or nothing.
-/

namespace Switchboard

/-- The name in a segment of a pattern that stands for any text: letters, digits, `_` and `-` in
braces. -/
def placeholder? (segment : String) : Option String :=
  match segment.toList with
  | '\x7b' :: rest =>
    let name := rest.dropLast
    let isNameChar (c : Char) : Bool := c.isAlphanum || c == '_' || c == '-'
    if rest.getLast? = some '\x7d' && name ≠ [] && name.all isNameChar then
      some (String.ofList name)
    else none
  | _ => none

/-- The texts that a path has in place of a pattern's names. Empty segments do not count. -/
def pathVariables (pattern path : String) : Dictionary (List String) :=
  let pairs := (Text.segments '/' pattern).zip (Text.segments '/' path)
  Dictionary.ofPairs (pairs.filterMap fun (p, value) =>
    (placeholder? p).map fun name => (name, [value]))

/-- A handler under its route. -/
structure Handler (σ : Type) where
  type : String
  method : String
  verb : Verb
  pattern : String
  params : List Parameter := []
  markers : List Marker := []
  /-- The view declared for what it replies. -/
  view : Option String := none
  aspects : AspectSet σ := {}
  body : Body σ

namespace Handler
variable {σ : Type}

/-- The name shown for a handler. -/
def name (h : Handler σ) : String := s!"{h.type}#{h.method}"

/-- The parameters that take values from the request. -/
def ownParams (h : Handler σ) : List Parameter := h.params.filter fun p => !p.isContext

end Handler

/-- What a route leads to. -/
inductive Action (σ : Type) where
  | handler (h : Handler σ)
  /-- A file, with the path that led to it. -/
  | resource (path contentType : String) (contents : ByteArray) (modified : Time.Stamp)
  /-- Sends a path to itself with a slash at the end. -/
  | redirect (path : String)
  | status (path : String) (code : Status)
  /-- No route. -/
  | nothing
  /-- A procedure whose overloads all refuse the payload. -/
  | invalid

namespace Action
variable {σ : Type}

instance : Inhabited (Action σ) := ⟨nothing⟩

/-- Is it that there is no route? -/
def isNothing : Action σ → Bool
  | nothing => true
  | _ => false

/-- The kind of an action. -/
def kind : Action σ → String
  | handler _ => "method"
  | resource .. | redirect _ => "static"
  | status .. => "status"
  | nothing => "null"
  | invalid => "invalid"

/-- How an action is shown. -/
def display : Action σ → String
  | handler h => h.name
  | resource path .. | redirect path => s!"static:{path}"
  | status _ code => s!"status:{code}"
  | nothing => "null"
  | invalid => "invalid"

end Action

end Switchboard
