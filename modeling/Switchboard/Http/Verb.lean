import Switchboard.Text.Split

/-!
# Verbs

What a request asks to be done: the methods of HTTP, and `WS` for what arrives over a socket.
-/

namespace Switchboard

/-- A request verb. -/
inductive Verb where
  | get | post | head | options | put | patch | delete | trace | ws
  deriving DecidableEq, Repr, Inhabited

namespace Verb

/-- Every verb, in the order in which tables list them. -/
def all : List Verb := [get, post, head, options, put, patch, delete, trace, ws]

/-- The name of a verb. -/
def name : Verb → String
  | get => "GET"
  | post => "POST"
  | head => "HEAD"
  | options => "OPTIONS"
  | put => "PUT"
  | patch => "PATCH"
  | delete => "DELETE"
  | trace => "TRACE"
  | ws => "WS"

end Verb

/-- A text that names no verb, in upper case and without blanks around it. -/
structure UnknownVerb where
  text : String
  deriving DecidableEq, Repr

/-- How the failure reads. -/
def UnknownVerb.message (e : UnknownVerb) : String := s!"unknown verb `{e.text}`"

namespace Verb

/-- Reads a verb in letters of either case, with blanks around it or not. -/
def parse (s : String) : Except UnknownVerb Verb :=
  let word := Text.upper (Text.trim s)
  match all.find? (·.name == word) with
  | some v => .ok v
  | none => .error ⟨word⟩

end Verb

end Switchboard
