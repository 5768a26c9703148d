import Switchboard.Failure
import Switchboard.Http.Request
import Switchboard.Json.Printer
import Switchboard.Param.Value

/-!
# Calls and replies

A handler or aspect is called with bound arguments while a request and a response are in motion. It
may change both, and whatever world the application keeps, and it replies with a model or raises a
fault. A model becomes a response through a view.
-/

namespace Switchboard

/-- What a handler has to show, before a view renders it. -/
inductive Model where
  | empty
  | json (node : Json)
  | text (s : String)
  | bytes (data : ByteArray)
  /-- A whole response, for the view that copies one. -/
  | raw (response : Response)
  deriving Inhabited

namespace Model

/-- The model as a document. -/
def toJson : Model → Json
  | empty => .null
  | json node => node
  | text s => .text s
  | bytes data => .text (Utf8.decode data)
  | raw response => .text response.bodyText

/-- The model as a message to a socket: text as it is, all else as the text of a document. -/
def toMessage : Model → String
  | empty => ""
  | text s => s
  | other => other.toJson.render

end Model

/-- What a handler answers: a model, and the view to render it with if it names one. -/
structure Reply where
  model : Model
  view : Option String := none
  deriving Inhabited

/-- What is in motion while a call is served; `σ` is the world of the application. -/
structure Exchange (σ : Type) where
  request : Request
  response : Response
  world : σ

/-- The body of a handler or aspect, called with its arguments and the failure being handled. -/
abbrev Body (σ : Type) := List Value → Option Failure → ExceptT Fault (StateM (Exchange σ)) Reply

namespace Arguments

/-- The argument at an index; null past the end. -/
def get (args : List Value) (i : Nat) : Value := args[i]?.getD .null

/-- Takes the argument at an index out, leaving null in its place. -/
def take (args : List Value) (i : Nat) : Value × List Value := (get args i, args.set i .null)

end Arguments

end Switchboard
