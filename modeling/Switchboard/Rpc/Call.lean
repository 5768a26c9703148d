import Switchboard.Answer.Dispatcher
import Switchboard.Rpc.Overload

/-!
# Calls of procedures

The arguments of a procedure come from its payload, without binders, before any aspect runs. What it
replies is always written as a document.
-/

namespace Switchboard

namespace RpcMatch
variable {σ : Type}

/-- The arguments that a payload of named fields gives some parameters. -/
def namedArguments (request : Request) (fields : Dictionary Json) (params : List Parameter) :
    List Value :=
  params.map fun p =>
    match p.type with
    | .context kind => Binder.contextValue { request, param := some p } kind
    | type => ((Dictionary.get? fields p.sourceName).map (Value.ofJson type)).getD .null

/-- The arguments that a payload of listed items gives some parameters. A parameter that stands for
a part of the call takes no item. -/
def listedArguments (request : Request) : List Json → List Parameter → List Value
  | _, [] => []
  | items, p :: rest =>
    match p.type with
    | .context kind =>
      Binder.contextValue { request, param := some p } kind :: listedArguments request items rest
    | type =>
      ((items.head?.map (Value.ofJson type)).getD .null) ::
        listedArguments request items.tail rest

/-- The arguments of a call in order of declaration. -/
def arguments (found : RpcMatch σ) (request : Request) : List Value :=
  match found.payload with
  | .named fields => namedArguments request fields found.handler.params
  | .listed items => listedArguments request items found.handler.params

end RpcMatch

namespace Dispatcher
variable {σ : Type}

/-- Calls a procedure. -/
def callProcedure (found : RpcMatch σ) : Course σ Unit := do
  let x ← get
  let args := found.arguments x.request
  let reply ← Lifecycle.execute found.handler (.reading fun _ => .ok args)
  onResponse (View.json reply.model)

end Dispatcher

end Switchboard
