import Switchboard.Answer.FailureAnswer
import Switchboard.Route.Router
import Switchboard.Rpc.Call
import Switchboard.Socket.Clock

/-!
# The engine

What serves requests, calls of procedures and messages over sockets. The engine itself never
changes; what changes while it serves is kept beside it.
-/

namespace Switchboard

/-- What serves. -/
structure Engine (σ : Type) where
  routes : Routes σ
  procedures : RpcTable σ
  dispatcher : Dispatcher
  /-- The page for what is not there. -/
  page : NotFoundPage
  /-- The header, in lower case, that tells whether a payload names its parameters. -/
  parameterNamesHeader : String

/-- What surrounds a call: the files there are, and the reading of the clock. -/
structure Surroundings where
  files : FileSystem
  now : Int

/-- What changes while an engine serves. -/
structure Service (σ : Type) where
  caches : RoutingCaches σ
  hub : Hub σ
  world : σ

/-- A line of the list of all routes. -/
inductive ListedRoute where
  | route (verb : Verb) (path target : String)
  | procedure (path candidate : String)
  | push (path : String)
  deriving DecidableEq, Repr

namespace Engine
variable {σ α : Type}

/-- The action of a path. -/
def route (e : Engine σ) (s : Surroundings) (verb : Verb) (path : String) :
    StateM (Service σ) (Action σ) := do
  let service ← get
  let (action, caches) := e.routes.route s.files verb path service.caches
  set { service with caches }
  return action

/-- Runs the course of a request from an empty response. -/
def run (request : Request) (course : Course σ α) :
    StateM (Service σ) (Except Failure α × Exchange σ) := do
  let service ← get
  let (result, exchange) := course.run.run { request, response := {}, world := service.world }
  set { service with world := exchange.world }
  return (result, exchange)

/-- Finds the action of a request and does what it says, and tells whether that could be done. -/
def dispatch (e : Engine σ) (s : Surroundings) (request : Request) :
    StateM (Service σ) (Except Failure Bool × Exchange σ) := do
  let action ← e.route s request.verb request.path
  run request (e.dispatcher.dispatch s.now action)

/-- Answers a request, unless what its action says cannot be done. -/
def handle (e : Engine σ) (s : Surroundings) (request : Request) :
    StateM (Service σ) (Option Response) := do
  match ← e.dispatch s request with
  | (.ok done, x) => return if done then some x.response else none
  | (.error failure, x) => return failure.respond e.page x.request x.response

/-- A call's request with what its headers say of the form of the payload. -/
def withPayloadForm (e : Engine σ) (request : Request) : Request :=
  match request.header? e.parameterNamesHeader with
  | some value =>
    let asked := Text.sameIgnoringCase (Text.trim value) "true"
    request.attach Request.parameterNamesKey (.flag asked)
  | none => request

/-- Answers a call of a procedure. -/
def handleCall (e : Engine σ) (path : String) (request : Request) :
    StateM (Service σ) Response := do
  let request := e.withPayloadForm request
  let course : Course σ Unit :=
    match e.procedures.resolve path request with
    | .ok found => Dispatcher.callProcedure found
    | .error failure => throw failure
  match ← run request course with
  | (.ok (), x) => return x.response
  | (.error failure, x) => return failure.respondRpc x.response

/-- May a socket be opened on a path? It may where there are pushes, or a handler of messages. -/
def acceptsSocket (e : Engine σ) (s : Surroundings) (path : String) : StateM (Service σ) Bool := do
  if (← get).hub.hasPushes path then return true
  match ← e.route s .ws path with
  | .handler _ => return true
  | _ => return false

/-- The request that a message over a socket makes: the one that opened it, with the message as its
body. -/
def messageRequest (path : String) (handshake : Request) (text : String) : Request :=
  { handshake with verb := .ws, path, body := text.toUTF8 }.attach Request.bodyKey (.text text)

/-- Answers a message over a socket, if there is a handler and it has something to say. -/
def handleMessage (e : Engine σ) (s : Surroundings) (path : String) (handshake : Request)
    (text : String) : StateM (Service σ) (Option String) := do
  match ← e.route s .ws path with
  | .handler h =>
    match ← run (messageRequest path handshake text) (e.dispatcher.invoke h) with
    | (.ok found, _) =>
      let document := found.model.toJson
      return if document.isNull then none else some document.render
    | (.error failure, _) => return some failure.rpcBody
  | _ => return none

/-- What a push has to say: a text that is not empty. -/
def speak (e : Engine σ) : Speaker σ := fun push request => do
  let world ← get
  let (result, exchange) :=
    (e.dispatcher.invokeWithDefaults push.handler).run.run { request, response := {}, world }
  set exchange.world
  match result with
  | .ok found => return some found.model.toMessage |>.filter (· ≠ "")
  | .error _ => return none

/-- Some milliseconds go by. -/
def wait (e : Engine σ) (milliseconds : Nat) : StateM (Service σ) Unit := do
  let service ← get
  let (hub, world) := (Hub.advance e.speak milliseconds service.hub).run service.world
  set { service with hub, world }

/-- Changes the hub. -/
def onHub (f : Hub σ → α × Hub σ) : StateM (Service σ) α := do
  let service ← get
  let (result, hub) := f service.hub
  set { service with hub }
  return result

/-- All routes, then the candidates of all procedures, then the paths of all pushes. -/
def listRoutes (e : Engine σ) (hub : Hub σ) : List ListedRoute :=
  e.routes.entries.map (fun (verb, path, target) => .route verb path target) ++
    e.procedures.entries.flatMap (fun (path, signatures) => signatures.map (.procedure path)) ++
    hub.pushPaths.map .push

end Engine

end Switchboard
