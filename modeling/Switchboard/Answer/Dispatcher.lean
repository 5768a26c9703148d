import Switchboard.Answer.View
import Switchboard.Call.Lifecycle
import Switchboard.Time.HttpDate

/-!
# From action to response

A handler runs its course and a view renders what it came to. A static resource is sent whole,
unless the client has it already. All else is a status or a failure.
-/

namespace Switchboard

/-- How static resources are served. -/
structure StaticSettings where
  /-- Are clients told how long to keep a resource, and asked whether they have it? -/
  caching : Bool := false
  /-- For how many seconds a resource may be kept. -/
  lifetime : Nat := 86400
  deriving DecidableEq, Repr

/-- What turns actions into responses. -/
structure Dispatcher where
  binders : BindManager := .builtin
  views : Views := {}
  settings : StaticSettings := {}

namespace Dispatcher
variable {σ : Type}

/-- The longest lifetime that is told as it is: a longer one counts as none. -/
def longestLifetime : Nat := 9223372036854775

/-- When a resource sent now is to be asked for again, if the calendar reaches that far. -/
def expiry? (now : Int) (lifetime : Nat) : Option Int :=
  let then_ := now + if lifetime ≤ longestLifetime then (lifetime : Int) else 0
  if Time.inRange (Time.Moment.ofSeconds then_).date.year then some then_ else none

/-- Does the client have the version of a resource that was modified at this second? -/
def isFresh (request : Request) (modified : Time.Stamp) : Bool :=
  ((request.header? "if-modified-since").bind Time.HttpDate.parse?) == some modified.seconds

/-- Sends a resource at a reading of the clock. Nothing is sent where the calendar ends before the
resource is to be asked for again. -/
def serveResource (settings : StaticSettings) (now : Int) (contentType : String)
    (contents : ByteArray) (modified : Time.Stamp) (request : Request) (r : Response) :
    Option Response :=
  let whole (r : Response) : Response :=
    { r with contentType := some contentType, output := some contents }
  if !settings.caching then some (whole r)
  else if isFresh request modified then
    some ({ r with status := 304 }.setHeader "date" (Time.HttpDate.render now))
  else do
    let expires ← expiry? now settings.lifetime
    let r := r.setHeader "date" (Time.HttpDate.render now)
    let r := r.setHeader "expires" (Time.HttpDate.render expires)
    let r := r.setHeader "cache-control" s!"private, max-age={settings.lifetime}"
    return whole (r.setHeader "last-modified" (Time.HttpDate.render modified.seconds))

/-- Binds a handler's arguments from some raw values. -/
def bindArguments (d : Dispatcher) (h : Handler σ) (request : Request)
    (values : Dictionary (List String)) : Except Failure (List Value) :=
  match d.binders.bindArguments request h.params values none with
  | .ok (args, _) => .ok args
  | .error refusal => .error (.refused refusal)

/-- The raw values of a request: its parameters, and those of the path in place of the ones of
their names. -/
def rawValues (h : Handler σ) (request : Request) : Dictionary (List String) :=
  (pathVariables h.pattern request.path).foldl (fun d (k, v) => Dictionary.put k v d) request.params

/-- Calls a handler with arguments from the request. -/
def invoke (d : Dispatcher) (h : Handler σ) : Course σ Outcome :=
  Lifecycle.execute h (.reading fun request => d.bindArguments h request (rawValues h request))

/-- Calls a handler with every argument at its default. -/
def invokeWithDefaults (d : Dispatcher) (h : Handler σ) : Course σ Outcome :=
  Lifecycle.execute h (.reading fun request => d.bindArguments h request [])

/-- Changes the response by a step of a view. -/
def onResponse (step : Request → ExceptT Failure (StateM Response) Unit) : Course σ Unit :=
  ExceptT.mk do
    let x ← get
    let (result, response) := (step x.request).run.run x.response
    set { x with response }
    return result

/-- Renders an outcome with the view it is for. -/
def render (d : Dispatcher) (found : Outcome) : Course σ Unit := do
  match d.views.resolve found.view with
  | .ok view => onResponse (view found.model)
  | .error failure => throw failure

/-- Writes the response, and tells whether that could be done. -/
def write (f : Request → Response → Option Response) : Course σ Bool := do
  let x ← get
  match f x.request x.response with
  | some response =>
    set { x with response }
    return true
  | none => return false

/-- Does what an action says, at a reading of the clock, and tells whether that could be done. -/
def dispatch (d : Dispatcher) (now : Int) (action : Action σ) : Course σ Bool := do
  let x ← get
  match action with
  | .nothing => throw (.routeNotFound x.request.verb x.request.path)
  | .invalid => throw (.noOverload x.request.path)
  | .status _ code => write fun _ r => some { r with status := code }
  | .redirect path =>
    write fun _ r => some ({ r with status := 301 }.setHeader "location" (path ++ "/"))
  | .resource _ contentType contents modified =>
    write (serveResource d.settings now contentType contents modified)
  | .handler h => do
    let found ← d.invoke h
    d.render found
    return true

end Dispatcher

end Switchboard
