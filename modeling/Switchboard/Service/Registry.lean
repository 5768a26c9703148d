import Switchboard.Call.Declaration
import Switchboard.Config.Settings
import Switchboard.Route.RoutesFile
import Switchboard.Rpc.Namespace
import Switchboard.Service.Engine

/-!
# The registry

What an application registers, and the engine made of it. All that is wrong with the registered
routes shows here, before anything is served.
-/

namespace Switchboard

/-- A push as an application declares it. -/
structure PushDeclaration (σ : Type) where
  path : String
  /-- The milliseconds before each call. -/
  delay : Nat
  event : PushEvent
  declaration : Declaration σ

/-- What an application registers. -/
structure Registry (σ : Type) where
  binders : BindManager := .builtin
  aspects : AspectRegistry σ := {}
  routes : List (Verb × String × Declaration σ) := []
  procedures : List (String × Declaration σ) := []
  pushes : List (PushDeclaration σ) := []
  staticRoutes : List StaticRoute := []
  views : List (String × View) := []
  page : NotFoundPage := .plain

/-- Why no engine can be made. -/
inductive BuildError where
  | duplicateSource (e : DuplicateSource)
  | duplicateRoute (e : DuplicateRoute)
  /-- A push that would be called without end at once. -/
  | noDelay (path : String)
  | routesFile (e : RoutesFileError)
  /-- A file of routes that cannot be read. -/
  | noRoutesFile (path : String)
  | target (e : InvalidTarget)
  | verb (e : UnknownVerb)
  deriving DecidableEq, Repr

/-- How the failure reads. -/
def BuildError.message : BuildError → String
  | duplicateSource e => e.message
  | duplicateRoute e => e.message
  | noDelay path => s!"push action on {path} needs a delay greater than zero"
  | routesFile e => e.message
  | noRoutesFile path => s!"cannot read {path}"
  | target e => e.message
  | verb e => e.message

namespace Registry
variable {σ : Type}

instance : Inhabited (Registry σ) := ⟨{}⟩

/-! ## Registration -/

/-- Registers a handler under a route. -/
def route (r : Registry σ) (verb : Verb) (pattern : String) (d : Declaration σ) : Registry σ :=
  { r with routes := r.routes ++ [(verb, pattern, d)] }

/-- Registers an aspect. -/
def aspect (r : Registry σ) (a : Aspect σ) : Registry σ :=
  { r with aspects := r.aspects.register a }

/-- Gives a class companions. -/
def use (r : Registry σ) (type : String) (companions : List String) : Registry σ :=
  { r with aspects := r.aspects.use type companions }

/-- Registers a candidate for a path of a procedure. -/
def procedure (r : Registry σ) (path : String) (d : Declaration σ) : Registry σ :=
  { r with procedures := r.procedures ++ [(path, d)] }

/-- Registers the methods of a namespace that have paths. -/
def addNamespace (r : Registry σ) (n : Namespace σ) : Registry σ :=
  { r with procedures := r.procedures ++ n.candidates }

/-- Registers a push. -/
def push (r : Registry σ) (p : PushDeclaration σ) : Registry σ :=
  { r with pushes := r.pushes ++ [p] }

/-- Registers a static route. -/
def staticRoute (r : Registry σ) (route : StaticRoute) : Registry σ :=
  { r with staticRoutes := r.staticRoutes ++ [route] }

/-- Registers a view. -/
def view (r : Registry σ) (name : String) (v : View) : Registry σ :=
  { r with views := r.views ++ [(name, v)] }

/-! ## Building -/

/-- The tree of the routes by pattern. -/
def buildTree (aspects : AspectRegistry σ) :
    List (Verb × String × Declaration σ) → RouteTree (Action σ) →
      Except BuildError (RouteTree (Action σ))
  | [], tree => .ok tree
  | (verb, pattern, d) :: rest, tree => do
    let h ← (d.attach aspects verb pattern).mapError .duplicateSource
    buildTree aspects rest (← (tree.insert verb pattern (.handler h)).mapError .duplicateRoute)

/-- A static route as the settings write it. -/
def readStaticRoute (s : StaticRouteSettings) : Except BuildError StaticRoute := do
  let verb ← (Verb.parse s.verb).mapError .verb
  let target ← (StaticTarget.parse s.target).mapError .target
  return ⟨verb, s.path, target⟩

/-- The routes in the file of static routes, if the settings name one. -/
def readRoutesFile (files : FileSystem) : Option String → Except BuildError (List StaticRoute)
  | none => .ok []
  | some path =>
    match (files.file? ⟨path⟩).bind fun f => Utf8.decode? f.data with
    | none => .error (.noRoutesFile path)
    | some text => (RoutesFile.parse text).mapError .routesFile

/-- The candidates of the procedures. -/
def buildProcedures (aspects : AspectRegistry σ) :
    List (String × Declaration σ) → RpcTable σ → Except BuildError (RpcTable σ)
  | [], table => .ok table
  | (path, d) :: rest, table => do
    let h ← (d.attach aspects .post path).mapError .duplicateSource
    buildProcedures aspects rest (table.add path h)

/-- A push under its path. -/
def buildPush (aspects : AspectRegistry σ) (p : PushDeclaration σ) :
    Except BuildError (Push σ) := do
  if p.delay = 0 then throw (.noDelay p.path)
  let handler ← (p.declaration.attach aspects .ws p.path).mapError .duplicateSource
  return { path := p.path, delay := p.delay, event := p.event, handler }

/-- The engine of what is registered, and the state it begins to serve in. Of static routes those of
the settings come first, then those of the file, then the registered ones. -/
def build (r : Registry σ) (settings : Settings) (files : FileSystem) (world : σ) :
    Except BuildError (Engine σ × Service σ) := do
  let tree ← buildTree r.aspects r.routes {}
  let configured ← settings.staticRoutes.mapM readStaticRoute
  let listed ← readRoutesFile files settings.http.routesFile
  let statics := (configured ++ listed ++ r.staticRoutes).foldl StaticTable.add {}
  let procedures ← buildProcedures r.aspects r.procedures {}
  let pushes ← r.pushes.mapM (buildPush r.aspects)
  let views := r.views.foldl (fun (v : Views) (name, view) => v.register name view)
    { default := settings.http.defaultView }
  let engine : Engine σ := {
    routes := { statics, tree }
    procedures
    dispatcher := {
      binders := r.binders
      views
      settings :=
        { caching := settings.http.staticCache, lifetime := settings.http.cacheLifetime } }
    page := r.page
    parameterNamesHeader := Text.lower settings.rpc.parameterNamesHeader }
  return (engine, {
    caches := {
      files := .ofCapacity settings.http.fileCacheSize
      routes := RouteCache.ofCapacity? settings.http.routeCacheSize }
    hub := .ofPushes pushes settings.socket.channelCapacity
    world })

end Registry

end Switchboard
