import Switchboard.Route.RouteCache
import Switchboard.Route.StaticTable
import Switchboard.Route.Tree

/-!
# Routing

Static routes go before routes by pattern. What a path led to once is kept in the cache of routes,
if there is one, and not looked for again.
-/

namespace Switchboard

/-- The routes of a service. -/
structure Routes (σ : Type) where
  statics : StaticTable := {}
  tree : RouteTree (Action σ) := {}

/-- The caches that routing goes through. -/
structure RoutingCaches (σ : Type) where
  files : FileCache
  routes : Option (RouteCache σ)

namespace Routes
variable {σ : Type}

/-- Looks for the action of a path, in the static routes first. -/
def resolve (r : Routes σ) (fs : FileSystem) (verb : Verb) (path : String) (files : FileCache) :
    Action σ × FileCache :=
  let (found, files) := r.statics.route fs verb path files
  if found.isNothing then ((r.tree.find? verb path).getD .nothing, files) else (found, files)

/-- The action of a path. -/
def route (r : Routes σ) (fs : FileSystem) (verb : Verb) (path : String)
    (caches : RoutingCaches σ) : Action σ × RoutingCaches σ :=
  let key := RouteCache.key verb path
  match caches.routes.bind (·.peek? key) with
  | some found => (found, { caches with routes := caches.routes.map (·.touch key) })
  | none =>
    let (found, files) := r.resolve fs verb path caches.files
    (found, { files, routes := caches.routes.map (·.insert key found) })

/-- The routes of a verb with the texts of their targets; static routes go before others. -/
def entriesOf (r : Routes σ) (verb : Verb) : Dictionary String :=
  (r.statics.entries verb).foldl (fun d (path, target) => Dictionary.put path target d)
    (Dictionary.mapValues Action.display (r.tree.patterns verb))

/-- Every route as verb, path and target, by verb and then by path. -/
def entries (r : Routes σ) : List (Verb × String × String) :=
  Verb.all.flatMap fun verb => (r.entriesOf verb).map fun (path, target) => (verb, path, target)

end Routes

end Switchboard
