import Switchboard.Call.Action
import Switchboard.Http.MediaType
import Switchboard.Route.Target
import Switchboard.Store.FileSystem
import Switchboard.Store.Lru

/-!
# Static routes

Paths that lead to a status or a file, and prefixes of paths that lead into a directory. An exact
path goes before any prefix, and a longer prefix before a shorter one. A path below a directory
never leaves it. Files are read through a cache of small files, if there is one.
-/

namespace Switchboard

/-- The static routes. -/
structure StaticTable where
  statuses : List ((Verb × String) × Status) := []
  files : List ((Verb × String) × FilePath) := []
  /-- Verb, prefix with a slash at its end, and directory, longer prefixes first. -/
  directories : List (Verb × String × FilePath) := []
  deriving Inhabited

/-- The files read so far, by the components of their paths. -/
abbrev FileCache := Lru (List PathComponent) StoredFile

namespace FileCache

/-- Larger files are not kept. -/
def largest : Nat := 1024 * 1024

/-- A cache of some capacity; one of capacity zero keeps nothing. -/
def ofCapacity (capacity : Nat) : FileCache := { capacity }

end FileCache

namespace StaticTable
variable {σ : Type}

/-- Replaces the entry of a key. -/
def replace {κ α : Type} [BEq κ] (key : κ) (v : α) (l : List (κ × α)) : List (κ × α) :=
  l.filter (·.1 != key) ++ [(key, v)]

/-- The prefix of a directory's route. -/
def directoryPrefix (path : String) : String := Text.trimEndOf '/' path ++ "/"

/-- Adds a route, in place of an earlier one of its kind. -/
def add (t : StaticTable) (route : StaticRoute) : StaticTable :=
  match route.target with
  | .status code => { t with statuses := replace (route.verb, route.path) code t.statuses }
  | .file path => { t with files := replace (route.verb, route.path) path t.files }
  | .directory dir =>
    let start := directoryPrefix route.path
    let others := t.directories.filter fun (v, p, _) => !(v == route.verb && p == start)
    let sorted := (others ++ [(route.verb, start, dir)]).mergeSort fun a b =>
      b.2.1.utf8ByteSize ≤ a.2.1.utf8ByteSize
    { t with directories := sorted }

/-- The number of routes. -/
def size (t : StaticTable) : Nat := t.statuses.length + t.files.length + t.directories.length

/-- The action of a file, under the path that led to it. -/
def fileAction (path : String) (file : FilePath) (f : StoredFile) : Action σ :=
  .resource path (MediaType.ofResource file.text) f.data f.modified

/-- Reads a file through the cache. -/
def load (fs : FileSystem) (path : String) (file : FilePath) (cache : FileCache) :
    Action σ × FileCache :=
  let key := file.components
  match cache.peek? key with
  | some f => (fileAction path file f, cache.touch key)
  | none =>
    match fs.file? file with
    | none => (.nothing, cache)
    | some f =>
      (fileAction path file f,
        if f.data.size ≤ FileCache.largest then cache.put key f else cache)

/-- The action of a path by one directory's route; none if the route does not lead there. A path
that would leave the directory leads to nothing. -/
def loadBelow? (fs : FileSystem) (path start : String) (dir : FilePath) (cache : FileCache) :
    Option (Action σ × FileCache) :=
  if path = Text.trimEndOf '/' start then some (.redirect path, cache)
  else
    (Text.after? start path).map fun rest =>
      if !(FilePath.mk rest).isPlain then (.nothing, cache)
      else
        let target := dir.join rest
        if fs.isDirectory target then
          if Text.endsWith "/" path then load fs path (target.join "index.html") cache
          else (.redirect path, cache)
        else load fs path target cache

/-- The action of a path. -/
def route (t : StaticTable) (fs : FileSystem) (verb : Verb) (path : String) (cache : FileCache) :
    Action σ × FileCache :=
  match t.statuses.lookup (verb, path), t.files.lookup (verb, path) with
  | some code, _ => (.status path code, cache)
  | none, some file => load fs path file cache
  | none, none =>
    let below := t.directories.filter (·.1 == verb)
    (below.findSome? fun (_, start, dir) => loadBelow? fs path start dir cache).getD
      (.nothing, cache)

/-- The routes of a verb with the texts of their targets. -/
def entries (t : StaticTable) (verb : Verb) : Dictionary String :=
  let of {α : Type} (render : α → StaticTarget) (l : List ((Verb × String) × α)) :
      List (String × String) :=
    (l.filter (·.1.1 == verb)).map fun ((_, path), a) => (path, (render a).render)
  Dictionary.ofPairs (of .status t.statuses ++ of .file t.files ++
    (t.directories.filter (·.1 == verb)).map fun (_, start, dir) =>
      (start, (StaticTarget.directory dir).render))

end StaticTable

end Switchboard
