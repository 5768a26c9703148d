import Switchboard.Call.Action

/-!
# Routes by pattern

The patterns of each verb in a tree of segments. A segment in braces stands for any text and shares
the branch `*`. A path takes at each segment the branch of that text, else the branch `*`, and
never goes back on a choice.
-/

namespace Switchboard

/-- A node: the pattern that ends here with its action, and the branches by segment. -/
inductive RouteNode (α : Type) where
  | node (terminal : Option (String × α)) (branches : List (String × RouteNode α))

namespace RouteNode
variable {α : Type}

/-- A node where nothing ends and nothing goes on. -/
def empty : RouteNode α := node none []

/-- The pattern that ends here, with its action. -/
def terminal : RouteNode α → Option (String × α)
  | node t _ => t

/-- The branches. -/
def branches : RouteNode α → List (String × RouteNode α)
  | node _ b => b

/-- The branch of a key. -/
def branch? (n : RouteNode α) (key : String) : Option (RouteNode α) :=
  Dictionary.get? n.branches key

/-- Puts a pattern at the end of some keys, unless one ends there. -/
def insert? (n : RouteNode α) (pattern : String) (a : α) : List String → Option (RouteNode α)
  | [] =>
    match n.terminal with
    | some _ => none
    | none => some (node (some (pattern, a)) n.branches)
  | key :: rest =>
    (((n.branch? key).getD empty).insert? pattern a rest).map fun below =>
      node n.terminal (Dictionary.put key below n.branches)

end RouteNode

/-- The key of segments in braces. -/
def wildcard : String := "*"

/-- The key of a segment of a pattern. -/
def segmentKey (segment : String) : String :=
  if (placeholder? segment).isSome then wildcard else segment

/-- The keys of a pattern. -/
def patternKeys (pattern : String) : List String := (Text.segments '/' pattern).map segmentKey

/-- Where a path of some segments leads from a node. -/
def RouteNode.descend? {α : Type} (n : RouteNode α) : List String → Option (RouteNode α)
  | [] => some n
  | segment :: rest =>
    match (n.branch? segment).or (n.branch? wildcard) with
    | some below => below.descend? rest
    | none => none

mutual

/-- The patterns that end at a node or below it, with their actions. -/
def RouteNode.patterns {α : Type} : RouteNode α → List (String × α)
  | .node terminal branches => terminal.toList ++ RouteNode.patternsBelow branches

/-- The patterns that end below some branches. -/
def RouteNode.patternsBelow {α : Type} : List (String × RouteNode α) → List (String × α)
  | [] => []
  | (_, n) :: rest => n.patterns ++ RouteNode.patternsBelow rest

end

/-- A route that is there already. -/
structure DuplicateRoute where
  verb : Verb
  pattern : String
  deriving DecidableEq, Repr

/-- How the failure reads. -/
def DuplicateRoute.message (e : DuplicateRoute) : String :=
  s!"route {e.verb.name} {e.pattern} is already registered"

/-- The trees of the verbs that have routes. -/
structure RouteTree (α : Type) where
  roots : List (Verb × RouteNode α) := []

namespace RouteTree
variable {α : Type}

instance : Inhabited (RouteTree α) := ⟨{}⟩

/-- The root of a verb. -/
def root? (t : RouteTree α) (verb : Verb) : Option (RouteNode α) := t.roots.lookup verb

/-- Puts a root in place of the one of its verb. -/
def setRoot (t : RouteTree α) (verb : Verb) (n : RouteNode α) : RouteTree α :=
  ⟨(verb, n) :: t.roots.filter (·.1 ≠ verb)⟩

/-- Adds a route. -/
def insert (t : RouteTree α) (verb : Verb) (pattern : String) (a : α) :
    Except DuplicateRoute (RouteTree α) :=
  match ((t.root? verb).getD .empty).insert? pattern a (patternKeys pattern) with
  | some n => .ok (t.setRoot verb n)
  | none => .error ⟨verb, pattern⟩

/-- The action at a path. -/
def find? (t : RouteTree α) (verb : Verb) (path : String) : Option α := do
  let root ← t.root? verb
  let n ← root.descend? (Text.segments '/' path)
  let (_, a) ← n.terminal
  return a

/-- The patterns of a verb in order, with their actions. -/
def patterns (t : RouteTree α) (verb : Verb) : Dictionary α :=
  match t.root? verb with
  | some root => Dictionary.ofPairs root.patterns
  | none => []

/-- Has no verb a route? -/
def isEmpty (t : RouteTree α) : Bool := t.roots.isEmpty

end RouteTree

end Switchboard
