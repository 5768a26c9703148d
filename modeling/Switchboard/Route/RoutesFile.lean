import Switchboard.Route.Target

/-!
# Files of routes

A line holds a verb, a path and a target. What follows a `#` is a comment, and lines without words
do not count.
-/

namespace Switchboard

/-- What is wrong with a line. -/
inductive RouteLineError where
  | fields (line : String)
  | verb (e : UnknownVerb)
  | path (path : String)
  | target (e : InvalidTarget)
  deriving DecidableEq, Repr

/-- How the failure reads. -/
def RouteLineError.message : RouteLineError → String
  | fields line => s!"expected `VERB /path target`, got `{line}`"
  | verb e => e.message
  | path p => s!"path `{p}` must start with `/`"
  | target e => e.message

/-- A line, counted from one, and what is wrong with it. -/
structure RoutesFileError where
  line : Nat
  error : RouteLineError
  deriving DecidableEq, Repr

/-- How the failure reads. -/
def RoutesFileError.message (e : RoutesFileError) : String := s!"line {e.line}: {e.error.message}"

namespace RoutesFile

/-- A line without its comment and without blanks around it. -/
def content (raw : String) : String :=
  Text.trim (String.ofList (raw.toList.takeWhile (· ≠ '#')))

/-- Reads a line with words in it. -/
def parseLine (line : String) : Except RouteLineError StaticRoute := do
  match Text.words line with
  | [verb, path, target] =>
    let verb ← (Verb.parse verb).mapError .verb
    if !Text.startsWith "/" path then throw (.path path)
    let target ← (StaticTarget.parse target).mapError .target
    return ⟨verb, path, target⟩
  | _ => throw (.fields line)

/-- Reads numbered lines. -/
def parseLines : List (String × Nat) → Except RoutesFileError (List StaticRoute)
  | [] => .ok []
  | (raw, i) :: rest =>
    let line := content raw
    if line = "" then parseLines rest
    else do
      let route ← (parseLine line).mapError fun e => ⟨i + 1, e⟩
      return route :: (← parseLines rest)

/-- Reads the routes of a file. -/
def parse (text : String) : Except RoutesFileError (List StaticRoute) :=
  parseLines (Text.lines text).zipIdx

end RoutesFile

end Switchboard
