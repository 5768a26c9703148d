import Switchboard.Text.Split

/-!
# Paths of files

A path is a text with slashes. Its components leave out what does not matter for naming a file:
repeated and final slashes, and a point for the directory itself anywhere but in front.
-/

namespace Switchboard

/-- A path as it is written. -/
structure FilePath where
  text : String
  deriving DecidableEq, Repr, Inhabited

/-- A component of a path. -/
inductive PathComponent where
  | root
  | here
  | parent
  | normal (name : String)
  deriving DecidableEq, Repr

namespace FilePath

/-- The component of one part between slashes; a part that does not matter has none. -/
def component? (part : String) : Option PathComponent :=
  if part = "" || part = "." then none
  else if part = ".." then some .parent
  else some (.normal part)

/-- The components of a path. -/
def components (p : FilePath) : List PathComponent :=
  let parts := Text.splitOn '/' p.text
  let rest := parts.filterMap component?
  if Text.startsWith "/" p.text then .root :: rest
  else if parts.head? = some "." then .here :: rest
  else rest

/-- Are all components names, so that the path stays below any directory it is put behind? -/
def isPlain (p : FilePath) : Bool :=
  p.components.all fun c =>
    match c with
    | .normal _ => true
    | _ => false

/-- The path of something in a directory; an absolute path is not in it. -/
def join (dir : FilePath) (rest : String) : FilePath :=
  if Text.startsWith "/" rest then ⟨rest⟩
  else if dir.text = "" || Text.endsWith "/" dir.text then ⟨dir.text ++ rest⟩
  else ⟨dir.text ++ "/" ++ rest⟩

end FilePath

end Switchboard
