/-!
# Tags

A tag names a class of objects or of failures together with the classes it descends from. Ancestry
is declared: a tag that extends a parent takes over the parent's name and all its ancestors, so
descent is decided by one look through a list.
-/

namespace Switchboard

/-- A named class and the names of the classes it descends from. -/
structure Tag where
  name : String
  ancestors : List String := []
  deriving DecidableEq, Repr, Inhabited

namespace Tag

/-- A tag without ancestors. -/
def ofName (name : String) : Tag := ⟨name, []⟩

/-- Adds one name to the ancestors, unless it is there already or is the tag's own. -/
def addAncestor (t : Tag) (name : String) : Tag :=
  if name = t.name || t.ancestors.contains name then t
  else { t with ancestors := t.ancestors ++ [name] }

/-- Declares `parent` and its ancestors as classes that `t` descends from. -/
def extend (t parent : Tag) : Tag :=
  (parent.name :: parent.ancestors).foldl addAncestor t

/-- Is the tag `other`, or does it descend from it? -/
def isA (t other : Tag) : Bool := t.name == other.name || t.ancestors.contains other.name

/-- The class all failures descend from. -/
def exception : Tag := ofName "Exception"

/-- A class of failures that descends directly from `exception`. -/
def failure (name : String) : Tag := (ofName name).extend exception

/-- The class of failures to find what was asked for. -/
def notFound : Tag := failure "NotFoundException"

/-- The class of arguments that a validator refused. -/
def validation : Tag := failure "ValidationException"

/-- The class of arguments that fit no declaration. -/
def illegalArgument : Tag := failure "IllegalArgumentException"

/-- The class of payloads of a form that is not supported. -/
def unsupportedOperation : Tag := failure "UnsupportedOperationException"

/-- The class of failures to find a view. -/
def invalidView : Tag := failure "InvalidViewException"

/-- The class of values that cannot be written as a document. -/
def serialization : Tag := failure "SerializationException"

end Tag

end Switchboard
