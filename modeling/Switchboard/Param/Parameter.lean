import Switchboard.Param.Value
import Switchboard.Text.Split

/-!
# Parameters

The declaration of a parameter: its name and type, where its value comes from, what it is when
nothing is sent, and the markers that converters and validators look for.
-/

namespace Switchboard

/-- A named remark on a parameter or a handler, with attributes. -/
structure Marker where
  name : String
  attributes : Dictionary String := []
  deriving DecidableEq, Repr, Inhabited

/-- The attribute of a name. -/
def Marker.attribute? (m : Marker) (key : String) : Option String :=
  Dictionary.get? m.attributes key

/-- A declared parameter. -/
structure Parameter where
  /-- The name it is declared under. -/
  name : String
  /-- The name its value is sent under, where that is another one. -/
  source : Option String := none
  type : ParamType
  /-- The type to bind to instead of the declared one. -/
  convertTo : Option ParamType := none
  required : Bool := false
  markers : List Marker := []
  /-- Text that is bound when nothing usable is sent. -/
  default : Option String := none
  deriving Inhabited

namespace Parameter

/-- A parameter that stands for a part of the call. -/
def ofContext (kind : ContextKind) : Parameter :=
  { name := Text.lower kind.name, type := .context kind }

/-- The name the value is sent under. -/
def sourceName (p : Parameter) : String := p.source.getD p.name

/-- The type that is bound: the one to convert to, else an array's element type, else the declared
type. -/
def bindType (p : Parameter) : ParamType := p.convertTo.getD (p.type.element?.getD p.type)

/-- Is it declared as an array? -/
def isArray (p : Parameter) : Bool := p.type.isArray

/-- Is it declared as a part of the call? -/
def isContext (p : Parameter) : Bool := p.type.isContext

/-- The first marker of a name. -/
def marker? (p : Parameter) (name : String) : Option Marker := p.markers.find? (·.name == name)

end Parameter

end Switchboard
