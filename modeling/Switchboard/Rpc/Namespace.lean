import Switchboard.Call.Declaration
import Switchboard.Text.Split

/-!
# Namespaces of procedures

A namespace gives its methods paths. A method has a path if it is exposed itself or the whole
namespace is; it may be exposed under another name.
-/

namespace Switchboard

/-- A method of a namespace. -/
structure NamespaceMethod (σ : Type) where
  declaration : Declaration σ
  exposed : Bool := false
  /-- The name in the path, where that is not the method's own. -/
  exposedAs : Option String := none

/-- The name in the path of a method. -/
def NamespaceMethod.pathName {σ : Type} (m : NamespaceMethod σ) : String :=
  m.exposedAs.getD m.declaration.method

/-- A namespace. -/
structure Namespace (σ : Type) where
  name : String
  exposesAll : Bool := false
  methods : List (NamespaceMethod σ) := []

/-- The methods that have paths, with these. -/
def Namespace.candidates {σ : Type} (n : Namespace σ) : List (String × Declaration σ) :=
  let name := Text.trimOf '/' n.name
  (n.methods.filter fun m => n.exposesAll || m.exposed).map fun m =>
    (s!"/{name}/{m.pathName}", m.declaration)

end Switchboard
