import Switchboard.Param.Tag
import Switchboard.Number.Binary

/-!
# Types of parameters

The declared type of a parameter: a scalar that is never null, a boxed scalar that may be, text, an
array, an object of some class, a generic class with arguments, or a part of the call itself.
-/

namespace Switchboard

/-- Widths of integers. -/
inductive Width where
  | byte | short | int | long
  deriving DecidableEq, Repr

namespace Width

/-- The number of bits. -/
def bits : Width → Nat
  | byte => 8
  | short => 16
  | int => 32
  | long => 64

/-- Is the integer one of this width? -/
def holds (w : Width) (n : Int) : Bool := Number.fitsSigned w.bits n

end Width

/-- Precisions of floating point numbers. -/
inductive Precision where
  | single | double
  deriving DecidableEq, Repr

/-- Kinds of scalars. -/
inductive Scalar where
  | bool
  | char
  | whole (width : Width)
  | real (precision : Precision)
  deriving DecidableEq, Repr

namespace Scalar

/-- Every kind. -/
def all : List Scalar :=
  [bool, char, whole .byte, whole .short, whole .int, whole .long, real .single, real .double]

/-- The name of the kind that is never null. -/
def name : Scalar → String
  | bool => "boolean"
  | char => "char"
  | whole .byte => "byte"
  | whole .short => "short"
  | whole .int => "int"
  | whole .long => "long"
  | real .single => "float"
  | real .double => "double"

/-- The name of the kind that may be null. -/
def boxedName : Scalar → String
  | bool => "Boolean"
  | char => "Character"
  | whole .byte => "Byte"
  | whole .short => "Short"
  | whole .int => "Integer"
  | whole .long => "Long"
  | real .single => "Float"
  | real .double => "Double"

end Scalar

/-- Parts of a call that a parameter may ask for. -/
inductive ContextKind where
  | request | response | session | body | cause | files | params
  deriving DecidableEq, Repr

namespace ContextKind

/-- Every part. -/
def all : List ContextKind := [request, response, session, body, cause, files, params]

/-- The name of the part. -/
def name : ContextKind → String
  | request => "Request"
  | response => "Response"
  | session => "Session"
  | body => "Body"
  | cause => "Cause"
  | files => "Files"
  | params => "Params"

end ContextKind

/-- The declared type of a parameter. -/
inductive ParamType where
  | scalar (kind : Scalar)
  | boxed (kind : Scalar)
  | text
  | array (element : ParamType)
  | object (tag : Tag)
  | generic (raw : Tag) (args : List ParamType)
  | context (kind : ContextKind)
  deriving Repr, Inhabited

namespace ParamType

mutual

/-- Equality of types. -/
def same : ParamType → ParamType → Bool
  | scalar a, scalar b => a == b
  | boxed a, boxed b => a == b
  | text, text => true
  | array a, array b => same a b
  | object a, object b => a == b
  | generic a as, generic b bs => a == b && sameAll as bs
  | context a, context b => a == b
  | _, _ => false

/-- Equality of lists of types. -/
def sameAll : List ParamType → List ParamType → Bool
  | [], [] => true
  | a :: as, b :: bs => same a b && sameAll as bs
  | _, _ => false

end

mutual

/-- `same` decides equality. -/
theorem same_iff : ∀ a b : ParamType, same a b = true ↔ a = b
  | scalar _, b => by cases b <;> simp [same]
  | boxed _, b => by cases b <;> simp [same]
  | text, b => by cases b <;> simp [same]
  | array a, b => by
    cases b <;> simp [same]
    exact same_iff a _
  | object _, b => by cases b <;> simp [same]
  | generic _ as, b => by
    cases b <;> simp [same]
    intro _
    exact sameAll_iff as _
  | context _, b => by cases b <;> simp [same]

/-- `sameAll` decides equality. -/
theorem sameAll_iff : ∀ as bs : List ParamType, sameAll as bs = true ↔ as = bs
  | [], bs => by cases bs <;> simp [sameAll]
  | a :: as, bs => by
    cases bs with
    | nil => simp [sameAll]
    | cons b bs => simp [sameAll, same_iff a b, sameAll_iff as bs]

end

instance : DecidableEq ParamType := fun a b => decidable_of_iff _ (same_iff a b)

/-- The class of uploaded files. -/
def upload : ParamType := object (.ofName "UploadedFile")

/-- Is it an array type? -/
def isArray : ParamType → Bool
  | array _ => true
  | _ => false

/-- The type of an array's elements. -/
def element? : ParamType → Option ParamType
  | array element => some element
  | _ => none

/-- Does the type stand for a part of the call? -/
def isContext : ParamType → Bool
  | context _ => true
  | _ => false

/-- The name without the arguments of generic classes. -/
def rawName : ParamType → String
  | scalar kind => kind.name
  | boxed kind => kind.boxedName
  | text => "String"
  | array element => element.rawName ++ "[]"
  | object tag => tag.name
  | generic raw _ => raw.name
  | context kind => kind.name

mutual

/-- The name as declared. The arguments of a generic class show unless it is the element of an
array. -/
def display : ParamType → String
  | generic raw args => raw.name ++ "<" ++ displayAll args ++ ">"
  | other => other.rawName

/-- Names with commas between them. -/
def displayAll : List ParamType → String
  | [] => ""
  | [t] => t.display
  | t :: rest => t.display ++ ", " ++ displayAll rest

end

/-- May a value of type `other` stand where `self` is declared? The class `Object` takes all but
scalars that are never null, and arguments of generic classes do not matter. -/
def isAssignableFrom (self other : ParamType) : Bool :=
  self = other ||
    match self, other with
    | object a, object b => b.isA a
    | object a, generic raw _ => raw.isA a
    | generic a _, generic b _ => b.isA a
    | object _, scalar _ => false
    | object a, _ => a.name == "Object"
    | _, _ => false

end ParamType

end Switchboard
