import Switchboard.Dictionary
import Switchboard.Number.Decimal

/-!
# JSON documents

A number is an integer of 64 bits, signed or unsigned, or a finite number of the double format.
The fields of an object stand in ascending order of their names, one a name.
-/

namespace Switchboard

namespace Json

/-- A number of a document. -/
inductive Number where
  | int (n : Int)
  | float (x : Number.Double)
  deriving DecidableEq, Repr

end Json

/-- A JSON document. -/
inductive Json where
  | null
  | bool (b : Bool)
  | number (n : Json.Number)
  | text (s : String)
  | array (items : List Json)
  | object (fields : List (String × Json))
  deriving Repr

namespace Json

instance : Inhabited Json := ⟨.null⟩

/-- The document of an integer. -/
def ofInt (n : Int) : Json := .number (.int n)

/-- The document of a natural number. -/
def ofNat (n : Nat) : Json := .number (.int n)

/-- The document of a number; what JSON cannot write is null. -/
def ofDouble (x : Number.Double) : Json := if x.isFinite then .number (.float x) else .null

/-- An object of some fields; of two with one name the later wins. -/
def ofFields (fields : List (String × Json)) : Json := .object (Dictionary.ofPairs fields)

/-- Is it null? -/
def isNull : Json → Bool
  | null => true
  | _ => false

/-- The truth value, of a document that is one. -/
def bool? : Json → Option Bool
  | bool b => some b
  | _ => none

/-- The text, of a document that is one. -/
def text? : Json → Option String
  | text s => some s
  | _ => none

/-- The integer, of a document that is one in the signed range of 64 bits. -/
def int? : Json → Option Int
  | number (.int n) => if n ≤ Number.largestSigned 64 then some n else none
  | _ => none

/-- The number nearest to the one a document is. -/
def double? : Json → Option Number.Double
  | number (.int n) => some (.ofInt n)
  | number (.float x) => some x
  | _ => none

/-- The items, of a document that is an array. -/
def items? : Json → Option (List Json)
  | array items => some items
  | _ => none

/-- The fields, of a document that is an object. -/
def fields? : Json → Option (Dictionary Json)
  | object fields => some fields
  | _ => none

end Json

end Switchboard
