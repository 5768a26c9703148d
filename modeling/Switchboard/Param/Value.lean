import Switchboard.Param.ParamType
import Switchboard.Json.Basic
import Switchboard.Text.Utf8

/-!
# Values

What a handler is given for a parameter. A value knows its kind; a part of the call is only named
and is read from the call itself. `Value.ofJson` reads a document as a value of a declared type and
`Value.toJson` writes a value as a document.
-/

namespace Switchboard

/-- A file sent with a form. -/
structure Upload where
  name : String
  fileName : String
  contentType : String
  data : ByteArray
  deriving Inhabited

/-- A bound argument. -/
inductive Value where
  | null
  | bool (b : Bool)
  | char (c : Char)
  | whole (width : Width) (n : Int)
  | single (x : Number.Single)
  | double (x : Number.Double)
  | text (s : String)
  | array (items : List Value)
  | json (node : Json)
  | map (entries : Dictionary String)
  | bytes (data : ByteArray)
  | file (upload : Upload)
  | files (uploads : Dictionary Upload)
  | context (kind : ContextKind)
  deriving Inhabited

namespace Value

/-- What a scalar is when nothing says otherwise: `false`, the character of code 0, or zero. -/
def zeroOfScalar : Scalar → Value
  | .bool => bool false
  | .char => char (Char.ofNat 0)
  | .whole width => whole width 0
  | .real .single => single .zero
  | .real .double => double .zero

/-- What a parameter of some type is when nothing says otherwise; all but scalars are null. -/
def zeroOf : ParamType → Value
  | .scalar kind => zeroOfScalar kind
  | _ => null

/-- Is it null? -/
def isNull : Value → Bool
  | null => true
  | _ => false

/-- The truth value. -/
def bool? : Value → Option Bool
  | bool b => some b
  | _ => none

/-- The character. -/
def char? : Value → Option Char
  | char c => some c
  | _ => none

/-- The integer of any width. -/
def int? : Value → Option Int
  | whole _ n => some n
  | _ => none

/-- The integer of any width, if 32 bits hold it. -/
def int32? (v : Value) : Option Int := v.int?.filter Width.int.holds

/-- The number of any kind in the double format. -/
def double? : Value → Option Number.Double
  | single x => some x.convert
  | double x => some x
  | whole _ n => some (.ofInt n)
  | _ => none

/-- The text. -/
def text? : Value → Option String
  | text s => some s
  | _ => none

/-- The items of an array. -/
def items? : Value → Option (List Value)
  | array items => some items
  | _ => none

/-- Reads a document as a scalar; none if it is of another kind or out of range. -/
def scalarOfJson? : Scalar → Json → Option Value
  | .bool, node => node.bool?.map bool
  | .char, node =>
    match node.text?.map String.toList with
    | some [c] => some (char c)
    | _ => none
  | .whole width, node => (node.int?.filter width.holds).map (whole width)
  | .real .single, node => node.double?.map fun x => single x.convert
  | .real .double, node => node.double?.map double

mutual

/-- Reads a document as a value of a type. A document that does not fit is read as null. -/
def ofJson : ParamType → Json → Value
  | _, .null => null
  | .scalar kind, node => (scalarOfJson? kind node).getD null
  | .boxed kind, node => (scalarOfJson? kind node).getD null
  | .text, .text s => text s
  | .text, _ => null
  | .array element, .array items => array (ofJsonAll element items)
  | .array _, _ => null
  | .object _, node => json node
  | .generic _ _, node => json node
  | .context _, _ => null

/-- Reads every document of a list. -/
def ofJsonAll : ParamType → List Json → List Value
  | _, [] => []
  | element, node :: rest => ofJson element node :: ofJsonAll element rest

end

mutual

/-- Writes a value as a document. A file is described without its bytes, of several files the
fields are listed, bytes are read as text, and parts of the call are null. -/
def toJson : Value → Json
  | null => .null
  | bool b => .bool b
  | char c => .text (String.singleton c)
  | whole _ n => .ofInt n
  | single x => .ofDouble x.convert
  | double x => .ofDouble x
  | text s => .text s
  | array items => .array (toJsonAll items)
  | json node => node
  | map entries => .object (entries.map fun (k, v) => (k, .text v))
  | bytes data => .text (Utf8.decode data)
  | file upload => .object [
      ("content_type", .text upload.contentType),
      ("file_name", .text upload.fileName),
      ("name", .text upload.name),
      ("size", .ofNat upload.data.size)]
  | files uploads => .array (uploads.keys.map .text)
  | context _ => .null

/-- Writes every value of a list. -/
def toJsonAll : List Value → List Json
  | [] => []
  | v :: rest => v.toJson :: toJsonAll rest

end

end Value

end Switchboard
