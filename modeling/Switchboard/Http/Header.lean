import Switchboard.Text.Utf8
import Switchboard.Text.Split

/-!
# Headers

A list of named values in the order of their arrival. Names are kept in lower case; a name may have
several values. Names and values that cannot stand on the wire are refused.
-/

namespace Switchboard

/-- Header fields in order, names in lower case. -/
structure Headers where
  fields : List (String × ByteArray) := []
  deriving Inhabited

namespace Headers

/-- A character that may stand in a header's name. -/
def isNameChar (c : Char) : Bool := c.isAlphanum || "!#$%&'*+-.^_`|~".toList.contains c

/-- A name as it is kept, if it is one. -/
def name? (s : String) : Option String :=
  if s ≠ "" && s.toList.all isNameChar then some (Text.lower s) else none

/-- A byte that may stand in a header's value: a tab or no control character. -/
def isValueByte (b : UInt8) : Bool := b == 9 || (32 ≤ b && b != 127)

/-- May the bytes stand as a header's value? -/
def isValue (bytes : ByteArray) : Bool := bytes.data.all isValueByte

/-- A byte that reads as text: a tab or a visible character of ASCII. -/
def isTextByte (b : UInt8) : Bool := b == 9 || (32 ≤ b && b < 127)

/-- A value as text, if every byte of it is visible. -/
def valueText? (bytes : ByteArray) : Option String :=
  if bytes.data.all isTextByte then some (Utf8.decode bytes) else none

/-- Every value of a name in lower case, in order. -/
def values (h : Headers) (name : String) : List ByteArray :=
  (h.fields.filter (·.1 == name)).map (·.2)

/-- The first value of a name in lower case. -/
def get? (h : Headers) (name : String) : Option ByteArray := (h.values name).head?

/-- The first value of a name as text; none if it is no text, whatever comes after it. -/
def text? (h : Headers) (name : String) : Option String := (h.get? name).bind valueText?

/-- Adds a value behind those the name has. What cannot stand on the wire is left out. -/
def append (h : Headers) (name : String) (value : ByteArray) : Headers :=
  match name? name with
  | some name => if isValue value then ⟨h.fields ++ [(name, value)]⟩ else h
  | none => h

/-- Puts a value in place of those the name has. What cannot stand on the wire is left out. -/
def set (h : Headers) (name : String) (value : ByteArray) : Headers :=
  match name? name with
  | some name =>
    if isValue value then ⟨h.fields.filter (·.1 != name) ++ [(name, value)]⟩ else h
  | none => h

/-- `set` with a text. -/
def setText (h : Headers) (name value : String) : Headers := h.set name value.toUTF8

/-- Removes every value of a name. -/
def erase (h : Headers) (name : String) : Headers := ⟨h.fields.filter (·.1 != name)⟩

/-- Is there a value of the name? -/
def contains (h : Headers) (name : String) : Bool := h.fields.any (·.1 == name)

end Headers

end Switchboard
