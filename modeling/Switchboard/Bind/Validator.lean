import Switchboard.Number.Decimal
import Switchboard.Param.Parameter
import Switchboard.Text.Word

/-!
# Validators

A validator accepts or refuses a bound value, by the attributes of the marker that names it.
-/

namespace Switchboard

/-- Decides whether a value is acceptable under a marker. -/
abbrev Validator := Value → Marker → Bool

namespace Validator

/-- The value is there: not null, not blank and not an empty collection. -/
def required : Validator := fun v _ =>
  match v with
  | .null => false
  | .text s => Text.trim s ≠ ""
  | .array items => !items.isEmpty
  | .map entries => !entries.isEmpty
  | .files uploads => !uploads.isEmpty
  | .json .null => false
  | _ => true

/-- A bound of a range; one that is missing or no number is open. -/
def bound (m : Marker) (key : String) (unbounded : Number.Double) : Number.Double :=
  ((m.attribute? key).bind fun s => Number.read? (Text.trim s)).getD unbounded

/-- The number to compare with the bounds; a text is read as one. -/
def measure? : Value → Option Number.Double
  | .text s => Number.read? (Text.trim s)
  | v => v.double?

/-- A number between the bounds `min` and `max`, both included. Null is acceptable. -/
def range : Validator := fun v m =>
  v.isNull ||
    let low := bound m "min" (.infinite true)
    let high := bound m "max" (.infinite false)
    (measure? v).any fun x => low.le x && x.le high

/-! ## Mail addresses -/

/-- A character of the part before the `@`, points apart. -/
def isAtomChar (c : Char) : Bool := Text.isWord c || "!#$%&'*+/=?^`\x7b|\x7d~-".toList.contains c

/-- Where the reading of an address stands. -/
inductive AddressStage where
  /-- An atom has to begin. -/
  | atomStart
  /-- Inside an atom. -/
  | atom
  /-- A label has to begin; `inner` once there was one. -/
  | labelStart (inner : Bool)
  /-- Inside a label: whether another came before it, whether it began with an ASCII letter or
  digit, and whether its last character may end it. -/
  | label (inner plain closed : Bool)
  deriving DecidableEq, Repr

/-- The stage after one more character, if an address can go on with it. -/
def AddressStage.next? : AddressStage → Char → Option AddressStage
  | atomStart, c => if isAtomChar c then some atom else none
  | atom, c =>
    if isAtomChar c then some atom
    else if c = '.' then some atomStart
    else if c = '@' then some (labelStart false)
    else none
  | labelStart inner, c => if Text.isWord c then some (label inner c.isAlphanum true) else none
  | label inner plain closed, c =>
    if Text.isWord c then some (label inner plain true)
    else if c = '-' then some (label inner plain false)
    else if c = '.' && closed then some (labelStart true)
    else none

/-- May an address end here? -/
def AddressStage.isEnd : AddressStage → Bool
  | label true true true => true
  | _ => false

/-- Is the text a mail address? -/
def isAddress (cs : List Char) : Bool :=
  (cs.foldlM AddressStage.next? .atomStart).any AddressStage.isEnd

/-- A text that is a mail address. -/
def email : Validator := fun v _ => v.text?.any fun s => isAddress s.toList

/-! ## Network addresses -/

/-- Four numbers of at most 255 with points between them. -/
def isDottedQuad (s : String) : Bool :=
  let parts := Text.splitOn '.' s
  parts.length == 4 && parts.all fun p => (Number.readNat? 255 p).isSome

/-- A text that is an address of four numbers. -/
def ipv4 : Validator := fun v _ => v.text?.any isDottedQuad

end Validator

end Switchboard
