import Switchboard.Json.Basic

/-!
# Reading JSON

A text is first cut into tokens, then the tokens are folded over a stack of unfinished arrays and
objects. Both steps recurse on what they read, so every text is read to its end.

A number literal without fraction and exponent is an integer if 64 bits hold it. Any other is read
in the double format from at most the digits that 64 bits hold, multiplied or divided by one power
of ten, so it may be a neighbour of the nearest number; a literal that overflows is no number.
-/

namespace Switchboard.Json

/-- The parts of a document's text. -/
inductive Token where
  | beginArray | endArray | beginObject | endObject | comma | colon
  | scalar (v : Json)
  deriving Repr

/-! ## Number literals -/

/-- The digits of a literal read so far: those that fit 64 bits, and the power of ten that the
others leave. -/
structure Significand where
  digits : Nat
  scale : Int
  deriving DecidableEq, Repr

namespace Significand

/-- Does one more digit fit? -/
def fits (s : Significand) (c : Char) : Bool :=
  s.digits * 10 + Number.digitValue c ≤ Number.largestUnsigned 64

/-- Takes in the digits before the point; from the first that does not fit, each counts as a power
of ten. -/
def whole (s : Significand) : List Char → Significand
  | [] => s
  | c :: cs =>
    if s.fits c then whole ⟨s.digits * 10 + Number.digitValue c, s.scale⟩ cs
    else ⟨s.digits, s.scale + (cs.length + 1)⟩

/-- Takes in the digits behind the point up to the first that does not fit. -/
def fraction (s : Significand) : List Char → Significand
  | [] => s
  | c :: cs =>
    if s.fits c then fraction ⟨s.digits * 10 + Number.digitValue c, s.scale - 1⟩ cs else s

end Significand

/-- The largest power of ten that the double format holds. -/
def largestPower : Nat := 308

/-- Divides by the power of ten `e`, the largest one at a time; zero needs no further division. -/
def divideByPower (x : Number.Double) (e : Nat) : Number.Double :=
  if e ≤ largestPower then x.div (.ofInt (Nat.pow 10 e))
  else if x.isZero then x
  else divideByPower (x.div (.ofInt (Nat.pow 10 largestPower))) (e - largestPower)
termination_by e
decreasing_by simp only [largestPower] at *; omega

/-- A significand and its scale as one number, if it does not overflow. -/
def scaled? (digits : Nat) (scale : Int) : Option Number.Double :=
  let x : Number.Double := .ofInt digits
  if scale < 0 then some (divideByPower x scale.natAbs)
  else if scale ≤ largestPower then
    let y := x.mul (.ofInt (Nat.pow 10 scale.toNat))
    if y.isInfinite then none else some y
  else if x.isZero then some x
  else none

/-- Reads a number literal: an optional minus sign, digits without a leading zero, and optional
fraction and exponent. -/
def readNumber? (cs : List Char) : Option Number := do
  let (negative, cs) := match cs with
    | '-' :: rest => (true, rest)
    | all => (false, all)
  let (whole, rest) := cs.span Char.isDigit
  guard (whole = ['0'] || (whole ≠ [] && whole.head? ≠ some '0'))
  let signed (x : Number.Double) : Number := .float (if negative then x.neg else x)
  let significand := Significand.whole ⟨0, 0⟩ whole
  match rest with
  | [] =>
    let n := Number.ofDigits whole
    if negative then
      if n ≠ 0 && Number.leastSigned 64 ≤ -(n : Int) then some (.int (-(n : Int)))
      else (scaled? significand.digits significand.scale).map signed
    else if n ≤ Number.largestUnsigned 64 then some (.int n)
    else (scaled? significand.digits significand.scale).map signed
  | _ =>
    let (fraction, rest) ← match rest with
      | '.' :: more =>
        let parts := more.span Char.isDigit
        if parts.1.isEmpty then none else some parts
      | other => some ([], other)
    let exponent ← Number.readExponent? rest
    let s := significand.fraction fraction
    (scaled? s.digits (s.scale + exponent)).map signed

/-! ## Strings -/

/-- The number that four hexadecimal digits write. -/
def hexFour? (a b c d : Char) : Option Nat := do
  let a ← Number.hexValue? a
  let b ← Number.hexValue? b
  let c ← Number.hexValue? c
  let d ← Number.hexValue? d
  return ((a * 16 + b) * 16 + c) * 16 + d

/-- The character of a single escaped letter. -/
def escaped? : Char → Option Char
  | '"' => some '"'
  | '\\' => some '\\'
  | '/' => some '/'
  | 'b' => some '\x08'
  | 'f' => some '\x0c'
  | 'n' => some '\n'
  | 'r' => some '\r'
  | 't' => some '\t'
  | _ => none

/-- Reads a string from behind its opening quote and gives what follows the closing one. Two escaped
surrogates are one character, a lone one is none, and control characters stand only escaped. -/
def readString? : List Char → List Char → Option (List Char × List Char)
  | _, [] => none
  | acc, '"' :: rest => some (acc.reverse, rest)
  | acc, '\\' :: 'u' :: a :: b :: c :: d :: rest =>
    match hexFour? a b c d with
    | none => none
    | some n =>
      if n < 0xD800 || 0xDFFF < n then readString? (Char.ofNat n :: acc) rest
      else if 0xDC00 ≤ n then none
      else match rest with
        | '\\' :: 'u' :: a :: b :: c :: d :: rest =>
          match hexFour? a b c d with
          | none => none
          | some m =>
            if 0xDC00 ≤ m && m ≤ 0xDFFF then
              readString? (Char.ofNat (0x10000 + (n - 0xD800) * 0x400 + (m - 0xDC00)) :: acc) rest
            else none
        | _ => none
  | acc, '\\' :: c :: rest =>
    match escaped? c with
    | some e => readString? (e :: acc) rest
    | none => none
  | acc, c :: rest => if c.toNat < 0x20 then none else readString? (c :: acc) rest

/-- What follows the string is a part of the text behind its opening quote. -/
theorem length_of_readString? {acc cs s rest : List Char}
    (h : readString? acc cs = some (s, rest)) : rest.length < cs.length := by
  fun_induction readString? acc cs <;> simp_all <;> omega

/-! ## Tokens -/

/-- A character that may stand in a number literal. -/
def isNumberChar (c : Char) : Bool :=
  c.isDigit || c == '-' || c == '+' || c == '.' || c == 'e' || c == 'E'

/-- The tokens of a text, blanks between them left out. -/
def tokens? : List Char → Option (List Token)
  | [] => some []
  | '[' :: rest => (tokens? rest).map (.beginArray :: ·)
  | ']' :: rest => (tokens? rest).map (.endArray :: ·)
  | '\x7b' :: rest => (tokens? rest).map (.beginObject :: ·)
  | '\x7d' :: rest => (tokens? rest).map (.endObject :: ·)
  | ',' :: rest => (tokens? rest).map (.comma :: ·)
  | ':' :: rest => (tokens? rest).map (.colon :: ·)
  | 'n' :: 'u' :: 'l' :: 'l' :: rest => (tokens? rest).map (.scalar .null :: ·)
  | 't' :: 'r' :: 'u' :: 'e' :: rest => (tokens? rest).map (.scalar (.bool true) :: ·)
  | 'f' :: 'a' :: 'l' :: 's' :: 'e' :: rest => (tokens? rest).map (.scalar (.bool false) :: ·)
  | '"' :: rest =>
    match _read : readString? [] rest with
    | some (s, more) => (tokens? more).map (.scalar (.text (String.ofList s)) :: ·)
    | none => none
  | c :: rest =>
    if c == ' ' || c == '\n' || c == '\t' || c == '\r' then tokens? rest
    else if c == '-' || c.isDigit then
      match readNumber? (c :: rest.takeWhile isNumberChar) with
      | some n => (tokens? (rest.dropWhile isNumberChar)).map (.scalar (.number n) :: ·)
      | none => none
    else none
termination_by cs => cs.length
decreasing_by
  all_goals simp only [List.length_cons]
  all_goals try omega
  · have := length_of_readString? _read; omega
  · have := (List.dropWhile_suffix isNumberChar (l := rest)).length_le; omega

/-! ## Documents -/

/-- An array or object whose end has not come, latest item or field first. -/
inductive Frame where
  | array (items : List Json)
  | object (fields : List (String × Json)) (name : String)
  deriving Repr

/-- What has been read, and what may come next. -/
inductive Progress where
  /-- A value has to come. -/
  | value (stack : List Frame)
  /-- A value or the end of the array just begun. -/
  | item (stack : List Frame)
  /-- A field, or where nothing came before it also the end of the object. -/
  | field (fields : List (String × Json)) (stack : List Frame)
  /-- The colon behind a field's name. -/
  | colon (fields : List (String × Json)) (name : String) (stack : List Frame)
  /-- A value has been read: a comma or the end of what holds it. -/
  | after (v : Json) (stack : List Frame)
  deriving Repr

/-- Arrays and objects are nested at most this deep. -/
def deepest : Nat := 127

/-- The state after a token that may begin a value. -/
def beginValue? (t : Token) (stack : List Frame) : Option Progress :=
  match t with
  | .scalar v => some (.after v stack)
  | .beginArray => if stack.length < deepest then some (.item stack) else none
  | .beginObject => if stack.length < deepest then some (.field [] stack) else none
  | _ => none

/-- One token. The stack of `item` and `field` leaves out the array or object just begun. -/
def step? : Progress → Token → Option Progress
  | .value stack, t => beginValue? t stack
  | .item stack, .endArray => some (.after (.array []) stack)
  | .item stack, t => beginValue? t (.array [] :: stack)
  | .field fields stack, .scalar (.text name) => some (.colon fields name stack)
  | .field [] stack, .endObject => some (.after (.object []) stack)
  | .colon fields name stack, .colon => some (.value (.object fields name :: stack))
  | .after v (.array items :: stack), .comma => some (.value (.array (v :: items) :: stack))
  | .after v (.array items :: stack), .endArray =>
    some (.after (.array (v :: items).reverse) stack)
  | .after v (.object fields name :: stack), .comma => some (.field ((name, v) :: fields) stack)
  | .after v (.object fields name :: stack), .endObject =>
    some (.after (.ofFields ((name, v) :: fields).reverse) stack)
  | _, _ => none

/-- Reads one document from the whole of a text. -/
def parse? (s : String) : Option Json := do
  let tokens ← tokens? s.toList
  match ← tokens.foldlM step? (.value []) with
  | .after v [] => some v
  | _ => none

end Switchboard.Json
