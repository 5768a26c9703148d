import Switchboard.Json.Basic

/-!
# Writing JSON

Documents are written without blanks. Only quotes, backslashes and control characters below U+0020
are escaped.
-/

namespace Switchboard.Json

/-- Numbers are written positionally from 0.00001 up to below 10 ^ 16, exponents with their sign. -/
def numberLayout : Number.Layout := ⟨-5, 15, true, true⟩

/-- A digit of a hexadecimal number in lower case. -/
def hexDigit (n : Nat) : Char := Char.ofNat (if n < 10 then 48 + n else 87 + n)

/-- A character as it stands in a string. -/
def escape (c : Char) : List Char :=
  if c == '"' then ['\\', '"']
  else if c == '\\' then ['\\', '\\']
  else if c == '\n' then ['\\', 'n']
  else if c == '\r' then ['\\', 'r']
  else if c == '\t' then ['\\', 't']
  else if c == '\x08' then ['\\', 'b']
  else if c == '\x0c' then ['\\', 'f']
  else if c.toNat < 0x20 then
    ['\\', 'u', '0', '0', hexDigit (c.toNat / 16), hexDigit (c.toNat % 16)]
  else [c]

/-- A text in quotes. -/
def quote (s : String) : String := String.ofList ('"' :: s.toList.flatMap escape ++ ['"'])

/-- The text of a number. -/
def Number.render : Number → String
  | .int n => toString n
  | .float x => numberLayout.text "null" "null" x

mutual

/-- The text of a document. -/
def render : Json → String
  | null => "null"
  | bool true => "true"
  | bool false => "false"
  | number n => n.render
  | text s => quote s
  | array items => "[" ++ renderItems items ++ "]"
  | object fields => "\x7b" ++ renderFields fields ++ "\x7d"

/-- Items with commas between them. -/
def renderItems : List Json → String
  | [] => ""
  | [v] => render v
  | v :: rest => render v ++ "," ++ renderItems rest

/-- Fields with commas between them. -/
def renderFields : List (String × Json) → String
  | [] => ""
  | [(name, v)] => quote name ++ ":" ++ render v
  | (name, v) :: rest => quote name ++ ":" ++ render v ++ "," ++ renderFields rest

end

end Switchboard.Json
