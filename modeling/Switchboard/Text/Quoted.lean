import Switchboard.Text.Printable

/-!
# Quoted text

A text in quotes as diagnostics show it: what would not show, and what would break the quotes, is
escaped.
-/

namespace Switchboard.Text

/-- A character as its code. -/
def codeEscape (c : Char) : List Char :=
  ['\\', 'u', '\x7b'] ++ Nat.toDigits 16 c.toNat ++ ['\x7d']

/-- A character between quotes of the given kind. -/
def quotedChar (quote c : Char) : List Char :=
  if c == Char.ofNat 0 then ['\\', '0']
  else if c == '\t' then ['\\', 't']
  else if c == '\r' then ['\\', 'r']
  else if c == '\n' then ['\\', 'n']
  else if c == '\\' || c == quote then ['\\', c]
  else if isExtending c || !isPrintable c then codeEscape c
  else [c]

/-- A text in double quotes. -/
def quoted (s : String) : String :=
  String.ofList ('"' :: s.toList.flatMap (quotedChar '"') ++ ['"'])

/-- A character in single quotes. -/
def quotedSingle (c : Char) : String := String.ofList ('\'' :: quotedChar '\'' c ++ ['\''])

end Switchboard.Text
