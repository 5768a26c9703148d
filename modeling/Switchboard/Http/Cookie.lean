import Switchboard.Text.Split

/-!
# Cookies

Read from the pairs of a `Cookie` header and written as the value of a `Set-Cookie` header.
-/

namespace Switchboard

/-- A cookie. -/
structure Cookie where
  name : String
  value : String
  path : Option String := none
  domain : Option String := none
  maxAge : Option Int := none
  secure : Bool := false
  httpOnly : Bool := false
  deriving DecidableEq, Repr, Inhabited

namespace Cookie

/-- Reads one pair of a header. Blanks around name and value do not count, nor do quotes around the
value; a part without `=` or without a name is no cookie. -/
def ofPair? (pair : List Char) : Option Cookie := do
  let (name, value) ← Text.cutBy? (· == '=') pair
  let name := Text.trimBy Text.isBlank name
  if name = [] then none
  else
    let value := Text.trimBy (· == '"') (Text.trimBy Text.isBlank value)
    some { name := String.ofList name, value := String.ofList value }

/-- The cookies of a header, in order. -/
def parse (header : String) : List Cookie := (header.toList.splitOn ';').filterMap ofPair?

/-- The text that sets a cookie. -/
def encode (c : Cookie) : String :=
  let assigned (name : String) : Option String → String
    | some value => s!"; {name}={value}"
    | none => ""
  let flag (name : String) (on : Bool) : String := if on then s!"; {name}" else ""
  c.name ++ "=" ++ c.value ++ assigned "Path" c.path ++ assigned "Domain" c.domain ++
    assigned "Max-Age" (c.maxAge.map toString) ++ flag "Secure" c.secure ++
    flag "HttpOnly" c.httpOnly

end Cookie

end Switchboard
