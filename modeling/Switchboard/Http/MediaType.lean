import Switchboard.Text.Split

/-!
# Media types

Which media type a resource's name suggests, which types are text, and what a `Content-Type` header
says.
-/

namespace Switchboard.MediaType

/-- Media types by the ending of a resource's name. -/
def byExtension : List (String × String) :=
  [("html", "text/html"), ("htm", "text/html"), ("css", "text/css"),
    ("js", "application/javascript"), ("json", "application/json"), ("txt", "text/plain"),
    ("xml", "application/xml"), ("png", "image/png"), ("jpg", "image/jpeg"),
    ("jpeg", "image/jpeg"), ("gif", "image/gif"), ("svg", "image/svg+xml"),
    ("ico", "image/x-icon"), ("pdf", "application/pdf"), ("woff", "font/woff"),
    ("woff2", "font/woff2")]

/-- The type of a resource of unknown ending. -/
def unknown : String := "application/octet-stream"

/-- The media type that what follows the last point of a name suggests. -/
def ofResource (name : String) : String :=
  match Text.cutLast? '.' name with
  | some (_, extension) => (byExtension.lookup (Text.lower extension)).getD unknown
  | none => unknown

/-- Is a resource of this type text, so that its character set matters? -/
def isTextual (mediaType : String) : Bool :=
  Text.startsWith "text/" mediaType || Text.endsWith "json" mediaType ||
    Text.endsWith "javascript" mediaType || Text.endsWith "xml" mediaType

/-- The media type with the character set of a textual resource, unless it names one itself. -/
def withCharset (mediaType charset : String) : String :=
  if isTextual mediaType && !Text.contains "charset" mediaType then
    s!"{mediaType}; charset={charset}"
  else mediaType

/-- The character set that one parameter of a header names, quotes around it left out. -/
def charsetOf? (parameter : String) : Option String := do
  let (key, value) ← Text.cut? '=' parameter
  guard (Text.sameIgnoringCase (Text.trim key) "charset")
  let quotes (c : Char) : Bool := c == '"' || c == '\''
  let value := Text.trim (String.ofList (Text.trimBy quotes (Text.trim value).toList))
  guard (value ≠ "")
  return value

/-- What a header says: the media type in lower case, and the first character set named. -/
def parse (header : String) : String × Option String :=
  match Text.splitOn ';' header with
  | media :: parameters => (Text.lower (Text.trim media), parameters.findSome? charsetOf?)
  | [] => ("", none)

end Switchboard.MediaType
