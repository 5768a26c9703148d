import Switchboard.Http.Cookie
import Switchboard.Http.Header
import Switchboard.Http.MediaType

/-!
# Responses

What handlers, aspects and views write while a call is served. `Response.toMessage` gives what goes
out on the wire: a content type with its character set, and a header for each cookie.
-/

namespace Switchboard

/-- A status code. -/
abbrev Status := Nat

/-- A response in the making. No output is not the same as empty output. -/
structure Response where
  status : Status := 200
  headers : Headers := {}
  cookies : List Cookie := []
  output : Option ByteArray := none
  contentType : Option String := none
  encoding : String := "UTF-8"
  /-- What went wrong, where the response tells of a failure. -/
  cause : Option String := none
  deriving Inhabited

/-- A response on the wire. -/
structure Message where
  status : Status
  headers : Headers
  body : ByteArray
  deriving Inhabited

namespace Response

/-- Puts a header in place of those of its name. -/
def setHeader (r : Response) (name value : String) : Response :=
  { r with headers := r.headers.setText name value }

/-- Sets a cookie in place of the one of its name, behind all others. -/
def setCookie (r : Response) (c : Cookie) : Response :=
  { r with cookies := r.cookies.filter (·.name != c.name) ++ [c] }

/-- The output as text; none is empty. -/
def bodyText (r : Response) : String := (r.output.map Utf8.decode).getD ""

/-- The value of the content type's header. -/
def contentTypeHeader (r : Response) : Option String :=
  r.contentType.map (MediaType.withCharset · r.encoding)

/-- The response as it goes out. What cannot stand in a header is left out. -/
def toMessage (r : Response) : Message :=
  let headers := match r.contentTypeHeader with
    | some value => r.headers.setText "content-type" value
    | none => r.headers
  { status := r.status
    headers := r.cookies.foldl (fun h c => h.append "set-cookie" c.encode.toUTF8) headers
    body := r.output.getD ByteArray.empty }

end Response

end Switchboard
