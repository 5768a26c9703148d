import Switchboard.Http.Cookie
import Switchboard.Http.Form
import Switchboard.Http.Header
import Switchboard.Http.Language
import Switchboard.Http.MediaType
import Switchboard.Http.Verb
import Switchboard.Param.Value

/-!
# Requests

All that a handler may read of a call: verb, path, parameters, headers, cookies and body, and the
attachments that come beside them. `Request.ofUri` splits a target and reads its query;
`Request.ofParts` derives what headers and a form body say as well.
-/

namespace Switchboard

/-- What comes beside a request. -/
inductive Attachment where
  | text (s : String)
  | flag (on : Bool)
  | files (uploads : Dictionary Upload)
  deriving Inhabited

/-- A request. -/
structure Request where
  verb : Verb
  path : String
  query : Option String := none
  host : Option String := none
  port : Nat := 80
  remoteAddress : Option String := none
  params : Dictionary (List String) := []
  headers : Headers := {}
  cookies : Dictionary Cookie := []
  body : ByteArray := ByteArray.empty
  attachments : Dictionary Attachment := []
  contentType : String := "text/html"
  encoding : String := "UTF-8"
  keepAlive : Bool := true
  languages : List String := []
  deriving Inhabited

namespace Request

/-- The key of a text that stands in for the body. -/
def bodyKey : String := "body"

/-- The key of the uploaded files. -/
def filesKey : String := "files"

/-- The key of the flag that a payload names its parameters. -/
def parameterNamesKey : String := "useParameterNames"

/-- The key of the session. -/
def sessionKey : String := "session"

/-- The header that replaces a request's verb. -/
def overrideHeader : String := "x-http-method-override"

/-- The media type of form bodies. -/
def formType : String := "application/x-www-form-urlencoded"

/-- Adds a value behind those the parameter has. -/
def addParam (r : Request) (name value : String) : Request :=
  { r with params := Dictionary.modify r.params name fun old => old.getD [] ++ [value] }

/-- Adds the pairs of a form. -/
def addForm (r : Request) (form : ByteArray) : Request :=
  (Form.parse form).foldl (fun r (name, value) => r.addParam name value) r

/-- A request for a target. What follows the first question mark is its query. -/
def ofUri (verb : Verb) (uri : String) : Request :=
  let (path, query) := match Text.cut? '?' uri with
    | some (path, query) => (path, some query)
    | none => (uri, none)
  let r : Request := { verb, path := if path = "" then "/" else path, query }
  match query with
  | some query => r.addForm query.toUTF8
  | none => r

/-- Sets an attachment. -/
def attach (r : Request) (key : String) (a : Attachment) : Request :=
  { r with attachments := Dictionary.put key a r.attachments }

/-- The first value of a parameter. -/
def param? (r : Request) (name : String) : Option String :=
  (Dictionary.get? r.params name).bind List.head?

/-- Every parameter with its first value. -/
def flatParams (r : Request) : Dictionary String :=
  r.params.filterMap fun (name, values) => values.head?.map fun v => (name, v)

/-- The first value of a header as text. -/
def header? (r : Request) (name : String) : Option String := r.headers.text? name

/-- The attached body text if there is one, else the body read as text. -/
def bodyText (r : Request) : String :=
  match Dictionary.get? r.attachments bodyKey with
  | some (.text s) => s
  | _ => Utf8.decode r.body

/-- The attached files by form field. -/
def files (r : Request) : Dictionary Upload :=
  match Dictionary.get? r.attachments filesKey with
  | some (.files uploads) => uploads
  | _ => []

/-- Does the payload name its parameters? -/
def usesParameterNames (r : Request) : Bool :=
  Dictionary.get? r.attachments parameterNamesKey matches some (.flag true)

/-- The session, if there is one. -/
def session? (r : Request) : Option String :=
  match Dictionary.get? r.attachments sessionKey with
  | some (.text id) => some id
  | _ => none

/-! ## What headers say -/

/-- Host and port: what stands before and behind the first colon, the port 80 if none is read. -/
def withHost (r : Request) : Request :=
  match r.header? "host" with
  | none => r
  | some host =>
    match Text.cut? ':' host with
    | some (name, port) =>
      { r with host := some name, port := (Number.readNat? 65535 port).getD 80 }
    | none => { r with host := some host }

/-- The cookies of every `Cookie` header; of two with one name the later wins. -/
def withCookies (r : Request) : Request :=
  let cookies := ((r.headers.values "cookie").filterMap Headers.valueText?).flatMap Cookie.parse
  { r with cookies := cookies.foldl (fun d c => Dictionary.put c.name c d) r.cookies }

/-- A verb in the override header takes the place of the request's, sockets excepted. -/
def withOverride (r : Request) : Request :=
  match (r.header? overrideHeader).map Verb.parse with
  | some (.ok verb) => if verb = .ws then r else { r with verb }
  | _ => r

/-- The address the request was forwarded for takes the place of the sender's. -/
def withForwarded (r : Request) : Request :=
  match r.header? "x-forwarded-for" with
  | some address => { r with remoteAddress := some address }
  | none => r

/-- Media type and character set of the body. -/
def withContentType (r : Request) : Request :=
  match (r.header? "content-type").map MediaType.parse with
  | some (contentType, charset) => { r with contentType, encoding := charset.getD r.encoding }
  | none => r

/-- Is the connection to be kept? It is unless the request closes it. -/
def withConnection (r : Request) : Request :=
  { r with
    keepAlive := !((r.header? "connection").any (Text.sameIgnoringCase · "close")) }

/-- The languages asked for. -/
def withLanguages (r : Request) : Request :=
  match r.header? "accept-language" with
  | some header => { r with languages := Language.parse header }
  | none => r

/-- The parameters of a form body. -/
def withFormBody (r : Request) : Request :=
  if r.contentType = formType then r.addForm r.body else r

/-- Derives all that headers say. -/
def derive (r : Request) : Request :=
  r.withHost.withCookies.withOverride.withForwarded
    |>.withContentType.withConnection.withLanguages.withFormBody

/-- A request from what a connection delivers. -/
def ofParts (verb : Verb) (uri : String) (headers : Headers) (body : ByteArray)
    (remote : Option String) : Request :=
  { ofUri verb uri with headers, body, remoteAddress := remote }.derive

end Request

end Switchboard
