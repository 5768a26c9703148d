import Switchboard.Config.Settings
import Switchboard.Service.Engine

/-!
# The shell of the server

What stands between the wire and the engine: it numbers requests, refuses bodies that are too long,
sends what asks for a socket to the sockets, calls of procedures to the procedures and all else to
the routes, and writes the length of every response.
-/

namespace Switchboard

/-- A request on the wire. -/
structure WireRequest where
  method : String
  /-- What is asked for: a path with a query, or a whole address. -/
  target : String
  headers : Headers := {}
  body : ByteArray := ByteArray.empty
  deriving Inhabited

namespace WireRequest

/-- Path and query of what is asked for; what follows a `#` does not count. -/
def pathAndQuery (r : WireRequest) : String :=
  let target := String.ofList (r.target.toList.takeWhile (· ≠ '#'))
  if Text.startsWith "/" target then target
  else
    match target.splitOn "://" with
    | _ :: authority :: more =>
      let rest := String.intercalate "://" (authority :: more)
      let path := String.ofList (rest.toList.dropWhile fun c => c ≠ '/' && c ≠ '?')
      if path = "" then "/" else path
    | _ => target

/-- The path. -/
def path (r : WireRequest) : String :=
  match Text.cut? '?' r.pathAndQuery with
  | some (path, _) => path
  | none => r.pathAndQuery

/-- The query. -/
def query? (r : WireRequest) : Option String := (Text.cut? '?' r.pathAndQuery).map (·.2)

/-- The length of the body that the headers tell. -/
def declaredLength? (r : WireRequest) : Option Nat :=
  (r.headers.text? "content-length").bind (Number.readNat? (Number.largestUnsigned 64))

end WireRequest

namespace Message

/-- A text of the shell's own. -/
def plain (status : Status) (text : String) : Message where
  status := status
  headers := ({} : Headers).setText "content-type" "text/plain; charset=utf-8"
  body := text.toUTF8

/-- Puts a header where there is none of its name. -/
def withHeader (m : Message) (name : String) (value : ByteArray) : Message :=
  if m.headers.contains name then m else { m with headers := m.headers.set name value }

/-- The message with its length. -/
def withLength (m : Message) : Message :=
  m.withHeader "content-length" (toString m.body.size).toUTF8

end Message

/-- The path of a procedure behind what stands before such paths. -/
def procedurePath? (start path : String) : Option String :=
  (Text.after? start path).filter (Text.startsWith "/")

/-- The path of a socket as it is written, behind what stands before such paths; it is not empty. The
start is one that a router takes as it is written: captures in it are not described. -/
def socketPath? (start path : String) : Option String :=
  (Text.after? (start ++ "/") path).filter (· ≠ "")

/-- An engine with what its shell needs to know. -/
structure Server (σ : Type) where
  engine : Engine σ
  /-- What stands before the paths of procedures, without a slash at its end. -/
  procedureRoot : String
  /-- What stands before the paths of sockets, without a slash at its end. -/
  socketRoot : String
  /-- The most bytes of a body. -/
  maxBodySize : Nat
  /-- The most bytes of a message over a socket. -/
  maxMessageSize : Nat

namespace Server
variable {σ : Type}

/-- The server of an engine. -/
def ofSettings (engine : Engine σ) (s : Settings) : Server σ where
  engine := engine
  procedureRoot := Text.trimEndOf '/' s.rpc.pathPrefix
  socketRoot := Text.trimEndOf '/' s.socket.pathPrefix
  maxBodySize := s.listener.maxBodySize
  maxMessageSize := s.socket.maxMessageSize

/-- The header with the number of a request. -/
def requestIdHeader : String := "x-request-id"

/-- Why a request cannot open a socket, if it cannot by its headers. -/
def handshakeProblem? (r : WireRequest) : Option Message :=
  let bytes (name : String) : String := ((r.headers.get? name).map Utf8.decode).getD ""
  let connection := (r.headers.get? "connection").bind Utf8.decode?
  if r.method ≠ "GET" then some (.plain 405 "Request method must be `GET`")
  else if !connection.any fun c => Text.contains "upgrade" (Text.lower c) then
    some (.plain 400 "Connection header did not include 'upgrade'")
  else if !Text.sameIgnoringCase (bytes "upgrade") "websocket" then
    some (.plain 400 "`Upgrade` header did not include 'websocket'")
  else if !r.headers.contains "sec-websocket-key" then
    some (.plain 400 "`Sec-WebSocket-Key` header missing")
  else if bytes "sec-websocket-version" ≠ "13" then
    some (.plain 400 "`Sec-WebSocket-Version` header did not include '13'")
  else none

/-- Answers a request by the engine, if that has an answer. The method has to be a verb other than
the one of messages, and the body no longer than `limit`. -/
def dispatch (server : Server σ) (s : Surroundings) (limit : Nat) (r : WireRequest) :
    StateM (Service σ) (Option Message) := do
  match Verb.parse r.method with
  | .error e => return some (.plain 405 e.message)
  | .ok .ws => return some (.plain 405 "WS is only reachable by upgrade")
  | .ok verb =>
    if limit < r.body.size then
      return some (.plain 413 "failed to read body: length limit exceeded")
    let request := Request.ofParts verb r.pathAndQuery r.headers r.body none
    let response ←
      match procedurePath? server.procedureRoot request.path with
      | some path => some <$> server.engine.handleCall path request
      | none => server.engine.handle s request
    return response.map Response.toMessage

/-- Answers a request for a socket where no connection can become one. -/
def refuseSocket (r : WireRequest) : Message :=
  if r.method = "GET" || r.method = "HEAD" then
    (handshakeProblem? r).getD (.plain 426
      "WebSocket request couldn't be upgraded since no upgrade state was present")
  else
    { status := 405, headers := {}, body := ByteArray.empty }

/-- Answers a request within the limit of its body, if there is an answer. -/
def route (server : Server σ) (s : Surroundings) (r : WireRequest) :
    StateM (Service σ) (Option Message) := do
  let limit := min server.maxBodySize (r.declaredLength?.getD server.maxBodySize)
  let tooLong := r.declaredLength?.any (server.maxBodySize < ·)
  match socketPath? server.socketRoot r.path with
  | some _ =>
    let m := if tooLong then .plain 413 "length limit exceeded" else refuseSocket r
    if r.method = "GET" || r.method = "HEAD" then return some m
    return some (m.withHeader "allow" "GET,HEAD".toUTF8)
  | none =>
    if tooLong then return some (.plain 413 "length limit exceeded")
    server.dispatch s limit r

/-- The request with a number, its own or the one given. -/
def numbered (fresh : String) (r : WireRequest) : WireRequest :=
  if r.headers.contains requestIdHeader then r
  else { r with headers := r.headers.setText requestIdHeader fresh }

/-- An answer as it goes over the wire. What answers a `HEAD` has the length of a body, and none. -/
def sealed (r : WireRequest) (m : Message) : Message :=
  let m := m.withLength
  let m := if r.method = "HEAD" then { m with body := ByteArray.empty } else m
  m.withHeader requestIdHeader ((r.headers.get? requestIdHeader).getD ByteArray.empty)

/-- Answers a request on the wire, if there is an answer; `fresh` numbers it if it has no number. -/
def respond (server : Server σ) (s : Surroundings) (fresh : String) (r : WireRequest) :
    StateM (Service σ) (Option Message) := do
  let r := numbered fresh r
  return (← server.route s r).map (sealed r)

end Server

end Switchboard
