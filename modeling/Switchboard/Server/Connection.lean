import Switchboard.Server.Shell

/-!
# Connections over sockets

A connection is bound to the path it was opened on. What the client sends is answered by the handler
of the path; what is sent to the path's channels goes to the client. When either side ends it, the
channel is unbound.
-/

namespace Switchboard

/-- What a client gets. -/
inductive Frame where
  | text (s : String)
  | pong (data : ByteArray)
  deriving Inhabited

/-- What a client sends. -/
inductive ClientMessage where
  | text (s : String)
  | binary (data : ByteArray)
  | ping (data : ByteArray)
  | close
  deriving Inhabited

/-- A connection. -/
structure Connection where
  path : String
  channel : ChannelId
  handshake : Request
  /-- What is on its way to the client. -/
  frames : List Frame := []
  isOpen : Bool := true
  deriving Inhabited

/-- What a client that waits for a frame finds. -/
inductive Received where
  | frame (f : Frame)
  | closed
  | timeout
  deriving Inhabited

namespace Server
variable {σ : Type}

/-- The path of a socket with escapes decoded, if that gives a text. It begins with one slash. -/
def decodedPath? (written : String) : Option String :=
  (Utf8.decode? (Form.percentDecode written.toUTF8.data.toList).toByteArray).map fun path =>
    "/" ++ Text.trimStartOf '/' path

/-- The request that opens a socket: the decoded path with the query as it came. -/
def handshake (path : String) (r : WireRequest) : Request :=
  let target := match r.query? with
    | some query => path ++ "?" ++ query
    | none => path
  .ofParts .ws target r.headers ByteArray.empty none

/-- Opens a connection, or answers why there is none, if there is an answer. -/
def openSocket (server : Server σ) (s : Surroundings) (fresh : String) (r : WireRequest) :
    StateM (Service σ) (Except (Option Message) Connection) := do
  let r := numbered fresh r
  match socketPath? server.socketRoot r.path, handshakeProblem? r with
  | some written, none =>
    match decodedPath? written with
    | none => return .error (some (.plain 400 "Invalid URL: Invalid UTF-8 in `path`"))
    | some path =>
      if ← server.engine.acceptsSocket s path then
        let handshake := handshake path r
        let channel ← Engine.onHub fun h => h.bind path handshake
        return .ok { path, channel, handshake }
      else return .error (some (.plain 404 s!"Not Found: WS {path}"))
  | _, _ => return .error (← server.respond s fresh r)

/-- Ends a connection; what is on its way still arrives. -/
def closeSocket (c : Connection) : StateM (Service σ) Connection := do
  if c.isOpen then
    Engine.onHub fun h => ((), (h.unbind c.path c.channel).close c.channel)
  return { c with isOpen := false }

/-- Sends the client up to `n` of the messages that wait for it. -/
def sendWaiting : (n : Nat) → Connection → StateM (Service σ) Connection
  | 0, c => return c
  | n + 1, c => do
    let service ← get
    match service.hub.receive? c.channel with
    | none => return c
    | some (message, hub) =>
      set { service with hub }
      sendWaiting n { c with frames := c.frames ++ [.text message] }

/-- Sends the client all that waits for it: what its mailbox holds, and what tasks want to leave
there. -/
def flush (c : Connection) : StateM (Service σ) Connection := do
  let hub := (← get).hub
  let waiting := ((hub.mailbox? c.channel).map (·.queued.length)).getD 0
  sendWaiting (waiting + hub.tasks.length) c

/-- Takes what a client sends. A message that is too long ends the connection. -/
def takeMessage (server : Server σ) (s : Surroundings) (c : Connection) (m : ClientMessage) :
    StateM (Service σ) Connection := do
  match m with
  | .text text =>
    if server.maxMessageSize < text.utf8ByteSize then closeSocket c
    else
      if let some reply ← server.engine.handleMessage s c.path c.handshake text then
        Engine.onHub fun h => ((), h.settle c.channel (·.push reply))
      flush c
  | .binary data => if server.maxMessageSize < data.size then closeSocket c else return c
  | .ping data => return { c with frames := c.frames ++ [.pong data] }
  | .close => closeSocket c

/-- Waits up to some milliseconds for a frame. What arrives when they are over is too late. -/
def receive (server : Server σ) : (milliseconds : Nat) → Connection →
    StateM (Service σ) (Received × Connection)
  | n, c => do
    let c ← if c.isOpen then flush c else pure c
    match c.frames with
    | f :: rest => return (.frame f, { c with frames := rest })
    | [] =>
      if !c.isOpen then return (.closed, c)
      match n with
      | 0 => return (.timeout, c)
      | 1 =>
        server.engine.wait 1
        return (.timeout, c)
      | n + 2 =>
        server.engine.wait 1
        server.receive (n + 1) c

end Server

end Switchboard
