/-!
# Settings

All that is configured, in sections, with what holds where nothing is said.
-/

namespace Switchboard

/-- Where requests come in. -/
structure ListenerSettings where
  bindAddress : String := "0.0.0.0:8080"
  /-- The most bytes a request's body may have. -/
  maxBodySize : Nat := 10485760
  deriving DecidableEq, Repr, Inhabited

/-- Routes and static resources. -/
structure HttpSettings where
  /-- Are clients told how long to keep static resources? -/
  staticCache : Bool := false
  /-- For how many seconds a static resource may be kept. -/
  cacheLifetime : Nat := 86400
  /-- The view where a handler names none. -/
  defaultView : String := "json"
  /-- The most routes kept; zero keeps none. -/
  routeCacheSize : Nat := 10000
  /-- The most static files kept; zero keeps none. -/
  fileCacheSize : Nat := 256
  /-- For how many seconds a request may take. -/
  requestTimeout : Nat := 30
  /-- A file of static routes. -/
  routesFile : Option String := none
  deriving DecidableEq, Repr, Inhabited

/-- Calls of procedures. -/
structure RpcSettings where
  /-- What stands before the paths of procedures. -/
  pathPrefix : String := "/rpc"
  /-- The header that tells whether a payload names its parameters. -/
  parameterNamesHeader : String := "x-rpc-use-parameter-names"
  deriving DecidableEq, Repr, Inhabited

/-- Sockets. -/
structure SocketSettings where
  /-- What stands before the paths of sockets. -/
  pathPrefix : String := "/ws"
  /-- The most bytes a message from a client may have. -/
  maxMessageSize : Nat := 65345
  /-- The most messages that wait for one client. -/
  channelCapacity : Nat := 64
  deriving DecidableEq, Repr, Inhabited

/-- A static route as it is written. -/
structure StaticRouteSettings where
  verb : String := "GET"
  path : String
  target : String
  deriving DecidableEq, Repr, Inhabited

/-- What is logged and measured. -/
structure ObservabilitySettings where
  logLevel : String := "info"
  metricsEnabled : Bool := false
  metricsAddress : String := "0.0.0.0:9090"
  deriving DecidableEq, Repr, Inhabited

/-- All settings. -/
structure Settings where
  listener : ListenerSettings := {}
  http : HttpSettings := {}
  rpc : RpcSettings := {}
  socket : SocketSettings := {}
  staticRoutes : List StaticRouteSettings := []
  observability : ObservabilitySettings := {}
  deriving DecidableEq, Repr, Inhabited

end Switchboard
