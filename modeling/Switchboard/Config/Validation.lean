import Switchboard.Config.Address
import Switchboard.Config.Schema
import Switchboard.Http.Verb
import Switchboard.Route.Target

/-!
# Valid settings

What settings have to satisfy beyond their form. Everything that is wrong is told, in the order of
the sections.
-/

namespace Switchboard

/-- What is wrong with a setting. -/
inductive SettingProblem where
  | noAddress (text : String)
  | zero
  | blank
  | pathPrefix (text : String)
  | samePrefix
  | verb (e : UnknownVerb)
  | path (text : String)
  | target (e : InvalidTarget)
  | level (text : String)
  deriving DecidableEq, Repr

/-- The levels of logging. -/
def logLevels : List String := ["trace", "debug", "info", "warn", "error"]

/-- How the problem reads. -/
def SettingProblem.message : SettingProblem → String
  | noAddress text => s!"`{text}` is not a socket address"
  | zero => "must be greater than 0"
  | blank => "must not be empty"
  | pathPrefix text => s!"`{text}` must start with `/`, not end with `/` and not be the root"
  | samePrefix => "must differ from rpc.prefix"
  | verb e => e.message
  | path text => s!"path `{text}` must start with `/`"
  | target e => e.message
  | level text => s!"`{text}` is not one of " ++ String.intercalate ", " logLevels

/-- A setting and what is wrong with it. -/
structure InvalidSetting where
  field : String
  problem : SettingProblem
  deriving DecidableEq, Repr

/-- How the failure reads. -/
def InvalidSetting.message (e : InvalidSetting) : String := s!"{e.field}: {e.problem.message}"

namespace Settings

/-- A problem that there is unless something holds. -/
def problemUnless (holds : Bool) (field : String) (problem : SettingProblem) :
    List InvalidSetting :=
  if holds then [] else [⟨field, problem⟩]

/-- May paths have this in front? It begins with a slash, does not end with one and is not the
root. -/
def isPathPrefix (s : String) : Bool :=
  Text.startsWith "/" s && 2 ≤ s.utf8ByteSize && !Text.endsWith "/" s

/-- Is there nothing but blanks in a text? -/
def isBlank (s : String) : Bool := Text.trim s = ""

/-- Problems of a static route. -/
def routeProblems (field : String) (r : StaticRouteSettings) : List InvalidSetting :=
  (match Verb.parse r.verb with
    | .ok _ => []
    | .error e => [⟨field, .verb e⟩]) ++
  problemUnless (Text.startsWith "/" r.path) field (.path r.path) ++
  (match StaticTarget.parse r.target with
    | .ok _ => []
    | .error e => [⟨field, .target e⟩])

/-- Everything that is wrong with some settings. -/
def problems (s : Settings) : List InvalidSetting :=
  problemUnless (Address.parse? s.listener.bindAddress).isSome "listener.bind_address"
    (.noAddress s.listener.bindAddress) ++
  problemUnless (s.listener.maxBodySize ≠ 0) "listener.max_body_size" .zero ++
  problemUnless (s.http.requestTimeout ≠ 0) "http.request_timeout_secs" .zero ++
  problemUnless (!isBlank s.http.defaultView) "http.default_view" .blank ++
  problemUnless (isPathPrefix s.rpc.pathPrefix) "rpc.prefix" (.pathPrefix s.rpc.pathPrefix) ++
  problemUnless (isPathPrefix s.socket.pathPrefix) "socket.prefix"
    (.pathPrefix s.socket.pathPrefix) ++
  problemUnless (s.rpc.pathPrefix ≠ s.socket.pathPrefix) "socket.prefix" .samePrefix ++
  problemUnless (!isBlank s.rpc.parameterNamesHeader) "rpc.parameter_names_header" .blank ++
  problemUnless (s.socket.maxMessageSize ≠ 0) "socket.max_message_size" .zero ++
  problemUnless (s.socket.channelCapacity ≠ 0) "socket.channel_capacity" .zero ++
  (s.staticRoutes.zipIdx.flatMap fun (r, i) => routeProblems s!"static_routes[{i}]" r) ++
  problemUnless (logLevels.contains (Text.lower s.observability.logLevel)) "observability.log_level"
    (.level s.observability.logLevel) ++
  problemUnless (!s.observability.metricsEnabled ||
      (Address.parse? s.observability.metricsAddress).isSome)
    "observability.metrics_address" (.noAddress s.observability.metricsAddress)

end Settings

/-- Why there are no settings. -/
inductive SettingsError where
  /-- There is no such file, or it is no text. -/
  | unreadable
  /-- The text is no document, or not one of settings. -/
  | malformed
  | invalid (problems : List InvalidSetting)
  deriving DecidableEq, Repr

/-- How the failure reads. -/
def SettingsError.message : SettingsError → String
  | unreadable => "IO error"
  | malformed => "Parse error"
  | invalid problems =>
    "Validation failed: " ++ String.intercalate ", " (problems.map InvalidSetting.message)

namespace Settings

/-- Reads settings that are valid. -/
def parse (text : String) : Except SettingsError Settings :=
  match (Toml.parse? text).bind ofToml? with
  | none => .error .malformed
  | some s =>
    match s.problems with
    | [] => .ok s
    | problems => .error (.invalid problems)

/-- What is logged where nothing else is said: the program and its transport at one level. -/
def logFilter (level : String) : String :=
  let level := Text.lower level
  s!"dispatch_engine={level},tower_http={level}"

end Settings

end Switchboard
