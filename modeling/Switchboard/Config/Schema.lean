import Switchboard.Config.Settings
import Switchboard.Json.Basic
import Switchboard.Toml.Reader

/-!
# Settings as documents

Reads settings from a document. A section is a table of its fields or an array of them in order; a
field that is not there has its default, and fields of other names do not count. Written, settings
tell every field.
-/

namespace Switchboard

namespace Toml

mutual

/-- A document of another notation. -/
def ofJson : Json → Toml
  | .text s => text s
  | .bool b => bool b
  | .array items => array (ofJsonAll items)
  | .object fields => table (ofJsonFields fields)
  | .number (.int n) => integer n
  | .number (.float x) => real x
  | .null => nothing

/-- The documents of a list. -/
def ofJsonAll : List Json → List Toml
  | [] => []
  | j :: rest => ofJson j :: ofJsonAll rest

/-- The documents of the fields of an object. -/
def ofJsonFields : List (String × Json) → List (String × Toml)
  | [] => []
  | (key, j) :: rest => (key, ofJson j) :: ofJsonFields rest

end

/-- The field of a section, by its name in a table or by its place in an array. -/
def field? (name : String) (place : Nat) : Toml → Option Toml
  | table entries => Dictionary.get? entries name
  | array items => items[place]?
  | _ => none

/-- Can the value be a section? A moment is read as a table without any field that counts. -/
def isSection : Toml → Bool
  | table _ | array _ | moment => true
  | _ => false

/-- The text. -/
def text? : Toml → Option String
  | text s => some s
  | _ => none

/-- The text, or that there is none. -/
def optionalText? : Toml → Option (Option String)
  | text s => some (some s)
  | nothing => some none
  | _ => none

/-- The truth value. -/
def bool? : Toml → Option Bool
  | bool b => some b
  | _ => none

/-- The number, if it is whole, not negative and below two to the 64. -/
def nat? : Toml → Option Nat
  | integer n => if 0 ≤ n && n ≤ Number.largestUnsigned 64 then some n.toNat else none
  | _ => none

/-- The items. -/
def items? : Toml → Option (List Toml)
  | array items => some items
  | _ => none

/-- Reads a field of a section; one that is not there has a default. -/
def read {α : Type} (section_ : Toml) (name : String) (place : Nat) (as : Toml → Option α)
    (default : α) : Option α :=
  match section_.field? name place with
  | some v => as v
  | none => some default

end Toml

namespace ListenerSettings

/-- Reads the section. -/
def ofToml? (t : Toml) : Option ListenerSettings := do
  let d : ListenerSettings := {}
  guard t.isSection
  return {
    bindAddress := ← t.read "bind_address" 0 Toml.text? d.bindAddress
    maxBodySize := ← t.read "max_body_size" 1 Toml.nat? d.maxBodySize }

/-- Writes the section. -/
def toJson (s : ListenerSettings) : Json :=
  .ofFields [
    ("bind_address", .text s.bindAddress),
    ("max_body_size", .ofNat s.maxBodySize)]

end ListenerSettings

namespace HttpSettings

/-- Reads the section. -/
def ofToml? (t : Toml) : Option HttpSettings := do
  let d : HttpSettings := {}
  guard t.isSection
  return {
    staticCache := ← t.read "static_cache" 0 Toml.bool? d.staticCache
    cacheLifetime := ← t.read "cache_ttl_secs" 1 Toml.nat? d.cacheLifetime
    defaultView := ← t.read "default_view" 2 Toml.text? d.defaultView
    routeCacheSize := ← t.read "route_cache_size" 3 Toml.nat? d.routeCacheSize
    fileCacheSize := ← t.read "file_cache_size" 4 Toml.nat? d.fileCacheSize
    requestTimeout := ← t.read "request_timeout_secs" 5 Toml.nat? d.requestTimeout
    routesFile := ← t.read "routes_file" 6 Toml.optionalText? d.routesFile }

/-- Writes the section. -/
def toJson (s : HttpSettings) : Json :=
  .ofFields [
    ("static_cache", .bool s.staticCache),
    ("cache_ttl_secs", .ofNat s.cacheLifetime),
    ("default_view", .text s.defaultView),
    ("route_cache_size", .ofNat s.routeCacheSize),
    ("file_cache_size", .ofNat s.fileCacheSize),
    ("request_timeout_secs", .ofNat s.requestTimeout),
    ("routes_file", (s.routesFile.map Json.text).getD .null)]

end HttpSettings

namespace RpcSettings

/-- Reads the section. -/
def ofToml? (t : Toml) : Option RpcSettings := do
  let d : RpcSettings := {}
  guard t.isSection
  return {
    pathPrefix := ← t.read "prefix" 0 Toml.text? d.pathPrefix
    parameterNamesHeader := ←
      t.read "parameter_names_header" 1 Toml.text? d.parameterNamesHeader }

/-- Writes the section. -/
def toJson (s : RpcSettings) : Json :=
  .ofFields [
    ("prefix", .text s.pathPrefix),
    ("parameter_names_header", .text s.parameterNamesHeader)]

end RpcSettings

namespace SocketSettings

/-- Reads the section. -/
def ofToml? (t : Toml) : Option SocketSettings := do
  let d : SocketSettings := {}
  guard t.isSection
  return {
    pathPrefix := ← t.read "prefix" 0 Toml.text? d.pathPrefix
    maxMessageSize := ← t.read "max_message_size" 1 Toml.nat? d.maxMessageSize
    channelCapacity := ← t.read "channel_capacity" 2 Toml.nat? d.channelCapacity }

/-- Writes the section. -/
def toJson (s : SocketSettings) : Json :=
  .ofFields [
    ("prefix", .text s.pathPrefix),
    ("max_message_size", .ofNat s.maxMessageSize),
    ("channel_capacity", .ofNat s.channelCapacity)]

end SocketSettings

namespace StaticRouteSettings

/-- Reads a static route. Only its verb has a default. -/
def ofToml? (t : Toml) : Option StaticRouteSettings := do
  let verb ← t.read "verb" 0 Toml.text? "GET"
  let path ← (t.field? "path" 1).bind Toml.text?
  let target ← (t.field? "target" 2).bind Toml.text?
  return { verb, path, target }

/-- Writes a static route. -/
def toJson (s : StaticRouteSettings) : Json :=
  .ofFields [
    ("verb", .text s.verb),
    ("path", .text s.path),
    ("target", .text s.target)]

end StaticRouteSettings

namespace ObservabilitySettings

/-- Reads the section. -/
def ofToml? (t : Toml) : Option ObservabilitySettings := do
  let d : ObservabilitySettings := {}
  guard t.isSection
  return {
    logLevel := ← t.read "log_level" 0 Toml.text? d.logLevel
    metricsEnabled := ← t.read "metrics_enabled" 1 Toml.bool? d.metricsEnabled
    metricsAddress := ← t.read "metrics_address" 2 Toml.text? d.metricsAddress }

/-- Writes the section. -/
def toJson (s : ObservabilitySettings) : Json :=
  .ofFields [
    ("log_level", .text s.logLevel),
    ("metrics_enabled", .bool s.metricsEnabled),
    ("metrics_address", .text s.metricsAddress)]

end ObservabilitySettings

namespace Settings

/-- Reads all settings. -/
def ofToml? (t : Toml) : Option Settings := do
  guard t.isSection
  return {
    listener := ← t.read "listener" 0 ListenerSettings.ofToml? {}
    http := ← t.read "http" 1 HttpSettings.ofToml? {}
    rpc := ← t.read "rpc" 2 RpcSettings.ofToml? {}
    socket := ← t.read "socket" 3 SocketSettings.ofToml? {}
    staticRoutes := ←
      t.read "static_routes" 4 (fun v => v.items?.bind (·.mapM StaticRouteSettings.ofToml?)) []
    observability := ← t.read "observability" 5 ObservabilitySettings.ofToml? {} }

/-- Writes all settings. -/
def toJson (s : Settings) : Json :=
  .ofFields [
    ("listener", s.listener.toJson),
    ("http", s.http.toJson),
    ("rpc", s.rpc.toJson),
    ("socket", s.socket.toJson),
    ("static_routes", .array (s.staticRoutes.map StaticRouteSettings.toJson)),
    ("observability", s.observability.toJson)]

end Settings

end Switchboard
