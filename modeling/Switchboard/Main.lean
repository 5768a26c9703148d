import Switchboard.Command
import Switchboard.Config.Validation
import Switchboard.Sample
import Switchboard.Server.Shell

/-!
# The program

Serves the sample application. A request is a line of its method and its target, with a body behind
them or not, and is answered by a line of the status and the body, if it is answered.
-/

open Switchboard

/-- The files that are named in the settings, as far as they can be read. -/
def namedFiles (settings : Settings) : IO FileSystem := do
  let listed := settings.staticRoutes.filterMap fun r => Text.after? StaticTarget.fileMark r.target
  let mut files : FileSystem := { here := FileSystem.names ⟨(← IO.currentDir).toString⟩ }
  for path in settings.http.routesFile.toList ++ listed do
    match ← (IO.FS.readBinFile path).toBaseIO with
    | .ok data => files := files.write ⟨path⟩ { data, modified := ⟨0, 0⟩ }
    | .error _ => pure ()
  return files

/-- The settings of a command. -/
def settingsOf (c : Command) : IO (Except SettingsError Settings) := do
  let found : Except SettingsError Settings ← match c.config with
    | none => pure (.ok {})
    | some path =>
      match ← (IO.FS.readFile path).toBaseIO with
      | .ok text => pure (Settings.parse text)
      | .error _ => pure (.error .unreadable)
  return found.map fun s =>
    { s with listener.bindAddress := c.bind.getD s.listener.bindAddress }

/-- The line that lists a route. -/
def lineOf : ListedRoute → String
  | .route verb path target => s!"{verb.name} {path} {target}"
  | .procedure path candidate => s!"RPC {path} {candidate}"
  | .push path => s!"PUSH {path}"

/-- Answers lines until there are no more. -/
partial def serveLines (server : Server String) (files : FileSystem) (n : Nat)
    (service : Service String) : IO Unit := do
  let line ← (← IO.getStdin).getLine
  if line.isEmpty then return
  let now := (← IO.monoMsNow) / 1000
  let (method, rest) := (Text.cut? ' ' (Text.trim line)).getD (Text.trim line, "/")
  let (target, body) := (Text.cut? ' ' rest).getD (rest, "")
  let request : WireRequest := { method, target, body := body.toUTF8 }
  let (message?, service) :=
    (server.respond { files, now } (toString n) request).run { service with world := toString now }
  if let some message := message? then
    IO.println s!"{message.status} {Utf8.decode message.body}"
  serveLines server files (n + 1) service

/-- Runs a command and gives the code it ends with. -/
def runCommand (c : Command) : IO UInt32 := do
  match ← settingsOf c with
  | .error e =>
    IO.eprintln e.message
    return 1
  | .ok settings =>
    let files ← namedFiles settings
    match (Sample.register id {}).build settings files "" with
    | .error e =>
      IO.eprintln e.message
      return 1
    | .ok (engine, service) =>
      match c.task.getD .serve with
      | .check => IO.println "settings and routes are valid"
      | .routes => for route in engine.listRoutes service.hub do IO.println (lineOf route)
      | .serve => serveLines (.ofSettings engine settings) files 1 service
      return 0

/-- Runs the program. -/
def main (words : List String) : IO UInt32 := do
  match Command.parse words with
  | .ok c => runCommand c
  | .error e =>
    IO.eprintln e.message
    return 2
