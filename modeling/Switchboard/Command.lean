/-!
# The command line

What the program is asked to do, and with which settings.
-/

namespace Switchboard

/-- What is to be done. -/
inductive Task where
  /-- Serve requests. -/
  | serve
  /-- List every route. -/
  | routes
  /-- See whether settings and routes are valid. -/
  | check
  deriving DecidableEq, Repr

/-- What a command line says. -/
structure Command where
  /-- The file of settings. -/
  config : Option String := none
  /-- The address that takes the place of the configured one. -/
  bind : Option String := none
  task : Option Task := none
  deriving DecidableEq, Repr

/-- What is wrong with a command line. -/
inductive CommandError where
  | noValue (option : String)
  | unexpected (word : String)
  deriving DecidableEq, Repr

/-- How the failure reads. -/
def CommandError.message : CommandError → String
  | noValue option => s!"a value is required for {option}"
  | unexpected word => s!"unexpected argument {word}"

namespace Command

/-- Reads the words of a command line into what has been read. -/
def read (c : Command) : List String → Except CommandError Command
  | [] => .ok c
  | word :: rest =>
    if word = "-c" || word = "--config" then
      match rest with
      | path :: rest => read { c with config := some path } rest
      | [] => .error (.noValue word)
    else if word = "-b" || word = "--bind" then
      match rest with
      | address :: rest => read { c with bind := some address } rest
      | [] => .error (.noValue word)
    else
      match c.task, word with
      | none, "serve" => read { c with task := some .serve } rest
      | none, "routes" => read { c with task := some .routes } rest
      | none, "check" => read { c with task := some .check } rest
      | _, _ => .error (.unexpected word)

/-- Reads a command line. -/
def parse (words : List String) : Except CommandError Command := ({} : Command).read words

end Command

end Switchboard
