import Switchboard.Http.Response
import Switchboard.Http.Verb
import Switchboard.Number.Decimal
import Switchboard.Store.FilePath

/-!
# Targets of static routes

A static route leads to a status code, to a directory of files, or to one file.
-/

namespace Switchboard

/-- What a static route leads to. -/
inductive StaticTarget where
  | status (code : Status)
  | directory (dir : FilePath)
  | file (path : FilePath)
  deriving DecidableEq, Repr

/-- A text that is no target. -/
structure InvalidTarget where
  text : String
  deriving DecidableEq, Repr

/-- How the failure reads. -/
def InvalidTarget.message (e : InvalidTarget) : String :=
  s!"invalid static target `{e.text}` (expected a status code, `staticDir:<dir>` or `file:<path>`)"

namespace StaticTarget

/-- What stands before a directory. -/
def directoryMark : String := "staticDir:"

/-- What stands before a file. -/
def fileMark : String := "file:"

/-- Reads a status code: a number from 100 to 999. -/
def readStatus? (s : String) : Option Status := (Number.readNat? 999 s).filter (100 ≤ ·)

/-- Reads a target, with blanks around it and around a path or not. -/
def parse (s : String) : Except InvalidTarget StaticTarget :=
  let s := Text.trim s
  match Text.after? directoryMark s, Text.after? fileMark s, readStatus? s with
  | some dir, _, _ => .ok (.directory ⟨Text.trim dir⟩)
  | none, some path, _ => .ok (.file ⟨Text.trim path⟩)
  | none, none, some code => .ok (.status code)
  | none, none, none => .error ⟨s⟩

/-- The text of a target. -/
def render : StaticTarget → String
  | status code => toString code
  | directory dir => directoryMark ++ dir.text
  | file path => fileMark ++ path.text

end StaticTarget

/-- A static route. -/
structure StaticRoute where
  verb : Verb
  path : String
  target : StaticTarget
  deriving DecidableEq, Repr

end Switchboard
