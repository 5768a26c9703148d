import Switchboard.Store.FilePath
import Switchboard.Time.Calendar

/-!
# File systems

Directories and files, by the names that lead to them from the root. A path is walked part by part,
from the root if it begins with a slash and else from the current directory. Each step leaves from a
directory, so a slash behind a file leads nowhere; a step up from the root stays there.
-/

namespace Switchboard

/-- A file. -/
structure StoredFile where
  data : ByteArray
  modified : Time.Stamp
  deriving Inhabited

/-- Files and directories by the names that lead to them from the root. -/
structure FileSystem where
  /-- The current directory, where paths without a slash in front begin. -/
  here : List String := []
  files : List (List String × StoredFile) := []
  directories : List (List String) := []
  deriving Inhabited

/-- What a path leads to. -/
inductive FileNode where
  | directory
  | file (f : StoredFile)

namespace FileSystem

/-- Is there a directory of these names? The current one is there, and so are those that lead to
it. -/
def isDirectoryAt (fs : FileSystem) (names : List String) : Bool :=
  names.isPrefixOf fs.here || fs.directories.contains names

/-- Walks the parts of a path from the directory `at_`. -/
def walk (fs : FileSystem) : (at_ : List String) → List String → Option FileNode
  | _, [] => some .directory
  | at_, part :: rest =>
    if part = "" || part = "." then fs.walk at_ rest
    else if part = ".." then fs.walk at_.dropLast rest
    else
      let names := at_ ++ [part]
      match fs.files.lookup names with
      | some f => if rest.isEmpty then some (.file f) else none
      | none => if fs.isDirectoryAt names then fs.walk names rest else none

/-- Where a path begins. -/
def start (fs : FileSystem) (p : FilePath) : List String :=
  if Text.startsWith "/" p.text then [] else fs.here

/-- What a path leads to, if to anything. -/
def find? (fs : FileSystem) (p : FilePath) : Option FileNode :=
  if p.text = "" then none else fs.walk (fs.start p) (Text.splitOn '/' p.text)

/-- Does a path lead to a directory? -/
def isDirectory (fs : FileSystem) (p : FilePath) : Bool :=
  fs.find? p matches some .directory

/-- The file a path leads to. -/
def file? (fs : FileSystem) (p : FilePath) : Option StoredFile :=
  match fs.find? p with
  | some (.file f) => some f
  | _ => none

/-- The names in a path. -/
def names (p : FilePath) : List String := (Text.segments '/' p.text).filter (· ≠ ".")

/-- The names that lead from the root to where a path says. -/
def place (fs : FileSystem) (p : FilePath) : List String :=
  (names p).foldl (fun at_ name => if name = ".." then at_.dropLast else at_ ++ [name]) (fs.start p)

/-- Makes a directory and those that lead to it. -/
def addDirectory (fs : FileSystem) (names : List String) : FileSystem :=
  { fs with
    directories := (List.range names.length).foldl (fun ds n =>
      let d := names.take (n + 1)
      if ds.contains d then ds else ds ++ [d]) fs.directories }

/-- Writes a file, and makes the directories that lead to it. -/
def write (fs : FileSystem) (p : FilePath) (f : StoredFile) : FileSystem :=
  let ns := fs.place p
  let fs := fs.addDirectory ns.dropLast
  { fs with files := (ns, f) :: fs.files.filter (·.1 != ns) }

/-- Removes a file. -/
def remove (fs : FileSystem) (p : FilePath) : FileSystem :=
  { fs with files := fs.files.filter (·.1 != fs.place p) }

end FileSystem

end Switchboard
