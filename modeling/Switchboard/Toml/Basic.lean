import Switchboard.Dictionary
import Switchboard.Number.Binary

/-!
# TOML documents

The values of a document, and its tables while they are being filled. A table that a header names is
filled once; one that only longer headers or dotted names lead to may still be named, and what was
written as a value is never added to.
-/

namespace Switchboard

/-- A value. -/
inductive Toml where
  | text (s : String)
  | integer (n : Int)
  | real (x : Number.Double)
  | bool (b : Bool)
  /-- A date, a time, or both. -/
  | moment
  /-- No value, which other notations can write. -/
  | nothing
  | array (items : List Toml)
  | table (entries : List (String × Toml))
  deriving Inhabited

namespace Toml

/-- How a table came to be. -/
inductive TableKind where
  /-- By a header of its own. -/
  | named
  /-- By the header of a table in it. -/
  | implied
  /-- By a dotted name. -/
  | dotted
  deriving DecidableEq, Repr

/-- What a name in an unfinished table stands for. -/
inductive Node where
  | value (v : Toml)
  | table (kind : TableKind) (entries : List (String × Node))
  /-- The tables of a name that has a header of an array, the last one still being filled. -/
  | tables (items : List (List (String × Node)))
  deriving Inhabited

/-- The names of a table, in order of their first mention. -/
abbrev Entries := List (String × Node)

/-- Puts a node in place of the one of its name, or behind the others. -/
def setNode (key : String) (n : Node) (entries : Entries) : Entries :=
  if entries.any (·.1 == key) then
    entries.map fun (k, old) => (k, if k == key then n else old)
  else entries ++ [(key, n)]

/-- Changes the table that some names lead to, by a function that also knows how it came to be. The
names go through the last of the tables of an array; dotted names do not go through tables with a
header of their own. -/
def change? (dotted : Bool) (f : TableKind → Entries → Option Entries) :
    List String → TableKind → Entries → Option Entries
  | [], kind, entries => f kind entries
  | key :: path, _, entries =>
    match entries.lookup key with
    | none => do
      let kind := if dotted then .dotted else .implied
      let below ← change? dotted f path kind []
      return setNode key (.table kind below) entries
    | some (.value _) => none
    | some (.tables items) => do
      let below ← change? dotted f path .named (items.getLast?.getD [])
      return setNode key (.tables (items.dropLast ++ [below])) entries
    | some (.table kind below) => do
      if dotted && kind = .named then none
      let below ← change? dotted f path kind below
      return setNode key (.table kind below) entries

/-- Adds a value under a name that is not there. -/
def addValue? (key : String) (v : Toml) (entries : Entries) : Option Entries :=
  match entries.lookup key with
  | some _ => none
  | none => some (entries ++ [(key, .value v)])

/-- Adds a value under a dotted name, which leads only through tables that dotted names made. -/
def addPair? (path : List String) (key : String) (v : Toml) (entries : Entries) : Option Entries :=
  change? true (fun kind below =>
    if path ≠ [] && kind ≠ .dotted then none else addValue? key v below) path .named entries

/-- Opens the table of a header. -/
def openTable? (path : List String) (key : String) (root : Entries) : Option Entries :=
  change? false (fun _ entries =>
    match entries.lookup key with
    | none => some (setNode key (.table .named []) entries)
    | some (.table .implied below) => some (setNode key (.table .named below) entries)
    | some _ => none) path .named root

/-- Opens the next table of a header of an array. -/
def openItem? (path : List String) (key : String) (root : Entries) : Option Entries :=
  change? false (fun _ entries =>
    match entries.lookup key with
    | none => some (setNode key (.tables [[]]) entries)
    | some (.tables items) => some (setNode key (.tables (items ++ [[]])) entries)
    | some _ => none) path .named root

mutual

/-- The value of a finished node. -/
def Node.finish : Node → Toml
  | .value v => v
  | .table _ entries => .table (finishEntries entries)
  | .tables items => .array (finishItems items)

/-- The values of the names of a table. -/
def finishEntries : List (String × Node) → List (String × Toml)
  | [] => []
  | (key, n) :: rest => (key, n.finish) :: finishEntries rest

/-- The tables of an array. -/
def finishItems : List (List (String × Node)) → List Toml
  | [] => []
  | entries :: rest => .table (finishEntries entries) :: finishItems rest

end

end Toml

end Switchboard
