/-!
# Dictionaries

A finite map from texts, kept as its entries in ascending order of their keys, one entry a key.
Texts are ordered by their code points.
-/

namespace Switchboard

/-- Entries in ascending order of their keys, one entry a key. -/
abbrev Dictionary (α : Type) := List (String × α)

namespace Dictionary
variable {α β : Type}

/-- The value at `key`. -/
def get? (d : Dictionary α) (key : String) : Option α := (d.find? (·.1 == key)).map (·.2)

/-- Sets the value at `key`, whether or not it has one. -/
def put (key : String) (value : α) : Dictionary α → Dictionary α
  | [] => [(key, value)]
  | (k, v) :: rest =>
    if key < k then (key, value) :: (k, v) :: rest
    else if k == key then (key, value) :: rest
    else (k, v) :: put key value rest

/-- Removes the entry at `key`. -/
def erase (d : Dictionary α) (key : String) : Dictionary α := d.filter (·.1 != key)

/-- The dictionary of some pairs; of two with one key the later wins. -/
def ofPairs (pairs : List (String × α)) : Dictionary α :=
  pairs.foldl (fun d (k, v) => put k v d) []

/-- Replaces the value at `key` by a function of what is there. -/
def modify (d : Dictionary α) (key : String) (f : Option α → α) : Dictionary α :=
  put key (f (get? d key)) d

/-- The keys in ascending order. -/
def keys (d : Dictionary α) : List String := List.map (fun (e : String × α) => e.1) d

/-- Applies `f` to every value. -/
def mapValues (f : α → β) (d : Dictionary α) : Dictionary β :=
  List.map (fun (e : String × α) => (e.1, f e.2)) d

end Dictionary

end Switchboard
