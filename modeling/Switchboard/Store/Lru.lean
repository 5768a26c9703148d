/-!
# Caches of bounded size

A cache that, when it is full, gives up the entry that has not been used for longest.
-/

namespace Switchboard

/-- A cache: at most `capacity` entries, the one used last in front. -/
structure Lru (κ α : Type) where
  capacity : Nat
  entries : List (κ × α) := []
  deriving Repr

namespace Lru
variable {κ α : Type} [BEq κ]

/-- The entry of a key, without using it. -/
def peek? (c : Lru κ α) (key : κ) : Option α := c.entries.lookup key

/-- Moves the entry of a key, if it has one, to the front. -/
def touch (c : Lru κ α) (key : κ) : Lru κ α :=
  match c.peek? key with
  | some v => { c with entries := (key, v) :: c.entries.filter fun e => e.1 != key }
  | none => c

/-- Sets the entry of a key and gives up the last entries beyond the capacity. -/
def put (c : Lru κ α) (key : κ) (v : α) : Lru κ α :=
  { c with entries := ((key, v) :: c.entries.filter fun e => e.1 != key).take c.capacity }

/-- The number of entries. -/
def size (c : Lru κ α) : Nat := c.entries.length

end Lru

end Switchboard
