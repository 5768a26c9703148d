import Switchboard.Call.Action
import Switchboard.Store.Lru
import Switchboard.Text.SipHash

/-!
# A cache of routes

The actions that paths led to, whatever they were, in shards of bounded size. The first action kept
for a path stays until its shard needs the room.
-/

namespace Switchboard

/-- A cache of actions by verb and path. -/
structure RouteCache (σ : Type) where
  shards : List (Lru String (Action σ))

namespace RouteCache
variable {σ : Type}

/-- The number of shards. -/
def shardCount : Nat := 16

/-- A cache of some capacity; none if that is zero. -/
def ofCapacity? (capacity : Nat) : Option (RouteCache σ) :=
  if capacity = 0 then none
  else
    let perShard := (capacity + shardCount - 1) / shardCount
    some ⟨List.replicate shardCount { capacity := perShard }⟩

/-- The key of a verb and a path. -/
def key (verb : Verb) (path : String) : String := s!"{verb.name} {path}"

/-- The shard of a key, by the hash of its bytes with one behind them that ends no text. -/
def shardOf (key : String) : Nat :=
  (Text.sipHash (key.toUTF8.data.toList ++ [0xff])).toNat % shardCount

/-- The action kept for a key. -/
def peek? (c : RouteCache σ) (key : String) : Option (Action σ) :=
  (c.shards[shardOf key]?).bind (·.peek? key)

/-- Marks a key as used. -/
def touch (c : RouteCache σ) (key : String) : RouteCache σ :=
  ⟨c.shards.modify (shardOf key) (·.touch key)⟩

/-- Keeps an action for a key, unless one is kept for it. -/
def insert (c : RouteCache σ) (key : String) (a : Action σ) : RouteCache σ :=
  if (c.peek? key).isSome then c else ⟨c.shards.modify (shardOf key) (·.put key a)⟩

/-- The number of actions kept. -/
def size (c : RouteCache σ) : Nat := c.shards.foldr (·.size + ·) 0

end RouteCache

end Switchboard
