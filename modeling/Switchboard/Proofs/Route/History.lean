import Switchboard.Proofs.Route.FileCache
import Switchboard.Proofs.Route.Traffic

/-!
# Lookups while files change

Lookups go through the cache of routes and then through the cache of files, and between any two of
them every file may have changed: a `Visit` is a lookup with the files there are when it is made.

A visit is answered with what it finds itself or, out of the cache of routes, with what an earlier
visit of the same verb and path found (`Routes.answer_cases`). The cache is not told of changes: with
room for an entry, the next visit of a path repeats the last answer (`Routes.answer_again`). The
cache of files behind it holds what earlier visits read, and of that only small files
(`Routes.exists_small_of_mem_files`).
-/

namespace Switchboard

/-! ## A cache of routes that has room -/

namespace RouteCache

variable {σ : Type} {c : RouteCache σ} {key : String} {a : Action σ}

/-- Every key has a shard, and the shard has room for an entry. -/
structure HasRoom (c : RouteCache σ) : Prop where
  shards : c.shards.length = shardCount
  room : ∀ shard ∈ c.shards, shard.capacity ≠ 0

/-- A cache of routes has room in each of its parts. -/
theorem hasRoom_ofCapacity? {capacity : Nat} (h : ofCapacity? capacity = some c) : c.HasRoom := by
  unfold ofCapacity? at h
  split at h
  · cases h
  · next some =>
    cases h
    refine ⟨List.length_replicate, fun shard hm => ?_⟩
    rw [List.eq_of_mem_replicate hm]
    show (capacity + 16 - 1) / 16 ≠ 0
    omega

theorem HasRoom.modify (h : c.HasRoom) (i : Nat) {f : Lru String (Action σ) → Lru String (Action σ)}
    (keeps : ∀ shard, (f shard).capacity = shard.capacity) :
    HasRoom ⟨c.shards.modify i f⟩ := by
  refine ⟨by rw [List.length_modify, h.shards], fun shard hm => ?_⟩
  obtain ⟨j, hj⟩ := List.mem_iff_getElem?.1 hm
  rw [List.getElem?_modify] at hj
  obtain ⟨old, there, rfl⟩ := Option.map_eq_some_iff.1 hj
  have room := h.room old (List.mem_of_getElem? there)
  split
  · rwa [keeps]
  · exact room

theorem HasRoom.touch (h : c.HasRoom) (key : String) : (c.touch key).HasRoom :=
  h.modify _ fun shard => Lru.capacity_touch shard key

/-- An insert leaves the room there was. -/
theorem HasRoom.insert (h : c.HasRoom) (key : String) (a : Action σ) : (c.insert key a).HasRoom := by
  unfold RouteCache.insert
  split
  · exact h
  · exact h.modify _ fun shard => Lru.capacity_put shard key a

theorem peek?_modify (c : RouteCache σ) (key : String)
    (f : Lru String (Action σ) → Lru String (Action σ)) :
    (RouteCache.mk (c.shards.modify (shardOf key) f)).peek? key =
      (c.shards[shardOf key]?).bind fun shard => (f shard).peek? key := by
  unfold peek?
  rw [List.getElem?_modify]
  simp only [↓reduceIte]
  exact Option.bind_map

/-- What is used is kept. -/
theorem peek?_touch_self (h : c.peek? key = some a) : (c.touch key).peek? key = some a := by
  obtain ⟨shard, there, hit⟩ := Option.bind_eq_some_iff.1 h
  unfold touch
  rw [peek?_modify, there]
  exact Lru.peek?_touch_self hit

/-- With room for an entry, a cache that had none for a key keeps what is put in. -/
theorem HasRoom.peek?_insert (h : c.HasRoom) (miss : c.peek? key = none) (a : Action σ) :
    (c.insert key a).peek? key = some a := by
  have below : shardOf key < c.shards.length := by
    rw [h.shards]
    exact Nat.mod_lt _ (by decide)
  unfold RouteCache.insert
  rw [miss, Option.isSome_none, if_neg Bool.false_ne_true, peek?_modify,
    List.getElem?_eq_getElem below]
  exact Lru.peek?_put_self (h.room _ (List.getElem_mem below))

end RouteCache

/-! ## Visits -/

/-- A lookup, with the files there are when it is made. -/
structure Visit where
  files : FileSystem
  verb : Verb
  path : String

namespace Routes

variable {σ : Type}

/-- The caches that some visits leave, one after the other. -/
def cachesAfter (r : Routes σ) (files routes : Nat) (visits : List Visit) : RoutingCaches σ :=
  visits.foldl (fun caches v => (r.route v.files v.verb v.path caches).2)
    { files := .ofCapacity files, routes := RouteCache.ofCapacity? routes }

/-- The answer to a visit behind others. -/
def answer (r : Routes σ) (files routes : Nat) (before : List Visit) (v : Visit) : Action σ :=
  (r.route v.files v.verb v.path (r.cachesAfter files routes before)).1

/-- What a visit behind others finds if it searches the routes. -/
def found (r : Routes σ) (files routes : Nat) (before : List Visit) (v : Visit) : Action σ :=
  (r.resolve v.files v.verb v.path (r.cachesAfter files routes before).files).1

/-- What the cache of routes has for a visit behind others. -/
def kept? (r : Routes σ) (files routes : Nat) (before : List Visit) (v : Visit) :
    Option (Action σ) :=
  (r.cachesAfter files routes before).routes.bind (·.peek? (RouteCache.key v.verb v.path))

/-- An action was found at one of some visits, and that visit was of a verb and path. -/
def FoundAmong (r : Routes σ) (files routes : Nat) (visits : List Visit) (verb : Verb)
    (path : String) (a : Action σ) : Prop :=
  ∃ before u after, visits = before ++ u :: after ∧ u.verb = verb ∧ u.path = path ∧
    a = r.found files routes before u

variable {r : Routes σ} {files routes : Nat} {visits : List Visit} {v : Visit} {verb : Verb}
  {path : String} {a : Action σ}

theorem cachesAfter_concat (r : Routes σ) (files routes : Nat) (visits : List Visit) (v : Visit) :
    r.cachesAfter files routes (visits ++ [v]) =
      (r.route v.files v.verb v.path (r.cachesAfter files routes visits)).2 := by
  unfold cachesAfter
  rw [List.foldl_concat]

/-- What was found at some visit was found whatever came after. -/
theorem FoundAmong.concat (h : r.FoundAmong files routes visits verb path a) (v : Visit) :
    r.FoundAmong files routes (visits ++ [v]) verb path a := by
  obtain ⟨before, u, after, rfl, hv, hp, ha⟩ := h
  refine ⟨before, u, after ++ [v], ?_, hv, hp, ha⟩
  rw [List.append_assoc, List.cons_append]

theorem foundAmong_last (r : Routes σ) (files routes : Nat) (before : List Visit) (v : Visit) :
    r.FoundAmong files routes (before ++ [v]) v.verb v.path (r.found files routes before v) :=
  ⟨before, v, [], rfl, rfl, rfl, rfl⟩

/-- What is kept is the answer, and is moved to the front. -/
theorem route_of_kept (h : r.kept? files routes visits v = some a) :
    r.route v.files v.verb v.path (r.cachesAfter files routes visits) =
      (a, { r.cachesAfter files routes visits with
        routes := (r.cachesAfter files routes visits).routes.map
          (·.touch (RouteCache.key v.verb v.path)) }) := by
  unfold kept? at h
  unfold route
  dsimp only
  rw [h]

/-- What is not kept is found, and kept from then on. -/
theorem route_of_not_kept (h : r.kept? files routes visits v = none) :
    r.route v.files v.verb v.path (r.cachesAfter files routes visits) =
      (r.found files routes visits v,
        { files := (r.resolve v.files v.verb v.path (r.cachesAfter files routes visits).files).2
          routes := (r.cachesAfter files routes visits).routes.map
            (·.insert (RouteCache.key v.verb v.path) (r.found files routes visits v)) }) := by
  unfold kept? at h
  unfold route
  dsimp only
  rw [h]
  rfl

/-! ## What the cache of routes holds -/

/-- An entry of the cache of routes was found at a visit of its verb and path. -/
theorem exists_foundAmong {c : RouteCache σ}
    (hc : (r.cachesAfter files routes visits).routes = some c) {e : String × Action σ}
    (he : e ∈ c.resident) :
    ∃ verb path, e.1 = RouteCache.key verb path ∧
      r.FoundAmong files routes visits verb path e.2 := by
  induction visits using List.reverseRecOn generalizing c with
  | nil =>
    rw [RouteCache.resident_ofCapacity? hc] at he
    exact absurd he List.not_mem_nil
  | append_singleton before v ih =>
    have older : ∀ d, (r.cachesAfter files routes before).routes = some d → e ∈ d.resident →
        ∃ verb path, e.1 = RouteCache.key verb path ∧
          r.FoundAmong files routes (before ++ [v]) verb path e.2 := by
      intro d hd hm
      obtain ⟨verb, path, hk, found⟩ := ih hd hm
      exact ⟨verb, path, hk, found.concat v⟩
    rw [cachesAfter_concat] at hc
    cases hit : r.kept? files routes before v with
    | some a =>
      rw [route_of_kept hit] at hc
      obtain ⟨d, hd, rfl⟩ := Option.map_eq_some_iff.1 hc
      exact older d hd (RouteCache.mem_resident_of_touch he)
    | none =>
      rw [route_of_not_kept hit] at hc
      obtain ⟨d, hd, rfl⟩ := Option.map_eq_some_iff.1 hc
      rcases RouteCache.mem_resident_of_insert he with rfl | he
      · exact ⟨v.verb, v.path, rfl, r.foundAmong_last files routes before v⟩
      · exact older d hd he

/-- What is kept for a path was found at a visit of it. -/
theorem foundAmong_of_kept (h : r.kept? files routes visits v = some a) :
    r.FoundAmong files routes visits v.verb v.path a := by
  obtain ⟨c, hc, hp⟩ := Option.bind_eq_some_iff.1 h
  obtain ⟨verb, path, hk, found⟩ := exists_foundAmong hc (RouteCache.mem_resident_of_peek? hp)
  obtain ⟨hv, hpath⟩ := RouteCache.key_inj.1 hk
  rw [hv, hpath]
  exact found

/-- A visit is answered with what it finds, or with what an earlier visit of the same verb and path
found. -/
theorem answer_cases (r : Routes σ) (files routes : Nat) (visits : List Visit) (v : Visit) :
    (r.kept? files routes visits v = none ∧
      r.answer files routes visits v = r.found files routes visits v) ∨
    ∃ a, r.kept? files routes visits v = some a ∧ r.answer files routes visits v = a ∧
      r.FoundAmong files routes visits v.verb v.path a := by
  unfold answer
  cases hit : r.kept? files routes visits v with
  | none =>
    left
    rw [route_of_not_kept hit]
    exact ⟨rfl, rfl⟩
  | some a =>
    right
    rw [route_of_kept hit]
    exact ⟨a, rfl, rfl, foundAmong_of_kept hit⟩

/-- Every answer was found at some visit of the same verb and path. -/
theorem foundAmong_answer (r : Routes σ) (files routes : Nat) (visits : List Visit) (v : Visit) :
    r.FoundAmong files routes (visits ++ [v]) v.verb v.path (r.answer files routes visits v) := by
  rcases r.answer_cases files routes visits v with ⟨-, fresh⟩ | ⟨a, -, same, found⟩
  · rw [fresh]
    exact r.foundAmong_last files routes visits v
  · rw [same]
    exact found.concat v

theorem hasRoom_cachesAfter {c : RouteCache σ}
    (hc : (r.cachesAfter files routes visits).routes = some c) : c.HasRoom := by
  induction visits using List.reverseRecOn generalizing c with
  | nil => exact RouteCache.hasRoom_ofCapacity? hc
  | append_singleton before v ih =>
    rw [cachesAfter_concat] at hc
    cases hit : r.kept? files routes before v with
    | some a =>
      rw [route_of_kept hit] at hc
      obtain ⟨d, hd, rfl⟩ := Option.map_eq_some_iff.1 hc
      exact (ih hd).touch _
    | none =>
      rw [route_of_not_kept hit] at hc
      obtain ⟨d, hd, rfl⟩ := Option.map_eq_some_iff.1 hc
      exact (ih hd).insert _ _

/-- There is a cache of routes just if it may have entries. -/
theorem isSome_cachesAfter (r : Routes σ) (files routes : Nat) (visits : List Visit) :
    (r.cachesAfter files routes visits).routes.isSome = true ↔ routes ≠ 0 := by
  induction visits using List.reverseRecOn with
  | nil =>
    unfold cachesAfter RouteCache.ofCapacity?
    by_cases h : routes = 0 <;> simp [h]
  | append_singleton before v ih =>
    rw [cachesAfter_concat, ← ih]
    cases hit : r.kept? files routes before v with
    | some a => rw [route_of_kept hit, Option.isSome_map]
    | none => rw [route_of_not_kept hit, Option.isSome_map]

/-- **A path that was just visited is answered as before**, whatever has become of the files, if the
cache of routes has room. -/
theorem answer_again (r : Routes σ) (files : Nat) {routes : Nat} (room : routes ≠ 0)
    (visits : List Visit) (v : Visit) (now : FileSystem) :
    r.answer files routes (visits ++ [v]) { v with files := now } =
      r.answer files routes visits v := by
  obtain ⟨c, hc⟩ := Option.isSome_iff_exists.1 ((r.isSome_cachesAfter files routes visits).2 room)
  have held : r.kept? files routes (visits ++ [v]) { v with files := now } =
      some (r.answer files routes visits v) := by
    unfold kept? answer
    rw [cachesAfter_concat]
    cases hit : r.kept? files routes visits v with
    | some a =>
      rw [route_of_kept hit, hc]
      unfold kept? at hit
      rw [hc] at hit
      exact RouteCache.peek?_touch_self hit
    | none =>
      rw [route_of_not_kept hit, hc]
      unfold kept? at hit
      rw [hc] at hit
      exact (hasRoom_cachesAfter hc).peek?_insert hit _
  rcases r.answer_cases files routes (visits ++ [v]) { v with files := now } with
    ⟨miss, -⟩ | ⟨a, hit, same, -⟩
  · rw [miss] at held
    cases held
  · rw [hit] at held
    rw [same, Option.some.inj held]

/-! ## What the cache of files holds -/

theorem snd_resolve (r : Routes σ) (fs : FileSystem) (verb : Verb) (path : String)
    (cache : FileCache) :
    (r.resolve fs verb path cache).2 = (r.statics.route (σ := σ) fs verb path cache).2 := by
  unfold resolve
  dsimp only
  split <;> rfl

/-- An entry of the cache of files was read at a visit, and it was small then. -/
theorem exists_small_of_mem_files {e : List PathComponent × StoredFile}
    (he : e ∈ (r.cachesAfter files routes visits).files.entries) :
    ∃ u ∈ visits, ∃ p, p.components = e.1 ∧ u.files.file? p = some e.2 ∧
      e.2.data.size ≤ FileCache.largest := by
  induction visits using List.reverseRecOn with
  | nil => exact absurd he List.not_mem_nil
  | append_singleton before v ih =>
    have older : e ∈ (r.cachesAfter files routes before).files.entries →
        ∃ u ∈ before ++ [v], ∃ p, p.components = e.1 ∧ u.files.file? p = some e.2 ∧
          e.2.data.size ≤ FileCache.largest := by
      intro hm
      obtain ⟨u, hu, read⟩ := ih hm
      exact ⟨u, List.mem_append_left _ hu, read⟩
    rw [cachesAfter_concat] at he
    cases hit : r.kept? files routes before v with
    | some a =>
      rw [route_of_kept hit] at he
      exact older he
    | none =>
      rw [route_of_not_kept hit] at he
      dsimp only at he
      rw [snd_resolve] at he
      rcases StaticTable.mem_of_mem_route he with old | ⟨p, -, same, read, small⟩
      · exact older old
      · exact ⟨v, List.mem_append_right _ List.mem_cons_self, p, same, read, small⟩

end Routes

end Switchboard
