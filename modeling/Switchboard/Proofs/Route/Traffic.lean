import Switchboard.Proofs.Route.Containment
import Switchboard.Proofs.Store.Lru
import Switchboard.Route.Router

/-!
# Lookups that share a cache

Lookups go on side by side and take their steps in any order. A lookup asks the cache; on a miss it
looks for the action, and then keeps what it found, unless another lookup was faster. The cache gives
up entries whenever it likes.

The invariant is `Traffic.Sound`: an entry of the cache is what its path leads to, and a lookup has
found what its own path leads to. It holds whoever wrote an entry, so neither the order of the steps
nor what the cache gives up has a say in an answer. A key names one verb and one path
(`RouteCache.key_inj`), for no verb has a space in its name.
-/

namespace Switchboard

/-! ## Entries of the cache -/

namespace RouteCache
variable {σ : Type}

/-- **A key is of one verb and one path**, whatever is in the path. -/
theorem key_inj {verb verb' : Verb} {path path' : String} :
    key verb path = key verb' path' ↔ verb = verb' ∧ path = path' := by
  constructor
  · intro h
    have space : ∀ v : Verb, ' ' ∉ v.name.toList := by
      intro v
      cases v <;> decide
    have cut : ∀ (v : Verb) (p : String), Text.cut? ' ' (key v p) = some (v.name, p) :=
      fun v p => Text.cut?_append (space v) p
    have names : ∀ v v' : Verb, v'.name = v.name → v = v' := by
      intro v v'
      cases v <;> cases v' <;> decide
    have hc := cut verb path
    rw [h, cut verb' path', Option.some.injEq, Prod.mk.injEq] at hc
    exact ⟨names _ _ hc.1, hc.2.symm⟩
  · rintro ⟨rfl, rfl⟩
    rfl

/-- The entries of all shards. -/
def resident (c : RouteCache σ) : List (String × Action σ) := c.shards.flatMap (·.entries)

variable {c : RouteCache σ} {key : String} {a : Action σ} {e : String × Action σ}

theorem mem_resident_of_peek? (h : c.peek? key = some a) : (key, a) ∈ c.resident := by
  obtain ⟨shard, hs, hp⟩ := Option.bind_eq_some_iff.1 h
  exact List.mem_flatMap.2 ⟨shard, List.mem_of_getElem? hs, Lru.mem_of_peek? hp⟩

theorem mem_resident_of_modify {i : Nat} {f : Lru String (Action σ) → Lru String (Action σ)}
    (h : e ∈ (RouteCache.mk (c.shards.modify i f)).resident) :
    ∃ shard ∈ c.shards, e ∈ shard.entries ∨ e ∈ (f shard).entries := by
  obtain ⟨changed, hm, he⟩ := List.mem_flatMap.1 h
  obtain ⟨j, hj⟩ := List.mem_iff_getElem?.1 hm
  rw [List.getElem?_modify] at hj
  obtain ⟨shard, hs, rfl⟩ := Option.map_eq_some_iff.1 hj
  refine ⟨shard, List.mem_of_getElem? hs, ?_⟩
  split at he
  · exact .inr he
  · exact .inl he

theorem mem_resident_of_touch (h : e ∈ (c.touch key).resident) : e ∈ c.resident := by
  obtain ⟨shard, hm, he | he⟩ := mem_resident_of_modify h
  · exact List.mem_flatMap.2 ⟨shard, hm, he⟩
  · exact List.mem_flatMap.2 ⟨shard, hm, Lru.mem_of_mem_touch he⟩

/-- An insert brings in its own entry and no other. -/
theorem mem_resident_of_insert (h : e ∈ (c.insert key a).resident) :
    e = (key, a) ∨ e ∈ c.resident := by
  unfold insert at h
  split at h
  · exact .inr h
  · obtain ⟨shard, hm, he | he⟩ := mem_resident_of_modify h
    · exact .inr (List.mem_flatMap.2 ⟨shard, hm, he⟩)
    · rcases Lru.mem_of_mem_put he with he | he
      · exact .inl he
      · exact .inr (List.mem_flatMap.2 ⟨shard, hm, he⟩)

theorem resident_ofCapacity? {capacity : Nat} (h : ofCapacity? capacity = some c) :
    c.resident = [] := by
  unfold ofCapacity? at h
  split at h
  · cases h
  · cases h
    exact List.flatMap_eq_nil_iff.2 fun shard hm => by rw [List.eq_of_mem_replicate hm]

end RouteCache

/-! ## Looking for an action without a cache -/

namespace StaticTable
variable {σ : Type}

theorem snd_load_ofCapacity_zero (fs : FileSystem) (path : String) (file : FilePath) :
    (load (σ := σ) fs path file (.ofCapacity 0)).2 = .ofCapacity 0 := by
  have hp : (FileCache.ofCapacity 0).peek? file.components = none := rfl
  unfold load
  dsimp only
  rw [hp]
  cases fs.file? file with
  | none => rfl
  | some f =>
    dsimp only
    split <;> rfl

theorem snd_route_ofCapacity_zero (t : StaticTable) (fs : FileSystem) (verb : Verb)
    (path : String) : (t.route (σ := σ) fs verb path (.ofCapacity 0)).2 = .ofCapacity 0 := by
  cases hs : t.statuses.lookup (verb, path) with
  | some code =>
    unfold route
    rw [hs]
  | none =>
    cases hf : t.files.lookup (verb, path) with
    | some file =>
      unfold route
      rw [hs, hf]
      exact snd_load_ofCapacity_zero fs path file
    | none =>
      rw [route_eq_follow hs hf]
      cases t.lead fs verb path with
      | nowhere => rfl
      | slash => rfl
      | file p => exact snd_load_ofCapacity_zero fs path p

end StaticTable

namespace Routes
variable {σ : Type}

/-- What a path leads to, looked for without any cache. -/
def uncached (r : Routes σ) (fs : FileSystem) (verb : Verb) (path : String) : Action σ :=
  (r.resolve fs verb path (.ofCapacity 0)).1

/-- Without a cache of files nothing is kept there. -/
theorem resolve_ofCapacity_zero (r : Routes σ) (fs : FileSystem) (verb : Verb) (path : String) :
    r.resolve fs verb path (.ofCapacity 0) = (r.uncached fs verb path, .ofCapacity 0) := by
  refine Prod.ext rfl ?_
  have hs := StaticTable.snd_route_ofCapacity_zero (σ := σ) r.statics fs verb path
  unfold resolve
  split
  split <;> simp_all

end Routes

/-! ## Steps -/

/-- How far a lookup has come. -/
inductive Phase (σ : Type) where
  | asked
  /-- The cache had nothing. -/
  | missed
  | found (a : Action σ)
  | answered (a : Action σ)

namespace Phase
variable {σ : Type}

/-- How many steps are left at most. -/
def left : Phase σ → Nat
  | asked => 3
  | missed => 2
  | found _ => 1
  | answered _ => 0

theorem left_le (p : Phase σ) : p.left ≤ 3 := by
  cases p <;> simp [left]

theorem left_eq_zero {p : Phase σ} : p.left = 0 ↔ ∃ a, p = .answered a := by
  cases p <;> simp [left]

end Phase

/-- A lookup of the action of a path. -/
structure Lookup (σ : Type) where
  verb : Verb
  path : String
  phase : Phase σ := .asked

namespace Lookup
variable {σ : Type}

/-- The next step of a lookup, and what it does to the caches. -/
def advance (r : Routes σ) (fs : FileSystem) (l : Lookup σ) (caches : RoutingCaches σ) :
    Lookup σ × RoutingCaches σ :=
  let key := RouteCache.key l.verb l.path
  match l.phase with
  | .asked =>
    match caches.routes.bind (·.peek? key) with
    | some a =>
      ({ l with phase := .answered a }, { caches with routes := caches.routes.map (·.touch key) })
    | none => ({ l with phase := .missed }, caches)
  | .missed =>
    let (a, files) := r.resolve fs l.verb l.path caches.files
    ({ l with phase := .found a }, { caches with files })
  | .found a =>
    ({ l with phase := .answered a }, { caches with routes := caches.routes.map (·.insert key a) })
  | .answered _ => (l, caches)

/-- Three steps of a lookup that has the caches for itself. -/
def alone (r : Routes σ) (fs : FileSystem) (l : Lookup σ) (caches : RoutingCaches σ) :
    Lookup σ × RoutingCaches σ :=
  let (l, caches) := l.advance r fs caches
  let (l, caches) := l.advance r fs caches
  l.advance r fs caches

/-- The steps of a lookup, taken at once, are a lookup of the router. -/
theorem alone_eq_route (r : Routes σ) (fs : FileSystem) (verb : Verb) (path : String)
    (caches : RoutingCaches σ) :
    alone r fs { verb, path } caches =
      ({ verb, path, phase := .answered (r.route fs verb path caches).1 },
        (r.route fs verb path caches).2) := by
  unfold alone Routes.route
  dsimp only
  cases hp : caches.routes.bind (·.peek? (RouteCache.key verb path)) with
  | none => simp only [advance, hp]
  | some a => simp only [advance, hp]

/-- Each step brings a lookup nearer to its answer. -/
theorem left_advance (r : Routes σ) (fs : FileSystem) (l : Lookup σ) (caches : RoutingCaches σ) :
    (l.advance r fs caches).1.phase.left ≤ l.phase.left - 1 := by
  obtain ⟨verb, path, phase⟩ := l
  cases phase with
  | asked =>
    simp only [advance]
    split <;> simp [Phase.left]
  | missed => exact Nat.le_refl 1
  | found a => exact Nat.le_refl 0
  | answered a => exact Nat.le_refl 0

/-- Three steps of a lookup are enough, whatever happens to the caches in between. -/
theorem exists_answered (r : Routes σ) (fs : FileSystem) (l : Lookup σ)
    (caches caches' caches'' : RoutingCaches σ) :
    ∃ a, (((l.advance r fs caches).1.advance r fs caches').1.advance r fs caches'').1.phase =
      .answered a := by
  have h := left_advance r fs l caches
  have h' := left_advance r fs (l.advance r fs caches).1 caches'
  have h'' := left_advance r fs ((l.advance r fs caches).1.advance r fs caches').1 caches''
  have hl := l.phase.left_le
  exact Phase.left_eq_zero.1 (by omega)

/-- What a lookup has found is what its path leads to. -/
def Sound (r : Routes σ) (fs : FileSystem) (l : Lookup σ) : Prop :=
  ∀ a, l.phase = .found a ∨ l.phase = .answered a → a = r.uncached fs l.verb l.path

end Lookup

/-! ## What a step preserves -/

/-- The caches hold what paths lead to, and no file. -/
structure RoutingCaches.Sound {σ : Type} (r : Routes σ) (fs : FileSystem)
    (caches : RoutingCaches σ) : Prop where
  files : caches.files = .ofCapacity 0
  entries : ∀ c, caches.routes = some c → ∀ e ∈ c.resident,
    ∃ verb path, e = (RouteCache.key verb path, r.uncached fs verb path)

namespace RoutingCaches.Sound
variable {σ : Type} {r : Routes σ} {fs : FileSystem} {caches : RoutingCaches σ}

/-- Caches are sound at the start, having nothing. -/
theorem ofCapacity (capacity : Nat) :
    RoutingCaches.Sound r fs { files := .ofCapacity 0, routes := RouteCache.ofCapacity? capacity } := by
  refine ⟨rfl, fun c hc e he => ?_⟩
  rw [RouteCache.resident_ofCapacity? hc] at he
  exact absurd he List.not_mem_nil

/-- What a sound cache holds is what would be found without it. -/
theorem eq_uncached (h : caches.Sound r fs) {verb : Verb} {path : String} {a : Action σ}
    (hp : caches.routes.bind (·.peek? (RouteCache.key verb path)) = some a) :
    a = r.uncached fs verb path := by
  obtain ⟨c, hc, hp⟩ := Option.bind_eq_some_iff.1 hp
  obtain ⟨verb', path', he⟩ := h.entries c hc _ (RouteCache.mem_resident_of_peek? hp)
  obtain ⟨hkey, rfl⟩ := Prod.mk.inj he
  obtain ⟨rfl, rfl⟩ := RouteCache.key_inj.1 hkey
  rfl

/-- An entry that is given up does no harm. -/
theorem fewer (h : caches.Sound r fs) {c c' : RouteCache σ} (hc : caches.routes = some c)
    (hsub : ∀ e ∈ c'.resident, e ∈ c.resident) :
    RoutingCaches.Sound r fs { caches with routes := some c' } := by
  refine ⟨h.files, fun d hd e he => ?_⟩
  cases hd
  exact h.entries c hc e (hsub e he)

theorem touch (h : caches.Sound r fs) (key : String) :
    RoutingCaches.Sound r fs { caches with routes := caches.routes.map (·.touch key) } := by
  refine ⟨h.files, fun d hd e he => ?_⟩
  obtain ⟨c, hc, rfl⟩ := Option.map_eq_some_iff.1 hd
  exact h.entries c hc e (RouteCache.mem_resident_of_touch he)

/-- What was found without a cache may be kept. -/
theorem insert (h : caches.Sound r fs) (verb : Verb) (path : String) :
    RoutingCaches.Sound r fs { caches with
      routes := caches.routes.map (·.insert (RouteCache.key verb path) (r.uncached fs verb path)) } := by
  refine ⟨h.files, fun d hd e he => ?_⟩
  obtain ⟨c, hc, rfl⟩ := Option.map_eq_some_iff.1 hd
  rcases RouteCache.mem_resident_of_insert he with rfl | he
  · exact ⟨verb, path, rfl⟩
  · exact h.entries c hc e he

end RoutingCaches.Sound

/-- Each step of a lookup keeps the lookup and the caches sound. -/
theorem Lookup.Sound.advance {σ : Type} {r : Routes σ} {fs : FileSystem} {l : Lookup σ}
    {caches : RoutingCaches σ} (hl : l.Sound r fs) (hc : caches.Sound r fs) :
    (l.advance r fs caches).1.Sound r fs ∧ (l.advance r fs caches).2.Sound r fs := by
  obtain ⟨verb, path, phase⟩ := l
  cases phase with
  | asked =>
    unfold Lookup.advance
    dsimp only
    cases hp : caches.routes.bind (·.peek? (RouteCache.key verb path)) with
    | none =>
      refine ⟨fun b hb => ?_, hc⟩
      rcases hb with hb | hb <;> cases hb
    | some a =>
      refine ⟨fun b hb => ?_, hc.touch _⟩
      rcases hb with hb | hb
      · cases hb
      · cases hb
        exact hc.eq_uncached hp
  | missed =>
    unfold Lookup.advance
    dsimp only
    rw [hc.files, r.resolve_ofCapacity_zero fs verb path]
    refine ⟨fun b hb => ?_, ⟨rfl, hc.entries⟩⟩
    rcases hb with hb | hb <;> cases hb
    rfl
  | found a =>
    have ha : a = r.uncached fs verb path := hl a (.inl rfl)
    subst ha
    refine ⟨fun b hb => ?_, hc.insert verb path⟩
    rcases hb with hb | hb <;> cases hb
    rfl
  | answered a => exact ⟨hl, hc⟩

/-! ## Runs -/

/-- Caches, and the lookups that go through them. -/
structure Traffic (σ : Type) where
  caches : RoutingCaches σ
  lookups : List (Lookup σ) := []

namespace Traffic
variable {σ : Type} {r : Routes σ} {fs : FileSystem} {capacity : Nat} {t : Traffic σ}

/-- The states that lookups come to in any order of their steps. The cache may give up entries at
any moment, and have more or less room for new ones from then on. -/
inductive Reached (r : Routes σ) (fs : FileSystem) (capacity : Nat) : Traffic σ → Prop where
  | start : Reached r fs capacity
      { caches := { files := .ofCapacity 0, routes := RouteCache.ofCapacity? capacity } }
  | arrive {t : Traffic σ} (before : Reached r fs capacity t) (verb : Verb) (path : String) :
      Reached r fs capacity { t with lookups := t.lookups ++ [{ verb, path }] }
  | advance {t : Traffic σ} (before : Reached r fs capacity t) {i : Nat} {l : Lookup σ}
      (next : t.lookups[i]? = some l) :
      Reached r fs capacity
        { caches := (l.advance r fs t.caches).2
          lookups := t.lookups.set i (l.advance r fs t.caches).1 }
  | evict {t : Traffic σ} (before : Reached r fs capacity t) {c c' : RouteCache σ}
      (kept : t.caches.routes = some c) (fewer : ∀ e ∈ c'.resident, e ∈ c.resident) :
      Reached r fs capacity { t with caches := { t.caches with routes := some c' } }

/-- The caches hold what paths lead to, and so do the lookups. -/
structure Sound (r : Routes σ) (fs : FileSystem) (t : Traffic σ) : Prop where
  caches : t.caches.Sound r fs
  lookups : ∀ l ∈ t.lookups, l.Sound r fs

/-- However lookups take turns, they and the caches are sound. -/
theorem Reached.sound (h : Reached r fs capacity t) : t.Sound r fs := by
  induction h with
  | start => exact ⟨.ofCapacity capacity, fun l hl => absurd hl List.not_mem_nil⟩
  | arrive _ verb path ih =>
    refine ⟨ih.caches, fun l hl => ?_⟩
    rcases List.mem_append.1 hl with hl | hl
    · exact ih.lookups l hl
    · rw [List.mem_singleton.1 hl]
      intro a ha
      rcases ha with ha | ha <;> cases ha
  | advance _ next ih =>
    have step := (ih.lookups _ (List.mem_of_getElem? next)).advance ih.caches
    refine ⟨step.2, fun l hl => ?_⟩
    rcases List.mem_or_eq_of_mem_set hl with hl | rfl
    · exact ih.lookups l hl
    · exact step.1
  | evict _ kept fewer ih => exact ⟨ih.caches.fewer kept fewer, ih.lookups⟩

/-- **Sharing a cache changes no answer.** However the steps of lookups interleave and whatever the
cache gives up, a lookup is answered after three steps of its own, with what its path leads to
without a cache. An entry of the cache is of one verb and one path, and what these lead to. The
steps are the router's: taken at once, they are its lookup. -/
theorem Reached.answers_uncached (h : Reached r fs capacity t) :
    (∀ verb path caches, Lookup.alone r fs { verb, path } caches =
      ({ verb, path, phase := .answered (r.route fs verb path caches).1 },
        (r.route fs verb path caches).2)) ∧
    (∀ l ∈ t.lookups, ∀ a, l.phase = .answered a → a = r.uncached fs l.verb l.path) ∧
    (∀ l ∈ t.lookups, ∀ a, l.phase = .answered a → a.isNothing = true →
      (r.uncached fs l.verb l.path).isNothing = true) ∧
    (∀ l ∈ t.lookups, ∀ caches caches' caches'', ∃ a,
      (((l.advance r fs caches).1.advance r fs caches').1.advance r fs caches'').1.phase =
        .answered a) ∧
    ∀ c, t.caches.routes = some c → ∀ e ∈ c.resident, ∃ verb path,
      e = (RouteCache.key verb path, r.uncached fs verb path) ∧
      ∀ verb' path', RouteCache.key verb' path' = e.1 → verb' = verb ∧ path' = path := by
  have answers : ∀ l ∈ t.lookups, ∀ a, l.phase = .answered a → a = r.uncached fs l.verb l.path :=
    fun l hl a ha => h.sound.lookups l hl a (.inr ha)
  refine ⟨Lookup.alone_eq_route r fs, answers, fun l hl a ha hn => ?_,
    fun l _ => l.exists_answered r fs, fun c hc e he => ?_⟩
  · rw [← answers l hl a ha]
    exact hn
  · obtain ⟨verb, path, rfl⟩ := h.sound.caches.entries c hc e he
    exact ⟨verb, path, rfl, fun verb' path' hkey => RouteCache.key_inj.1 hkey⟩

/-- Two lookups of one path miss side by side, the second one is faster, and the cache gives up its
entry before the first one looks for the action again. -/
theorem Reached.answers_uncached_race :
    ∃ t : Traffic Unit,
      Reached { statics := { statuses := [((.get, "/old news"), 410)] } } {} 1 t ∧
      (∃ l ∈ t.lookups, l.phase = .answered (.status "/old news" 410)) ∧
      ∀ l ∈ t.lookups, ∀ a, l.phase = .answered a →
        a = Routes.uncached { statics := { statuses := [((.get, "/old news"), 410)] } } {}
          l.verb l.path := by
  have empty : Reached (σ := Unit) { statics := { statuses := [((.get, "/old news"), 410)] } } {} 1 _ :=
    .start
  have both := (empty.arrive .get "/old news").arrive .get "/old news"
  have first := both.advance (i := 0) rfl
  have second := ((first.advance (i := 1) rfl).advance (i := 1) rfl).advance (i := 1) rfl
  have emptied := second.evict rfl fun e (he : e ∈ (RouteCache.mk []).resident) =>
    absurd he List.not_mem_nil
  have again := (emptied.advance (i := 0) rfl).advance (i := 0) rfl
  exact ⟨_, again, ⟨_, List.mem_cons_self, rfl⟩, again.answers_uncached.2.1⟩

end Traffic

end Switchboard
