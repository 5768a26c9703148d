import Switchboard.Proofs.List.Keyed
import Switchboard.Proofs.Route.Traffic

/-!
# The routes of one verb

A lookup reads the routes of its own verb and no others: without the routes of another verb it finds
the same (`Routes.resolve_without`), and without those of its own it finds nothing
(`Routes.resolve_without_self`). The cache of routes is shared by all verbs, and filled over time by
lookups of any of them. Since a key is of one verb, what is kept for a path and a verb was found by
a lookup of just these (`Routes.Filled.entries`), so the cache lets no action over from one verb to
another (`Routes.Filled.route_without`).
-/

namespace Switchboard

/-! ## Tables without a verb -/

/-- The table without the routes of a verb. -/
def StaticTable.without (t : StaticTable) (verb : Verb) : StaticTable where
  statuses := t.statuses.filter (·.1.1 != verb)
  files := t.files.filter (·.1.1 != verb)
  directories := t.directories.filter (·.1 != verb)

/-- The trees of all verbs but one. -/
def RouteTree.without {α : Type} (t : RouteTree α) (verb : Verb) : RouteTree α :=
  ⟨t.roots.filter (·.1 != verb)⟩

namespace StaticTable

variable {σ : Type} {v verb : Verb}

/-- What a table has for one verb has no part in the answer for another. -/
theorem route_without (h : v ≠ verb) (t : StaticTable) (fs : FileSystem) (path : String)
    (cache : FileCache) :
    (t.without verb).route (σ := σ) fs v path cache = t.route fs v path cache := by
  have own : (v != verb) = true := bne_iff_ne.2 h
  have statuses := lookup_filter_key (fun k => k.1 != verb) (v, path) t.statuses
  have files := lookup_filter_key (fun k => k.1 != verb) (v, path) t.files
  have directories : (t.directories.filter (·.1 != verb)).filter (·.1 == v) =
      t.directories.filter (·.1 == v) := by
    rw [List.filter_filter]
    refine List.filter_congr fun e _ => ?_
    by_cases he : e.1 = v
    · simp [he, h]
    · simp [he]
  unfold route without
  simp only [statuses, files, directories, own, ↓reduceIte]

/-- Without its entries a verb leads to nothing. -/
theorem route_without_self (t : StaticTable) (fs : FileSystem) (path : String) (cache : FileCache) :
    (t.without verb).route (σ := σ) fs verb path cache = (.nothing, cache) := by
  have statuses := lookup_filter_key (fun k => k.1 != verb) (verb, path) t.statuses
  have files := lookup_filter_key (fun k => k.1 != verb) (verb, path) t.files
  have directories : (t.directories.filter (·.1 != verb)).filter (·.1 == verb) = [] := by
    rw [List.filter_filter, List.filter_eq_nil_iff]
    intro e _
    simp
  unfold route without
  simp only [statuses, files, directories, bne_self_eq_false, Bool.false_eq_true, ↓reduceIte]
  rfl

end StaticTable

namespace RouteTree

variable {α : Type} {v verb : Verb}

theorem find?_without (h : v ≠ verb) (t : RouteTree α) (path : String) :
    (t.without verb).find? v path = t.find? v path := by
  have roots := lookup_filter_key (· != verb) v t.roots
  rw [bne_iff_ne.2 h, if_pos rfl] at roots
  unfold find? root? without
  rw [roots]

theorem find?_without_self (t : RouteTree α) (path : String) :
    (t.without verb).find? verb path = none := by
  have roots := lookup_filter_key (· != verb) verb t.roots
  rw [bne_self_eq_false, if_neg Bool.false_ne_true] at roots
  unfold find? root? without
  rw [roots]
  rfl

end RouteTree

namespace Routes

variable {σ : Type} {v verb : Verb}

/-- The routes of all verbs but one. -/
def without (r : Routes σ) (verb : Verb) : Routes σ where
  statics := r.statics.without verb
  tree := r.tree.without verb

/-- What the routes have for one verb has no part in the answer for another. -/
theorem resolve_without (h : v ≠ verb) (r : Routes σ) (fs : FileSystem) (path : String)
    (files : FileCache) : (r.without verb).resolve fs v path files = r.resolve fs v path files := by
  unfold resolve without
  rw [StaticTable.route_without h, RouteTree.find?_without h]

theorem resolve_without_self (r : Routes σ) (fs : FileSystem) (path : String) (files : FileCache) :
    (r.without verb).resolve fs verb path files = (.nothing, files) := by
  unfold resolve without
  rw [StaticTable.route_without_self, RouteTree.find?_without_self]
  rfl

/-! ## Caches over time -/

/-- An action is what a path leads to in one of some file systems. -/
def Finds (r : Routes σ) (seen : List FileSystem) (verb : Verb) (path : String) (a : Action σ) :
    Prop :=
  ∃ fs ∈ seen, ∃ files, a = (r.resolve fs verb path files).1

theorem Finds.mono {r : Routes σ} {seen more : List FileSystem} {path : String} {a : Action σ}
    (h : r.Finds seen verb path a) (hs : seen ⊆ more) : r.Finds more verb path a := by
  obtain ⟨fs, hm, files, ha⟩ := h
  exact ⟨fs, hs hm, files, ha⟩

/-- What is found for another verb is found without this one. -/
theorem Finds.without {r : Routes σ} {seen : List FileSystem} {path : String} {a : Action σ}
    (h : r.Finds seen v path a) (hv : v ≠ verb) : (r.without verb).Finds seen v path a := by
  obtain ⟨fs, hm, files, ha⟩ := h
  exact ⟨fs, hm, files, by rw [resolve_without hv, ha]⟩

/-- The caches that lookups leave, one after the other, with the file systems that they were made
in. Files may change from one lookup to the next. -/
inductive Filled (r : Routes σ) : List FileSystem → RoutingCaches σ → Prop where
  | empty (files routes : Nat) :
      Filled r [] { files := .ofCapacity files, routes := RouteCache.ofCapacity? routes }
  | lookup {seen : List FileSystem} {caches : RoutingCaches σ} (before : Filled r seen caches)
      (fs : FileSystem) (verb : Verb) (path : String) :
      Filled r (fs :: seen) (r.route fs verb path caches).2

namespace Filled

variable {r : Routes σ} {seen : List FileSystem} {caches : RoutingCaches σ}

/-- What is kept for a verb and a path was found for them. -/
theorem entries (h : Filled r seen caches) {c : RouteCache σ} (hc : caches.routes = some c)
    {e : String × Action σ} (he : e ∈ c.resident) :
    ∃ verb path, e.1 = RouteCache.key verb path ∧ r.Finds seen verb path e.2 := by
  induction h generalizing c with
  | empty files routes =>
    rw [RouteCache.resident_ofCapacity? hc] at he
    exact absurd he List.not_mem_nil
  | @lookup seen caches before fs verb path ih =>
    have older : ∀ c', caches.routes = some c' → e ∈ c'.resident →
        ∃ verb path, e.1 = RouteCache.key verb path ∧ r.Finds (fs :: seen) verb path e.2 := by
      intro c' hc' he
      obtain ⟨v, p, hk, found⟩ := ih hc' he
      exact ⟨v, p, hk, found.mono (List.subset_cons_self _ _)⟩
    unfold Routes.route at hc
    dsimp only at hc
    split at hc
    · obtain ⟨c', hc', rfl⟩ := Option.map_eq_some_iff.1 hc
      exact older c' hc' (RouteCache.mem_resident_of_touch he)
    · obtain ⟨c', hc', rfl⟩ := Option.map_eq_some_iff.1 hc
      rcases RouteCache.mem_resident_of_insert he with rfl | he
      · exact ⟨verb, path, rfl, fs, List.mem_cons_self, caches.files, rfl⟩
      · exact older c' hc' he

/-- A lookup answers what a lookup of the same verb and path has found, now or before. -/
theorem finds_route (h : Filled r seen caches) (fs : FileSystem) (verb : Verb) (path : String) :
    r.Finds (fs :: seen) verb path (r.route fs verb path caches).1 := by
  unfold Routes.route
  dsimp only
  split
  · rename_i a hp
    obtain ⟨c, hc, hp⟩ := Option.bind_eq_some_iff.1 hp
    obtain ⟨v, p, hk, found⟩ := h.entries hc (RouteCache.mem_resident_of_peek? hp)
    obtain ⟨rfl, rfl⟩ := RouteCache.key_inj.1 hk
    exact found.mono (List.subset_cons_self _ _)
  · exact ⟨fs, List.mem_cons_self, caches.files, rfl⟩

/-- **A lookup selects none of another verb's routes**, though the cache holds them, too. -/
theorem route_without (h : Filled r seen caches) (hv : v ≠ verb) (fs : FileSystem) (path : String) :
    (r.without verb).Finds (fs :: seen) v path (r.route fs v path caches).1 :=
  (h.finds_route fs v path).without hv

end Filled

end Routes

end Switchboard
