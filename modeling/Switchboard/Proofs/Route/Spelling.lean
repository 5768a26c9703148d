import Switchboard.Proofs.Route.History

/-!
# Spellings of a path

A path can be spelled with more slashes than it needs. The tree of patterns reads its segments and
does not see them, so all spellings of a path lead to one action there (`RouteTree.find?_congr`). The
table of static routes knows a path by its text. An entry goes before the tree for its own spelling,
as long as it has something to answer: a status always has, a file if it can be read. For any other
spelling the table answers on its own account, or leaves the path to the tree
(`Routes.answer_by_spelling`).
-/

namespace Switchboard

/-- The tree has the same action for all spellings of a path. -/
theorem RouteTree.find?_congr {α : Type} {path other : String}
    (same : Text.segments '/' path = Text.segments '/' other) (t : RouteTree α) (verb : Verb) :
    t.find? verb path = t.find? verb other := by
  unfold find?
  rw [same]

namespace StaticTable

variable {σ : Type} {t : StaticTable} {fs : FileSystem} {verb : Verb} {path : String}

/-- A path has an entry of its own, and the entry has something to answer. -/
def EntryServes (t : StaticTable) (fs : FileSystem) (verb : Verb) (path : String) : Prop :=
  (t.statuses.lookup (verb, path)).isSome = true ∨
    ∃ file, t.files.lookup (verb, path) = some file ∧ (fs.file? file).isSome = true

theorem EntryServes.isNothing (h : t.EntryServes fs verb path) (cache : FileCache) :
    (t.route (σ := σ) fs verb path cache).1.isNothing = false := by
  cases hs : t.statuses.lookup (verb, path) with
  | some code =>
    rw [route_of_status hs]
    rfl
  | none =>
    rcases h with status | ⟨file, hf, readable⟩
    · rw [hs] at status
      cases status
    · obtain ⟨f, read⟩ := Option.isSome_iff_exists.1 readable
      rw [route_of_file hs hf]
      cases hit : cache.peek? file.components with
      | some g =>
        rw [load_of_peek? hit]
        rfl
      | none =>
        rw [load_of_peek?_eq_none hit, read]
        rfl

end StaticTable

namespace Routes

variable {σ : Type} {r : Routes σ} {files routes : Nat} {before visits : List Visit} {u v : Visit}

/-- What a visit behind others finds in the static routes, if it searches the routes. -/
def staticFound (r : Routes σ) (files routes : Nat) (before : List Visit) (v : Visit) : Action σ :=
  (r.statics.route v.files v.verb v.path (r.cachesAfter files routes before).files).1

/-- A visit is answered by the tree: when the routes were searched for its path, the static ones had
nothing. -/
def AnsweredByTree (r : Routes σ) (files routes : Nat) (visits : List Visit) (v : Visit) : Prop :=
  ∃ before u after a, visits ++ [v] = before ++ u :: after ∧ u.verb = v.verb ∧ u.path = v.path ∧
    (r.staticFound files routes before u).isNothing = true ∧
    r.tree.find? v.verb v.path = some a ∧ r.answer files routes visits v = a

theorem found_eq (r : Routes σ) (files routes : Nat) (before : List Visit) (v : Visit) :
    r.found files routes before v =
      if (r.staticFound files routes before v).isNothing = true then
        (r.tree.find? v.verb v.path).getD .nothing
      else r.staticFound files routes before v := by
  unfold found staticFound resolve
  dsimp only
  split <;> rfl

theorem answer_of_status {code : Status}
    (h : r.statics.statuses.lookup (v.verb, v.path) = some code) :
    r.answer files routes visits v = .status v.path code := by
  obtain ⟨before, u, after, -, hv, hp, found⟩ := r.foundAmong_answer files routes visits v
  rw [← hv, ← hp] at h
  have entry : r.staticFound files routes before u = .status u.path code := by
    unfold staticFound
    rw [StaticTable.route_of_status h]
  rw [found, found_eq, entry, hp]
  rfl

theorem not_answeredByTree
    (serves : ∀ u ∈ visits ++ [v], u.verb = v.verb → u.path = v.path →
      r.statics.EntryServes u.files v.verb v.path) :
    ¬ r.AnsweredByTree files routes visits v := by
  rintro ⟨before, u, after, a, split, hv, hp, nothing, -, -⟩
  have among : u ∈ visits ++ [v] := by
    rw [split]
    exact List.mem_append_right _ List.mem_cons_self
  have entry := serves u among hv hp
  rw [← hv, ← hp] at entry
  unfold staticFound at nothing
  rw [entry.isNothing] at nothing
  cases nothing

/-- **Which spellings an entry goes before the tree for.** A visit is answered with what a search for
its verb and path found, now or at an earlier visit. A search finds what the static routes have for
just this spelling, or, if they have nothing, what the tree has for any spelling with the same
segments. So a visit of exactly a path with an entry is not answered by the tree, as long as the
entry has something to answer, and if the entry is a status, it is answered with that whatever is
kept. -/
theorem answer_by_spelling (r : Routes σ) (files routes : Nat) (visits : List Visit) (v : Visit) :
    r.FoundAmong files routes (visits ++ [v]) v.verb v.path (r.answer files routes visits v) ∧
    (∀ path, Text.segments '/' v.path = Text.segments '/' path →
      ∀ before u, u.verb = v.verb → u.path = v.path → r.found files routes before u =
        if (r.staticFound files routes before u).isNothing = true then
          (r.tree.find? v.verb path).getD .nothing
        else r.staticFound files routes before u) ∧
    ((∀ u ∈ visits ++ [v], u.verb = v.verb → u.path = v.path →
        r.statics.EntryServes u.files v.verb v.path) →
      ¬ r.AnsweredByTree files routes visits v) ∧
    ∀ code, r.statics.statuses.lookup (v.verb, v.path) = some code →
      r.answer files routes visits v = .status v.path code := by
  refine ⟨r.foundAmong_answer files routes visits v, ?_, not_answeredByTree,
    fun code => answer_of_status⟩
  intro path same before u hv hp
  rw [found_eq, hv, hp, r.tree.find?_congr same]

/-- Two handlers behind entries of their paths: one is forbidden, one is to be a file. -/
def guarded : Routes Unit where
  statics := {
    statuses := [((.get, "/admin"), 403)]
    files := [((.get, "/page"), ⟨"page.html"⟩)] }
  tree := ⟨[(.get, .node none [
    ("admin", .node (some ("/admin", .status "/admin" 200)) []),
    ("page", .node (some ("/page", .status "/page" 200)) [])])]⟩

/-- A visit of a path where there are no files. -/
def visitOf (path : String) : Visit := ⟨{}, .get, path⟩

/-- The path with the entry is forbidden. -/
theorem answer_by_spelling_admin :
    ¬ guarded.AnsweredByTree 4 16 [] (visitOf "/admin") ∧
      guarded.answer 4 16 [] (visitOf "/admin") = .status "/admin" 403 ∧
      guarded.found 4 16 [] (visitOf "/admin/") = .status "/admin" 200 := by
  have entry : guarded.statics.statuses.lookup (.get, "/admin") = some 403 := by decide
  obtain ⟨-, -, shadows, status⟩ := answer_by_spelling guarded 4 16 [] (visitOf "/admin")
  have serves : ∀ u ∈ [visitOf "/admin"], u.verb = .get → u.path = "/admin" →
      guarded.statics.EntryServes u.files .get "/admin" := by
    intro u _ _ _
    left
    rw [entry]
    rfl
  have same : Text.segments '/' "/admin/" = Text.segments '/' "/admin" := by decide
  have other := (answer_by_spelling guarded 4 16 [] (visitOf "/admin/")).2.1 "/admin" same []
    (visitOf "/admin/") rfl rfl
  exact ⟨shadows serves, status 403 entry, other⟩

/-- It is not so that an entry goes before the tree for every spelling of its path: `/admin/` is not
forbidden. Nor does the entry of a file do so for its own spelling, where the file is not there. -/
theorem not_forall_entry_shadows :
    (¬ ∀ (r : Routes Unit) (files routes : Nat) (visits : List Visit) (v : Visit) (path : String),
      (r.statics.statuses.lookup (v.verb, path)).isSome = true →
      Text.segments '/' v.path = Text.segments '/' path →
      ¬ r.AnsweredByTree files routes visits v) ∧
    ¬ ∀ (r : Routes Unit) (files routes : Nat) (visits : List Visit) (v : Visit),
      (r.statics.files.lookup (v.verb, v.path)).isSome = true →
      ¬ r.AnsweredByTree files routes visits v := by
  constructor
  · intro h
    refine h guarded 4 0 [] (visitOf "/admin/") "/admin" (by decide) (by decide) ?_
    exact ⟨[], _, [], .status "/admin" 200, rfl, rfl, rfl, rfl, rfl, rfl⟩
  · intro h
    refine h guarded 4 0 [] (visitOf "/page") (by decide) ?_
    exact ⟨[], _, [], .status "/page" 200, rfl, rfl, rfl, rfl, rfl, rfl⟩

end Routes

end Switchboard
