import Switchboard.Proofs.Route.History

/-!
# Files too large to be kept

The cache of files keeps no file above a limit, so whenever the routes are searched such a file is
read anew, unless it was smaller before and was kept then (`Routes.found_cases`). But the routes are
not searched at every visit. The cache of routes stands in front and knows no limit: what it keeps
for a path is the whole action, with the bytes that were read for it. So a visit returns a large file
as it was at one of the visits of the path so far, and that is this visit only if the cache of routes
has nothing for it (`Routes.answer_of_large`).
-/

namespace Switchboard.Routes

open StaticTable (fileAction)

variable {σ : Type}

/-- At every one of some visits the file of a path was large, if it was there. -/
def AlwaysLarge (visits : List Visit) (q : FilePath) : Prop :=
  ∀ u ∈ visits, ∀ p g, p.components = q.components → u.files.file? p = some g →
    FileCache.largest < g.data.size

variable {r : Routes σ} {files routes : Nat} {visits : List Visit} {v : Visit} {p q : FilePath}
  {f : StoredFile}

theorem AlwaysLarge.left {later : List Visit} (h : AlwaysLarge (visits ++ later) q) :
    AlwaysLarge visits q := by
  intro u hu
  exact h u (List.mem_append_left _ hu)

theorem AlwaysLarge.congr (h : AlwaysLarge visits q) (same : p.components = q.components) :
    AlwaysLarge visits p := by
  intro u hu p' g hp' read
  exact h u hu p' g (hp'.trans same) read

/-- A file that is large now adds nothing to the cache, by whatever spelling it is read. -/
theorem AlwaysLarge.concat (h : AlwaysLarge visits q) (read : v.files.file? q = some f)
    (large : FileCache.largest < f.data.size) : AlwaysLarge (visits ++ [v]) q := by
  intro u hu p g same read'
  rcases List.mem_append.1 hu with hu | hu
  · exact h u hu p g same read'
  · rw [List.mem_singleton.1 hu] at read'
    rw [StaticTable.file?_congr same (v.files.endsInName_of_file? read) read',
      Option.some.injEq] at read
    rwa [read]

/-- The cache of files has nothing of a file that was large whenever it was read. -/
theorem peek?_files_of_alwaysLarge (large : AlwaysLarge visits q) :
    (r.cachesAfter files routes visits).files.peek? q.components = none := by
  cases hit : (r.cachesAfter files routes visits).files.peek? q.components with
  | none => rfl
  | some g =>
    obtain ⟨u, hu, p, same, read, small⟩ := exists_small_of_mem_files (Lru.mem_of_peek? hit)
    have big := large u hu p g same read
    exact absurd small (Nat.not_le.2 big)

/-- Where the routes are searched, a file is read, or it was small at an earlier visit and kept. -/
theorem found_cases (opened : r.statics.opened? v.files v.verb v.path = some q)
    (read : v.files.file? q = some f) :
    r.found files routes visits v = fileAction v.path q f ∨
      ∃ u ∈ visits, ∃ p g, p.components = q.components ∧ u.files.file? p = some g ∧
        g.data.size ≤ FileCache.largest ∧
        r.found files routes visits v = fileAction v.path q g := by
  unfold found resolve
  rw [StaticTable.route_of_opened? opened]
  cases hit : (r.cachesAfter files routes visits).files.peek? q.components with
  | none =>
    left
    rw [StaticTable.load_of_peek?_eq_none hit, read]
    rfl
  | some g =>
    right
    obtain ⟨u, hu, p, same, read', small⟩ := exists_small_of_mem_files (Lru.mem_of_peek? hit)
    refine ⟨u, hu, p, g, same, read', small, ?_⟩
    rw [StaticTable.load_of_peek? hit]
    rfl

/-- A file that was large whenever it was read is read anew at a visit. -/
theorem found_of_alwaysLarge (opened : r.statics.opened? v.files v.verb v.path = some q)
    (read : v.files.file? q = some f) (large : AlwaysLarge visits q) :
    r.found files routes visits v = fileAction v.path q f := by
  obtain fresh | ⟨u, hu, p, g, same, read', small, -⟩ := found_cases opened read
  · exact fresh
  · exact absurd small (Nat.not_le.2 (large u hu p g same read'))

theorem answer_of_not_kept (h : r.kept? files routes visits v = none) :
    r.answer files routes visits v = r.found files routes visits v := by
  unfold answer
  rw [route_of_not_kept h]

/-- A cache of routes with no room keeps nothing. -/
theorem kept?_of_no_cache (visits : List Visit) (v : Visit) : r.kept? files 0 visits v = none := by
  have empty := (r.isSome_cachesAfter files 0 visits).not_left.2 rfl
  unfold kept?
  rw [Option.not_isSome_iff_eq_none.1 empty]
  rfl

/-- **What a visit of a large file returns.** Let a visit open a file that is larger than what is
kept. If the cache of routes has nothing for the path, the visit returns the file as it is, or as it
was at an earlier visit when it was small.

Let the file have been large whenever it was there before. Then the cache of files has nothing of
it, and the visit returns the bytes and the time of modification that the file had at one of the
visits of the same verb and path, this one or an earlier one. It is this one where the cache of
routes has nothing for the path, so always if there is no such cache.

If there is one, the next visit of the path returns the same once more, whatever the file is then. -/
theorem answer_of_large (opened : r.statics.opened? v.files v.verb v.path = some q)
    (read : v.files.file? q = some f) (large : FileCache.largest < f.data.size) :
    (r.kept? files routes visits v = none →
      r.answer files routes visits v = fileAction v.path q f ∨
        ∃ u ∈ visits, ∃ p g, p.components = q.components ∧ u.files.file? p = some g ∧
          g.data.size ≤ FileCache.largest ∧
          r.answer files routes visits v = fileAction v.path q g) ∧
    (AlwaysLarge visits q →
      (r.cachesAfter files routes (visits ++ [v])).files.peek? q.components = none ∧
      (∃ before u after, visits ++ [v] = before ++ u :: after ∧ u.verb = v.verb ∧
        u.path = v.path ∧ r.answer files routes visits v = r.found files routes before u ∧
        ∀ p g, r.statics.opened? u.files v.verb v.path = some p → p.components = q.components →
          u.files.file? p = some g → r.answer files routes visits v = fileAction v.path p g) ∧
      (r.kept? files routes visits v = none ∨ routes = 0 →
        r.answer files routes visits v = fileAction v.path q f)) ∧
    (routes ≠ 0 → ∀ now, r.answer files routes (visits ++ [v]) { v with files := now } =
      r.answer files routes visits v) := by
  refine ⟨?_, ?_, fun room now => r.answer_again files room visits v now⟩
  · intro miss
    rw [answer_of_not_kept miss]
    exact found_cases opened read
  · intro before
    have always := before.concat read large
    refine ⟨peek?_files_of_alwaysLarge always, ?_, ?_⟩
    · obtain ⟨before, u, after, split, hv, hp, same⟩ := r.foundAmong_answer files routes visits v
      refine ⟨before, u, after, split, hv, hp, same, ?_⟩
      intro p g opened' same' read'
      rw [← hv, ← hp] at opened'
      rw [split] at always
      rw [same, found_of_alwaysLarge opened' read' (always.left.congr same'), hp]
    · intro searched
      have miss : r.kept? files routes visits v = none := by
        rcases searched with miss | rfl
        · exact miss
        · exact kept?_of_no_cache visits v
      rw [answer_of_not_kept miss, found_of_alwaysLarge opened read before]

/-- A file just above the limit, as it was written at some time. -/
def bulk (seconds : Int) : StoredFile where
  data := ⟨.replicate (FileCache.largest + 1) 0⟩
  modified := { seconds }

theorem largest_lt_bulk (seconds : Int) : FileCache.largest < (bulk seconds).data.size := by
  have size : (bulk seconds).data.size = FileCache.largest + 1 := Array.size_replicate
  omega

/-- A route to one file. -/
def depot : Routes Unit where
  statics := { files := [((.get, "/backup"), ⟨"/var/backup.tar"⟩)] }

/-- A visit of it, when the file was written last at some time. -/
def visitAt (seconds : Int) : Visit where
  files := { files := [(["var", "backup.tar"], bulk seconds)], directories := [["var"]] }
  verb := .get
  path := "/backup"

theorem opened?_visitAt (seconds : Int) :
    depot.statics.opened? (visitAt seconds).files (visitAt seconds).verb (visitAt seconds).path =
      some ⟨"/var/backup.tar"⟩ := rfl

theorem file?_visitAt (seconds : Int) :
    (visitAt seconds).files.file? ⟨"/var/backup.tar"⟩ = some (bulk seconds) := rfl

/-- The first visit returns the file, and the next one returns it as it was then. -/
theorem answer_of_large_backup :
    FileCache.largest < (bulk 1).data.size ∧
      depot.answer 4 16 [] (visitAt 1) = fileAction "/backup" ⟨"/var/backup.tar"⟩ (bulk 1) ∧
      depot.answer 4 16 [visitAt 1] (visitAt 2) = fileAction "/backup" ⟨"/var/backup.tar"⟩ (bulk 1) := by
  obtain ⟨-, first, again⟩ := @answer_of_large Unit depot 4 16 [] (visitAt 1) _ _
    (opened?_visitAt 1) (file?_visitAt 1) (largest_lt_bulk 1)
  have none : AlwaysLarge [] ⟨"/var/backup.tar"⟩ := fun u hu => absurd hu List.not_mem_nil
  have read := (first none).2.2 (.inl rfl)
  exact ⟨largest_lt_bulk 1, read, (again (by decide) (visitAt 2).files).trans read⟩

/-- It is not so that every visit of a large file returns it as it is. -/
theorem not_forall_large_answer_current :
    ¬ ∀ (r : Routes Unit) (files routes : Nat) (visits : List Visit) (v : Visit) (q : FilePath)
      (f : StoredFile), r.statics.opened? v.files v.verb v.path = some q →
      v.files.file? q = some f → FileCache.largest < f.data.size →
      r.answer files routes visits v = fileAction v.path q f := by
  intro h
  have first := h depot 4 16 [] (visitAt 1) _ _ (opened?_visitAt 1) (file?_visitAt 1)
    (largest_lt_bulk 1)
  have second := h depot 4 16 [visitAt 1] (visitAt 2) _ _ (opened?_visitAt 2) (file?_visitAt 2)
    (largest_lt_bulk 2)
  have again : depot.answer 4 16 [visitAt 1] (visitAt 2) = depot.answer 4 16 [] (visitAt 1) :=
    depot.answer_again 4 (by decide) [] (visitAt 1) (visitAt 2).files
  rw [again, first] at second
  have times : (bulk 1).modified = (bulk 2).modified := (Action.resource.inj second).2.2.2
  exact absurd times (by decide)

end Switchboard.Routes
