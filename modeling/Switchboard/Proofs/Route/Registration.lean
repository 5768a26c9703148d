import Mathlib.Data.List.Induction
import Switchboard.Proofs.List.Keyed
import Switchboard.Proofs.Route.Lead

/-!
# What was registered for a path

A table of static routes keeps statuses, files and directories apart. Each route is kept under its
verb and one path (`StaticRoute.place`), and takes the place of the earlier route of its kind there.
So a table that was built has of each kind what was added last for a verb and a path
(`StaticTable.targetAt?_ofRoutes`), in whatever order the routes of other places were added.
-/

namespace Switchboard

/-- What a target can be. -/
inductive TargetKind where
  | status
  | file
  | directory
  deriving DecidableEq, Repr

/-- What a target is. -/
def StaticTarget.kind : StaticTarget → TargetKind
  | status _ => .status
  | file _ => .file
  | directory _ => .directory

namespace StaticRoute

/-- The verb and the path under which a route is kept; the path of a directory is its prefix. -/
def place (route : StaticRoute) : Verb × String :=
  match route.target with
  | .status _ => (route.verb, route.path)
  | .file _ => (route.verb, route.path)
  | .directory _ => (route.verb, StaticTable.directoryPrefix route.path)

/-- A route is kept among those of a kind, under a verb and a path. -/
def IsAt (route : StaticRoute) (kind : TargetKind) (verb : Verb) (path : String) : Prop :=
  route.target.kind = kind ∧ route.place = (verb, path)

instance (route : StaticRoute) (kind : TargetKind) (verb : Verb) (path : String) :
    Decidable (route.IsAt kind verb path) :=
  inferInstanceAs (Decidable (_ ∧ _))

end StaticRoute

/-- The target that was added last of a kind for a verb and a path. -/
def registered? (routes : List StaticRoute) (kind : TargetKind) (verb : Verb) (path : String) :
    Option StaticTarget :=
  (routes.reverse.find? (·.IsAt kind verb path)).map (·.target)

/-- One more route decides on its own place and on no other. -/
theorem registered?_concat (routes : List StaticRoute) (route : StaticRoute) (kind : TargetKind)
    (verb : Verb) (path : String) :
    registered? (routes ++ [route]) kind verb path =
      if route.IsAt kind verb path then some route.target
      else registered? routes kind verb path := by
  unfold registered?
  rw [List.reverse_concat, List.find?_cons]
  by_cases h : route.IsAt kind verb path <;> simp [h]

/-- What is registered was registered by one of the routes. -/
theorem exists_of_registered? {routes : List StaticRoute} {kind : TargetKind} {verb : Verb}
    {path : String} {target : StaticTarget} (h : registered? routes kind verb path = some target) :
    ∃ route ∈ routes, route.IsAt kind verb path ∧ route.target = target := by
  obtain ⟨route, found, own⟩ := Option.map_eq_some_iff.1 h
  have there := List.mem_reverse.1 (List.mem_of_find?_eq_some found)
  have isAt := List.find?_some found
  exact ⟨route, there, of_decide_eq_true isAt, own⟩

theorem kind_of_registered? {routes : List StaticRoute} {kind : TargetKind} {verb : Verb}
    {path : String} {target : StaticTarget} (h : registered? routes kind verb path = some target) :
    target.kind = kind := by
  obtain ⟨route, -, isAt, rfl⟩ := exists_of_registered? h
  exact isAt.1

namespace StaticTable

/-- The directories under their verbs and prefixes. -/
def prefixes (t : StaticTable) : List ((Verb × String) × FilePath) :=
  t.directories.map fun (verb, start, dir) => ((verb, start), dir)

/-- The target of a kind that a table has for a verb and a path. -/
def targetAt? (t : StaticTable) (kind : TargetKind) (verb : Verb) (path : String) :
    Option StaticTarget :=
  match kind with
  | .status => (t.statuses.lookup (verb, path)).map .status
  | .file => (t.files.lookup (verb, path)).map .file
  | .directory => (t.prefixes.lookup (verb, path)).map .directory

/-- A table has one target of each kind for a verb and a path. -/
structure OneEach (t : StaticTable) : Prop where
  statuses : (t.statuses.map Prod.fst).Nodup
  files : (t.files.map Prod.fst).Nodup
  prefixes : (t.prefixes.map Prod.fst).Nodup

/-! ## Replacing an entry -/

section Replace

variable {κ α : Type} [BEq κ] [LawfulBEq κ]

/-- A replaced entry is found under its key, and all others as before. -/
theorem lookup_replace [DecidableEq κ] (key other : κ) (v : α) (l : List (κ × α)) :
    (replace key v l).lookup other = if key = other then some v else l.lookup other := by
  unfold replace
  rw [List.lookup_append, lookup_filter_key (· != key)]
  by_cases h : key = other
  · subst h
    simp
  · have differs : (other == key) = false := beq_false_of_ne (Ne.symm h)
    simp [h, differs, bne, List.lookup_cons]

theorem nodup_replace {l : List (κ × α)} (nodup : (l.map Prod.fst).Nodup) (key : κ) (v : α) :
    ((replace key v l).map Prod.fst).Nodup := by
  unfold replace
  rw [List.map_append, List.nodup_append]
  refine ⟨nodup.sublist (List.filter_sublist.map _), List.nodup_singleton _, ?_⟩
  intro k hk k' hk'
  obtain ⟨e, he, rfl⟩ := List.mem_map.1 hk
  have kept := List.of_mem_filter he
  have same : k' = key := List.mem_singleton.1 hk'
  rw [same]
  exact bne_iff_ne.1 kept

end Replace

/-! ## Adding a route -/

theorem prefixes_add_directory (t : StaticTable) (verb : Verb) (path : String) (dir : FilePath) :
    (t.add ⟨verb, path, .directory dir⟩).prefixes.Perm
      (replace (verb, directoryPrefix path) dir t.prefixes) := by
  have same : replace (verb, directoryPrefix path) dir t.prefixes =
      (t.directories.filter (fun (v, p, _) => !(v == verb && p == directoryPrefix path)) ++
        [(verb, directoryPrefix path, dir)]).map fun (v, start, dir) => ((v, start), dir) := by
    unfold replace prefixes
    rw [List.filter_map, List.map_append]
    rfl
  rw [same]
  exact (List.mergeSort_perm _ _).map _

/-- One more route leaves one entry for each place. -/
theorem OneEach.add {t : StaticTable} (h : t.OneEach) (route : StaticRoute) :
    (t.add route).OneEach := by
  obtain ⟨verb, path, target⟩ := route
  cases target with
  | status code => exact ⟨nodup_replace h.statuses _ _, h.files, h.prefixes⟩
  | file file => exact ⟨h.statuses, nodup_replace h.files _ _, h.prefixes⟩
  | directory dir =>
    have perm := (t.prefixes_add_directory verb path dir).map Prod.fst
    exact ⟨h.statuses, h.files, perm.nodup_iff.2 (nodup_replace h.prefixes _ _)⟩

/-- A route that is added is what the table has at its place; at other places nothing changes. -/
theorem OneEach.targetAt?_add {t : StaticTable} (h : t.OneEach) (route : StaticRoute)
    (kind : TargetKind) (verb : Verb) (path : String) :
    (t.add route).targetAt? kind verb path =
      if route.IsAt kind verb path then some route.target else t.targetAt? kind verb path := by
  obtain ⟨v, p, target⟩ := route
  -- at the kind of the target a lookup sees the new entry, at the other kinds the table is the same
  have entry {α : Type} (render : α → StaticTarget) (key : Verb × String) (a : α)
      (l : List ((Verb × String) × α)) :
      ((replace key a l).lookup (verb, path)).map render =
        if key = (verb, path) then some (render a) else (l.lookup (verb, path)).map render := by
    rw [lookup_replace, apply_ite (Option.map render), Option.map_some]
  cases target with
  | status code =>
    cases kind with
    | status => exact (entry .status (v, p) code _).trans (if_congr (and_iff_right rfl).symm rfl rfl)
    | file => rfl
    | directory => rfl
  | file file =>
    cases kind with
    | file => exact (entry .file (v, p) file _).trans (if_congr (and_iff_right rfl).symm rfl rfl)
    | status => rfl
    | directory => rfl
  | directory dir =>
    cases kind with
    | directory =>
      have nodup := (h.add ⟨v, p, .directory dir⟩).prefixes
      have sorted := lookup_perm (t.prefixes_add_directory v p dir) nodup (verb, path)
      unfold targetAt?
      dsimp only
      rw [sorted, entry]
      exact if_congr (and_iff_right rfl).symm rfl rfl
    | status => rfl
    | file => rfl

/-- A table has one entry for each place and kind. -/
theorem oneEach_ofRoutes (routes : List StaticRoute) : (ofRoutes routes).OneEach := by
  induction routes using List.reverseRecOn with
  | nil => exact ⟨.nil, .nil, .nil⟩
  | append_singleton routes route ih =>
    rw [ofRoutes_concat]
    exact ih.add route

theorem OneEach.mem_directories_iff {t : StaticTable} (h : t.OneEach) {verb : Verb} {start : String}
    {dir : FilePath} :
    (verb, start, dir) ∈ t.directories ↔
      t.targetAt? .directory verb start = some (.directory dir) := by
  have entry : (verb, start, dir) ∈ t.directories ↔ ((verb, start), dir) ∈ t.prefixes := by
    unfold StaticTable.prefixes
    simp
  rw [entry, ← lookup_eq_some_iff_mem h.prefixes]
  constructor
  · intro found
    rw [targetAt?, found]
    rfl
  · intro found
    obtain ⟨other, there, same⟩ := Option.map_eq_some_iff.1 found
    cases same
    exact there

/-- **A table has what was added last**, of each kind, for each verb and path. -/
theorem targetAt?_ofRoutes (routes : List StaticRoute) (kind : TargetKind) (verb : Verb)
    (path : String) :
    (ofRoutes routes).targetAt? kind verb path = registered? routes kind verb path := by
  induction routes using List.reverseRecOn with
  | nil => cases kind <;> rfl
  | append_singleton routes route ih =>
    rw [ofRoutes_concat, (oneEach_ofRoutes routes).targetAt?_add, registered?_concat, ih]

end StaticTable

end Switchboard
