import Switchboard.Proofs.Dictionary
import Switchboard.Proofs.Route.Registration

/-!
# The listing of static routes

A status, a file and a directory can be registered for one path of a verb. Lookup prefers the status
and then the file (`route_of_head?`). The listing has one text for the path, and goes through the
kinds in the same order, so that the last one is left (`get?_entries_ofRoutes`). Hence it shows what
lookup uses for just those paths where one kind of target is registered, and at all others a target
that lookup does not use (`entries_last_route_first`).
-/

namespace Switchboard

/-! ## Texts of targets -/

/-- The kind of a target by the first character of its text. -/
def TargetKind.ofHead? : Option Char → TargetKind
  | some 'f' => .file
  | some 's' => .directory
  | _ => .status

theorem TargetKind.ofHead?_of_isDigit {digits : List Char} (h : ∀ c ∈ digits, c.isDigit = true) :
    ofHead? digits.head? = .status := by
  unfold ofHead?
  split
  · next first => exact absurd (h 'f' (List.mem_of_head? first)) (by decide)
  · next first => exact absurd (h 's' (List.mem_of_head? first)) (by decide)
  · rfl

theorem StaticTarget.ofHead?_render (target : StaticTarget) :
    TargetKind.ofHead? target.render.toList.head? = target.kind := by
  cases target with
  | status code =>
    show TargetKind.ofHead? (toString code).toList.head? = .status
    rw [Nat.toString_eq_repr, Nat.toList_repr]
    apply TargetKind.ofHead?_of_isDigit
    intro c hc
    exact Nat.isDigit_of_mem_toDigits (by decide) (by decide) hc
  | directory dir =>
    unfold render
    rw [String.toList_append]
    rfl
  | file path =>
    unfold render
    rw [String.toList_append]
    rfl

theorem StaticTarget.kind_eq_of_render_eq {a b : StaticTarget} (h : a.render = b.render) :
    a.kind = b.kind := by
  rw [← a.ofHead?_render, ← b.ofHead?_render, h]

/-! ## The targets of a path -/

/-- What a target has for just the path it is registered for. -/
def StaticTarget.serve {σ : Type} (fs : FileSystem) (path : String) (cache : FileCache) :
    StaticTarget → Action σ × FileCache
  | status code => (.status path code, cache)
  | file p => StaticTable.load fs path p cache
  | directory dir => (StaticTable.leadBehind fs path dir "").follow fs path cache

/-- The kinds, those that lookup prefers first. -/
def TargetKind.preference : List TargetKind := [.status, .file, .directory]

/-- What was added last of each kind for a verb and a path, in order of preference. -/
def targetsFor (routes : List StaticRoute) (verb : Verb) (path : String) : List StaticTarget :=
  TargetKind.preference.filterMap (registered? routes · verb path)

/-- The targets of a path are of different kinds. -/
theorem pairwise_kind_targetsFor (routes : List StaticRoute) (verb : Verb) (path : String) :
    (targetsFor routes verb path).Pairwise fun a b => a.kind ≠ b.kind := by
  have distinct : TargetKind.preference.Pairwise (· ≠ ·) := by decide
  refine distinct.filterMap _ fun kind kind' differ a ha b hb => ?_
  rw [kind_of_registered? ha, kind_of_registered? hb]
  exact differ

namespace StaticTable

variable {σ : Type} {t : StaticTable} {verb : Verb} {path : String}

/-- The first target that a table has, in some order of the kinds. -/
theorem findSome?_targetAt? (t : StaticTable) (verb : Verb) (path : String) (a b c : TargetKind) :
    [a, b, c].findSome? (t.targetAt? · verb path) =
      (t.targetAt? a verb path).or ((t.targetAt? b verb path).or (t.targetAt? c verb path)) := by
  simp only [List.findSome?_cons, List.findSome?_nil]
  cases t.targetAt? a verb path <;> cases t.targetAt? b verb path <;>
    cases t.targetAt? c verb path <;> rfl

theorem targetsFor_eq (routes : List StaticRoute) (verb : Verb) (path : String) :
    targetsFor routes verb path =
      TargetKind.preference.filterMap ((ofRoutes routes).targetAt? · verb path) := by
  unfold targetsFor
  rw [funext fun kind => targetAt?_ofRoutes routes kind verb path]

/-! ## What lookup uses -/

/-- Lookup uses the first target that is registered for a path. -/
theorem route_of_head? {routes : List StaticRoute} {used : StaticTarget}
    (h : (targetsFor routes verb path).head? = some used) (fs : FileSystem) (cache : FileCache) :
    (ofRoutes routes).route (σ := σ) fs verb path cache = used.serve fs path cache := by
  rw [targetsFor_eq, List.head?_filterMap, TargetKind.preference, findSome?_targetAt?] at h
  cases hs : (ofRoutes routes).statuses.lookup (verb, path) with
  | some code =>
    rw [targetAt?, hs] at h
    cases h
    exact route_of_status hs fs cache
  | none =>
    rw [targetAt?, hs, Option.map_none, Option.none_or] at h
    cases hf : (ofRoutes routes).files.lookup (verb, path) with
    | some file =>
      rw [targetAt?, hf] at h
      cases h
      exact route_of_file hs hf fs cache
    | none =>
      rw [targetAt?, hf, Option.map_none, Option.none_or] at h
      obtain ⟨dir, -, rfl⟩ := Option.map_eq_some_iff.1 h
      have mapped := (oneEach_ofRoutes routes).mem_directories_iff.2 h
      rw [route_eq_follow hs hf, (ordered_ofRoutes routes).lead_self mapped]
      rfl

/-! ## What the listing shows -/

/-- The entries of a verb under their paths, with the texts of their targets. -/
def textsOf {α : Type} (verb : Verb) (render : α → StaticTarget) (l : List ((Verb × String) × α)) :
    List (String × String) :=
  (l.filter (·.1.1 == verb)).map fun e => (e.1.2, (render e.2).render)

theorem entries_eq (t : StaticTable) (verb : Verb) :
    t.entries verb = Dictionary.ofPairs (textsOf verb .status t.statuses ++
      textsOf verb .file t.files ++ textsOf verb .directory t.prefixes) := by
  have directories : textsOf verb .directory t.prefixes =
      (t.directories.filter (·.1 == verb)).map fun e =>
        (e.2.1, (StaticTarget.directory e.2.2).render) := by
    unfold textsOf prefixes
    rw [List.filter_map, List.map_map]
    rfl
  rw [directories]
  rfl

theorem lookup_textsOf {α : Type} (verb : Verb) (path : String) (render : α → StaticTarget)
    (l : List ((Verb × String) × α)) :
    (textsOf verb render l).lookup path =
      ((l.lookup (verb, path)).map render).map StaticTarget.render := by
  unfold textsOf
  induction l with
  | nil => rfl
  | cons e l ih =>
    obtain ⟨⟨v, p⟩, a⟩ := e
    by_cases hv : v = verb
    · subst hv
      rw [List.filter_cons_of_pos (by simp), List.map_cons]
      by_cases hp : path = p
      · subst hp
        rw [List.lookup_cons_self, List.lookup_cons_self]
        rfl
      · have differs : ((v, path) == (v, p)) = false := by simp [hp]
        rw [List.lookup_cons, List.lookup_cons, beq_false_of_ne hp, differs]
        exact ih
    · have differs : ((verb, path) == (v, p)) = false := by simp [Ne.symm hv]
      rw [List.filter_cons_of_neg (by simp [hv]), List.lookup_cons, differs]
      exact ih

theorem lookup_reverse_textsOf {α : Type} (verb : Verb) (path : String) (render : α → StaticTarget)
    {l : List ((Verb × String) × α)} (nodup : (l.map Prod.fst).Nodup) :
    (textsOf verb render l).reverse.lookup path =
      ((l.lookup (verb, path)).map render).map StaticTarget.render := by
  have reversed : (textsOf verb render l).reverse = textsOf verb render l.reverse := by
    unfold textsOf
    rw [List.filter_reverse, List.map_reverse]
  rw [reversed, lookup_textsOf, ← lookup_perm l.reverse_perm.symm nodup]

/-- The listing shows the last of the targets of a path. -/
theorem get?_entries_ofRoutes (routes : List StaticRoute) (verb : Verb) (path : String) :
    ((ofRoutes routes).entries verb).get? path =
      (targetsFor routes verb path).getLast?.map StaticTarget.render := by
  have each := oneEach_ofRoutes routes
  have backwards : TargetKind.preference.reverse = [.directory, .file, .status] := rfl
  rw [targetsFor_eq, List.getLast?_filterMap, backwards, findSome?_targetAt?, Option.map_or,
    Option.map_or, entries_eq, Dictionary.get?_ofPairs, List.reverse_append, List.reverse_append,
    List.lookup_append, List.lookup_append, lookup_reverse_textsOf _ _ _ each.statuses,
    lookup_reverse_textsOf _ _ _ each.files, lookup_reverse_textsOf _ _ _ each.prefixes]
  rfl

/-! ## Listing and lookup -/

/-- **The listing shows the last target of a path, lookup uses the first.** A path is listed if a
target is registered for it, by its own text or as the prefix of a directory. The text is that of the
directory, or else of the file, or else of the status. A lookup of the path uses the status, or else
the file, or else the directory, whatever the files and the cache. So the listing shows what lookup
uses if the path has one target, and does not if it has more. -/
theorem entries_last_route_first (routes : List StaticRoute) (verb : Verb) (path : String) :
    ((ofRoutes routes).entries verb).get? path =
      (targetsFor routes verb path).getLast?.map StaticTarget.render ∧
    ∀ used others, targetsFor routes verb path = used :: others →
      (∀ fs cache, (ofRoutes routes).route (σ := σ) fs verb path cache =
        used.serve fs path cache) ∧
      (((ofRoutes routes).entries verb).get? path = some used.render ↔ others = []) := by
  have listed := get?_entries_ofRoutes routes verb path
  refine ⟨listed, fun used others split => ⟨?_, ?_⟩⟩
  · intro fs cache
    apply route_of_head?
    rw [split]
    rfl
  · rw [listed, split]
    constructor
    · intro same
      by_contra more
      obtain ⟨shown, last⟩ : ∃ shown, others.getLast? = some shown :=
        ⟨_, List.getLast?_eq_some_getLast more⟩
      rw [List.getLast?_cons, last, Option.getD_some, Option.map_some, Option.some.injEq] at same
      have kinds := pairwise_kind_targetsFor routes verb path
      rw [split] at kinds
      have differ := List.rel_of_pairwise_cons kinds (List.mem_of_getLast? last)
      exact differ (StaticTarget.kind_eq_of_render_eq same).symm
    · rintro rfl
      rfl

/-- A path with two targets, and one with a single target. -/
def closedReport : List StaticRoute :=
  [⟨.get, "/report", .file ⟨"report.pdf"⟩⟩, ⟨.get, "/report", .status 403⟩,
    ⟨.get, "/logo", .file ⟨"logo.svg"⟩⟩]

theorem targetsFor_closedReport :
    targetsFor closedReport .get "/report" = [.status 403, .file ⟨"report.pdf"⟩] := by decide

/-- The listing shows a file at a path that is forbidden. -/
theorem entries_last_route_first_report :
    ((ofRoutes closedReport).entries .get).get? "/report" = some "file:report.pdf" ∧
      (ofRoutes closedReport).route (σ := Unit) {} .get "/report" (.ofCapacity 1) =
        (.status "/report" 403, .ofCapacity 1) ∧
      ((ofRoutes closedReport).entries .get).get? "/logo" = some "file:logo.svg" := by
  have single : targetsFor closedReport .get "/logo" = [.file ⟨"logo.svg"⟩] := by decide
  obtain ⟨listed, first⟩ := entries_last_route_first (σ := Unit) closedReport .get "/report"
  obtain ⟨-, one⟩ := entries_last_route_first (σ := Unit) closedReport .get "/logo"
  rw [targetsFor_closedReport] at listed
  exact ⟨listed, (first _ _ targetsFor_closedReport).1 _ _, (one _ _ single).2.2 rfl⟩

theorem load_ne_status (fs : FileSystem) (path : String) (p : FilePath) (cache : FileCache)
    (other : String) (code : Status) : (load (σ := σ) fs path p cache).1 ≠ .status other code := by
  unfold load fileAction
  dsimp only
  intro h
  split at h
  · cases h
  · split at h <;> cases h

/-- It is not so that a listed target is always the one that lookup uses. -/
theorem not_forall_listed_used :
    ¬ ∀ (routes : List StaticRoute) (verb : Verb) (path text : String),
      ((ofRoutes routes).entries verb).get? path = some text →
      ∃ target : StaticTarget, target.render = text ∧ ∀ fs cache,
        (ofRoutes routes).route (σ := Unit) fs verb path cache = target.serve fs path cache := by
  intro h
  have listed := get?_entries_ofRoutes closedReport .get "/report"
  rw [targetsFor_closedReport] at listed
  obtain ⟨target, text, serves⟩ := h closedReport .get "/report" _ listed
  have kind : target.kind = .file := StaticTarget.kind_eq_of_render_eq (b := .file _) text
  obtain ⟨file, rfl⟩ : ∃ file, target = .file file := by
    cases target with
    | file file => exact ⟨file, rfl⟩
    | status code => cases kind
    | directory dir => cases kind
  have first : (targetsFor closedReport .get "/report").head? = some (.status 403) := by
    rw [targetsFor_closedReport]
    rfl
  have forbidden := route_of_head? (σ := Unit) first {} (.ofCapacity 1)
  rw [serves] at forbidden
  exact load_ne_status _ _ _ _ _ _ (congrArg Prod.fst forbidden)

end StaticTable

end Switchboard
