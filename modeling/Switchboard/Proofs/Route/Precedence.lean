import Mathlib.Data.List.MinMax
import Switchboard.Proofs.Route.Registration

/-!
# Which static route answers

A status answers before a file, and a file before any directory. Among the directories of a verb the
one with the longest prefix that fits the path answers, and what it answers is final, also if it
answers nothing (`Answers`).

A table is built by adding routes, and answers by what was added last at each place
(`route_precedence`). So the routes of other places may come in any order.
-/

namespace Switchboard

variable {σ : Type}

/-- What was added last of each kind for each verb and path. -/
abbrev Registered := TargetKind → Verb → String → Option StaticTarget

/-- Of the directories whose prefixes fit a path, this one has the longest prefix. -/
structure Decides (added : Registered) (verb : Verb) (path start : String) (dir : FilePath) :
    Prop where
  mapped : added .directory verb start = some (.directory dir)
  fits : StaticTable.Fits path start
  longest : ∀ start' dir', added .directory verb start' = some (.directory dir') →
    StaticTable.Fits path start' → start'.length ≤ start.length

/-- The answer for a path, by precedence. -/
inductive Answers (added : Registered) (fs : FileSystem) (verb : Verb) (path : String)
    (cache : FileCache) : Action σ × FileCache → Prop
  | status {code : Status} (last : added .status verb path = some (.status code)) :
      Answers added fs verb path cache (.status path code, cache)
  | file {p : FilePath} (noStatus : added .status verb path = none)
      (last : added .file verb path = some (.file p)) :
      Answers added fs verb path cache (StaticTable.load fs path p cache)
  | directory {start : String} {dir : FilePath} {answer : Action σ × FileCache}
      (noStatus : added .status verb path = none) (noFile : added .file verb path = none)
      (decides : Decides added verb path start dir)
      (answers : StaticTable.loadBelow? fs path start dir cache = some answer) :
      Answers added fs verb path cache answer
  | nowhere (noStatus : added .status verb path = none) (noFile : added .file verb path = none)
      (noDirectory : ∀ start, StaticTable.Fits path start → added .directory verb start = none) :
      Answers added fs verb path cache (.nothing, cache)

/-! ## Order of registration -/

/-- Two lists have the same routes at each place, in the same order. -/
def SamePlaces (routes routes' : List StaticRoute) : Prop :=
  ∀ kind verb path,
    routes.filter (·.IsAt kind verb path) = routes'.filter (·.IsAt kind verb path)

theorem registered?_eq_getLast? (routes : List StaticRoute) (kind : TargetKind) (verb : Verb)
    (path : String) :
    registered? routes kind verb path =
      (routes.filter (·.IsAt kind verb path)).getLast?.map (·.target) := by
  unfold registered?
  rw [← List.head?_filter, List.filter_reverse, List.head?_reverse]

theorem SamePlaces.registered? {routes routes' : List StaticRoute} (h : SamePlaces routes routes') :
    registered? routes = registered? routes' := by
  funext kind verb path
  rw [registered?_eq_getLast?, registered?_eq_getLast?, h]

/-- Two neighbours of different places may change places. -/
theorem SamePlaces.swap {a b : StaticRoute}
    (apart : a.target.kind ≠ b.target.kind ∨ a.place ≠ b.place) (before after : List StaticRoute) :
    SamePlaces (before ++ a :: b :: after) (before ++ b :: a :: after) := by
  intro kind verb path
  have one : ¬ (a.IsAt kind verb path ∧ b.IsAt kind verb path) := by
    rintro ⟨⟨hak, hap⟩, hbk, hbp⟩
    rcases apart with differ | differ
    · exact differ (hak.trans hbk.symm)
    · exact differ (hap.trans hbp.symm)
  rw [List.filter_append, List.filter_append]
  congr 1
  by_cases ha : a.IsAt kind verb path
  · have hb : ¬ b.IsAt kind verb path := fun hb => one ⟨ha, hb⟩
    simp [ha, hb]
  · simp [ha, List.filter_cons]

namespace StaticTable

variable {fs : FileSystem} {verb : Verb} {path start : String} {dir : FilePath} {cache : FileCache}

/-! ## The directory that decides -/

theorem mem_directories_ofRoutes {routes : List StaticRoute} :
    (verb, start, dir) ∈ (ofRoutes routes).directories ↔
      registered? routes .directory verb start = some (.directory dir) := by
  rw [(oneEach_ofRoutes routes).mem_directories_iff, targetAt?_ofRoutes]

/-- A directory answers for each path that its prefix fits. -/
theorem exists_leadBelow? (hs : ∃ q, start = directoryPrefix q) (hfit : Fits path start)
    (fs : FileSystem) (dir : FilePath) : ∃ l, leadBelow? fs path start dir = some l := by
  unfold leadBelow?
  by_cases bare : path = Text.trimEndOf '/' start
  · rw [if_pos bare]
    exact ⟨_, rfl⟩
  · rw [if_neg bare]
    rcases hfit with rfl | ⟨rest, rfl⟩
    · obtain ⟨q, hq⟩ := hs
      have inner : path = Text.trimEndOf '/' q := (String.append_left_inj "/").1 hq
      rw [hq] at bare
      exact absurd (inner.trans (Text.trimEndOf_trimEndOf_append '/' q).symm) bare
    · rw [Text.after?_eq_some.2 rfl]
      exact ⟨_, rfl⟩

/-- If some prefix fits a path, one directory decides. -/
theorem exists_decides {routes : List StaticRoute}
    (hm : (verb, start, dir) ∈ (ofRoutes routes).directories) (hfit : Fits path start) :
    ∃ start dir, Decides (registered? routes) verb path start dir := by
  classical
  have fitting {start : String} {dir : FilePath} :
      (verb, start, dir) ∈
          (ofRoutes routes).directories.filter (fun e => e.1 = verb ∧ Fits path e.2.1) ↔
        (verb, start, dir) ∈ (ofRoutes routes).directories ∧ Fits path start := by
    simp
  have there := fitting.2 ⟨hm, hfit⟩
  cases greatest : ((ofRoutes routes).directories.filter
      (fun e => e.1 = verb ∧ Fits path e.2.1)).argmax (fun e => e.2.1.length) with
  | none =>
    rw [List.argmax_eq_none.1 greatest] at there
    exact absurd there List.not_mem_nil
  | some e =>
    have first := List.argmax_mem greatest
    obtain ⟨v, start, dir⟩ := e
    have passes := List.of_mem_filter first
    obtain ⟨rfl, -⟩ : v = verb ∧ Fits path start := of_decide_eq_true passes
    obtain ⟨hm, hfit⟩ := fitting.1 first
    refine ⟨start, dir, mem_directories_ofRoutes.1 hm, hfit, ?_⟩
    intro start' dir' hm' hfit'
    have le := List.le_of_mem_argmax (fitting.2 ⟨mem_directories_ofRoutes.2 hm', hfit'⟩) greatest
    exact le

/-! ## The answer of a table -/

theorem statuses_lookup_eq_none_iff {routes : List StaticRoute} :
    (ofRoutes routes).statuses.lookup (verb, path) = none ↔
      registered? routes .status verb path = none := by
  rw [← targetAt?_ofRoutes]
  exact Option.map_eq_none_iff.symm

theorem files_lookup_eq_none_iff {routes : List StaticRoute} :
    (ofRoutes routes).files.lookup (verb, path) = none ↔
      registered? routes .file verb path = none := by
  rw [← targetAt?_ofRoutes]
  exact Option.map_eq_none_iff.symm

theorem route_of_unregistered {routes : List StaticRoute}
    (noStatus : registered? routes .status verb path = none)
    (noFile : registered? routes .file verb path = none) :
    (ofRoutes routes).route (σ := σ) fs verb path cache =
      ((ofRoutes routes).lead fs verb path).follow fs path cache :=
  route_eq_follow (statuses_lookup_eq_none_iff.2 noStatus) (files_lookup_eq_none_iff.2 noFile) fs
    cache

/-- A table answers by precedence and in no other way. -/
theorem route_of_answers {routes : List StaticRoute} {answer : Action σ × FileCache}
    (h : Answers (registered? routes) fs verb path cache answer) :
    (ofRoutes routes).route fs verb path cache = answer := by
  cases h with
  | status last =>
    rw [← targetAt?_ofRoutes] at last
    obtain ⟨code, found, same⟩ := Option.map_eq_some_iff.1 last
    cases same
    exact route_of_status found fs cache
  | file noStatus last =>
    rw [← targetAt?_ofRoutes] at last
    obtain ⟨p, found, same⟩ := Option.map_eq_some_iff.1 last
    cases same
    exact route_of_file (statuses_lookup_eq_none_iff.2 noStatus) found fs cache
  | directory noStatus noFile decides answers =>
    rw [loadBelow?_eq] at answers
    obtain ⟨l, leads, rfl⟩ := Option.map_eq_some_iff.1 answers
    rw [route_of_unregistered noStatus noFile]
    congr 1
    apply (ordered_ofRoutes routes).lead_eq (mem_directories_ofRoutes.2 decides.mapped) decides.fits
    · intro start' dir' hm
      exact decides.longest start' dir' (mem_directories_ofRoutes.1 hm)
    · exact leads
  | nowhere noStatus noFile noDirectory =>
    rw [route_of_unregistered noStatus noFile, (ordered_ofRoutes routes).lead_eq_nowhere]
    · rfl
    · intro start dir hm hfit
      have none := noDirectory start hfit
      rw [mem_directories_ofRoutes.1 hm] at none
      cases none

theorem exists_answers (routes : List StaticRoute) (fs : FileSystem) (verb : Verb) (path : String)
    (cache : FileCache) :
    ∃ answer : Action σ × FileCache, Answers (registered? routes) fs verb path cache answer := by
  cases status : (ofRoutes routes).statuses.lookup (verb, path) with
  | some code =>
    have last : registered? routes .status verb path = some (.status code) := by
      rw [← targetAt?_ofRoutes, targetAt?, status, Option.map_some]
    exact ⟨_, .status last⟩
  | none =>
    have noStatus := statuses_lookup_eq_none_iff.1 status
    cases file : (ofRoutes routes).files.lookup (verb, path) with
    | some p =>
      have last : registered? routes .file verb path = some (.file p) := by
        rw [← targetAt?_ofRoutes, targetAt?, file, Option.map_some]
      exact ⟨_, .file noStatus last⟩
    | none =>
      have noFile := files_lookup_eq_none_iff.1 file
      by_cases fits : ∃ start dir, (verb, start, dir) ∈ (ofRoutes routes).directories ∧
          Fits path start
      · obtain ⟨start, dir, hm, hfit⟩ := fits
        obtain ⟨start, dir, decides⟩ := exists_decides hm hfit
        have own := (ordered_ofRoutes routes).prefixes _ (mem_directories_ofRoutes.2 decides.mapped)
        obtain ⟨l, leads⟩ := exists_leadBelow? own decides.fits fs dir
        refine ⟨l.follow fs path cache, .directory noStatus noFile decides ?_⟩
        rw [loadBelow?_eq, leads, Option.map_some]
      · refine ⟨_, .nowhere noStatus noFile ?_⟩
        intro start hfit
        cases mapped : registered? routes .directory verb start with
        | none => rfl
        | some target =>
          have there := mapped
          rw [← targetAt?_ofRoutes] at there
          obtain ⟨dir, -, rfl⟩ := Option.map_eq_some_iff.1 there
          exact absurd ⟨start, dir, mem_directories_ofRoutes.2 mapped, hfit⟩ fits

/-- **Precedence of static routes.** A table that was built answers for a path with the status that
was added last for it, or else the file, or else by the directory that has the longest prefix of all
that fit the path, or else with nothing. Other orders in which each place has its routes in the same
order give the same answers. -/
theorem route_precedence (routes : List StaticRoute) (fs : FileSystem) (verb : Verb) (path : String)
    (cache : FileCache) :
    (∀ answer : Action σ × FileCache, (ofRoutes routes).route fs verb path cache = answer ↔
      Answers (registered? routes) fs verb path cache answer) ∧
    ∀ routes', SamePlaces routes routes' →
      (ofRoutes routes').route (σ := σ) fs verb path cache =
        (ofRoutes routes).route fs verb path cache := by
  obtain ⟨own, answers⟩ := exists_answers (σ := σ) routes fs verb path cache
  have found := route_of_answers answers
  refine ⟨?_, ?_⟩
  · intro answer
    constructor
    · rintro rfl
      rwa [found]
    · exact route_of_answers
  · intro routes' same
    rw [found]
    apply route_of_answers
    rwa [← same.registered?]

/-- A directory inside the path of another one. -/
def manual : List StaticRoute :=
  [⟨.get, "/docs", .directory ⟨"docs"⟩⟩, ⟨.get, "/docs/api/", .directory ⟨"api"⟩⟩,
    ⟨.get, "/docs/api/old", .status 410⟩]

/-- The same routes, the longer prefix first. -/
def manualBackwards : List StaticRoute :=
  [⟨.get, "/docs/api/", .directory ⟨"api"⟩⟩, ⟨.get, "/docs", .directory ⟨"docs"⟩⟩,
    ⟨.get, "/docs/api/old", .status 410⟩]

/-- Files of the outer directory only. -/
def manualFiles : FileSystem :=
  { files := [(["docs", "api", "page"], default)], directories := [["docs"], ["docs", "api"]] }

/-- The inner directory has no such page, and the outer one is not asked for it. -/
theorem route_precedence_manual :
    SamePlaces manual manualBackwards ∧
      (ofRoutes manualBackwards).route (σ := Unit) manualFiles .get "/docs/api/page"
        (.ofCapacity 1) = (.nothing, .ofCapacity 1) := by
  have same : SamePlaces manual manualBackwards := SamePlaces.swap (.inr (by decide)) [] _
  obtain ⟨answered, reordered⟩ := route_precedence (σ := Unit) manual manualFiles .get
    "/docs/api/page" (.ofCapacity 1)
  refine ⟨same, (reordered manualBackwards same).trans ((answered _).2 ?_)⟩
  have decides : Decides (registered? manual) .get "/docs/api/page" "/docs/api/" ⟨"api"⟩ := by
    refine ⟨by decide, .inr ⟨"page", by decide⟩, ?_⟩
    intro start dir mapped _
    obtain ⟨route, there, isAt, -⟩ := exists_of_registered? mapped
    have own := (Prod.mk.inj isAt.2).2
    rw [manual, List.mem_cons, List.mem_cons, List.mem_singleton] at there
    rcases there with rfl | rfl | rfl
    · rw [← own]
      decide
    · rw [← own]
      decide
    · cases isAt.1
  exact .directory (by decide) (by decide) decides rfl

end StaticTable

end Switchboard
