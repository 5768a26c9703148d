import Switchboard.Proofs.Route.Lead
import Switchboard.Proofs.Store.FilePath

/-!
# Staying below a directory

What a table of static routes reads for a path that has no entry of its own lies below a directory
of the table: its components are the directory's and names behind them. What lies elsewhere has no
say in the answer. A rest that would leave the directory of the longest prefix leads to nothing.
-/

namespace Switchboard.StaticTable

variable {σ : Type}

/-! ## The files that are read -/

/-- A path lies below a directory: behind the components of the directory there are only names. -/
def LiesBelow (dir p : FilePath) (names : List String) : Prop :=
  p.components = dir.components ++ names.map .normal ∧ ∀ name ∈ names, FilePath.IsName name

/-- A plain rest leads to something below the directory. -/
theorem liesBelow_join (dir : FilePath) {rest : String} (h : ¬ FilePath.Escapes rest) :
    LiesBelow dir (dir.join rest) (FileSystem.names ⟨rest⟩) :=
  ⟨FilePath.components_join dir h, fun _ hm => FilePath.isName_of_mem_names h hm⟩

theorem LiesBelow.index {dir p : FilePath} {names : List String} (h : LiesBelow dir p names) :
    LiesBelow dir (p.join "index.html") (names ++ ["index.html"]) := by
  have hi : ¬ FilePath.Escapes "index.html" := by
    rw [← FilePath.isPlain_iff]
    decide
  have hn : FileSystem.names ⟨"index.html"⟩ = ["index.html"] := by decide
  obtain ⟨hc, hnames⟩ := h
  obtain ⟨hj, hindex⟩ := liesBelow_join p hi
  rw [hn] at hj hindex
  refine ⟨?_, fun name hm => ?_⟩
  · rw [hj, hc, List.append_assoc, List.map_append]
  · rcases List.mem_append.1 hm with hm | hm
    · exact hnames name hm
    · exact hindex name hm

/-- A rest that would leave the directory leads nowhere. -/
theorem leadBehind_of_escapes {rest : String} (h : FilePath.Escapes rest) (fs : FileSystem)
    (path : String) (dir : FilePath) : leadBehind fs path dir rest = .nowhere := by
  have hp : (FilePath.mk rest).isPlain = false := by
    rw [← Bool.not_eq_true, FilePath.isPlain_iff]
    exact not_not_intro h
  unfold leadBehind
  rw [hp]
  rfl

theorem leadBehind_of_not_escapes {rest : String} (h : ¬ FilePath.Escapes rest) (fs : FileSystem)
    (path : String) (dir : FilePath) :
    leadBehind fs path dir rest =
      if fs.isDirectory (dir.join rest) then
        if Text.endsWith "/" path then .file ((dir.join rest).join "index.html") else .slash
      else .file (dir.join rest) := by
  unfold leadBehind
  rw [(FilePath.isPlain_iff rest).2 h]
  rfl

/-- Every file that a directory leads to lies below it. -/
theorem liesBelow_of_leadBehind {fs : FileSystem} {path rest : String} {dir p : FilePath}
    (h : leadBehind fs path dir rest = .file p) :
    LiesBelow dir p (FileSystem.names ⟨rest⟩) ∨
      LiesBelow dir p (FileSystem.names ⟨rest⟩ ++ ["index.html"]) := by
  by_cases he : FilePath.Escapes rest
  · rw [leadBehind_of_escapes he] at h
    cases h
  · rw [leadBehind_of_not_escapes he] at h
    split at h
    · split at h
      · cases h
        exact .inr (liesBelow_join dir he).index
      · cases h
    · cases h
      exact .inl (liesBelow_join dir he)

/-! ## What lies elsewhere -/

/-- Two file systems look the same below a directory. -/
def SameBelow (fs fs' : FileSystem) (dir : FilePath) : Prop :=
  ∀ p names, LiesBelow dir p names → fs'.find? p = fs.find? p

/-- What lies elsewhere has no part in where a rest leads. -/
theorem leadBehind_congr {fs fs' : FileSystem} {dir : FilePath} (h : SameBelow fs fs' dir)
    (path rest : String) : leadBehind fs' path dir rest = leadBehind fs path dir rest := by
  by_cases he : FilePath.Escapes rest
  · rw [leadBehind_of_escapes he, leadBehind_of_escapes he]
  · have same : fs'.isDirectory (dir.join rest) = fs.isDirectory (dir.join rest) := by
      unfold FileSystem.isDirectory
      rw [h _ _ (liesBelow_join dir he)]
    rw [leadBehind_of_not_escapes he, leadBehind_of_not_escapes he, same]

theorem leadBelow?_congr {fs fs' : FileSystem} {dir : FilePath} (h : SameBelow fs fs' dir)
    (path start : String) : leadBelow? fs' path start dir = leadBelow? fs path start dir := by
  unfold leadBelow?
  rw [funext (leadBehind_congr h path)]

/-- What lies outside all directories of the table has no part in where a path leads. -/
theorem lead_congr {t : StaticTable} {fs fs' : FileSystem} {verb : Verb}
    (h : ∀ start dir, (verb, start, dir) ∈ t.directories → SameBelow fs fs' dir) (path : String) :
    t.lead fs' verb path = t.lead fs verb path := by
  unfold lead
  refine congrArg (Option.getD · _) ?_
  have hall : ∀ e ∈ t.directories.filter (·.1 == verb), SameBelow fs fs' e.2.2 := by
    intro e he
    obtain ⟨start, dir, rfl, hm⟩ := mem_filter_verb.1 he
    exact h start dir hm
  generalize t.directories.filter (·.1 == verb) = below at hall
  induction below with
  | nil => rfl
  | cons e below ih =>
    have he := leadBelow?_congr (hall e List.mem_cons_self) path e.2.1
    have hrest := ih fun e he => hall e (List.mem_cons_of_mem _ he)
    simp only [List.findSome?_cons, he, hrest]

theorem load_congr {fs fs' : FileSystem} {p : FilePath} (h : fs'.find? p = fs.find? p)
    (path : String) (cache : FileCache) :
    load (σ := σ) fs' path p cache = load fs path p cache := by
  unfold load FileSystem.file?
  rw [h]

/-! ## What the table answers -/

section Answers

variable {t : StaticTable} {verb : Verb} {path : String}
  (hs : t.statuses.lookup (verb, path) = none) (hf : t.files.lookup (verb, path) = none)

include hs hf

/-- A path leads to nothing, to a status, to a redirect or to one file that is read. -/
theorem route_cases (fs : FileSystem) :
    (∀ cache, t.route (σ := σ) fs verb path cache = (.nothing, cache)) ∨
    (∀ cache, t.route (σ := σ) fs verb path cache = (.redirect path, cache)) ∨
    ∃ start dir rest p, (verb, start, dir) ∈ t.directories ∧ path = start ++ rest ∧
      (LiesBelow dir p (FileSystem.names ⟨rest⟩) ∨
        LiesBelow dir p (FileSystem.names ⟨rest⟩ ++ ["index.html"])) ∧
      ∀ cache, t.route (σ := σ) fs verb path cache = load fs path p cache := by
  have follow := route_eq_follow (σ := σ) hs hf fs
  cases hl : t.lead fs verb path with
  | nowhere =>
    left
    intro cache
    rw [follow, hl]
    rfl
  | slash =>
    right; left
    intro cache
    rw [follow, hl]
    rfl
  | file p =>
    right; right
    obtain ⟨start, dir, rest, hm, hrest, hb⟩ := mem_of_lead_eq_file hl
    refine ⟨start, dir, rest, p, hm, hrest, liesBelow_of_leadBehind hb, fun cache => ?_⟩
    rw [follow, hl]
    rfl

/-- Two file systems that agree below the directories give one answer. -/
theorem route_congr {fs fs' : FileSystem}
    (same : ∀ start dir, (verb, start, dir) ∈ t.directories → SameBelow fs fs' dir)
    (cache : FileCache) :
    t.route (σ := σ) fs' verb path cache = t.route fs verb path cache := by
  rw [route_eq_follow hs hf, route_eq_follow hs hf, lead_congr same]
  cases hl : t.lead fs verb path with
  | nowhere => rfl
  | slash => rfl
  | file p =>
    obtain ⟨start, dir, rest, hm, -, hb⟩ := mem_of_lead_eq_file hl
    have hp : fs'.find? p = fs.find? p :=
      (liesBelow_of_leadBehind hb).elim (same start dir hm p _) (same start dir hm p _)
    exact load_congr hp path cache

theorem Ordered.route_of_behind (ho : t.Ordered) {start rest : String} {dir : FilePath}
    (h : t.Behind verb path start dir rest) (fs : FileSystem) (cache : FileCache) :
    t.route (σ := σ) fs verb path cache = (leadBehind fs path dir rest).follow fs path cache := by
  rw [route_eq_follow hs hf, ho.lead_of_behind h]

end Answers

/-- **A directory is not left.** At a path without an entry of its own the table has nothing, or
sends the path to itself with a slash, or reads one file. The file lies below a directory whose
prefix the path has: behind the directory there are the names in the rest of the path, and at most
the index. What lies elsewhere has no say in it.

Behind the longest prefix, a rest that begins with a slash or with a point, or goes up anywhere,
leads to nothing, and any other rest to what has its names in the directory. -/
theorem route_below_directories {routes : List StaticRoute} {verb : Verb} {path : String}
    (hs : (ofRoutes routes).statuses.lookup (verb, path) = none)
    (hf : (ofRoutes routes).files.lookup (verb, path) = none) (fs : FileSystem) :
    ((∀ cache, (ofRoutes routes).route (σ := σ) fs verb path cache = (.nothing, cache)) ∨
      (∀ cache, (ofRoutes routes).route (σ := σ) fs verb path cache = (.redirect path, cache)) ∨
      ∃ start dir rest p, (verb, start, dir) ∈ (ofRoutes routes).directories ∧
        path = start ++ rest ∧
        (LiesBelow dir p (FileSystem.names ⟨rest⟩) ∨
          LiesBelow dir p (FileSystem.names ⟨rest⟩ ++ ["index.html"])) ∧
        ∀ cache, (ofRoutes routes).route (σ := σ) fs verb path cache = load fs path p cache) ∧
    (∀ fs', (∀ start dir, (verb, start, dir) ∈ (ofRoutes routes).directories →
        SameBelow fs fs' dir) →
      ∀ cache, (ofRoutes routes).route (σ := σ) fs' verb path cache =
        (ofRoutes routes).route fs verb path cache) ∧
    ∀ start dir rest, (ofRoutes routes).Behind verb path start dir rest → ∀ cache,
      (FilePath.Escapes rest →
        (ofRoutes routes).route (σ := σ) fs verb path cache = (.nothing, cache)) ∧
      (¬ FilePath.Escapes rest → fs.isDirectory (dir.join rest) = false →
        (ofRoutes routes).route (σ := σ) fs verb path cache =
          load fs path (dir.join rest) cache) := by
  refine ⟨route_cases hs hf fs, fun fs' same => route_congr hs hf same, ?_⟩
  intro start dir rest h cache
  rw [(ordered_ofRoutes routes).route_of_behind hs hf h]
  constructor
  · intro escapes
    rw [leadBehind_of_escapes escapes]
    rfl
  · intro stays hd
    rw [leadBehind_of_not_escapes stays, hd]
    rfl

/-- The rest behind `/assets/` begins with a slash, and so the path leads to nothing, although
behind the shorter prefix `/` it names a file. -/
theorem route_below_directories_absolute :
    (ofRoutes [⟨.get, "/assets", .directory ⟨"public"⟩⟩, ⟨.get, "/", .directory ⟨"site"⟩⟩]).route
        (σ := Unit) { files := [(["site", "assets", "key"], default)], directories := [["site"],
          ["site", "assets"]] } .get "/assets//key" (.ofCapacity 1) = (.nothing, .ofCapacity 1) := by
  have mem : ∀ start dir, (Verb.get, start, dir) ∈ (ofRoutes
      [⟨.get, "/assets", .directory ⟨"public"⟩⟩, ⟨.get, "/", .directory ⟨"site"⟩⟩]).directories ↔
        start = "/assets/" ∧ dir = ⟨"public"⟩ ∨ start = "/" ∧ dir = ⟨"site"⟩ := by
    have assets : directoryPrefix "/assets" = "/assets/" := by decide
    have root : directoryPrefix "/" = "/" := by decide
    intro start dir
    simp [ofRoutes, add, assets, root, List.mem_mergeSort]
  have behind : (ofRoutes [⟨.get, "/assets", .directory ⟨"public"⟩⟩,
      ⟨.get, "/", .directory ⟨"site"⟩⟩]).Behind .get "/assets//key" "/assets/" ⟨"public"⟩ "/key" := by
    refine ⟨(mem _ _).2 (.inl ⟨rfl, rfl⟩), by decide, fun start' dir' rest' hm _ => ?_,
      fun start' dir' hm => ?_⟩
    · obtain ⟨rfl, -⟩ | ⟨rfl, -⟩ := (mem start' dir').1 hm <;> decide
    · obtain ⟨rfl, -⟩ | ⟨rfl, -⟩ := (mem start' dir').1 hm <;> decide
  have escapes : FilePath.Escapes "/key" := .inl (by decide)
  exact ((route_below_directories (by decide) (by decide) _).2.2 _ _ _ behind _).1 escapes

end Switchboard.StaticTable
