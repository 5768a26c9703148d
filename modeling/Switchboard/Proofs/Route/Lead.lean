import Switchboard.Proofs.Text.Split
import Switchboard.Route.StaticTable

/-!
# Where a static path leads

A table of static routes decides where a path below its directories leads (`Lead`) before it reads a
file, and then reads at most the one file it decided on (`StaticTable.route_eq_follow`).

The prefixes of the directories are kept in descending order (`StaticTable.Ordered`), so the first
that fits a path is the longest one, and what it says is final (`Ordered.lead_eq`).
-/

namespace Switchboard

/-- Where a path leads, before any file is read. -/
inductive Lead where
  | nowhere
  | slash
  | file (p : FilePath)

/-- The action of a path that leads somewhere. -/
def Lead.follow {σ : Type} (fs : FileSystem) (path : String) (cache : FileCache) :
    Lead → Action σ × FileCache
  | nowhere => (.nothing, cache)
  | slash => (.redirect path, cache)
  | file p => StaticTable.load fs path p cache

namespace StaticTable
variable {σ : Type}

/-- Where a path leads by a directory and what follows the directory's prefix. -/
def leadBehind (fs : FileSystem) (path : String) (dir : FilePath) (rest : String) : Lead :=
  if !(FilePath.mk rest).isPlain then .nowhere
  else if fs.isDirectory (dir.join rest) then
    if Text.endsWith "/" path then .file ((dir.join rest).join "index.html") else .slash
  else .file (dir.join rest)

/-- Where a path leads by one directory's route; none if the route does not lead there. -/
def leadBelow? (fs : FileSystem) (path start : String) (dir : FilePath) : Option Lead :=
  if path = Text.trimEndOf '/' start then some .slash
  else (Text.after? start path).map (leadBehind fs path dir)

/-- Where a path leads by the routes of the directories. -/
def lead (t : StaticTable) (fs : FileSystem) (verb : Verb) (path : String) : Lead :=
  ((t.directories.filter (·.1 == verb)).findSome? fun (_, start, dir) =>
    leadBelow? fs path start dir).getD .nowhere

/-- What is below a prefix is found by where it leads. -/
theorem loadBelow?_eq (fs : FileSystem) (path start : String) (dir : FilePath) (cache : FileCache) :
    loadBelow? (σ := σ) fs path start dir cache =
      (leadBelow? fs path start dir).map fun l => l.follow fs path cache := by
  unfold loadBelow? leadBelow? leadBehind
  split
  · rfl
  · rw [Option.map_map]
    refine congrArg (Option.map · _) (funext fun rest => ?_)
    dsimp only [Function.comp_apply]
    split
    · rfl
    · split
      · split <;> rfl
      · rfl

theorem route_of_status {t : StaticTable} {verb : Verb} {path : String} {code : Status}
    (hs : t.statuses.lookup (verb, path) = some code) (fs : FileSystem) (cache : FileCache) :
    t.route (σ := σ) fs verb path cache = (.status path code, cache) := by
  unfold route
  rw [hs]

theorem route_of_file {t : StaticTable} {verb : Verb} {path : String} {file : FilePath}
    (hs : t.statuses.lookup (verb, path) = none) (hf : t.files.lookup (verb, path) = some file)
    (fs : FileSystem) (cache : FileCache) :
    t.route (σ := σ) fs verb path cache = load fs path file cache := by
  unfold route
  rw [hs, hf]

/-- A path with no entry of its own is answered by where the directories lead. -/
theorem route_eq_follow {t : StaticTable} {verb : Verb} {path : String}
    (hs : t.statuses.lookup (verb, path) = none) (hf : t.files.lookup (verb, path) = none)
    (fs : FileSystem) (cache : FileCache) :
    t.route (σ := σ) fs verb path cache = (t.lead fs verb path).follow fs path cache := by
  unfold route lead
  rw [hs, hf]
  dsimp only
  generalize t.directories.filter (·.1 == verb) = below
  induction below with
  | nil => rfl
  | cons e below ih =>
    obtain ⟨v, start, dir⟩ := e
    rw [List.findSome?_cons, List.findSome?_cons, loadBelow?_eq]
    cases leadBelow? fs path start dir with
    | none => exact ih
    | some l => rfl

theorem mem_filter_verb {t : StaticTable} {verb : Verb} {e : Verb × String × FilePath} :
    e ∈ t.directories.filter (·.1 == verb) ↔
      ∃ start dir, e = (verb, start, dir) ∧ (verb, start, dir) ∈ t.directories := by
  rw [List.mem_filter, beq_iff_eq]
  constructor
  · rintro ⟨hm, rfl⟩
    exact ⟨e.2.1, e.2.2, rfl, hm⟩
  · rintro ⟨start, dir, rfl, hm⟩
    exact ⟨hm, rfl⟩

/-- A path leads nowhere, or where one of the directories says. -/
theorem lead_cases (t : StaticTable) (fs : FileSystem) (verb : Verb) (path : String) :
    t.lead fs verb path = .nowhere ∨ ∃ start dir, (verb, start, dir) ∈ t.directories ∧
      leadBelow? fs path start dir = some (t.lead fs verb path) := by
  unfold lead
  cases hf : (t.directories.filter (·.1 == verb)).findSome? fun (_, start, dir) =>
      leadBelow? fs path start dir with
  | none => exact .inl rfl
  | some l =>
    obtain ⟨e, hm, hl⟩ := List.exists_of_findSome?_eq_some hf
    obtain ⟨start, dir, rfl, he⟩ := mem_filter_verb.1 hm
    exact .inr ⟨start, dir, he, hl⟩

/-- A file is led to by some directory of the table. -/
theorem mem_of_lead_eq_file {t : StaticTable} {fs : FileSystem} {verb : Verb} {path : String}
    {p : FilePath} (h : t.lead fs verb path = .file p) :
    ∃ start dir rest, (verb, start, dir) ∈ t.directories ∧ path = start ++ rest ∧
      leadBehind fs path dir rest = .file p := by
  rcases t.lead_cases fs verb path with nowhere | ⟨start, dir, he, hl⟩
  · rw [h] at nowhere
    cases nowhere
  · rw [h] at hl
    unfold leadBelow? at hl
    split at hl
    · cases hl
    · obtain ⟨rest, hrest, hb⟩ := Option.map_eq_some_iff.1 hl
      exact ⟨start, dir, rest, he, Text.after?_eq_some.1 hrest, hb⟩

theorem endsWith_of_leadBehind_eq_slash {fs : FileSystem} {path rest : String} {dir : FilePath}
    (h : leadBehind fs path dir rest = .slash) : Text.endsWith "/" path = false := by
  unfold leadBehind at h
  split at h
  · cases h
  · split at h
    · split at h
      · cases h
      · next bare => exact Bool.eq_false_iff.2 bare
    · cases h

/-- Only a path with no slash at its end is sent to one. -/
theorem endsWith_of_lead_eq_slash {t : StaticTable} {fs : FileSystem} {verb : Verb} {path : String}
    (h : t.lead fs verb path = .slash) : Text.endsWith "/" path = false := by
  rcases t.lead_cases fs verb path with nowhere | ⟨start, dir, -, hl⟩
  · rw [h] at nowhere
    cases nowhere
  · rw [h] at hl
    unfold leadBelow? at hl
    split at hl
    · next bare =>
      rw [bare]
      exact Text.endsWith_trimEndOf '/' start
    · obtain ⟨rest, -, hb⟩ := Option.map_eq_some_iff.1 hl
      exact endsWith_of_leadBehind_eq_slash hb

/-! ## Tables that were built -/

/-- A table as adding leaves it: the prefixes end with a slash, each verb has a prefix once, and
longer ones go first. -/
structure Ordered (t : StaticTable) : Prop where
  prefixes : ∀ e ∈ t.directories, ∃ path, e.2.1 = directoryPrefix path
  distinct : t.directories.Pairwise fun a b => ¬ (a.1 = b.1 ∧ a.2.1 = b.2.1)
  descending : t.directories.Pairwise fun a b => b.2.1.utf8ByteSize ≤ a.2.1.utf8ByteSize

theorem ordered_empty : Ordered {} := ⟨fun _ hm => absurd hm List.not_mem_nil, .nil, .nil⟩

/-- One more route keeps the directories in order. -/
theorem Ordered.add {t : StaticTable} (h : t.Ordered) (route : StaticRoute) :
    (t.add route).Ordered := by
  unfold StaticTable.add
  cases route.target with
  | status code => exact ⟨h.prefixes, h.distinct, h.descending⟩
  | file path => exact ⟨h.prefixes, h.distinct, h.descending⟩
  | directory dir =>
    dsimp only
    constructor
    · intro e he
      rcases List.mem_append.1 (List.mem_mergeSort.1 he) with he | he
      · exact h.prefixes e (List.mem_of_mem_filter he)
      · rw [List.mem_singleton.1 he]
        exact ⟨route.path, rfl⟩
    · refine ((List.mergeSort_perm _ _).pairwise_iff fun {a b} hab hba => ?_).2 ?_
      · exact hab ⟨hba.1.symm, hba.2.symm⟩
      · rw [List.pairwise_append]
        refine ⟨h.distinct.filter _, List.pairwise_singleton _ _, fun a ha b hb => ?_⟩
        rw [List.mem_singleton.1 hb]
        rintro ⟨hv, hp⟩
        simp [hv, hp] at ha
    · refine (List.pairwise_mergeSort (fun a b c hab hbc => ?_) (fun a b => ?_) _).imp
        fun hle => of_decide_eq_true hle
      · exact decide_eq_true ((of_decide_eq_true hbc).trans (of_decide_eq_true hab))
      · rw [Bool.or_eq_true, decide_eq_true_eq, decide_eq_true_eq]
        exact Nat.le_total _ _

/-- The table of some routes, added one after the other. -/
def ofRoutes (routes : List StaticRoute) : StaticTable := routes.foldl add {}

theorem ofRoutes_concat (routes : List StaticRoute) (route : StaticRoute) :
    ofRoutes (routes ++ [route]) = (ofRoutes routes).add route := List.foldl_concat ..

/-- Tables that were built from routes are in order. -/
theorem ordered_ofRoutes (routes : List StaticRoute) : (ofRoutes routes).Ordered := by
  have run : ∀ {t : StaticTable}, t.Ordered → (routes.foldl StaticTable.add t).Ordered := by
    induction routes with
    | nil => exact fun h => h
    | cons route routes ih => exact fun h => ih (h.add route)
  exact run ordered_empty

/-! ## The longest prefix -/

/-- A prefix fits a path: the path is the prefix without its slash, or goes on behind it. -/
def Fits (path start : String) : Prop := start = path ++ "/" ∨ ∃ rest, path = start ++ rest

theorem Fits.exists_append {path start : String} (h : Fits path start) :
    ∃ tail, path ++ "/" = start ++ tail := by
  rcases h with rfl | ⟨rest, rfl⟩
  · exact ⟨"", String.append_empty.symm⟩
  · exact ⟨rest ++ "/", String.append_assoc⟩

/-- Two prefixes that fit one path are the same, if the one with more characters has no more
bytes. -/
theorem Fits.eq {path start start' : String} (h : Fits path start) (h' : Fits path start')
    (hl : start'.length ≤ start.length) (hb : start.utf8ByteSize ≤ start'.utf8ByteSize) :
    start' = start := by
  obtain ⟨tail, ht⟩ := h.exists_append
  obtain ⟨tail', ht'⟩ := h'.exists_append
  have hp : start.toList <+: (path ++ "/").toList := by
    rw [ht, String.toList_append]
    exact List.prefix_append _ _
  have hp' : start'.toList <+: (path ++ "/").toList := by
    rw [ht', String.toList_append]
    exact List.prefix_append _ _
  rw [← String.length_toList, ← String.length_toList] at hl
  obtain ⟨more, hm⟩ := List.prefix_of_prefix_length_le hp' hp hl
  have hstart : start = start' ++ String.ofList more := by
    rw [← String.toList_inj, String.toList_append, String.toList_ofList, hm]
  have hmore : String.ofList more = "" := by
    rw [hstart, String.utf8ByteSize_append] at hb
    exact String.utf8ByteSize_eq_zero_iff.1 (by omega)
  rw [hstart, hmore, String.append_empty]

theorem ne_trimEndOf {path start : String} (hs : ∃ q, start = directoryPrefix q)
    (h : start ≠ path ++ "/") : path ≠ Text.trimEndOf '/' start := by
  obtain ⟨q, rfl⟩ := hs
  rintro rfl
  exact h (congrArg (· ++ "/") (Text.trimEndOf_trimEndOf_append '/' q)).symm

/-- A prefix that does not fit is passed by. -/
theorem leadBelow?_of_not_fits {path start : String} (hs : ∃ q, start = directoryPrefix q)
    (h : ¬ Fits path start) (fs : FileSystem) (dir : FilePath) :
    leadBelow? fs path start dir = none := by
  have ha : Text.after? start path = none := by
    rw [← Option.not_isSome_iff_eq_none, Option.isSome_iff_exists]
    rintro ⟨rest, hrest⟩
    exact h (.inr ⟨rest, Text.after?_eq_some.1 hrest⟩)
  unfold leadBelow?
  rw [if_neg (ne_trimEndOf hs fun he => h (.inl he)), ha]
  rfl

theorem Ordered.lead_eq_nowhere {t : StaticTable} (ho : t.Ordered) {fs : FileSystem} {verb : Verb}
    {path : String}
    (none : ∀ start dir, (verb, start, dir) ∈ t.directories → ¬ Fits path start) :
    t.lead fs verb path = .nowhere := by
  rcases t.lead_cases fs verb path with nowhere | ⟨start, dir, hm, hl⟩
  · exact nowhere
  · rw [leadBelow?_of_not_fits (ho.prefixes _ hm) (none start dir hm)] at hl
    cases hl

/-- **The longest prefix decides**, whatever it leads to. -/
theorem Ordered.lead_eq {t : StaticTable} (ho : t.Ordered) {verb : Verb} {path start : String}
    {dir : FilePath} (hm : (verb, start, dir) ∈ t.directories) (hfit : Fits path start)
    (longest : ∀ start' dir', (verb, start', dir') ∈ t.directories → Fits path start' →
      start'.length ≤ start.length) {fs : FileSystem} {l : Lead}
    (hl : leadBelow? fs path start dir = some l) : t.lead fs verb path = l := by
  obtain ⟨before, after, hb⟩ := List.append_of_mem (mem_filter_verb.2 ⟨start, dir, rfl, hm⟩)
  have hd := ho.descending.filter (·.1 == verb)
  have hu := ho.distinct.filter (·.1 == verb)
  rw [hb, List.pairwise_append] at hd hu
  have earlier : ∀ e ∈ before, leadBelow? fs path e.2.1 e.2.2 = none := by
    intro e he
    have hfilter := hb ▸ List.mem_append_left _ he
    obtain ⟨start', dir', rfl, hm'⟩ := mem_filter_verb.1 hfilter
    refine leadBelow?_of_not_fits (ho.prefixes _ hm') (fun hfit' => ?_) fs dir'
    have hle := hd.2.2 _ he _ List.mem_cons_self
    have hsame := hfit.eq hfit' (longest start' dir' hm' hfit') hle
    exact hu.2.2 _ he _ List.mem_cons_self ⟨rfl, hsame⟩
  unfold lead
  rw [hb, List.findSome?_append, List.findSome?_eq_none_iff.2 earlier, Option.none_or,
    List.findSome?_cons]
  dsimp only
  rw [hl]
  rfl

/-- A path goes on behind a directory's prefix, the longest one that it has, and with a slash it is
no prefix itself. -/
structure Behind (t : StaticTable) (verb : Verb) (path start : String) (dir : FilePath)
    (rest : String) : Prop where
  mapped : (verb, start, dir) ∈ t.directories
  append : path = start ++ rest
  longest : ∀ start' dir' rest', (verb, start', dir') ∈ t.directories → path = start' ++ rest' →
    start'.length ≤ start.length
  slash : ∀ start' dir', (verb, start', dir') ∈ t.directories → path ++ "/" ≠ start'

/-- The longest prefix that fits decides, and no other is tried. -/
theorem Ordered.lead_of_behind {t : StaticTable} (ho : t.Ordered) {verb : Verb}
    {path start rest : String} {dir : FilePath} (h : t.Behind verb path start dir rest)
    (fs : FileSystem) : t.lead fs verb path = leadBehind fs path dir rest := by
  have hne := ne_trimEndOf (ho.prefixes _ h.mapped) (h.slash start dir h.mapped).symm
  have below : leadBelow? fs path start dir = some (leadBehind fs path dir rest) := by
    unfold leadBelow?
    rw [if_neg hne, Text.after?_eq_some.2 h.append, Option.map_some]
  refine ho.lead_eq h.mapped (.inr ⟨rest, h.append⟩) (fun start' dir' hm hfit => ?_) below
  rcases hfit with hs | ⟨rest', hr⟩
  · exact absurd hs.symm (h.slash start' dir' hm)
  · exact h.longest start' dir' rest' hm hr

/-- A prefix ends with one slash, so with another one it is no prefix. -/
theorem directoryPrefix_append_ne (path other : String) :
    directoryPrefix path ++ "/" ≠ directoryPrefix other := by
  intro h
  have inner : directoryPrefix path = Text.trimEndOf '/' other :=
    (String.append_left_inj "/").1 h
  have trimmed := congrArg (Text.trimEndOf '/') inner
  have fixed : Text.trimEndOf '/' (directoryPrefix path) = Text.trimEndOf '/' path :=
    Text.trimEndOf_trimEndOf_append '/' path
  rw [Text.trimEndOf_trimEndOf, ← inner, fixed] at trimmed
  have length := congrArg String.length trimmed
  unfold directoryPrefix at length
  rw [String.length_append] at length
  have one : String.length "/" = 1 := rfl
  omega

/-- A path that is itself a prefix leads to the directory of the prefix. -/
theorem Ordered.lead_self {t : StaticTable} (ho : t.Ordered) {verb : Verb} {path : String}
    {dir : FilePath} (hm : (verb, path, dir) ∈ t.directories) (fs : FileSystem) :
    t.lead fs verb path = leadBehind fs path dir "" := by
  refine ho.lead_of_behind ⟨hm, String.append_empty.symm, ?_, ?_⟩ fs
  · rintro start' dir' rest' - rfl
    rw [String.length_append]
    exact Nat.le_add_right _ _
  · intro start' dir' hm' h
    obtain ⟨q, rfl⟩ : ∃ q, path = directoryPrefix q := ho.prefixes _ hm
    obtain ⟨q', rfl⟩ : ∃ q', start' = directoryPrefix q' := ho.prefixes _ hm'
    exact directoryPrefix_append_ne q q' h

end StaticTable

end Switchboard
