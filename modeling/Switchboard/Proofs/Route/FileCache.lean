import Switchboard.Proofs.Route.Lead
import Switchboard.Proofs.Store.FileSystem
import Switchboard.Proofs.Store.Lru

/-!
# Lookups one after the other through the file cache

A path opens one file or none, whatever the cache holds (`StaticTable.opened?`). The cache knows a
file by the components of its path, and every entry is of a file that an earlier lookup read
(`StaticTable.Keeps`). For a path that ends in a name its components settle the file, and so the
cache has no say in the answer. A slash behind the name is not in the components: read afresh, such
a path leads nowhere, but the cache serves it once the file has been read without the slash
(`StaticTable.route_after_reading`).
-/

namespace Switchboard.StaticTable

variable {σ : Type}

/-! ## The file that a path opens -/

/-- The file that a path opens, if it opens one. -/
def opened? (t : StaticTable) (fs : FileSystem) (verb : Verb) (path : String) : Option FilePath :=
  match t.statuses.lookup (verb, path), t.files.lookup (verb, path) with
  | some _, _ => none
  | none, some file => some file
  | none, none =>
    match t.lead fs verb path with
    | .file p => some p
    | _ => none

/-- What a path leads to in a table that keeps no file. -/
def uncached (t : StaticTable) (fs : FileSystem) (verb : Verb) (path : String) : Action σ :=
  (t.route fs verb path (.ofCapacity 0)).1

variable {t : StaticTable} {fs : FileSystem} {verb : Verb} {path : String} {p q : FilePath}
  {f : StoredFile}

/-- A path that opens a file is answered by loading it. -/
theorem route_of_opened? (h : t.opened? fs verb path = some p) (cache : FileCache) :
    t.route (σ := σ) fs verb path cache = load fs path p cache := by
  unfold opened? at h
  cases hs : t.statuses.lookup (verb, path) with
  | some code =>
    rw [hs] at h
    cases h
  | none =>
    cases hf : t.files.lookup (verb, path) with
    | some file =>
      rw [hs, hf] at h
      cases h
      exact route_of_file hs hf fs cache
    | none =>
      rw [hs, hf] at h
      rw [route_eq_follow hs hf]
      cases hl : t.lead fs verb path with
      | file p =>
        rw [hl] at h
        cases h
        rfl
      | _ =>
        rw [hl] at h
        cases h

/-- What a path that opens no file can be answered with. -/
inductive Unopened (path : String) : Action σ → Prop
  | status (code : Status) : Unopened path (.status path code)
  | nothing : Unopened path .nothing
  | redirect (bare : Text.endsWith "/" path = false) : Unopened path (.redirect path)

/-- A path that opens none is answered alike, whatever the cache has. -/
theorem exists_unopened (h : t.opened? fs verb path = none) :
    ∃ a : Action σ, Unopened path a ∧ ∀ cache, t.route fs verb path cache = (a, cache) := by
  unfold opened? at h
  cases hs : t.statuses.lookup (verb, path) with
  | some code => exact ⟨_, .status code, route_of_status hs fs⟩
  | none =>
    cases hf : t.files.lookup (verb, path) with
    | some file =>
      rw [hs, hf] at h
      cases h
    | none =>
      rw [hs, hf] at h
      cases hl : t.lead fs verb path with
      | nowhere =>
        refine ⟨_, .nothing, fun cache => ?_⟩
        rw [route_eq_follow hs hf, hl]
        rfl
      | slash =>
        refine ⟨_, .redirect (endsWith_of_lead_eq_slash hl), fun cache => ?_⟩
        rw [route_eq_follow hs hf, hl]
        rfl
      | file p =>
        rw [hl] at h
        cases h

theorem route_of_opened?_eq_none (h : t.opened? fs verb path = none) :
    ∃ a : Action σ, ∀ cache, t.route fs verb path cache = (a, cache) := by
  obtain ⟨a, -, same⟩ := exists_unopened h
  exact ⟨a, same⟩

theorem load_of_peek? {cache : FileCache} (h : cache.peek? p.components = some f) :
    load (σ := σ) fs path p cache = (fileAction path p f, cache.touch p.components) := by
  unfold load
  dsimp only
  rw [h]

theorem load_of_peek?_eq_none {cache : FileCache} (h : cache.peek? p.components = none) :
    load (σ := σ) fs path p cache =
      match fs.file? p with
      | none => (.nothing, cache)
      | some f =>
        (fileAction path p f,
          if f.data.size ≤ FileCache.largest then cache.put p.components f else cache) := by
  unfold load
  dsimp only
  rewrite [h]
  rfl

/-- What a lookup of a file can come to, with the cache that it leaves. -/
inductive Loaded (fs : FileSystem) (path : String) (p : FilePath) (cache : FileCache) :
    Action σ × FileCache → Prop
  | held {f : StoredFile} (hit : cache.peek? p.components = some f) :
      Loaded fs path p cache (fileAction path p f, cache.touch p.components)
  | missing (miss : cache.peek? p.components = none) (absent : fs.file? p = none) :
      Loaded fs path p cache (.nothing, cache)
  | small {f : StoredFile} (miss : cache.peek? p.components = none) (read : fs.file? p = some f)
      (small : f.data.size ≤ FileCache.largest) :
      Loaded fs path p cache (fileAction path p f, cache.put p.components f)
  | large {f : StoredFile} (miss : cache.peek? p.components = none) (read : fs.file? p = some f)
      (large : FileCache.largest < f.data.size) :
      Loaded fs path p cache (fileAction path p f, cache)

/-- A file is loaded in one of these ways. -/
theorem loaded (fs : FileSystem) (path : String) (p : FilePath) (cache : FileCache) :
    Loaded fs path p cache (load (σ := σ) fs path p cache) := by
  cases hit : cache.peek? p.components with
  | some f =>
    rw [load_of_peek? hit]
    exact .held hit
  | none =>
    rw [load_of_peek?_eq_none hit]
    cases read : fs.file? p with
    | none => exact .missing hit read
    | some f =>
      dsimp only
      split
      · next small => exact .small hit read small
      · next large => exact .large hit read (Nat.lt_of_not_le large)

/-- What a lookup of a path can come to, with the cache that it leaves. -/
inductive Looked (t : StaticTable) (fs : FileSystem) (verb : Verb) (path : String)
    (cache : FileCache) : Action σ × FileCache → Prop
  | unopened {a : Action σ} (none : t.opened? fs verb path = none) (unopened : Unopened path a) :
      Looked t fs verb path cache (a, cache)
  | opened {p : FilePath} {answer : Action σ × FileCache} (opens : t.opened? fs verb path = some p)
      (loaded : Loaded fs path p cache answer) : Looked t fs verb path cache answer

/-- A lookup goes in one of these ways. -/
theorem looked {cache : FileCache} {answer : Action σ × FileCache}
    (h : t.route fs verb path cache = answer) : Looked t fs verb path cache answer := by
  subst h
  cases ho : t.opened? fs verb path with
  | none =>
    obtain ⟨a, unopened, same⟩ := exists_unopened (σ := σ) ho
    rw [same]
    exact .unopened ho unopened
  | some p =>
    rw [route_of_opened? ho]
    exact .opened ho (loaded fs path p cache)

theorem uncached_of_opened? (h : t.opened? fs verb path = some p) :
    t.uncached (σ := σ) fs verb path =
      match fs.file? p with
      | none => .nothing
      | some f => fileAction path p f := by
  unfold uncached
  rw [route_of_opened? h, load_of_peek?_eq_none rfl]
  split <;> rfl

/-! ## What the cache holds -/

/-- The cache that some lookups leave, one after the other. -/
def cacheAfter (σ : Type) (t : StaticTable) (fs : FileSystem) (capacity : Nat)
    (lookups : List (Verb × String)) : FileCache :=
  lookups.foldl (fun cache l => (t.route (σ := σ) fs l.1 l.2 cache).2) (.ofCapacity capacity)

theorem cacheAfter_concat (t : StaticTable) (fs : FileSystem) (capacity : Nat)
    (before : List (Verb × String)) (verb : Verb) (path : String) :
    t.cacheAfter σ fs capacity (before ++ [(verb, path)]) =
      (t.route (σ := σ) fs verb path (t.cacheAfter σ fs capacity before)).2 := by
  unfold cacheAfter
  rw [List.foldl_concat]

/-- An entry is of a file that one of some lookups read, under the components of its path. -/
def Keeps (t : StaticTable) (fs : FileSystem) (lookups : List (Verb × String))
    (cache : FileCache) : Prop :=
  ∀ e ∈ cache.entries, ∃ l ∈ lookups, ∃ q, t.opened? fs l.1 l.2 = some q ∧
    q.components = e.1 ∧ fs.file? q = some e.2

/-- A lookup adds at most the file that it opens, and only if that is small. -/
theorem mem_of_mem_route {cache : FileCache} {e : List PathComponent × StoredFile}
    (h : e ∈ (t.route (σ := σ) fs verb path cache).2.entries) :
    e ∈ cache.entries ∨ ∃ p, t.opened? fs verb path = some p ∧ p.components = e.1 ∧
      fs.file? p = some e.2 ∧ e.2.data.size ≤ FileCache.largest := by
  generalize route : t.route (σ := σ) fs verb path cache = answer at h
  cases looked route with
  | unopened none unopened => exact .inl h
  | opened opens loaded =>
    cases loaded with
    | held hit => exact .inl (Lru.mem_of_mem_touch h)
    | missing miss absent => exact .inl h
    | small miss read small =>
      rcases Lru.mem_of_mem_put h with rfl | h
      · exact .inr ⟨_, opens, rfl, read, small⟩
      · exact .inl h
    | large miss read large => exact .inl h

/-- One more lookup keeps nothing but files that a lookup read. -/
theorem Keeps.route {lookups : List (Verb × String)} {cache : FileCache}
    (h : t.Keeps fs lookups cache) (verb : Verb) (path : String) :
    t.Keeps fs (lookups ++ [(verb, path)]) (t.route (σ := σ) fs verb path cache).2 := by
  intro e he
  rcases mem_of_mem_route he with old | ⟨p, ho, same, read, -⟩
  · obtain ⟨l, hl, read⟩ := h e old
    exact ⟨l, List.mem_append_left _ hl, read⟩
  · exact ⟨(verb, path), List.mem_append_right _ List.mem_cons_self, p, ho, same, read⟩

/-- After any lookups the cache has nothing but files that one of them read. -/
theorem keeps_cacheAfter (t : StaticTable) (fs : FileSystem) (capacity : Nat)
    (lookups : List (Verb × String)) :
    t.Keeps fs lookups (t.cacheAfter σ fs capacity lookups) := by
  induction lookups using List.reverseRecOn with
  | nil =>
    intro e he
    exact absurd he List.not_mem_nil
  | append_singleton before l ih =>
    rw [cacheAfter_concat]
    exact ih.route l.1 l.2

theorem capacity_route (cache : FileCache) (t : StaticTable) (fs : FileSystem) (verb : Verb)
    (path : String) : (t.route (σ := σ) fs verb path cache).2.capacity = cache.capacity := by
  generalize route : t.route (σ := σ) fs verb path cache = answer
  cases looked route with
  | unopened none unopened => rfl
  | opened opens loaded =>
    cases loaded with
    | held hit => exact Lru.capacity_touch _ _
    | missing miss absent => rfl
    | small miss read small => exact Lru.capacity_put _ _ _
    | large miss read large => rfl

theorem capacity_cacheAfter (t : StaticTable) (fs : FileSystem) (capacity : Nat)
    (lookups : List (Verb × String)) :
    (t.cacheAfter σ fs capacity lookups).capacity = capacity := by
  induction lookups using List.reverseRecOn with
  | nil => rfl
  | append_singleton before l ih =>
    rw [cacheAfter_concat, capacity_route]
    exact ih

/-! ## Answers -/

/-- Two spellings that end in a name lead to one file, if they have the same components. -/
theorem file?_congr (same : q.components = p.components) (hp : p.endsInName = true)
    (hq : fs.file? q = some f) : fs.file? p = some f := by
  rw [fs.file?_of_endsInName hp, ← same, ← fs.file?_of_endsInName (fs.endsInName_of_file? hq), hq]

/-- A path that ends in a name leads to the file that the cache has for it. -/
theorem Keeps.file?_of_peek? {lookups : List (Verb × String)} {cache : FileCache}
    (h : t.Keeps fs lookups cache) (hp : p.endsInName = true)
    (hit : cache.peek? p.components = some f) : fs.file? p = some f := by
  obtain ⟨l, -, q, -, same, hq⟩ := h _ (Lru.mem_of_peek? hit)
  exact file?_congr same hp hq

/-- Paths that end in a name are answered as without a cache. -/
theorem Keeps.route_eq_uncached {lookups : List (Verb × String)} {cache : FileCache}
    (h : t.Keeps fs lookups cache)
    (ends : ∀ p, t.opened? fs verb path = some p → p.endsInName = true) :
    (t.route (σ := σ) fs verb path cache).1 = t.uncached fs verb path := by
  cases ho : t.opened? fs verb path with
  | none =>
    obtain ⟨a, same⟩ := route_of_opened?_eq_none (σ := σ) ho
    unfold uncached
    rw [same, same]
  | some p =>
    rw [route_of_opened? ho, uncached_of_opened? ho]
    cases hit : cache.peek? p.components with
    | some f => rw [load_of_peek? hit, h.file?_of_peek? (ends p ho) hit]
    | none =>
      rw [load_of_peek?_eq_none hit]
      split <;> rfl

theorem Keeps.route_cases {lookups : List (Verb × String)} {cache : FileCache}
    (h : t.Keeps fs lookups cache) (ho : t.opened? fs verb path = some p)
    (slash : p.endsInName = false) :
    (t.route (σ := σ) fs verb path cache).1 = .nothing ∨
      ∃ l ∈ lookups, ∃ q f, t.opened? fs l.1 l.2 = some q ∧ q.components = p.components ∧
        fs.file? q = some f ∧ (t.route (σ := σ) fs verb path cache).1 = fileAction path p f := by
  rw [route_of_opened? ho]
  cases hit : cache.peek? p.components with
  | some f =>
    obtain ⟨l, hl, q, hq, same, read⟩ := h _ (Lru.mem_of_peek? hit)
    rw [load_of_peek? hit]
    exact .inr ⟨l, hl, q, f, hq, same, read, rfl⟩
  | none =>
    rw [load_of_peek?_eq_none hit, fs.file?_of_not_endsInName slash]
    exact .inl rfl

/-- Without a cache a slash behind the name of a file leads nowhere. -/
theorem uncached_of_slash (ho : t.opened? fs verb path = some p) (slash : p.endsInName = false) :
    t.uncached (σ := σ) fs verb path = .nothing := by
  rw [uncached_of_opened? ho, fs.file?_of_not_endsInName slash]

/-- A path with a slash behind the name of a file is answered with the file, once it was read. -/
theorem route_after_reading {capacity : Nat} (room : capacity ≠ 0) {verb' : Verb} {path' : String}
    (hq : t.opened? fs verb' path' = some q) (hp : t.opened? fs verb path = some p)
    (same : q.components = p.components) (read : fs.file? q = some f)
    (small : f.data.size ≤ FileCache.largest) (before : List (Verb × String)) :
    (t.route (σ := σ) fs verb path (t.cacheAfter σ fs capacity (before ++ [(verb', path')]))).1 =
      fileAction path p f := by
  have keeps := keeps_cacheAfter (σ := σ) t fs capacity before
  have held : (t.cacheAfter σ fs capacity (before ++ [(verb', path')])).peek? p.components =
      some f := by
    rw [cacheAfter_concat, route_of_opened? hq, ← same]
    cases hit : (t.cacheAfter σ fs capacity before).peek? q.components with
    | some g =>
      have hg := keeps.file?_of_peek? (fs.endsInName_of_file? read) hit
      rw [read, Option.some.injEq] at hg
      rw [load_of_peek? hit, hg]
      exact Lru.peek?_touch_self hit
    | none =>
      rw [load_of_peek?_eq_none hit, read]
      dsimp only
      rw [if_pos small]
      refine Lru.peek?_put_self ?_
      rw [capacity_cacheAfter]
      exact room
  rw [route_of_opened? hp, load_of_peek? held]

/-- **Which answers the file cache changes.** After any lookups, a path that opens no file, or one
that ends in a name, is answered as without a cache. A path that opens a file with a slash behind
its name leads to nothing without a cache, and to nothing but a file that one of the lookups read
under another spelling; if the last of them did, and the file is kept, then to that file. -/
theorem route_cacheAfter (t : StaticTable) (fs : FileSystem) (capacity : Nat)
    (before : List (Verb × String)) (verb : Verb) (path : String) :
    ((∀ p, t.opened? fs verb path = some p → p.endsInName = true) →
      (t.route (σ := σ) fs verb path (t.cacheAfter σ fs capacity before)).1 =
        t.uncached fs verb path) ∧
    ∀ p, t.opened? fs verb path = some p → p.endsInName = false →
      t.uncached (σ := σ) fs verb path = .nothing ∧
      ((t.route (σ := σ) fs verb path (t.cacheAfter σ fs capacity before)).1 = .nothing ∨
        ∃ l ∈ before, ∃ q f, t.opened? fs l.1 l.2 = some q ∧ q.components = p.components ∧
          fs.file? q = some f ∧
          (t.route (σ := σ) fs verb path (t.cacheAfter σ fs capacity before)).1 =
            fileAction path p f) ∧
      ∀ verb' path' q f, capacity ≠ 0 → t.opened? fs verb' path' = some q →
        q.components = p.components → fs.file? q = some f → f.data.size ≤ FileCache.largest →
        (t.route (σ := σ) fs verb path
          (t.cacheAfter σ fs capacity (before ++ [(verb', path')]))).1 = fileAction path p f := by
  have keeps := keeps_cacheAfter (σ := σ) t fs capacity before
  refine ⟨keeps.route_eq_uncached, fun p ho slash => ⟨uncached_of_slash ho slash,
    keeps.route_cases ho slash, ?_⟩⟩
  intro verb' path' q f room hq same read small
  exact route_after_reading room hq ho same read small before

/-- A table that has a directory under two prefixes, by a path from the current directory and by one
from the root. -/
def shelf : StaticTable where
  directories := [(.get, "/files/", ⟨"public"⟩), (.get, "/shared/", ⟨"/srv/public"⟩)]

/-- The directory with one file. -/
def shelved : FileSystem where
  here := ["srv"]
  files := [(["srv", "public", "a.txt"], { data := ⟨#[104, 105]⟩, modified := default })]
  directories := [["srv", "public"]]

/-- A second look at the file is answered as the first one, and with a slash behind it the file is
served where nothing is without a cache. -/
theorem route_cacheAfter_again :
    (∀ p, shelf.opened? shelved .get "/files/a.txt" = some p → p.endsInName = true) ∧
    (shelf.route (σ := Unit) shelved .get "/files/a.txt"
        (shelf.cacheAfter Unit shelved 4 [(.get, "/files/a.txt")])).1 =
      shelf.uncached shelved .get "/files/a.txt" ∧
    shelf.uncached (σ := Unit) shelved .get "/shared/a.txt/" = .nothing ∧
    ∃ f, (shelf.route (σ := Unit) shelved .get "/shared/a.txt/"
        (shelf.cacheAfter Unit shelved 4 [(.get, "/shared/a.txt")])).1 =
      fileAction "/shared/a.txt/" ⟨"/srv/public/a.txt/"⟩ f := by
  have opened : shelf.opened? shelved .get "/files/a.txt" = some ⟨"public/a.txt"⟩ := by rfl
  have first : shelf.opened? shelved .get "/shared/a.txt" = some ⟨"/srv/public/a.txt"⟩ := by rfl
  have second : shelf.opened? shelved .get "/shared/a.txt/" = some ⟨"/srv/public/a.txt/"⟩ := by rfl
  have ends : ∀ p, shelf.opened? shelved .get "/files/a.txt" = some p → p.endsInName = true := by
    intro p hp
    rw [opened, Option.some.injEq] at hp
    rw [← hp]
    decide
  have again := (route_cacheAfter (σ := Unit) shelf shelved 4 [(.get, "/files/a.txt")] .get
    "/files/a.txt").1 ends
  obtain ⟨alone, -, served⟩ := (route_cacheAfter (σ := Unit) shelf shelved 4 [] .get
    "/shared/a.txt/").2 _ second (by decide)
  exact ⟨ends, again, alone, _, served .get "/shared/a.txt" _ _ (by decide) first (by decide) rfl
    (by decide)⟩

/-- It is not so that no answer depends on the lookups before it: `/files/a.txt/` leads to nothing,
but after `/files/a.txt` to the file. -/
theorem not_forall_route_eq_uncached :
    ¬ ∀ (t : StaticTable) (fs : FileSystem) (capacity : Nat) (before : List (Verb × String))
      (verb : Verb) (path : String),
      (t.route (σ := Unit) fs verb path (t.cacheAfter Unit fs capacity before)).1 =
        t.uncached fs verb path := by
  intro h
  have served := h shelf shelved 4 ([] ++ [(.get, "/files/a.txt")]) .get "/files/a.txt/"
  have first : shelf.opened? shelved .get "/files/a.txt" = some ⟨"public/a.txt"⟩ := by rfl
  have second : shelf.opened? shelved .get "/files/a.txt/" = some ⟨"public/a.txt/"⟩ := by rfl
  have read : ∃ f, shelved.file? ⟨"public/a.txt"⟩ = some f ∧ f.data.size ≤ FileCache.largest :=
    ⟨_, rfl, by decide⟩
  obtain ⟨f, read, small⟩ := read
  rw [route_after_reading (by decide) first second (by decide) read small,
    uncached_of_slash second (by decide)] at served
  cases served

end Switchboard.StaticTable
