import Switchboard.Proofs.Route.History

/-!
# Versions of a file that is served

Every file may change and go between any two lookups. The bytes of an answer and the time of their
last change are those of one version of the file: the one that there is, or the one that an earlier
lookup read and put into the cache, where it has been ever since (`StaticTable.HeldSince`). The
cache has never more entries than fit, and none of a large file
(`StaticTable.resource_of_one_version`).
-/

namespace Switchboard.StaticTable

variable {σ : Type}

/-- The cache that some visits leave, one after the other. -/
def cacheThrough (σ : Type) (t : StaticTable) (capacity : Nat) (visits : List Visit) : FileCache :=
  visits.foldl (fun cache v => (t.route (σ := σ) v.files v.verb v.path cache).2)
    (.ofCapacity capacity)

/-- The file that a visit opens. -/
def openedBy? (t : StaticTable) (v : Visit) : Option FilePath := t.opened? v.files v.verb v.path

/-- The version of a file that one of some visits read when the cache had none. The cache took it in
and has told it since then. -/
inductive HeldSince (σ : Type) (t : StaticTable) (capacity : Nat) (visits : List Visit)
    (key : List PathComponent) (f : StoredFile) : Prop
  | intro {earlier later : List Visit} {u : Visit} {q : FilePath}
      (split : visits = earlier ++ u :: later) (opens : t.openedBy? u = some q)
      (same : q.components = key) (miss : (t.cacheThrough σ capacity earlier).peek? key = none)
      (read : u.files.file? q = some f)
      (held : ∀ mid, mid <+: later →
        (t.cacheThrough σ capacity (earlier ++ u :: mid)).peek? key = some f)

variable {t : StaticTable} {capacity : Nat} {visits : List Visit} {v : Visit}
  {key : List PathComponent} {f : StoredFile}

theorem cacheThrough_concat (t : StaticTable) (capacity : Nat) (visits : List Visit) (v : Visit) :
    t.cacheThrough σ capacity (visits ++ [v]) =
      (t.route (σ := σ) v.files v.verb v.path (t.cacheThrough σ capacity visits)).2 := by
  unfold cacheThrough
  rw [List.foldl_concat]

/-! ## What the cache takes in -/

theorem size_route {cache : FileCache} (t : StaticTable) (fs : FileSystem) (verb : Verb)
    (path : String) (fits : cache.size ≤ cache.capacity) :
    (t.route (σ := σ) fs verb path cache).2.size ≤ cache.capacity := by
  generalize route : t.route (σ := σ) fs verb path cache = answer
  cases looked route with
  | unopened none unopened => exact fits
  | opened opens loaded =>
    cases loaded with
    | held hit => exact (Lru.size_touch_le _ _).trans fits
    | missing miss absent => exact fits
    | small miss read small => exact Lru.size_put_le _ _ _
    | large miss read large => exact fits

theorem capacity_cacheThrough (t : StaticTable) (capacity : Nat) (visits : List Visit) :
    (t.cacheThrough σ capacity visits).capacity = capacity := by
  induction visits using List.reverseRecOn with
  | nil => rfl
  | append_singleton visits v ih =>
    rw [cacheThrough_concat, capacity_route, ih]

/-- The cache has never more entries than fit. -/
theorem size_cacheThrough (t : StaticTable) (capacity : Nat) (visits : List Visit) :
    (t.cacheThrough σ capacity visits).size ≤ capacity := by
  induction visits using List.reverseRecOn with
  | nil => exact Nat.zero_le _
  | append_singleton visits v ih =>
    have room := capacity_cacheThrough (σ := σ) t capacity visits
    have fits := size_route (σ := σ) t v.files v.verb v.path (ih.trans_eq room.symm)
    rw [cacheThrough_concat]
    exact fits.trans_eq room

/-- No entry is of a large file. -/
theorem small_of_mem_cacheThrough {e : List PathComponent × StoredFile}
    (he : e ∈ (t.cacheThrough σ capacity visits).entries) :
    e.2.data.size ≤ FileCache.largest := by
  induction visits using List.reverseRecOn with
  | nil => exact absurd he List.not_mem_nil
  | append_singleton visits v ih =>
    rw [cacheThrough_concat] at he
    rcases mem_of_mem_route he with old | ⟨-, -, -, -, small⟩
    · exact ih old
    · exact small

/-! ## What the cache tells -/

/-- A version that the cache told before a visit, and still tells, is held through the visit. -/
theorem HeldSince.concat (h : HeldSince σ t capacity visits key f)
    (still : (t.cacheThrough σ capacity (visits ++ [v])).peek? key = some f) :
    HeldSince σ t capacity (visits ++ [v]) key f := by
  obtain @⟨earlier, later, u, q, rfl, opens, same, miss, read, held⟩ := h
  rw [List.append_assoc, List.cons_append] at still ⊢
  refine ⟨rfl, opens, same, miss, read, ?_⟩
  intro mid prefix_
  rcases List.prefix_concat_iff.1 prefix_ with rfl | inner
  · exact still
  · exact held mid inner

/-- A version that a visit reads and the cache then tells is held from then on. -/
theorem HeldSince.fresh {q : FilePath} (opens : t.openedBy? v = some q)
    (miss : (t.cacheThrough σ capacity visits).peek? q.components = none)
    (read : v.files.file? q = some f)
    (told : (t.cacheThrough σ capacity (visits ++ [v])).peek? q.components = some f) :
    HeldSince σ t capacity (visits ++ [v]) q.components f := by
  refine ⟨rfl, opens, rfl, miss, read, ?_⟩
  intro mid prefix_
  rw [List.prefix_nil.1 prefix_]
  exact told

/-- **What the cache tells has been held** since a visit that read it. -/
theorem heldSince_of_peek? (told : (t.cacheThrough σ capacity visits).peek? key = some f) :
    HeldSince σ t capacity visits key f := by
  induction visits using List.reverseRecOn generalizing key f with
  | nil => cases told
  | append_singleton visits v ih =>
    have now := told
    rw [cacheThrough_concat] at now
    generalize route : t.route (σ := σ) v.files v.verb v.path (t.cacheThrough σ capacity visits) =
      answer at now
    cases looked route with
    | unopened none unopened => exact (ih now).concat told
    | opened opens loaded =>
      cases loaded with
      | held hit =>
        rw [Lru.peek?_touch] at now
        exact (ih now).concat told
      | missing miss absent => exact (ih now).concat told
      | small miss read small =>
        rcases Lru.peek?_of_peek?_put now with ⟨rfl, rfl⟩ | ⟨-, before⟩
        · exact .fresh opens miss read told
        · exact (ih before).concat told
      | large miss read large => exact (ih now).concat told

/-! ## Answers -/

/-- **A file is served in one version.** Whatever the lookups before and however the files changed in
between, the cache has no more entries than fit and none of a large file. An answer with a file has
the bytes and the time of one version of it: of the one that there is, if the cache has none, or of
the one that the cache has held since an earlier lookup read it. -/
theorem resource_of_one_version (t : StaticTable) (capacity : Nat) (before : List Visit)
    (v : Visit) :
    (t.cacheThrough σ capacity before).size ≤ capacity ∧
    (∀ e ∈ (t.cacheThrough σ capacity before).entries, e.2.data.size ≤ FileCache.largest) ∧
    ∀ path contentType contents modified,
      (t.route (σ := σ) v.files v.verb v.path (t.cacheThrough σ capacity before)).1 =
        .resource path contentType contents modified →
      ∃ p f, t.openedBy? v = some p ∧ contents = f.data ∧ modified = f.modified ∧
        ((t.cacheThrough σ capacity before).peek? p.components = none ∧
            v.files.file? p = some f ∨
          HeldSince σ t capacity before p.components f) := by
  refine ⟨size_cacheThrough t capacity before, fun e he => small_of_mem_cacheThrough he, ?_⟩
  intro path contentType contents modified answered
  generalize route : t.route (σ := σ) v.files v.verb v.path (t.cacheThrough σ capacity before) =
    answer at answered
  cases looked route with
  | unopened none unopened =>
    cases unopened <;> cases answered
  | opened opens loaded =>
    cases loaded with
    | held hit =>
      cases answered
      exact ⟨_, _, opens, rfl, rfl, .inr (heldSince_of_peek? hit)⟩
    | missing miss absent => cases answered
    | small miss read small =>
      cases answered
      exact ⟨_, _, opens, rfl, rfl, .inl ⟨miss, read⟩⟩
    | large miss read large =>
      cases answered
      exact ⟨_, _, opens, rfl, rfl, .inl ⟨miss, read⟩⟩

/-- A version of the file on the shelf. -/
def edition (second : Nat) : StoredFile where
  data := ⟨#[UInt8.ofNat second]⟩
  modified := { seconds := second }

/-- A lookup of the file while there is some version of it. -/
def lookAt (second : Nat) : Visit where
  files := {
    files := [(["srv", "public", "a.txt"], edition second)]
    directories := [["srv"], ["srv", "public"]] }
  verb := .get
  path := "/shared/a.txt"

/-- The file was changed after the first lookup, and it is gone now, but its first version is
served. -/
theorem resource_of_one_version_shelf :
    (shelf.route (σ := Unit) {} .get "/shared/a.txt"
        (shelf.cacheThrough Unit 4 [lookAt 1, lookAt 2])).1 =
      .resource "/shared/a.txt" "text/plain" (edition 1).data (edition 1).modified ∧
    HeldSince Unit shelf 4 [lookAt 1, lookAt 2] (FilePath.components ⟨"/srv/public/a.txt"⟩)
      (edition 1) := by
  have answered : (shelf.route (σ := Unit) {} .get "/shared/a.txt"
      (shelf.cacheThrough Unit 4 [lookAt 1, lookAt 2])).1 =
    .resource "/shared/a.txt" "text/plain" (edition 1).data (edition 1).modified := by rfl
  obtain ⟨-, -, versions⟩ := resource_of_one_version (σ := Unit) shelf 4 [lookAt 1, lookAt 2]
    ⟨{}, .get, "/shared/a.txt"⟩
  obtain ⟨p, ⟨data, modified⟩, opens, rfl, rfl, source⟩ := versions _ _ _ _ answered
  have own : shelf.openedBy? ⟨{}, .get, "/shared/a.txt"⟩ = some ⟨"/srv/public/a.txt"⟩ := by rfl
  rw [own, Option.some.injEq] at opens
  subst opens
  rcases source with ⟨-, read⟩ | held
  · cases read
  · exact ⟨answered, held⟩

end Switchboard.StaticTable
