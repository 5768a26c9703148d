import Switchboard.Proofs.Route.Attempts

/-!
# What a route that is found has to do with the path

A path leads to a route only if it has as many segments as the pattern, and a segment of the pattern
is in braces or is the segment of the path at its place (`PatternFits`). There is one exception. The
key of the segments in braces is a text like any other, so a pattern that has the segment `*` is
found at paths that have something else there.

`RouteNode.exists_reach?_of_descend?` reads off a walk the keys that it took, and
`Took.ends` says that they are those of the pattern at its end.
-/

namespace Switchboard

variable {α : Type}

/-- A segment of a pattern fits a segment of a path: it is in braces, or it is the same text. -/
def SegmentFits (own segment : String) : Prop := (placeholder? own).isSome ∨ own = segment

/-- The segments of a pattern fit those of a path, one by one. -/
def PatternFits (pattern path : String) : Prop :=
  List.Forall₂ SegmentFits (Text.segments '/' pattern) (Text.segments '/' path)

/-- The same, but a segment `*` of the pattern fits everything. -/
def PatternFitsFreely (pattern path : String) : Prop :=
  List.Forall₂ (fun own segment => own = wildcard ∨ SegmentFits own segment)
    (Text.segments '/' pattern) (Text.segments '/' path)

/-- A pattern without the segment `*` fits nothing freely. -/
theorem PatternFitsFreely.strictly {pattern path : String} (h : PatternFitsFreely pattern path)
    (plain : wildcard ∉ Text.segments '/' pattern) : PatternFits pattern path := by
  have both := (List.forall₂_and_left _ _).2 ⟨fun own hm (same : own = wildcard) =>
    plain (same ▸ hm), h⟩
  exact both.imp fun _ _ fits => fits.2.resolve_left fits.1

theorem placeholder?_wildcard : placeholder? wildcard = none := by decide

/-- No key is in braces. -/
theorem placeholder?_segmentKey (own : String) : placeholder? (segmentKey own) = none := by
  unfold segmentKey
  split
  · exact placeholder?_wildcard
  · rename_i h
    exact Option.not_isSome_iff_eq_none.1 h

namespace RouteNode

variable {n m : RouteNode α}

/-- The keys that a walk takes are the segments of its path or the wildcard. -/
theorem exists_reach?_of_descend? {segments : List String} (h : n.descend? segments = some m) :
    ∃ keys, n.reach? keys = some m.terminal ∧
      List.Forall₂ (fun key segment => key = segment ∨ key = wildcard) keys segments := by
  induction segments generalizing n with
  | nil =>
    cases h
    exact ⟨[], rfl, .nil⟩
  | cons segment rest ih =>
    rw [descend?] at h
    have step {key : String} {below : RouteNode α} (hb : n.branch? key = some below)
        (taken : key = segment ∨ key = wildcard) (hd : below.descend? rest = some m) :
        ∃ keys, n.reach? keys = some m.terminal ∧
          List.Forall₂ (fun key segment => key = segment ∨ key = wildcard) keys
            (segment :: rest) := by
      obtain ⟨keys, reached, fit⟩ := ih hd
      refine ⟨key :: keys, ?_, .cons taken fit⟩
      rw [reach?_cons, hb, Option.bind_some, reached]
    cases hs : n.branch? segment with
    | some below =>
      rw [hs, Option.some_or] at h
      exact step hs (Or.inl rfl) h
    | none =>
      rw [hs, Option.none_or] at h
      cases hw : n.branch? wildcard with
      | some below =>
        rw [hw] at h
        exact step hw (Or.inr rfl) h
      | none =>
        rw [hw] at h
        cases h

/-- A pattern that ends somewhere is found at its own text, if no key is in braces. -/
theorem descend?_of_reach? (plain : ∀ keys, (n.reach? keys).isSome → ∀ key ∈ keys,
      placeholder? key = none) {segments : List String} {e : String × α}
    (h : n.reach? (segments.map segmentKey) = some (some e)) :
    (n.descend? segments).bind terminal = some e := by
  induction segments generalizing n with
  | nil =>
    rw [List.map_nil, reach?_nil, Option.some.injEq] at h
    exact h
  | cons own rest ih =>
    rw [List.map_cons, reach?_cons] at h
    obtain ⟨below, hb, h⟩ := Option.bind_eq_some_iff.1 h
    have down : ∀ keys, (below.reach? keys).isSome → ∀ key ∈ keys, placeholder? key = none := by
      intro keys reached key hk
      refine plain (segmentKey own :: keys) ?_ key (List.mem_cons_of_mem _ hk)
      rw [reach?_cons, hb, Option.bind_some, reached]
    have next : (n.branch? own).or (n.branch? wildcard) = some below := by
      unfold segmentKey at hb
      split at hb
      · rename_i braces
        -- below a text in braces there is nothing, since it would have to be a key
        have none : n.branch? own = none := by
          by_contra some
          have reached : (n.reach? [own]).isSome := by
            rw [reach?_cons]
            obtain ⟨other, ho⟩ := Option.ne_none_iff_exists'.1 some
            rw [ho]
            rfl
          rw [plain [own] reached own (List.mem_singleton_self _)] at braces
          cases braces
        rw [none, Option.none_or, hb]
      · rw [hb, Option.some_or]
    rw [descend?, next]
    exact ih down h

end RouteNode

namespace RouteTree

/-- The pattern that a path leads to, with its action. -/
def route? (t : RouteTree α) (verb : Verb) (path : String) : Option (String × α) :=
  ((t.rootOf verb).descend? (Text.segments '/' path)).bind RouteNode.terminal

theorem find?_eq_route? (t : RouteTree α) (verb : Verb) (path : String) :
    t.find? verb path = (t.route? verb path).map (·.2) := find?_eq_descend? t verb path

namespace Took

variable {t : RouteTree α} {taken : List (Verb × String × α)} {verb : Verb} {pattern path : String}
  {a : α}

theorem mem_of_reach? (h : Took t taken) {keys : List String}
    (reached : (t.rootOf verb).reach? keys = some (some (pattern, a))) :
    (verb, pattern, a) ∈ taken :=
  mem_routesOf.1 ((h.lists verb).mem_iff.1 (RouteNode.mem_patterns_of_reach? reached))

theorem of_route? (h : Took t taken) (found : t.route? verb path = some (pattern, a)) :
    (verb, pattern, a) ∈ taken ∧ PatternFitsFreely pattern path := by
  unfold route? at found
  obtain ⟨n, walk, ending⟩ := Option.bind_eq_some_iff.1 found
  obtain ⟨keys, reached, fit⟩ := RouteNode.exists_reach?_of_descend? walk
  rw [ending] at reached
  refine ⟨h.mem_of_reach? reached, ?_⟩
  rw [← h.ends verb keys (pattern, a) reached, patternKeys, List.forall₂_map_left_iff] at fit
  refine fit.imp fun own segment => ?_
  unfold segmentKey SegmentFits
  split
  · rename_i braces
    exact fun _ => Or.inr (Or.inl braces)
  · rintro (same | same)
    · exact Or.inr (Or.inr same)
    · exact Or.inl same

theorem route?_of_mem (h : Took t taken) (hm : (verb, pattern, a) ∈ taken) :
    t.route? verb pattern = some (pattern, a) := by
  have keyed : (patternKeys pattern, a) ∈ RouteSearch.patternsOf verb taken :=
    List.mem_filterMap.2 ⟨(verb, pattern, a), hm, if_pos rfl⟩
  obtain ⟨other, reached⟩ := ((h.holds verb).ends (patternKeys pattern) a).2 keyed
  have same : place (verb, other, a) = place (verb, pattern, a) :=
    Prod.ext rfl (h.ends verb _ _ reached)
  have one := List.inj_on_of_nodup_map h.distinct (h.mem_of_reach? reached) hm same
  obtain rfl : other = pattern := (Prod.mk.inj (Prod.mk.inj one).2).1
  refine RouteNode.descend?_of_reach? (fun keys hr key hk => ?_) reached
  rcases ((h.holds verb).reached keys).1 hr with rfl | ⟨r, hr, hp⟩
  · exact absurd hk List.not_mem_nil
  · obtain ⟨⟨v, p, b⟩, -, he⟩ := List.mem_filterMap.1 hr
    obtain ⟨-, he⟩ := Option.ite_none_right_eq_some.1 he
    cases he
    obtain ⟨own, -, rfl⟩ := List.mem_map.1 (hp.subset hk)
    exact placeholder?_segmentKey own

end Took

/-- **What is found fits.** The action at a path is that of a route taken for the verb. The pattern
has as many segments as the path, and each of its segments is in braces, or is the segment of the
path at its place, or is `*`; so a pattern without the segment `*` fits the path. And each route is
found, at the text of its pattern if nowhere else. -/
theorem found_pattern_fits (routes : List (Verb × String × α)) :
    let tree := (attempts routes).1
    let taken := (attempts routes).2
    (∀ verb path a, tree.find? verb path = some a ↔
      ∃ pattern, tree.route? verb path = some (pattern, a)) ∧
    (∀ verb path pattern a, tree.route? verb path = some (pattern, a) →
      (verb, pattern, a) ∈ taken ∧ PatternFitsFreely pattern path ∧
        (wildcard ∉ Text.segments '/' pattern → PatternFits pattern path)) ∧
    ∀ verb pattern a, (verb, pattern, a) ∈ taken →
      tree.route? verb pattern = some (pattern, a) := by
  obtain ⟨took, -⟩ := took_attempts routes
  refine ⟨fun verb path a => ?_, fun verb path pattern a found => ?_, fun verb pattern a hm =>
    took.route?_of_mem hm⟩
  · rw [find?_eq_route?]
    simp
  · obtain ⟨hm, freely⟩ := took.of_route? found
    exact ⟨hm, freely, freely.strictly⟩

/-- Routes with a segment in braces and with a literal beside it. -/
def fileRoutes : List (Verb × String × Nat) :=
  [(.get, "/files/{name}/raw", 1), (.get, "/files/latest", 2)]

/-- The route that is found for a file fits the path segment by segment. -/
theorem found_pattern_fits_raw :
    (attempts fileRoutes).1.find? .get "/files//report/raw/" = some 1 ∧
      (attempts fileRoutes).1.route? .get "/files//report/raw/" = some ("/files/{name}/raw", 1) ∧
      PatternFits "/files/{name}/raw" "/files//report/raw/" := by
  obtain ⟨finds, fits, -⟩ := found_pattern_fits fileRoutes
  have found : (attempts fileRoutes).1.route? .get "/files//report/raw/" =
      some ("/files/{name}/raw", 1) := by decide
  exact ⟨(finds _ _ _).2 ⟨_, found⟩, found, (fits _ _ _ _ found).2.2 (by decide)⟩

/-- Not every route that is found fits: a literal `*` is found in place of any text. -/
theorem not_forall_found_fits :
    ¬ ∀ (routes : List (Verb × String × Nat)) (verb : Verb) (path pattern : String) (a : Nat),
      (verb, pattern, a) ∈ (attempts routes).2 →
      (∀ other, (verb, other, a) ∈ (attempts routes).2 → other = pattern) →
      (attempts routes).1.find? verb path = some a → PatternFits pattern path := by
  intro h
  have taken : (attempts [(Verb.get, "/files/*", 1)]).2 = [(.get, "/files/*", 1)] := by decide
  have fits := h [(.get, "/files/*", 1)] .get "/files/report" "/files/*" 1
    (by rw [taken]; exact List.mem_singleton_self _)
    (by rw [taken]; intro other hm; cases List.mem_singleton.1 hm; rfl) (by decide)
  have parts : Text.segments '/' "/files/*" = ["files", "*"] ∧
      Text.segments '/' "/files/report" = ["files", "report"] := by decide
  unfold PatternFits at fits
  rw [parts.1, parts.2] at fits
  cases fits with
  | cons _ rest =>
    cases rest with
    | cons last _ => rcases last with braces | same <;> contradiction

end RouteTree

end Switchboard
