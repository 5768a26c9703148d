import Switchboard.Proofs.Dictionary
import Switchboard.Proofs.List.Keyed
import Switchboard.Proofs.Text.Split
import Switchboard.Route.Tree

/-!
# Search for a route

The tree of patterns answers as a search over a flat list of patterns does. The search reads a path
segment by segment and keeps of the patterns in play those that go on with this segment, or, if
there are none, those that go on with the wildcard; it never goes back on a choice.

`RouteNode.Represents` is the invariant: a node reaches exactly the beginnings of its patterns and
ends exactly the patterns. An insert adds a pattern to it (`Represents.insert`), a branch represents
what goes on with its key (`Represents.branch`), and so the walk down the tree is the search
(`Represents.find?_eq`).
-/

namespace Switchboard

variable {α : Type}

/-! ## The search over a list of patterns -/

namespace RouteSearch

/-- What patterns have left behind this key: those that do not go on with it drop out. -/
def following (key : String) (routes : List (List String × α)) : List (List String × α) :=
  routes.filterMap fun (keys, a) =>
    match keys with
    | [] => none
    | k :: rest => if k = key then some (rest, a) else none

/-- The patterns that stay in play at a segment. -/
def keep (segment : String) (routes : List (List String × α)) : List (List String × α) :=
  if (following segment routes).isEmpty then following wildcard routes
  else following segment routes

/-- The action of the pattern that a path leads to. -/
def search? : List (List String × α) → List String → Option α
  | routes, [] => routes.lookup []
  | routes, segment :: rest =>
    if (keep segment routes).isEmpty then none else search? (keep segment routes) rest

theorem mem_following {key : String} {routes : List (List String × α)} {keys : List String} {a : α} :
    (keys, a) ∈ following key routes ↔ (key :: keys, a) ∈ routes := by
  unfold following
  rw [List.mem_filterMap]
  constructor
  · rintro ⟨⟨all, b⟩, hm, he⟩
    cases all with
    | nil => cases he
    | cons k rest =>
      by_cases hk : k = key
      · simp only [hk, ↓reduceIte, Option.some.injEq, Prod.mk.injEq] at he
        obtain ⟨rfl, rfl⟩ := he
        rwa [← hk]
      · simp [hk] at he
  · intro hm
    exact ⟨(key :: keys, a), hm, by simp⟩

theorem exists_prefix_following {key : String} {routes : List (List String × α)}
    {keys : List String} :
    (∃ r ∈ following key routes, keys <+: r.1) ↔ ∃ r ∈ routes, key :: keys <+: r.1 := by
  constructor
  · rintro ⟨⟨rest, a⟩, hm, hp⟩
    exact ⟨_, mem_following.1 hm, List.cons_prefix_cons.2 ⟨rfl, hp⟩⟩
  · rintro ⟨⟨all, a⟩, hm, hp⟩
    cases all with
    | nil => exact absurd (List.prefix_nil.1 hp) (List.cons_ne_nil _ _)
    | cons k rest =>
      obtain ⟨rfl, hrest⟩ := List.cons_prefix_cons.1 hp
      exact ⟨(rest, a), mem_following.2 hm, hrest⟩

/-- The patterns of a verb by their keys, in the order of their routes. -/
def patternsOf (verb : Verb) (routes : List (Verb × String × α)) : List (List String × α) :=
  routes.filterMap fun (v, pattern, a) => if v = verb then some (patternKeys pattern, a) else none

theorem patternsOf_append (verb other : Verb) (pattern : String) (a : α)
    (routes : List (Verb × String × α)) :
    patternsOf verb (routes ++ [(other, pattern, a)]) =
      patternsOf verb routes ++ if other = verb then [(patternKeys pattern, a)] else [] := by
  unfold patternsOf
  rw [List.filterMap_append]
  by_cases h : other = verb <;> simp [h]

end RouteSearch

open RouteSearch

/-! ## What a node represents -/

namespace RouteNode

/-- What ends where some keys lead, taking each as it stands; none if they lead nowhere. -/
def reach? : RouteNode α → List String → Option (Option (String × α))
  | n, [] => some n.terminal
  | n, key :: rest =>
    match n.branch? key with
    | some below => below.reach? rest
    | none => none

theorem reach?_nil (n : RouteNode α) : n.reach? [] = some n.terminal := rfl

theorem reach?_cons (n : RouteNode α) (key : String) (rest : List String) :
    n.reach? (key :: rest) = (n.branch? key).bind fun below => below.reach? rest := by
  rw [reach?]
  cases n.branch? key <;> rfl

theorem reach?_empty (keys : List String) :
    (empty : RouteNode α).reach? keys = if keys = [] then some none else none := by
  cases keys with
  | nil => rfl
  | cons key rest => rfl

theorem branch?_node_put (t : Option (String × α)) (n below : RouteNode α) (key other : String) :
    (node t (Dictionary.put key below n.branches)).branch? other =
      if other = key then some below else n.branch? other :=
  Dictionary.get?_put n.branches key other below

/-- **An insert changes one entry**: the keys end the pattern, what leads to them is reached, and all
else stays as it was. -/
theorem reach?_of_insert? {n m : RouteNode α} {pattern : String} {a : α} {keys : List String}
    (h : n.insert? pattern a keys = some m) (at_ : List String) :
    m.reach? at_ =
      if at_ = keys then some (some (pattern, a))
      else if at_ <+: keys then some ((n.reach? at_).getD none)
      else n.reach? at_ := by
  induction keys generalizing n m at_ with
  | nil =>
    rw [insert?] at h
    cases ht : n.terminal with
    | some e => rw [ht] at h; cases h
    | none =>
      rw [ht] at h
      cases h
      cases at_ with
      | nil => rfl
      | cons k rest => simp only [reduceCtorEq, ↓reduceIte, List.prefix_nil]; rfl
  | cons key rest ih =>
    rw [insert?] at h
    obtain ⟨below, hbelow, rfl⟩ := Option.map_eq_some_iff.1 h
    cases at_ with
    | nil => simp [reach?_nil, terminal]
    | cons k more =>
      rw [reach?_cons, reach?_cons, branch?_node_put]
      by_cases hk : k = key
      · subst hk
        rw [if_pos rfl, Option.bind_some, ih hbelow]
        simp only [List.cons.injEq, true_and, List.cons_prefix_cons]
        cases hb : n.branch? k with
        | some old => rfl
        | none =>
          -- below a new branch only what leads to the keys is reached
          by_cases hp : more <+: rest
          · by_cases hm : more = [] <;> simp [hp, hm, reach?_empty]
          · have hm : more ≠ [] := fun e => hp (e ▸ List.nil_prefix)
            simp [hp, hm, reach?_empty]
      · rw [if_neg hk]
        simp [hk]

/-- An insert fails just where a pattern ends already. -/
theorem isSome_insert?_iff (n : RouteNode α) (pattern : String) (a : α) (keys : List String) :
    (n.insert? pattern a keys).isSome ↔ ∀ e, n.reach? keys ≠ some (some e) := by
  induction keys generalizing n with
  | nil =>
    rw [insert?, reach?_nil]
    cases n.terminal <;> simp
  | cons key rest ih =>
    rw [insert?, Option.isSome_map, ih, reach?_cons]
    cases hb : n.branch? key with
    | some below => rfl
    | none =>
      rw [Option.getD_none, Option.bind_none, reach?_empty]
      split <;> simp

/-- A node reaches the beginnings of some patterns and no other keys, and ends them and no others. -/
structure Represents (n : RouteNode α) (routes : List (List String × α)) : Prop where
  reached : ∀ keys, (n.reach? keys).isSome ↔ keys = [] ∨ ∃ r ∈ routes, keys <+: r.1
  ends : ∀ keys a, (∃ pattern, n.reach? keys = some (some (pattern, a))) ↔ (keys, a) ∈ routes

namespace Represents

variable {n : RouteNode α} {routes : List (List String × α)}

theorem empty : Represents (empty : RouteNode α) [] := by
  refine ⟨fun keys => ?_, fun keys a => ?_⟩ <;> rw [reach?_empty] <;> split <;> simp_all

/-- The order of the patterns does not matter. -/
theorem perm (h : Represents n routes) {other : List (List String × α)} (hp : other.Perm routes) :
    Represents n other := by
  refine ⟨fun keys => ?_, fun keys a => ?_⟩
  · rw [h.reached]
    simp only [hp.mem_iff]
  · rw [h.ends, hp.mem_iff]

theorem insert (h : Represents n routes) {m : RouteNode α} {pattern : String} {a : α}
    {keys : List String} (hm : n.insert? pattern a keys = some m) :
    Represents m (routes ++ [(keys, a)]) := by
  have free := (isSome_insert?_iff n pattern a keys).1 (by rw [hm]; rfl)
  refine ⟨fun at_ => ?_, fun at_ b => ?_⟩
  · rw [reach?_of_insert? hm]
    have hr := h.reached at_
    split
    · simp_all
    · split
      · simp_all
      · rw [hr]
        simp_all
  · rw [reach?_of_insert? hm, List.mem_append, List.mem_singleton, ← h.ends]
    split
    · rename_i he
      subst he
      constructor
      · rintro ⟨p, hp⟩
        cases hp
        exact Or.inr rfl
      · rintro (⟨p, hp⟩ | he)
        · exact absurd hp (free (p, b))
        · cases he
          exact ⟨pattern, rfl⟩
    · rename_i hne
      have other : (at_, b) ≠ (keys, a) := fun he => hne (Prod.mk.inj he).1
      rw [or_iff_left other]
      split
      · cases n.reach? at_ with
        | none => simp
        | some e => rfl
      · rfl

/-- A branch represents what goes on with its key. -/
theorem branch (h : Represents n routes) {key : String} {below : RouteNode α}
    (hb : n.branch? key = some below) : Represents below (following key routes) := by
  have down (keys : List String) : below.reach? keys = n.reach? (key :: keys) := by
    rw [reach?_cons, hb, Option.bind_some]
  refine ⟨fun keys => ?_, fun keys a => ?_⟩
  · cases keys with
    | nil => simp [reach?_nil]
    | cons k rest =>
      rw [down, h.reached, or_iff_right (List.cons_ne_nil _ _), or_iff_right (List.cons_ne_nil _ _)]
      exact exists_prefix_following.symm
  · rw [down, h.ends, mem_following]

/-- There is a branch just where a pattern goes on. -/
theorem isSome_branch? (h : Represents n routes) (key : String) :
    (n.branch? key).isSome ↔ following key routes ≠ [] := by
  have hr := h.reached [key]
  have one : (n.reach? [key]).isSome = (n.branch? key).isSome := by
    rw [reach?_cons]
    cases n.branch? key <;> rfl
  rw [one, or_iff_right (List.cons_ne_nil _ _), ← exists_prefix_following] at hr
  rw [hr]
  constructor
  · rintro ⟨r, hm, -⟩
    exact List.ne_nil_of_mem hm
  · intro hne
    obtain ⟨r, hm⟩ := List.exists_mem_of_ne_nil _ hne
    exact ⟨r, hm, List.nil_prefix⟩

/-- What ends at a node is the pattern with no key left. -/
theorem terminal_eq (h : Represents n routes) : n.terminal.map (·.2) = routes.lookup [] := by
  have ends (a : α) := h.ends [] a
  simp only [reach?_nil, Option.some.injEq] at ends
  cases hl : routes.lookup [] with
  | none =>
    cases ht : n.terminal with
    | none => rfl
    | some e =>
      have hm := (ends e.2).1 ⟨e.1, ht⟩
      have hne := List.lookup_eq_none_iff.1 hl _ hm
      simp at hne
  | some a =>
    obtain ⟨before, after, rfl, -⟩ := List.lookup_eq_some_iff.1 hl
    obtain ⟨p, hp⟩ := (ends a).2 (by simp)
    rw [hp]
    rfl

/-- **The walk down the tree is the search.** -/
theorem find?_eq (h : Represents n routes) (segments : List String) :
    ((n.descend? segments).bind terminal).map (·.2) = search? routes segments := by
  induction segments generalizing n routes with
  | nil => exact h.terminal_eq
  | cons segment rest ih =>
    rw [descend?, search?]
    have own := h.isSome_branch? segment
    have wild := h.isSome_branch? wildcard
    unfold keep
    cases hs : n.branch? segment with
    | some below =>
      -- some pattern goes on with the segment, so those with a wildcard are out of play for good
      rw [hs] at own
      have hne := own.1 rfl
      simp only [Option.some_or, List.isEmpty_iff, hne, ↓reduceIte]
      exact ih (h.branch hs)
    | none =>
      rw [hs] at own
      have he : following segment routes = [] := by simpa using own
      simp only [Option.none_or, List.isEmpty_iff, he, ↓reduceIte]
      cases hw : n.branch? wildcard with
      | some below =>
        rw [hw] at wild
        rw [if_neg (wild.1 rfl)]
        exact ih (h.branch hw)
      | none =>
        rw [hw] at wild
        have he : following wildcard routes = [] := by simpa using wild
        rw [if_pos he]
        rfl

end Represents

end RouteNode

/-! ## The segments of a path -/

/-- A slash stands between segments. -/
theorem segments_slash (before after : String) :
    Text.segments '/' (before ++ "/" ++ after) =
      Text.segments '/' before ++ Text.segments '/' after := by
  have parts := Text.splitOn_append '/' before after
  unfold Text.segments
  rw [← List.filter_append, ← parts]
  rfl

theorem segments_empty : Text.segments '/' "" = [] := by decide

/-! ## A run of inserts -/

namespace RouteTree

/-- Adds routes one after the other. -/
def insertAll (t : RouteTree α) (routes : List (Verb × String × α)) :
    Except DuplicateRoute (RouteTree α) :=
  routes.foldlM (fun t (verb, pattern, a) => t.insert verb pattern a) t

/-- The tree of some routes. -/
def ofRoutes (routes : List (Verb × String × α)) : Except DuplicateRoute (RouteTree α) :=
  insertAll {} routes

/-- Where a route stands: no two may stand in one place. -/
def place (route : Verb × String × α) : Verb × List String := (route.1, patternKeys route.2.1)

/-- The root of a verb, empty if it has no route. -/
def rootOf (t : RouteTree α) (verb : Verb) : RouteNode α := (t.root? verb).getD .empty

theorem root?_setRoot (t : RouteTree α) (verb other : Verb) (n : RouteNode α) :
    (t.setRoot verb n).root? other = if other = verb then some n else t.root? other := by
  unfold root? setRoot
  rw [List.lookup_cons]
  by_cases h : other = verb
  · simp [h]
  · rw [beq_false_of_ne h, if_neg h]
    have kept := lookup_filter_key (fun v => decide (v ≠ verb)) other t.roots
    rwa [if_pos (by simpa using h)] at kept

theorem rootOf_setRoot (t : RouteTree α) (verb other : Verb) (n : RouteNode α) :
    (t.setRoot verb n).rootOf other = if other = verb then n else t.rootOf other := by
  unfold rootOf
  rw [root?_setRoot]
  split <;> rfl

theorem find?_eq_descend? (t : RouteTree α) (verb : Verb) (path : String) :
    t.find? verb path =
      (((t.rootOf verb).descend? (Text.segments '/' path)).bind RouteNode.terminal).map (·.2) := by
  unfold find? rootOf
  cases t.root? verb with
  | none =>
    cases Text.segments '/' path <;> rfl
  | some root =>
    simp only [Option.bind_eq_bind, Option.bind_some, Option.getD_some]
    cases root.descend? (Text.segments '/' path) with
    | none => rfl
    | some n =>
      rw [Option.bind_some, Option.bind_some]
      cases n.terminal <;> rfl

/-- The tree that holds some routes: the root of each verb represents the patterns of that verb. -/
def Holds (t : RouteTree α) (routes : List (Verb × String × α)) : Prop :=
  ∀ verb, (t.rootOf verb).Represents (patternsOf verb routes)

variable {t t' : RouteTree α} {routes rest : List (Verb × String × α)}

theorem holds_empty : Holds ({} : RouteTree α) [] := fun _ => .empty

theorem Holds.perm (h : Holds t routes) {other : List (Verb × String × α)}
    (hp : other.Perm routes) : Holds t other :=
  fun verb => (h verb).perm (hp.filterMap _)

theorem Holds.find?_eq (h : Holds t routes) (verb : Verb) (path : String) :
    t.find? verb path = search? (patternsOf verb routes) (Text.segments '/' path) := by
  rw [find?_eq_descend?, (h verb).find?_eq]

/-- The step: an insert that succeeds adds its route. -/
theorem Holds.insert (h : Holds t routes) {verb : Verb} {pattern : String} {a : α}
    (ht : t.insert verb pattern a = .ok t') : Holds t' (routes ++ [(verb, pattern, a)]) := by
  unfold RouteTree.insert at ht
  split at ht
  · rename_i n hn
    cases ht
    intro other
    rw [rootOf_setRoot, patternsOf_append]
    split
    · rename_i he
      subst he
      rw [if_pos rfl]
      exact (h other).insert hn
    · rename_i he
      rw [if_neg (Ne.symm he), List.append_nil]
      exact h other
  · cases ht

/-- An insert succeeds just where no route stands yet. -/
theorem Holds.insert_ok_iff (h : Holds t routes) (verb : Verb) (pattern : String) (a : α) :
    (∃ t', t.insert verb pattern a = .ok t') ↔
      place (verb, pattern, a) ∉ routes.map place := by
  have ends := (h verb).ends (patternKeys pattern)
  have hs := RouteNode.isSome_insert?_iff (t.rootOf verb) pattern a (patternKeys pattern)
  have taken : place (verb, pattern, a) ∈ routes.map place ↔
      ∃ b, (patternKeys pattern, b) ∈ patternsOf verb routes := by
    simp only [List.mem_map, patternsOf, List.mem_filterMap, place]
    constructor
    · rintro ⟨⟨v, p, b⟩, hm, he⟩
      obtain ⟨rfl, hk⟩ := Prod.mk.inj he
      exact ⟨b, _, hm, by simpa using hk⟩
    · rintro ⟨b, ⟨v, p, c⟩, hm, he⟩
      by_cases hv : v = verb
      · simp only [hv, ↓reduceIte, Option.some.injEq, Prod.mk.injEq] at he
        exact ⟨_, hm, by simp [hv, he.1]⟩
      · simp [hv] at he
  rw [taken]
  have ok : (∃ t', t.insert verb pattern a = .ok t') ↔
      ((t.rootOf verb).insert? pattern a (patternKeys pattern)).isSome := by
    unfold RouteTree.insert
    rw [← rootOf]
    cases (t.rootOf verb).insert? pattern a (patternKeys pattern) <;> simp
  rw [ok, hs]
  constructor
  · rintro free ⟨b, hb⟩
    obtain ⟨p, hp⟩ := (ends b).2 hb
    exact free _ hp
  · rintro none ⟨p, b⟩ he
    exact none ⟨b, (ends b).1 ⟨p, he⟩⟩

theorem insertAll_cons (t : RouteTree α) (verb : Verb) (pattern : String) (a : α)
    (rest : List (Verb × String × α)) :
    t.insertAll ((verb, pattern, a) :: rest) =
      t.insert verb pattern a >>= fun t' => t'.insertAll rest := by
  unfold insertAll
  rw [List.foldlM_cons]

/-- The run: a tree that took more routes holds them all, each in a place of its own. -/
theorem Holds.insertAll (h : Holds t routes) (hn : (routes.map place).Nodup)
    (ht : t.insertAll rest = .ok t') :
    Holds t' (routes ++ rest) ∧ ((routes ++ rest).map place).Nodup := by
  induction rest generalizing t routes with
  | nil =>
    cases ht
    rw [List.append_nil]
    exact ⟨h, hn⟩
  | cons route rest ih =>
    obtain ⟨verb, pattern, a⟩ := route
    rw [insertAll_cons] at ht
    cases hi : t.insert verb pattern a with
    | error e => rw [hi] at ht; cases ht
    | ok next =>
      rw [hi] at ht
      have free := (h.insert_ok_iff verb pattern a).1 ⟨next, hi⟩
      have hn' : ((routes ++ [(verb, pattern, a)]).map place).Nodup := by
        rw [List.map_append]
        exact List.nodup_append.2 ⟨hn, List.nodup_singleton _, by
          rintro p hp q hq rfl
          rw [List.map_singleton, List.mem_singleton] at hq
          exact free (hq ▸ hp)⟩
      simpa using ih (h.insert hi) hn' ht

/-- Routes that each have a place of their own can be added, in any order. -/
theorem Holds.exists_insertAll (h : Holds t routes) (rest : List (Verb × String × α))
    (hn : ((routes ++ rest).map place).Nodup) :
    ∃ t', t.insertAll rest = .ok t' := by
  induction rest generalizing t routes with
  | nil => exact ⟨t, rfl⟩
  | cons route rest ih =>
    obtain ⟨verb, pattern, a⟩ := route
    rw [List.map_append, List.map_cons] at hn
    have free := (List.nodup_middle.1 hn).notMem
    obtain ⟨next, hi⟩ := (h.insert_ok_iff verb pattern a).2
      fun hm => free (List.mem_append_left _ hm)
    rw [insertAll_cons, hi]
    exact ih (h.insert hi) (by simpa using hn)

/-- **The tree answers as the search does**: whichever routes were added, in whichever order, and
however many slashes the path has between, before and after its segments. -/
theorem find?_eq_search? {tree : RouteTree α} (h : ofRoutes routes = .ok tree) :
    (∀ verb path, tree.find? verb path =
      search? (patternsOf verb routes) (Text.segments '/' path)) ∧
    (∀ other : List (Verb × String × α), other.Perm routes →
      ∃ tree', ofRoutes other = .ok tree' ∧
        ∀ verb path, tree'.find? verb path = tree.find? verb path) ∧
    (∀ verb path, tree.find? verb ("/" ++ path) = tree.find? verb path ∧
      tree.find? verb (path ++ "/") = tree.find? verb path ∧
      ∀ rest, tree.find? verb (path ++ "//" ++ rest) = tree.find? verb (path ++ "/" ++ rest)) := by
  obtain ⟨holds, distinct⟩ := holds_empty.insertAll List.nodup_nil h
  rw [List.nil_append] at holds distinct
  refine ⟨holds.find?_eq, fun other hp => ?_, fun verb path => ?_⟩
  · have hn : (other.map place).Nodup := (hp.map place).nodup_iff.2 distinct
    obtain ⟨tree', ht⟩ := holds_empty.exists_insertAll other hn
    have holds' := (holds_empty.insertAll List.nodup_nil ht).1.perm hp.symm
    refine ⟨tree', ht, fun verb path => ?_⟩
    rw [holds'.find?_eq, holds.find?_eq]
  · have lead := segments_slash "" path
    have trail := segments_slash path ""
    rw [String.empty_append, segments_empty, List.nil_append] at lead
    rw [String.append_empty, segments_empty, List.append_nil] at trail
    refine ⟨?_, ?_, fun rest => ?_⟩
    · rw [holds.find?_eq, holds.find?_eq, lead]
    · rw [holds.find?_eq, holds.find?_eq, trail]
    · have double : path ++ "//" ++ rest = (path ++ "/") ++ "/" ++ rest := by
        simp [String.append_assoc]
      rw [holds.find?_eq, holds.find?_eq, double, segments_slash, trail, segments_slash]

/-- A literal segment that leads to a dead end is not taken back, although the other route fits. -/
theorem find?_eq_search?_dead_end :
    ∃ tree, ofRoutes [(Verb.get, "/files/{name}/raw", 1), (Verb.get, "/files/latest/log", 2)] =
        .ok tree ∧
      tree.find? .get "/files/report/raw" = some 1 ∧
      tree.find? .get "/files/latest/raw" = none := by
  obtain ⟨tree, h⟩ := holds_empty.exists_insertAll
    [(Verb.get, "/files/{name}/raw", 1), (Verb.get, "/files/latest/log", 2)] (by decide)
  have search := (find?_eq_search? h).1
  refine ⟨tree, h, ?_, ?_⟩
  · rw [search]
    decide
  · rw [search]
    decide

end RouteTree

end Switchboard
