import Switchboard.Proofs.List.Firsts
import Switchboard.Proofs.List.Keyed
import Switchboard.Proofs.Route.Search

/-!
# Attempts to add routes

An insert goes down the keys of its pattern and makes nodes where there are none. Only at the end it
sees whether a pattern ends there already. `RouteTree.attempt` follows this and gives the tree as it
is left, also by an attempt that fails. Such an attempt has come down a way that was there before,
so it has made nothing (`RouteNode.grow_eq`).

`RouteTree.Took` ties a tree to the routes that it has taken, in the order of the attempts. Each
attempt keeps it (`Took.insert`, `Took.setRoot_rootOf`), so it holds after any sequence of them
(`took_attempts`), and the listing of a verb can be read off it.
-/

namespace Switchboard

variable {α : Type}

namespace RouteNode

/-! ## Order of the branches -/

/-- The branches of a node, and of all nodes below it, stand in the order of their keys. -/
inductive Tidy : RouteNode α → Prop where
  | node {terminal : Option (String × α)} {branches : List (String × RouteNode α)}
      (sorted : Dictionary.Sorted branches) (below : ∀ e ∈ branches, Tidy e.2) :
      Tidy (.node terminal branches)

theorem tidy_empty : (empty : RouteNode α).Tidy :=
  .node Dictionary.sorted_nil fun _ he => absurd he List.not_mem_nil

namespace Tidy

variable {n below : RouteNode α}

theorem sorted (h : n.Tidy) : Dictionary.Sorted n.branches := by
  cases h with
  | node sorted _ => exact sorted

theorem mem_branches (h : n.Tidy) {e : String × RouteNode α} (he : e ∈ n.branches) : e.2.Tidy := by
  cases h with
  | node _ below => exact below e he

/-- The node that a key leads to, a new one if it leads nowhere. -/
theorem getD_branch? (h : n.Tidy) (key : String) : ((n.branch? key).getD empty).Tidy := by
  cases hb : n.branch? key with
  | none => exact tidy_empty
  | some below => exact h.mem_branches (Dictionary.mem_of_get? hb)

theorem put (h : n.Tidy) (key : String) (hb : below.Tidy) :
    (RouteNode.node n.terminal (Dictionary.put key below n.branches)).Tidy := by
  refine .node (h.sorted.put key below) fun e he => ?_
  rcases Dictionary.mem_put he with rfl | he
  · exact hb
  · exact h.mem_branches he

theorem insert? (h : n.Tidy) {m : RouteNode α} {pattern : String} {a : α} {keys : List String}
    (hm : n.insert? pattern a keys = some m) : m.Tidy := by
  induction keys generalizing n m with
  | nil =>
    rw [RouteNode.insert?] at hm
    cases ht : n.terminal with
    | some e => rw [ht] at hm; cases hm
    | none =>
      rw [ht] at hm
      cases hm
      exact .node h.sorted fun e he => h.mem_branches he
  | cons key rest ih =>
    rw [RouteNode.insert?] at hm
    obtain ⟨below, hbelow, rfl⟩ := Option.map_eq_some_iff.1 hm
    exact h.put key (ih (h.getD_branch? key) hbelow)

end Tidy

/-! ## The patterns of a node -/

theorem patternsBelow_eq_flatMap (branches : List (String × RouteNode α)) :
    patternsBelow branches = branches.flatMap fun e => e.2.patterns := by
  induction branches with
  | nil => rfl
  | cons e rest ih =>
    obtain ⟨key, n⟩ := e
    rw [patternsBelow, ih, List.flatMap_cons]

theorem patterns_eq (n : RouteNode α) :
    n.patterns = n.terminal.toList ++ n.branches.flatMap fun e => e.2.patterns := by
  cases n with
  | node terminal branches => rw [patterns, patternsBelow_eq_flatMap]; rfl

theorem patterns_empty : (empty : RouteNode α).patterns = [] := by
  rw [patterns_eq]
  rfl

/-- The patterns of a node are its own, those of one branch, and those of the other branches. -/
theorem Tidy.patterns_perm {n : RouteNode α} (h : n.Tidy) (key : String) :
    n.patterns.Perm (n.terminal.toList ++ (((n.branch? key).getD empty).patterns ++
      (Dictionary.erase n.branches key).flatMap fun e => e.2.patterns)) := by
  rw [patterns_eq]
  refine .append_left _ ?_
  unfold branch?
  cases hb : Dictionary.get? n.branches key with
  | none =>
    rw [Dictionary.erase_of_get?_eq_none hb, Option.getD_none, patterns_empty, List.nil_append]
  | some below => exact (h.sorted.perm_cons_erase hb).flatMap_right _

/-- **An insert adds one pattern to the list**, as it is written and with its own action. -/
theorem Tidy.patterns_insert? {n m : RouteNode α} (h : n.Tidy) {pattern : String} {a : α}
    {keys : List String} (hm : n.insert? pattern a keys = some m) :
    m.patterns.Perm ((pattern, a) :: n.patterns) := by
  induction keys generalizing n m with
  | nil =>
    rw [RouteNode.insert?] at hm
    cases ht : n.terminal with
    | some e => rw [ht] at hm; cases hm
    | none =>
      rw [ht] at hm
      cases hm
      rw [patterns_eq, patterns_eq, ht]
      exact .refl _
  | cons key rest ih =>
    rw [RouteNode.insert?] at hm
    obtain ⟨below, hbelow, rfl⟩ := Option.map_eq_some_iff.1 hm
    have tidy := h.getD_branch? key
    have grown := (h.put key (tidy.insert? hbelow)).patterns_perm key
    rw [branch?_node_put, if_pos rfl, Option.getD_some] at grown
    have others : Dictionary.erase (Dictionary.put key below n.branches) key =
        Dictionary.erase n.branches key := Dictionary.erase_put ..
    rw [branches, others] at grown
    have old := (h.patterns_perm key).symm
    refine grown.trans ?_
    refine (List.Perm.append_left _ ((ih tidy hbelow).append_right _)).trans ?_
    exact List.perm_middle.trans (old.cons _)

/-- What ends anywhere in a node is among its patterns. -/
theorem mem_patterns_of_reach? {n : RouteNode α} {keys : List String} {e : String × α}
    (h : n.reach? keys = some (some e)) : e ∈ n.patterns := by
  induction keys generalizing n with
  | nil =>
    rw [reach?_nil, Option.some.injEq] at h
    rw [patterns_eq, h]
    exact List.mem_append_left _ (List.mem_singleton_self e)
  | cons key rest ih =>
    rw [reach?_cons] at h
    obtain ⟨below, hb, h⟩ := Option.bind_eq_some_iff.1 h
    rw [patterns_eq]
    refine List.mem_append_right _ (List.mem_flatMap.2 ?_)
    exact ⟨(key, below), Dictionary.mem_of_get? hb, ih h⟩

/-! ## An insert step by step -/

/-- Goes down some keys, makes a node where there is none, and puts a pattern where they lead unless
one ends there. Says whether it was put, and gives the node as it is left in either case. -/
def grow (n : RouteNode α) (pattern : String) (a : α) : List String → Bool × RouteNode α
  | [] =>
    match n.terminal with
    | some _ => (false, n)
    | none => (true, node (some (pattern, a)) n.branches)
  | key :: rest =>
    let below := ((n.branch? key).getD empty).grow pattern a rest
    (below.1, node n.terminal (Dictionary.put key below.2 n.branches))

/-- In a new node there is room for every pattern. -/
theorem insert?_empty_ne_none (pattern : String) (a : α) (keys : List String) :
    (empty : RouteNode α).insert? pattern a keys ≠ none := by
  rw [← Option.isSome_iff_ne_none, isSome_insert?_iff]
  intro e
  rw [reach?_empty]
  split <;> simp

/-- **What fails has made nothing**: to find a pattern at the end of its way an insert must have
come down nodes that were there. -/
theorem grow_eq {n : RouteNode α} (h : n.Tidy) (pattern : String) (a : α) (keys : List String) :
    n.grow pattern a keys =
      match n.insert? pattern a keys with
      | some m => (true, m)
      | none => (false, n) := by
  induction keys generalizing n with
  | nil =>
    rw [grow, RouteNode.insert?]
    cases n.terminal <;> rfl
  | cons key rest ih =>
    rw [grow, RouteNode.insert?, ih (h.getD_branch? key)]
    cases hi : ((n.branch? key).getD empty).insert? pattern a rest with
    | some m => rfl
    | none =>
      cases hb : n.branch? key with
      | none =>
        rw [hb, Option.getD_none] at hi
        exact absurd hi (insert?_empty_ne_none pattern a rest)
      | some below =>
        have same := h.sorted.put_of_get? hb
        simp only [Option.getD_some, Option.map_none, same]
        cases n
        rfl

/-- If each pattern ends where its keys lead, it does so behind an insert. -/
theorem patternKeys_of_insert? {n m : RouteNode α} {pattern : String} {a : α}
    (h : n.insert? pattern a (patternKeys pattern) = some m)
    (ends : ∀ keys e, n.reach? keys = some (some e) → patternKeys e.1 = keys)
    {keys : List String} {e : String × α} (he : m.reach? keys = some (some e)) :
    patternKeys e.1 = keys := by
  rw [reach?_of_insert? h] at he
  split at he
  · rename_i hk
    cases he
    exact hk.symm
  · refine ends keys e ?_
    split at he
    · cases hr : n.reach? keys with
      | none => rw [hr] at he; cases he
      | some found => rw [hr, Option.getD_some] at he; exact he
    · exact he

end RouteNode

namespace RouteTree

/-- Tries to add a route. The tree that is left is given as well. -/
def attempt (t : RouteTree α) (verb : Verb) (pattern : String) (a : α) :
    Except DuplicateRoute Unit × RouteTree α :=
  let grown := (t.rootOf verb).grow pattern a (patternKeys pattern)
  (if grown.1 then .ok () else .error ⟨verb, pattern⟩, t.setRoot verb grown.2)

/-- A tree behind some attempts, and the routes that it has taken. -/
def attempts (routes : List (Verb × String × α)) : RouteTree α × List (Verb × String × α) :=
  routes.foldl (fun (t, taken) (verb, pattern, a) =>
    match t.attempt verb pattern a with
    | (.ok _, t') => (t', taken ++ [(verb, pattern, a)])
    | (.error _, t') => (t', taken)) ({}, [])

/-- The routes of a verb as patterns with their actions. -/
def routesOf (verb : Verb) (routes : List (Verb × String × α)) : List (String × α) :=
  (routes.filter (·.1 = verb)).map (·.2)

theorem mem_routesOf {verb : Verb} {routes : List (Verb × String × α)} {e : String × α} :
    e ∈ routesOf verb routes ↔ (verb, e) ∈ routes := by
  simp [routesOf]

theorem routesOf_append (verb other : Verb) (e : String × α) (routes : List (Verb × String × α)) :
    routesOf verb (routes ++ [(other, e)]) =
      routesOf verb routes ++ if other = verb then [e] else [] := by
  unfold routesOf
  rw [List.filter_append, List.map_append]
  by_cases h : other = verb <;> simp [h]

/-- Routes in places of their own have patterns of their own, verb by verb. -/
theorem nodup_map_routesOf {routes : List (Verb × String × α)} (h : (routes.map place).Nodup)
    (verb : Verb) : ((routesOf verb routes).map Prod.fst).Nodup := by
  unfold routesOf
  rw [List.map_map, List.Nodup, List.pairwise_map]
  rw [List.Nodup, List.pairwise_map] at h
  refine (h.sublist List.filter_sublist).imp_of_mem fun {r r'} hr hr' apart same => apart ?_
  have hv : r.1 = verb := by simpa using (List.mem_filter.1 hr).2
  have hv' : r'.1 = verb := by simpa using (List.mem_filter.1 hr').2
  have hp : r.2.1 = r'.2.1 := same
  rw [place, place, hv, hv', hp]

/-! ## The tree behind some attempts -/

theorem insert_ok_iff_insert? {t t' : RouteTree α} {verb : Verb} {pattern : String} {a : α} :
    t.insert verb pattern a = .ok t' ↔
      ∃ n, (t.rootOf verb).insert? pattern a (patternKeys pattern) = some n ∧
        t' = t.setRoot verb n := by
  unfold RouteTree.insert rootOf
  cases ((t.root? verb).getD .empty).insert? pattern a (patternKeys pattern) <;> simp [eq_comm]

theorem patterns_eq_rootOf (t : RouteTree α) (verb : Verb) :
    t.patterns verb = Dictionary.ofPairs (t.rootOf verb).patterns := by
  unfold patterns rootOf
  cases t.root? verb with
  | some root => rfl
  | none => rw [Option.getD_none, RouteNode.patterns_empty]; rfl

theorem rootOf_setRoot_rootOf (t : RouteTree α) (verb other : Verb) :
    (t.setRoot verb (t.rootOf verb)).rootOf other = t.rootOf other := by
  rw [rootOf_setRoot]
  split
  · rename_i hv
    rw [hv]
  · rfl

/-- A tree that has taken some routes: it holds them, each in a place of its own, and below the root
of a verb there are the patterns of that verb and no others, each where its keys lead. -/
structure Took (t : RouteTree α) (taken : List (Verb × String × α)) : Prop where
  holds : Holds t taken
  distinct : (taken.map place).Nodup
  tidy : ∀ verb, (t.rootOf verb).Tidy
  lists : ∀ verb, (t.rootOf verb).patterns.Perm (routesOf verb taken)
  ends : ∀ verb keys e, (t.rootOf verb).reach? keys = some (some e) → patternKeys e.1 = keys
  rooted : ∀ verb, (t.root? verb).isSome ↔ ∃ route ∈ taken, route.1 = verb

theorem took_empty : Took ({} : RouteTree α) [] where
  holds := holds_empty
  distinct := List.nodup_nil
  tidy _ := RouteNode.tidy_empty
  lists _ := .refl _
  ends verb keys e h := by
    rw [show ({} : RouteTree α).rootOf verb = .empty from rfl, RouteNode.reach?_empty] at h
    split at h <;> cases h
  rooted verb := by simp [root?]

namespace Took

variable {t t' : RouteTree α} {taken : List (Verb × String × α)} {verb : Verb} {pattern : String}
  {a : α}

/-- The step of an attempt that succeeds. -/
theorem insert (h : Took t taken) (ht : t.insert verb pattern a = .ok t') :
    Took t' (taken ++ [(verb, pattern, a)]) := by
  have free := (h.holds.insert_ok_iff verb pattern a).1 ⟨t', ht⟩
  obtain ⟨n, hn, rfl⟩ := insert_ok_iff_insert?.1 ht
  constructor
  case holds => exact h.holds.insert ht
  case distinct =>
    rw [List.map_append, List.map_singleton, ← List.concat_eq_append, List.nodup_concat]
    exact ⟨free, h.distinct⟩
  case tidy =>
    intro other
    rw [rootOf_setRoot]
    split
    · exact (h.tidy verb).insert? hn
    · exact h.tidy other
  case lists =>
    intro other
    rw [rootOf_setRoot, routesOf_append]
    by_cases hv : other = verb
    · subst hv
      rw [if_pos rfl, if_pos rfl]
      refine ((h.tidy other).patterns_insert? hn).trans ?_
      exact ((h.lists other).cons _).trans (List.perm_append_singleton _ _).symm
    · rw [if_neg hv, if_neg (Ne.symm hv), List.append_nil]
      exact h.lists other
  case ends =>
    intro other keys e he
    rw [rootOf_setRoot] at he
    split at he
    · exact RouteNode.patternKeys_of_insert? hn (h.ends verb) he
    · exact h.ends other keys e he
  case rooted =>
    intro other
    rw [root?_setRoot]
    split
    · rename_i hv
      exact ⟨fun _ => ⟨_, List.mem_append_right _ (List.mem_singleton_self _), hv.symm⟩,
        fun _ => rfl⟩
    · rename_i hv
      rw [h.rooted]
      simp [Ne.symm hv]

/-- To put a root back in its place changes nothing, if the verb has routes. -/
theorem setRoot_rootOf (h : Took t taken) (has : ∃ route ∈ taken, route.1 = verb) :
    Took (t.setRoot verb (t.rootOf verb)) taken := by
  have root := rootOf_setRoot_rootOf t verb
  constructor
  case holds => exact fun other => by rw [root]; exact h.holds other
  case distinct => exact h.distinct
  case tidy => exact fun other => by rw [root]; exact h.tidy other
  case lists => exact fun other => by rw [root]; exact h.lists other
  case ends => exact fun other => by rw [root]; exact h.ends other
  case rooted =>
    intro other
    rw [root?_setRoot]
    split
    · rename_i hv
      rw [hv]
      exact ⟨fun _ => has, fun _ => rfl⟩
    · exact h.rooted other

/-- An attempt has the outcome of an insert. If it fails, the root of its verb is left as it was. -/
theorem attempt_eq (h : Took t taken) (verb : Verb) (pattern : String) (a : α) :
    t.attempt verb pattern a =
      match t.insert verb pattern a with
      | .ok t' => (.ok (), t')
      | .error e => (.error e, t.setRoot verb (t.rootOf verb)) := by
  unfold attempt RouteTree.insert
  rw [RouteNode.grow_eq (h.tidy verb), ← rootOf]
  cases (t.rootOf verb).insert? pattern a (patternKeys pattern) <;> rfl

/-- An insert fails just where a route stands already, and names the route that it was to add. -/
theorem insert_error_iff (h : Took t taken) {e : DuplicateRoute} :
    t.insert verb pattern a = .error e ↔ e = ⟨verb, pattern⟩ ∧
      ∃ earlier ∈ taken, earlier.1 = verb ∧ patternKeys earlier.2.1 = patternKeys pattern := by
  have there : place (verb, pattern, a) ∈ taken.map place ↔
      ∃ earlier ∈ taken, earlier.1 = verb ∧ patternKeys earlier.2.1 = patternKeys pattern := by
    simp [place]
  rw [← there]
  have ok := h.holds.insert_ok_iff verb pattern a
  cases hi : t.insert verb pattern a with
  | ok t' =>
    have free := ok.1 ⟨t', hi⟩
    refine ⟨fun failed => ?_, fun occupied => absurd occupied.2 free⟩
    cases failed
  | error e' =>
    have named : e' = ⟨verb, pattern⟩ := by
      unfold RouteTree.insert at hi
      split at hi
      · cases hi
      · cases hi
        rfl
    have taken : place (verb, pattern, a) ∈ taken.map place := by
      by_contra free
      obtain ⟨t', ht⟩ := ok.2 free
      rw [hi] at ht
      cases ht
    rw [Except.error.injEq, named, and_iff_left taken, eq_comm]

end Took

theorem attempts_concat (routes : List (Verb × String × α)) (verb : Verb) (pattern : String)
    (a : α) :
    attempts (routes ++ [(verb, pattern, a)]) =
      match (attempts routes).1.attempt verb pattern a with
      | (.ok _, t') => (t', (attempts routes).2 ++ [(verb, pattern, a)])
      | (.error _, t') => (t', (attempts routes).2) := List.foldl_concat ..

/-- The run: after any attempts the tree has taken the routes that were the first in their place. -/
theorem took_attempts (routes : List (Verb × String × α)) :
    Took (attempts routes).1 (attempts routes).2 ∧ (attempts routes).2 = firsts place routes := by
  induction routes using List.reverseRecOn with
  | nil => exact ⟨took_empty, rfl⟩
  | append_singleton routes route ih =>
    obtain ⟨verb, pattern, a⟩ := route
    obtain ⟨took, first⟩ := ih
    rw [attempts_concat, took.attempt_eq, firsts_concat, ← first]
    unfold addNew
    cases hi : (attempts routes).1.insert verb pattern a with
    | ok t' =>
      have free := (took.holds.insert_ok_iff verb pattern a).1 ⟨t', hi⟩
      rw [← List.contains_iff_mem] at free
      rw [if_neg free]
      exact ⟨took.insert hi, rfl⟩
    | error e =>
      obtain ⟨-, earlier, hm, hv, hk⟩ := took.insert_error_iff.1 hi
      have there : place (verb, pattern, a) ∈ (attempts routes).2.map place :=
        List.mem_map.2 ⟨earlier, hm, Prod.ext hv hk⟩
      rw [if_pos (List.contains_iff_mem.2 there)]
      exact ⟨took.setRoot_rootOf ⟨earlier, hm, hv⟩, rfl⟩

/-- **What attempts leave behind.** The routes taken are those that were the first in their place.
An attempt fails just where one of these stands, and then the tree answers and lists as it did
before. The listing of a verb has the routes taken for the verb and nothing else, each pattern as it
was written and with its own action. -/
theorem attempts_listed (routes : List (Verb × String × α)) :
    let tree := (attempts routes).1
    let taken := (attempts routes).2
    taken = firsts place routes ∧
    (∀ verb pattern a,
      let outcome := (tree.attempt verb pattern a).1
      let left := (tree.attempt verb pattern a).2
      tree.insert verb pattern a = outcome.map (fun _ => left) ∧
      (∀ e, outcome = .error e ↔ e = ⟨verb, pattern⟩ ∧
        ∃ earlier ∈ taken, earlier.1 = verb ∧ patternKeys earlier.2.1 = patternKeys pattern) ∧
      (∀ e, outcome = .error e → ∀ other,
        left.patterns other = tree.patterns other ∧
          ∀ path, left.find? other path = tree.find? other path)) ∧
    ∀ verb, Dictionary.Sorted (tree.patterns verb) ∧
      (tree.patterns verb).Perm (routesOf verb taken) ∧
      ((tree.root? verb).isSome ↔ ∃ route ∈ taken, route.1 = verb) := by
  obtain ⟨took, first⟩ := took_attempts routes
  refine ⟨first, fun verb pattern a => ?_, fun verb => ⟨?_, ?_, took.rooted verb⟩⟩
  · dsimp only
    simp only [← took.insert_error_iff (a := a)]
    rw [took.attempt_eq]
    cases (attempts routes).1.insert verb pattern a with
    | ok t' => simp [Except.map]
    | error e =>
      refine ⟨rfl, fun e' => by simp, fun _ _ other => ⟨?_, fun path => ?_⟩⟩
      · rw [patterns_eq_rootOf, patterns_eq_rootOf, rootOf_setRoot_rootOf]
      · rw [find?_eq_descend?, find?_eq_descend?, rootOf_setRoot_rootOf]
  · rw [patterns_eq_rootOf]
    exact Dictionary.sorted_ofPairs _
  · rw [patterns_eq_rootOf]
    have lists := took.lists verb
    have distinct := (lists.map Prod.fst).nodup_iff.2 (nodup_map_routesOf took.distinct verb)
    exact (Dictionary.ofPairs_perm distinct).trans lists

/-- Attempts of which the second meets the first, under another name and with other slashes. -/
def userRoutes : List (Verb × String × Nat) :=
  [(.get, "/users/{id}", 1), (.get, "users//{name}/", 2), (.post, "/users/{id}", 3), (.get, "/", 4)]

/-- The attempt that fails leaves what was there, and the others are listed under their verbs. -/
theorem attempts_listed_users :
    (attempts userRoutes).2 =
        [(.get, "/users/{id}", 1), (.post, "/users/{id}", 3), (.get, "/", 4)] ∧
      ((attempts userRoutes).1.attempt .get "/users/{who}" 5).1 = .error ⟨.get, "/users/{who}"⟩ ∧
      ((attempts userRoutes).1.attempt .get "/users/{who}" 5).2.find? .get "/users/7" = some 1 ∧
      ((attempts userRoutes).1.patterns .get).Perm [("/users/{id}", 1), ("/", 4)] := by
  obtain ⟨taken, attempted, listed⟩ := attempts_listed userRoutes
  have first : (attempts userRoutes).2 =
      [(.get, "/users/{id}", 1), (.post, "/users/{id}", 3), (.get, "/", 4)] := by
    rw [taken]
    decide
  obtain ⟨-, fails, unchanged⟩ := attempted .get "/users/{who}" 5
  have failed := (fails ⟨.get, "/users/{who}"⟩).2
    ⟨rfl, (.get, "/users/{id}", 1), by rw [first]; decide, rfl, by decide⟩
  refine ⟨first, failed, ?_, ?_⟩
  · rw [(unchanged _ failed .get).2]
    decide
  · have perm := (listed .get).2.1
    rw [first] at perm
    exact perm

end RouteTree

end Switchboard
