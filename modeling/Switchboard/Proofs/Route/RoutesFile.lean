import Switchboard.Proofs.Route.Target
import Switchboard.Route.RoutesFile
import Mathlib.Data.List.Forall2

/-!
# What a file of routes says

A line says a route if its words, up to the comment, are a verb, a path with a slash in front, and a
target (`RoutesFile.Says`). A line without words says nothing, and in any other line something is
wrong (`RoutesFile.Fault`). A file is read as the routes that its lines say, in their order, or is
refused for the first line with a fault.
-/

namespace Switchboard

namespace Verb

/-- A verb is named by its name in letters of either case. -/
theorem parse_eq_ok_iff {s : String} {v : Verb} :
    parse s = .ok v ↔ Text.upper (Text.trim s) = v.name := by
  unfold parse
  generalize Text.upper (Text.trim s) = word
  dsimp only
  constructor
  · intro h
    cases hf : all.find? (·.name == word) with
    | none => rw [hf] at h; cases h
    | some found =>
      rw [hf] at h
      cases h
      have named := List.find?_some hf
      exact (eq_of_beq named).symm
  · rintro rfl
    cases v <;> rfl

/-- A text that names no verb is refused as it was understood. -/
theorem parse_eq_error_iff {s : String} {e : UnknownVerb} :
    parse s = .error e ↔ e = ⟨Text.upper (Text.trim s)⟩ ∧
      ∀ v : Verb, Text.upper (Text.trim s) ≠ v.name := by
  simp only [Ne, ← parse_eq_ok_iff]
  unfold parse
  generalize Text.upper (Text.trim s) = word
  dsimp only
  cases all.find? (·.name == word) <;> simp [eq_comm]

end Verb

namespace RoutesFile

/-! ## Lines -/

/-- The words of a line, up to the comment. -/
def fields (raw : String) : List String :=
  Text.words (String.ofList (raw.toList.takeWhile (· ≠ '#')))

/-- Words say a route: they are the name of its verb, in letters of either case, its path, with a
slash in front, and a word for its target. -/
inductive Says : List String → StaticRoute → Prop where
  | words {verb target : String} {r : StaticRoute} (named : Text.upper verb = r.verb.name)
      (rooted : Text.startsWith "/" r.path = true) (leads : StaticTarget.Written target r.target) :
      Says [verb, r.path, target] r

/-- What is wrong with a line that has words. -/
inductive Fault (raw : String) : RouteLineError → Prop where
  | fields (some : fields raw ≠ []) (number : (fields raw).length ≠ 3) :
      Fault raw (.fields (content raw))
  | verb {verb path target : String} (words : fields raw = [verb, path, target])
      (unknown : ∀ v : Verb, Text.upper verb ≠ v.name) : Fault raw (.verb ⟨Text.upper verb⟩)
  | path {verb path target : String} {v : Verb} (words : fields raw = [verb, path, target])
      (named : Text.upper verb = v.name) (bare : Text.startsWith "/" path = false) :
      Fault raw (.path path)
  | target {verb path target : String} {v : Verb} (words : fields raw = [verb, path, target])
      (named : Text.upper verb = v.name) (rooted : Text.startsWith "/" path = true)
      (nowhere : ∀ t, ¬ StaticTarget.Written target t) : Fault raw (.target ⟨target⟩)

variable {raw : String}

/-- A comment and the blanks around a line are no part of its fields. -/
theorem words_content (raw : String) : Text.words (content raw) = fields raw := Text.words_trim _

theorem content_eq_empty_iff : content raw = "" ↔ fields raw = [] := Text.trim_eq_empty_iff

theorem solid_of_mem_fields {word : String} (h : word ∈ fields raw) :
    ∀ c ∈ word.toList, Text.isBlank c = false := (Text.solid_of_mem_words h).2

section Words

variable {verb path target : String} (words : fields raw = [verb, path, target])

include words

theorem trim_verb : Text.trim verb = verb := by
  have mem : verb ∈ fields raw := by simp [words]
  exact Text.trim_eq_self (solid_of_mem_fields mem)

theorem solid_target : ∀ c ∈ target.toList, Text.isBlank c = false := by
  have mem : target ∈ fields raw := by simp [words]
  exact solid_of_mem_fields mem

/-- A line of three fields is read field by field, up to the first one that is wrong. -/
theorem parseLine_of_words :
    parseLine (content raw) =
      match Verb.parse verb with
      | .error e => .error (.verb e)
      | .ok v =>
        if Text.startsWith "/" path then
          match StaticTarget.parse target with
          | .error e => .error (.target e)
          | .ok t => .ok ⟨v, path, t⟩
        else .error (.path path) := by
  unfold parseLine
  rw [words_content, words]
  dsimp only
  cases Verb.parse verb with
  | error e => rfl
  | ok v =>
    cases Text.startsWith "/" path with
    | false => rfl
    | true => cases StaticTarget.parse target <;> rfl

end Words

theorem parseLine_of_length_ne (number : (fields raw).length ≠ 3) :
    parseLine (content raw) = .error (.fields (content raw)) := by
  unfold parseLine
  rw [words_content]
  split
  · rename_i words
    exact absurd (congrArg List.length words) number
  · rfl

/-- A line is read as the route that it says. -/
theorem parseLine_of_said {r : StaticRoute} (said : Says (fields raw) r) :
    parseLine (content raw) = .ok r := by
  generalize words : fields raw = parts at said
  cases said with
  | words named rooted leads =>
    rw [← trim_verb words] at named
    rw [parseLine_of_words words, Verb.parse_eq_ok_iff.2 named]
    dsimp only
    rw [if_pos rooted, (StaticTarget.parse_eq_ok_iff (solid_target words)).2 leads]

/-- A line is refused for what is wrong with it. -/
theorem parseLine_of_fault {e : RouteLineError} (fault : Fault raw e) :
    parseLine (content raw) = .error e := by
  cases fault with
  | fields _ number => exact parseLine_of_length_ne number
  | verb words unknown =>
    rw [← trim_verb words] at unknown
    rw [parseLine_of_words words, Verb.parse_eq_error_iff.2 ⟨rfl, unknown⟩, trim_verb words]
  | path words named bare =>
    rw [← trim_verb words] at named
    rw [parseLine_of_words words, Verb.parse_eq_ok_iff.2 named, bare]
    rfl
  | target words named rooted nowhere =>
    rw [← trim_verb words] at named
    rw [parseLine_of_words words, Verb.parse_eq_ok_iff.2 named]
    dsimp only
    rw [if_pos rooted, (StaticTarget.parse_eq_error_iff (solid_target words)).2 ⟨rfl, nowhere⟩]

/-! ## Kinds of lines -/

/-- A line has no words, or says a route, or has a fault. -/
theorem line_cases (raw : String) :
    fields raw = [] ∨ (∃ r, Says (fields raw) r) ∨ ∃ e, Fault raw e := by
  by_cases number : (fields raw).length = 3
  · obtain ⟨verb, path, target, words⟩ := List.length_eq_three.1 number
    refine Or.inr ?_
    by_cases known : ∃ v : Verb, Text.upper verb = v.name
    · obtain ⟨v, named⟩ := known
      cases rooted : Text.startsWith "/" path with
      | false => exact Or.inr ⟨_, .path words named rooted⟩
      | true =>
        by_cases somewhere : ∃ t, StaticTarget.Written target t
        · obtain ⟨t, leads⟩ := somewhere
          refine Or.inl ⟨⟨v, path, t⟩, ?_⟩
          rw [words]
          exact Says.words (r := ⟨v, path, t⟩) named rooted leads
        · exact Or.inr ⟨_, .target words named rooted (not_exists.1 somewhere)⟩
    · exact Or.inr ⟨_, .verb words (not_exists.1 known)⟩
  · by_cases none : fields raw = []
    · exact Or.inl none
    · exact Or.inr (Or.inr ⟨_, .fields none number⟩)

/-- Nothing is wrong with a line: it has no words, or says a route. -/
def Sound (raw : String) : Prop := fields raw = [] ∨ ∃ r, Says (fields raw) r

theorem Says.ne_nil {words : List String} {r : StaticRoute} (said : Says words r) : words ≠ [] := by
  cases said with
  | words _ _ _ => exact List.cons_ne_nil _ _

theorem fields_ne_nil_of_fault {e : RouteLineError} (fault : Fault raw e) : fields raw ≠ [] := by
  cases fault with
  | fields some _ => exact some
  | verb words _ => simp [words]
  | path words _ _ => simp [words]
  | target words _ _ _ => simp [words]

/-- A line with a fault says nothing. -/
theorem not_sound_of_fault {e : RouteLineError} (fault : Fault raw e) : ¬ Sound raw := by
  rintro (none | ⟨r, said⟩)
  · exact fields_ne_nil_of_fault fault none
  · have read := parseLine_of_fault fault
    rw [parseLine_of_said said] at read
    cases read

/-! ## Files -/

/-- What the lines of a file say: the words of those that have any. -/
def statements (lines : List String) : List (List String) := (lines.map fields).filter (· ≠ [])

/-- Of lines that are counted from `k`, the first that is not sound is the one that is named. -/
def FirstFault (k : Nat) (lines : List String) (e : RoutesFileError) : Prop :=
  ∃ before raw after, lines = before ++ raw :: after ∧ e.line = k + before.length ∧
    Fault raw e.error ∧ ∀ line ∈ before, Sound line

section Step

variable {k : Nat} {lines : List String}

theorem statements_of_nil (none : fields raw = []) :
    statements (raw :: lines) = statements lines := by
  unfold statements
  rw [List.map_cons, List.filter_cons_of_neg (by simpa using none)]

/-- A line with fields is a statement. -/
theorem statements_of_ne_nil (some : fields raw ≠ []) :
    statements (raw :: lines) = fields raw :: statements lines := by
  unfold statements
  rw [List.map_cons, List.filter_cons_of_pos (by simpa using some)]

theorem parseLines_of_nil (none : fields raw = []) :
    parseLines ((raw :: lines).zipIdx k) = parseLines (lines.zipIdx (k + 1)) := by
  rw [List.zipIdx_cons, parseLines, if_pos (content_eq_empty_iff.2 none)]

/-- The step for a line that says a route. -/
theorem parseLines_of_said {r : StaticRoute} (said : Says (fields raw) r) :
    parseLines ((raw :: lines).zipIdx k) =
      (parseLines (lines.zipIdx (k + 1))).map (r :: ·) := by
  rw [List.zipIdx_cons, parseLines, if_neg (mt content_eq_empty_iff.1 said.ne_nil),
    parseLine_of_said said]
  cases parseLines (lines.zipIdx (k + 1)) <;> rfl

/-- The step for a line with a fault: nothing behind it is read. -/
theorem parseLines_of_fault {e : RouteLineError} (fault : Fault raw e) :
    parseLines ((raw :: lines).zipIdx k) = .error ⟨k + 1, e⟩ := by
  rw [List.zipIdx_cons, parseLines,
    if_neg (mt content_eq_empty_iff.1 (fields_ne_nil_of_fault fault)), parseLine_of_fault fault]
  rfl

theorem firstFault_nil {e : RoutesFileError} : ¬ FirstFault k [] e := by
  rintro ⟨before, raw, after, parts, -⟩
  simp at parts

/-- A sound line leaves the first fault to those behind it. -/
theorem firstFault_cons_of_sound (sound : Sound raw) {e : RoutesFileError} :
    FirstFault k (raw :: lines) e ↔ FirstFault (k + 1) lines e := by
  constructor
  · rintro ⟨before, bad, after, parts, line, fault, sounds⟩
    cases before with
    | nil =>
      cases parts
      exact absurd sound (not_sound_of_fault fault)
    | cons first before =>
      rw [List.cons_append, List.cons.injEq] at parts
      obtain ⟨rfl, rfl⟩ := parts
      rw [List.length_cons] at line
      exact ⟨before, bad, after, rfl, by omega, fault,
        fun l hl => sounds l (List.mem_cons_of_mem _ hl)⟩
  · rintro ⟨before, bad, after, rfl, line, fault, sounds⟩
    refine ⟨raw :: before, bad, after, rfl, ?_, fault, List.forall_mem_cons.2 ⟨sound, sounds⟩⟩
    rw [List.length_cons]
    omega

theorem firstFault_cons_of_fault {e : RouteLineError} (fault : Fault raw e) {e' : RoutesFileError} :
    FirstFault k (raw :: lines) e' ↔ e' = ⟨k, e⟩ := by
  constructor
  · rintro ⟨before, bad, after, parts, line, fault', sounds⟩
    cases before with
    | nil =>
      cases parts
      have read := parseLine_of_fault fault
      rw [parseLine_of_fault fault'] at read
      cases e'
      cases read
      cases line
      rfl
    | cons first before =>
      -- the line with the fault would stand before the one that is named
      rw [List.cons_append, List.cons.injEq] at parts
      obtain ⟨rfl, -⟩ := parts
      exact absurd (sounds _ List.mem_cons_self) (not_sound_of_fault fault)
  · rintro rfl
    exact ⟨[], raw, lines, rfl, rfl, fault, fun l hl => absurd hl List.not_mem_nil⟩

end Step

section Lines

variable {k : Nat} {lines : List String}

/-- Lines are read as the routes that they say, in their order. -/
theorem parseLines_eq_ok_iff {routes : List StaticRoute} :
    parseLines (lines.zipIdx k) = .ok routes ↔ List.Forall₂ Says (statements lines) routes := by
  induction lines generalizing k routes with
  | nil => simp [parseLines, statements, eq_comm, List.forall₂_nil_left_iff]
  | cons raw lines ih =>
    rcases line_cases raw with none | ⟨r, said⟩ | ⟨e, fault⟩
    · rw [parseLines_of_nil none, statements_of_nil none, ih]
    · rw [parseLines_of_said said, statements_of_ne_nil said.ne_nil, List.forall₂_cons_left_iff]
      constructor
      · intro h
        cases read : parseLines (lines.zipIdx (k + 1)) with
        | error e => rw [read] at h; cases h
        | ok others =>
          rw [read] at h
          cases h
          exact ⟨r, others, said, ih.1 read, rfl⟩
      · rintro ⟨r', others, said', rest, rfl⟩
        -- a line says one route only, for it is read as what it says
        have read := parseLine_of_said said
        rw [parseLine_of_said said'] at read
        cases read
        rw [ih.2 rest]
        rfl
    · rw [parseLines_of_fault fault, statements_of_ne_nil (fields_ne_nil_of_fault fault),
        List.forall₂_cons_left_iff]
      refine iff_of_false (fun h => (by cases h)) ?_
      rintro ⟨r, -, said, -⟩
      exact not_sound_of_fault fault (Or.inr ⟨r, said⟩)

/-- Lines are refused for the first one with a fault. -/
theorem parseLines_eq_error_iff {e : RoutesFileError} :
    parseLines (lines.zipIdx k) = .error e ↔ FirstFault (k + 1) lines e := by
  induction lines generalizing k with
  | nil => exact iff_of_false (fun h => (by cases h)) firstFault_nil
  | cons raw lines ih =>
    rcases line_cases raw with none | ⟨r, said⟩ | ⟨e', fault⟩
    · rw [parseLines_of_nil none, firstFault_cons_of_sound (Or.inl none), ih]
    · rw [parseLines_of_said said, firstFault_cons_of_sound (Or.inr ⟨r, said⟩), ← ih]
      cases parseLines (lines.zipIdx (k + 1)) <;> simp [Except.map]
    · rw [parseLines_of_fault fault, firstFault_cons_of_fault fault, Except.error.injEq, eq_comm]

/-- Lines are read if each of them is sound, and not otherwise. -/
theorem exists_parseLines_eq_ok_iff :
    (∃ routes, parseLines (lines.zipIdx k) = .ok routes) ↔ ∀ line ∈ lines, Sound line := by
  induction lines generalizing k with
  | nil => exact iff_of_true ⟨[], rfl⟩ fun line hl => absurd hl List.not_mem_nil
  | cons raw lines ih =>
    rw [List.forall_mem_cons]
    rcases line_cases raw with none | ⟨r, said⟩ | ⟨e, fault⟩
    · have sound : Sound raw := Or.inl none
      rw [parseLines_of_nil none, ih, and_iff_right sound]
    · have sound : Sound raw := Or.inr ⟨r, said⟩
      rw [parseLines_of_said said, and_iff_right sound, ← ih]
      cases parseLines (lines.zipIdx (k + 1)) <;> simp [Except.map]
    · rw [parseLines_of_fault fault]
      exact iff_of_false (by simp) fun h => not_sound_of_fault fault h.1

end Lines

/-! ## Routes written down -/

/-- Nothing in a text ends a field or begins a comment. -/
def IsUnbroken (s : String) : Prop := ∀ c ∈ s.toList, Text.isBlank c = false ∧ c ≠ '#'

instance (s : String) : Decidable (IsUnbroken s) :=
  decidable_of_iff (s.toList.all fun c => !Text.isBlank c && c != '#') (by simp [IsUnbroken])

theorem isUnbroken_name (v : Verb) : IsUnbroken v.name := by
  cases v <;> decide

end RoutesFile

namespace StaticRoute

/-- The line of a route. -/
def line (r : StaticRoute) : String := r.verb.name ++ " " ++ r.path ++ " " ++ r.target.render

/-- What stands in the line of a route can be told from what stands between. -/
structure Plain (r : StaticRoute) : Prop where
  rooted : Text.startsWith "/" r.path = true
  path : RoutesFile.IsUnbroken r.path
  target : RoutesFile.IsUnbroken r.target.render
  codes : ∀ code, r.target = .status code → 100 ≤ code ∧ code ≤ 999

variable {r : StaticRoute}

theorem toList_line (r : StaticRoute) :
    r.line.toList =
      r.verb.name.toList ++ ' ' :: (r.path.toList ++ ' ' :: r.target.render.toList) := by
  simp [line, String.toList_append]

namespace Plain

variable (plain : r.Plain)

include plain

theorem path_ne_nil : r.path.toList ≠ [] := by
  intro none
  have rooted := plain.rooted
  rw [Text.startsWith, none] at rooted
  cases rooted

theorem mem_line {c : Char} (hc : c ∈ r.line.toList) :
    c = ' ' ∨ Text.isBlank c = false ∧ c ≠ '#' := by
  rw [toList_line] at hc
  simp only [List.mem_append, List.mem_cons] at hc
  rcases hc with hc | rfl | hc | rfl | hc
  · exact Or.inr (RoutesFile.isUnbroken_name r.verb c hc)
  · exact Or.inl rfl
  · exact Or.inr (plain.path c hc)
  · exact Or.inl rfl
  · exact Or.inr (plain.target c hc)

theorem isLine : Text.IsLine r.line := by
  intro c hc
  rcases plain.mem_line hc with rfl | ⟨solid, -⟩
  · decide
  · constructor <;> (rintro rfl; exact absurd solid (by decide))

/-- A route that is written down has its three fields. -/
theorem fields_line : RoutesFile.fields r.line = [r.verb.name, r.path, r.target.render] := by
  have whole : r.line.toList.takeWhile (· ≠ '#') = r.line.toList := by
    refine List.takeWhile_eq_self_iff.2 fun c hc => ?_
    rcases plain.mem_line hc with rfl | ⟨-, other⟩
    · rfl
    · simpa using other
  have verb : r.verb.name.toList ≠ [] := by cases r.verb <;> decide
  have target := (StaticTarget.written_render plain.codes).ne_nil
  unfold RoutesFile.fields
  rw [whole, toList_line, Text.words_blank rfl, Text.words_blank rfl,
    Text.words_eq_singleton verb fun c hc => (RoutesFile.isUnbroken_name r.verb c hc).1,
    Text.words_eq_singleton plain.path_ne_nil fun c hc => (plain.path c hc).1,
    Text.words_eq_singleton target fun c hc => (plain.target c hc).1]
  simp

/-- The line of a route says it. -/
theorem says_line : RoutesFile.Says (RoutesFile.fields r.line) r := by
  rw [plain.fields_line]
  refine .words ?_ plain.rooted (StaticTarget.written_render plain.codes)
  cases r.verb <;> rfl

end Plain

/-- Routes that are written down say themselves, line by line. -/
theorem statements_lines {routes : List StaticRoute} (plain : ∀ r ∈ routes, r.Plain) :
    List.Forall₂ RoutesFile.Says (RoutesFile.statements (routes.map line)) routes := by
  induction routes with
  | nil => exact .nil
  | cons r routes ih =>
    have said := (plain r List.mem_cons_self).says_line
    rw [List.map_cons, RoutesFile.statements_of_ne_nil said.ne_nil]
    exact .cons said (ih fun r hr => plain r (List.mem_cons_of_mem _ hr))

end StaticRoute

namespace RoutesFile

section Plain

variable {routes : List StaticRoute} (plain : ∀ r ∈ routes, r.Plain)

include plain

theorem parse_of_lines {text : String} (lines : Text.lines text = routes.map StaticRoute.line) :
    parse text = .ok routes := by
  unfold parse
  rw [lines]
  exact parseLines_eq_ok_iff.2 (StaticRoute.statements_lines plain)

theorem isLine_of_mem_lines : ∀ l ∈ routes.map StaticRoute.line, Text.IsLine l := by
  intro l hl
  obtain ⟨r, hr, rfl⟩ := List.mem_map.1 hl
  exact (plain r hr).isLine

end Plain

/-- A file is read line by line: as the routes that its lines say, in their order, if each line is
sound, and else it is refused for the first line with a fault. Plain routes are read back from their
lines, if an end follows each line and if ends stand between the lines only. -/
theorem read_line_by_line :
    (∀ text routes, parse text = .ok routes ↔
      List.Forall₂ Says (statements (Text.lines text)) routes) ∧
    (∀ text, (∃ routes, parse text = .ok routes) ↔ ∀ line ∈ Text.lines text, Sound line) ∧
    (∀ text e, parse text = .error e ↔ FirstFault 1 (Text.lines text) e) ∧
    ∀ routes : List StaticRoute, (∀ r ∈ routes, r.Plain) → ∀ ending, Text.IsLineEnd ending →
      parse (String.join (routes.map (·.line ++ ending))) = .ok routes ∧
      parse (ending.intercalate (routes.map StaticRoute.line)) = .ok routes := by
  refine ⟨fun text routes => parseLines_eq_ok_iff, fun text => exists_parseLines_eq_ok_iff,
    fun text e => parseLines_eq_error_iff, fun routes plain ending he => ⟨?_, ?_⟩⟩
  · have ended : routes.map (·.line ++ ending) =
        (routes.map StaticRoute.line).map (· ++ ending) := by
      rw [List.map_map]
      rfl
    rw [ended]
    exact parse_of_lines plain (Text.lines_join he (isLine_of_mem_lines plain))
  · refine parse_of_lines plain (Text.lines_intercalate he (isLine_of_mem_lines plain) ?_)
    intro l hl empty
    obtain ⟨r, hr, rfl⟩ := List.mem_map.1 hl
    have said := (plain r hr).says_line
    rw [empty] at said
    exact said.ne_nil rfl

theorem read_line_by_line_assets :
    let routes : List StaticRoute :=
      [⟨.get, "/favicon.ico", .status 404⟩, ⟨.get, "/assets/", .directory ⟨"public"⟩⟩]
    (∀ r ∈ routes, r.Plain) ∧ Text.IsLineEnd "\r\n" ∧
      parse "GET /favicon.ico 404\r\nGET /assets/ staticDir:public\r\n" = .ok routes ∧
      parse "GET /favicon.ico 404\r\nGET /assets/ staticDir:public" = .ok routes := by
  intro routes
  have plain : ∀ r ∈ routes, r.Plain := by
    intro r hr
    simp only [routes, List.mem_cons, List.not_mem_nil, or_false] at hr
    rcases hr with rfl | rfl
    · exact ⟨by decide, by decide, by decide, by rintro _ ⟨⟩; decide⟩
    · exact ⟨by decide, by decide, by decide, nofun⟩
  exact ⟨plain, Or.inr rfl, read_line_by_line.2.2.2 routes plain "\r\n" (Or.inr rfl)⟩

end RoutesFile

end Switchboard
