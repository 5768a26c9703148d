import Switchboard.Http.Cookie
import Switchboard.Proofs.Text.Split

/-!
# Cookies that come back

A client sends the cookies it has in one header, each as it was set, with other things between them
perhaps. The parts of a header are read one by one (`Cookie.parse_append`, `Cookie.parse_blank`), and
a cookie is read off its own part (`Cookie.ofPair?_encode`). So a header gives the cookies that were
written into it, in their order, and nothing else (`Cookie.parse_parts`).
-/

namespace Switchboard.Cookie

/-! ## The parts of a header -/

/-- A separator stands between parts. -/
theorem parse_append (before after : String) :
    parse (before ++ ";" ++ after) = parse before ++ parse after := by
  unfold parse
  have separator : ";".toList = [';'] := rfl
  rw [String.toList_append, String.toList_append, separator, List.append_assoc,
    List.singleton_append, List.splitOn_append_cons_self, List.filterMap_append]

theorem parse_of_notMem {part : String} (single : ';' ∉ part.toList) :
    parse part = (ofPair? part.toList).toList := by
  unfold parse
  rw [List.splitOn_eq_singleton single]
  cases read : ofPair? part.toList with
  | none => rw [List.filterMap_cons_none read]; rfl
  | some c => rw [List.filterMap_cons_some read]; rfl

/-- A blank in front of a pair does not count. -/
theorem ofPair?_cons_of_isBlank {b : Char} (blank : Text.isBlank b = true) (pair : List Char) :
    ofPair? (b :: pair) = ofPair? pair := by
  have other : ¬ (b == '=') = true := by
    rw [beq_iff_eq]
    rintro rfl
    exact absurd blank (by decide)
  have trimmed (name : List Char) :
      Text.trimBy Text.isBlank (b :: name) = Text.trimBy Text.isBlank name := by
    unfold Text.trimBy
    rw [List.dropWhile_cons_of_pos blank]
  unfold ofPair?
  rw [Text.cutBy?, if_neg other]
  cases Text.cutBy? (· == '=') pair with
  | none => rfl
  | some parts =>
    simp only [Option.map_some, Option.bind_eq_bind, Option.bind_some, trimmed]

/-- Nor does one in front of a header. -/
theorem parse_blank (header : String) : parse (" " ++ header) = parse header := by
  have blank : " ".toList = [' '] := rfl
  have other : ¬ (' ' == ';') = true := by decide
  unfold parse
  rw [String.toList_append, blank, List.singleton_append]
  unfold List.splitOn
  rw [List.splitOnP_cons_eq_if_modifyHead, if_neg other]
  cases header.toList.splitOnP (· == ';') with
  | nil => rfl
  | cons pair pairs =>
    rw [List.modifyHead_cons, List.filterMap_cons, List.filterMap_cons,
      ofPair?_cons_of_isBlank (by decide)]

/-! ## One part -/

/-- A cookie without attributes whose name and value are what is left of them in a header: no
separator is within them, and nothing that is cut off stands at their ends. -/
structure IsPlain (c : Cookie) : Prop where
  bare : c = { name := c.name, value := c.value }
  named : c.name ≠ ""
  equals_notMem_name : '=' ∉ c.name.toList
  semicolon_notMem_name : ';' ∉ c.name.toList
  semicolon_notMem_value : ';' ∉ c.value.toList
  name_solid : Text.SolidEnds Text.isBlank c.name.toList
  value_solid : Text.SolidEnds Text.isBlank c.value.toList
  value_unquoted : Text.SolidEnds (· == '"') c.value.toList

instance (c : Cookie) : Decidable c.IsPlain :=
  decidable_of_iff
    (c = { name := c.name, value := c.value } ∧ c.name ≠ "" ∧ '=' ∉ c.name.toList ∧
      ';' ∉ c.name.toList ∧ ';' ∉ c.value.toList ∧ Text.SolidEnds Text.isBlank c.name.toList ∧
      Text.SolidEnds Text.isBlank c.value.toList ∧ Text.SolidEnds (· == '"') c.value.toList)
    ⟨fun ⟨bare, named, equals, name, value, nameEnds, valueEnds, unquoted⟩ =>
      ⟨bare, named, equals, name, value, nameEnds, valueEnds, unquoted⟩,
     fun ⟨bare, named, equals, name, value, nameEnds, valueEnds, unquoted⟩ =>
      ⟨bare, named, equals, name, value, nameEnds, valueEnds, unquoted⟩⟩

/-- A text that is no cookie: it has no `=`, or nothing but blanks in front of the first. -/
inductive Nameless : String → Prop
  | unassigned {text : String} (none : '=' ∉ text.toList) : Nameless text
  | unnamed {blanks : String} (blank : ∀ c ∈ blanks.toList, Text.isBlank c = true)
      (rest : String) : Nameless (blanks ++ "=" ++ rest)

theorem encode_of_isPlain {c : Cookie} (plain : c.IsPlain) : c.encode = c.name ++ "=" ++ c.value := by
  rw [plain.bare]
  unfold encode
  simp only [Option.map_none, Bool.false_eq_true, ↓reduceIte, String.append_empty]

/-- What stands in front of the first `=` is the name, and what stands behind it the value. -/
theorem ofPair?_append {name : List Char} (plain : '=' ∉ name) (value : List Char) :
    ofPair? (name ++ '=' :: value) =
      if Text.trimBy Text.isBlank name = [] then none
      else some
        { name := String.ofList (Text.trimBy Text.isBlank name)
          value := String.ofList
            (Text.trimBy (· == '"') (Text.trimBy Text.isBlank value)) } := by
  unfold ofPair?
  rw [Text.cutBy?_append (Text.forall_beq_false_of_notMem plain) (beq_self_eq_true '=')]
  rfl

/-- A cookie is read off what was written for it. -/
theorem ofPair?_encode {c : Cookie} (plain : c.IsPlain) : ofPair? c.encode.toList = some c := by
  have written : c.encode.toList = c.name.toList ++ '=' :: c.value.toList := by
    rw [encode_of_isPlain plain, String.toList_append, String.toList_append]
    simp
  have named : c.name.toList ≠ [] := by
    rw [Ne, ← String.toList_empty, String.toList_inj]
    exact plain.named
  rw [written, ofPair?_append plain.equals_notMem_name, Text.trimBy_eq_self plain.name_solid,
    Text.trimBy_eq_self plain.value_solid, Text.trimBy_eq_self plain.value_unquoted, if_neg named,
    String.ofList_toList, String.ofList_toList, ← plain.bare]

theorem ofPair?_of_nameless {text : String} (nameless : Nameless text) :
    ofPair? text.toList = none := by
  cases nameless with
  | unassigned none =>
    unfold ofPair?
    rw [Text.cutBy?_eq_none (Text.forall_beq_false_of_notMem none)]
    rfl
  | @unnamed blanks blank rest =>
    have plain : '=' ∉ blanks.toList := fun h => absurd (blank '=' h) (by decide)
    have empty : Text.trimBy Text.isBlank blanks.toList = [] := by
      unfold Text.trimBy
      rw [List.dropWhile_eq_nil_iff.2 blank]
      rfl
    have split : (blanks ++ "=" ++ rest).toList = blanks.toList ++ '=' :: rest.toList := by
      rw [String.toList_append, String.toList_append]
      simp
    rw [split, ofPair?_append plain, if_pos empty]

/-! ## Whole headers -/

/-- What a client writes into a header: a cookie, or something else. -/
inductive Part where
  | cookie (c : Cookie)
  | other (text : String)

namespace Part

/-- The text of a part. -/
def text : Part → String
  | cookie c => c.encode
  | other text => text

/-- The cookie of a part, if it is one. -/
def cookie? : Part → Option Cookie
  | cookie c => some c
  | other _ => none

/-- Can the part be told from the others, and from a cookie if it is none? -/
inductive Fits : Part → Prop
  | cookie {c : Cookie} (plain : c.IsPlain) : Fits (.cookie c)
  | other {text : String} (single : ';' ∉ text.toList) (nameless : Nameless text) :
      Fits (.other text)

theorem Fits.single {p : Part} (fits : p.Fits) : ';' ∉ p.text.toList := by
  cases fits with
  | @cookie c plain =>
    show ';' ∉ c.encode.toList
    rw [encode_of_isPlain plain, String.toList_append, String.toList_append, List.mem_append,
      List.mem_append]
    rintro ((h | h) | h)
    · exact plain.semicolon_notMem_name h
    · exact absurd h (by decide)
    · exact plain.semicolon_notMem_value h
  | other single _ => exact single

theorem Fits.parse_text {p : Part} (fits : p.Fits) : parse p.text = p.cookie?.toList := by
  rw [parse_of_notMem fits.single]
  cases fits with
  | cookie plain => exact congrArg Option.toList (ofPair?_encode plain)
  | other _ nameless => exact congrArg Option.toList (ofPair?_of_nameless nameless)

end Part

/-- The header that a client writes. -/
def header (texts : List String) : String := String.intercalate "; " texts

theorem parse_header_cons (text next : String) (texts : List String) :
    parse (header (text :: next :: texts)) = parse text ++ parse (header (next :: texts)) := by
  have between (rest : String) : text ++ "; " ++ rest = text ++ ";" ++ (" " ++ rest) := by
    have separator : "; " = ";" ++ " " := rfl
    simp only [separator, String.append_assoc]
  unfold header
  rw [String.intercalate_cons_cons, between, parse_append, parse_blank]

/-- A header gives the cookies among its parts, in their order. -/
theorem parse_parts {parts : List Part} (fit : ∀ p ∈ parts, p.Fits) :
    parse (header (parts.map Part.text)) = parts.filterMap Part.cookie? := by
  induction parts with
  | nil => rfl
  | cons p parts ih =>
    have first := (fit p List.mem_cons_self).parse_text
    have rest := ih fun q hq => fit q (List.mem_cons_of_mem _ hq)
    have counted : (p :: parts).filterMap Part.cookie? =
        p.cookie?.toList ++ parts.filterMap Part.cookie? := by
      cases p <;> rfl
    rw [counted, ← rest]
    cases parts with
    | nil =>
      rw [List.map_singleton, List.map_nil, header, String.intercalate_singleton, first]
      exact (List.append_nil _).symm
    | cons q parts => rw [List.map_cons, List.map_cons, parse_header_cons, first]

/-- **Cookies come back as they were set.** A header with the texts of some cookies gives these
cookies, and so it does with other parts between them, as long as these have no `=` or no name. -/
theorem parse_encoded {cookies : List Cookie} (plain : ∀ c ∈ cookies, c.IsPlain) :
    parse (header (cookies.map encode)) = cookies ∧
      ∀ parts : List Part, parts.filterMap Part.cookie? = cookies →
        (∀ text, .other text ∈ parts → ';' ∉ text.toList ∧ Nameless text) →
        parse (header (parts.map Part.text)) = cookies := by
  have among (parts : List Part) (kept : parts.filterMap Part.cookie? = cookies)
      (others : ∀ text, .other text ∈ parts → ';' ∉ text.toList ∧ Nameless text) :
      parse (header (parts.map Part.text)) = cookies := by
    refine (parse_parts fun p hp => ?_).trans kept
    cases p with
    | cookie c => exact .cookie (plain c (kept ▸ List.mem_filterMap.2 ⟨_, hp, rfl⟩))
    | other text => exact .other (others text hp).1 (others text hp).2
  refine ⟨?_, among⟩
  have alone := among (cookies.map .cookie) ?_ ?_
  · rwa [List.map_map] at alone
  · rw [List.filterMap_map]
    exact List.filterMap_some
  · intro text there
    obtain ⟨c, -, same⟩ := List.mem_map.1 there
    cases same

/-- A value with marks and quotes in it, one that is empty, and a name that comes twice; with them a
word, a value without a name and an empty part. -/
theorem parse_encoded_session :
    ∃ cookies : List Cookie, (∀ c ∈ cookies, c.IsPlain) ∧
      cookies.map encode = ["sid=a=b", "theme=", "sid=say \"no\" to it"] ∧
      parse "sid=a=b; theme=; sid=say \"no\" to it" = cookies ∧
      parse "sid=a=b; junk; theme=;  =skip; ; sid=say \"no\" to it" = cookies := by
  let first : Cookie := { name := "sid", value := "a=b" }
  let second : Cookie := { name := "theme", value := "" }
  let third : Cookie := { name := "sid", value := "say \"no\" to it" }
  let parts : List Part :=
    [.cookie first, .other "junk", .cookie second, .other " =skip", .other "", .cookie third]
  have plain : ∀ c ∈ [first, second, third], c.IsPlain := by decide +kernel
  have written : [first, second, third].map encode =
      ["sid=a=b", "theme=", "sid=say \"no\" to it"] := by decide +kernel
  obtain ⟨alone, among⟩ := parse_encoded plain
  have between := among parts rfl fun text there => ?_
  · have plainText : header ["sid=a=b", "theme=", "sid=say \"no\" to it"] =
        "sid=a=b; theme=; sid=say \"no\" to it" := by decide +kernel
    have mixedText : header (parts.map Part.text) =
        "sid=a=b; junk; theme=;  =skip; ; sid=say \"no\" to it" := by decide +kernel
    rw [written, plainText] at alone
    rw [mixedText] at between
    exact ⟨_, plain, written, alone, between⟩
  · have named : text = "junk" ∨ text = " =skip" ∨ text = "" := by
      simpa [parts] using there
    rcases named with rfl | rfl | rfl
    · exact ⟨by decide +kernel, .unassigned (by decide +kernel)⟩
    · exact ⟨by decide +kernel, @Nameless.unnamed " " (List.all_eq_true.1 (by decide +kernel)) "skip"⟩
    · exact ⟨by decide +kernel, .unassigned (by decide +kernel)⟩

end Switchboard.Cookie
