import Switchboard.Proofs.Dictionary
import Switchboard.Proofs.Http.MediaType
import Switchboard.Proofs.Http.Request

/-!
# The parameters of two forms

A request may carry pairs in its query and in its body. Each name has the values that it has in the
query, and behind them those that it has in the body, if the body is a form by its media type
(`Request.params_of_forms`).
-/

namespace Switchboard

/-- The values of a name in some pairs, in their order. -/
def valuesOf (name : String) (pairs : List (String × String)) : List String :=
  (pairs.filter (·.1 = name)).map (·.2)

namespace Request

/-- The parameters of a request are the values of some pairs by their names, and nothing else. -/
structure Gives (r : Request) (pairs : List (String × String)) : Prop where
  sorted : Dictionary.Sorted r.params
  values : ∀ name, Dictionary.get? r.params name =
    if valuesOf name pairs = [] then none else some (valuesOf name pairs)

namespace Gives

variable {r s : Request} {pairs : List (String × String)}

theorem of_empty (empty : r.params = []) : Gives r [] := by
  refine ⟨?_, fun name => ?_⟩
  · rw [empty]
    exact Dictionary.sorted_nil
  · rw [empty]
    rfl

theorem of_params_eq (gives : Gives r pairs) (same : s.params = r.params) : Gives s pairs := by
  refine ⟨?_, fun name => ?_⟩
  · rw [same]
    exact gives.sorted
  · rw [same]
    exact gives.values name

/-- One pair more. -/
theorem addParam (gives : Gives r pairs) (name value : String) :
    Gives (r.addParam name value) (pairs ++ [(name, value)]) := by
  refine ⟨gives.sorted.put name _, fun other => ?_⟩
  have both : valuesOf other (pairs ++ [(name, value)]) =
      valuesOf other pairs ++ if name = other then [value] else [] := by
    unfold valuesOf
    rw [List.filter_append, List.map_append]
    congr 1
    by_cases same : name = other
    · simp [same]
    · simp [same]
  have found : Dictionary.get? (r.addParam name value).params other =
      if other = name then some ((Dictionary.get? r.params name).getD [] ++ [value])
      else Dictionary.get? r.params other :=
    Dictionary.get?_modify r.params name other fun old => old.getD [] ++ [value]
  rw [found, both, gives.values, gives.values]
  by_cases same : other = name
  · subst same
    by_cases none : valuesOf other pairs = []
    · simp [none]
    · simp [none]
  · rw [if_neg same, if_neg (Ne.symm same), List.append_nil]

/-- The run: all pairs of a form. -/
theorem addForm (gives : Gives r pairs) (form : ByteArray) :
    Gives (r.addForm form) (pairs ++ Form.parse form) := by
  unfold Request.addForm
  generalize Form.parse form = more
  induction more generalizing r pairs with
  | nil => rwa [List.append_nil]
  | cons pair more ih =>
    have rest := ih (gives.addParam pair.1 pair.2)
    rw [List.append_assoc, List.singleton_append] at rest
    exact rest

end Gives

/-- A target gives the pairs of what stands behind its first question mark. -/
theorem gives_ofUri_query {path : String} (plain : '?' ∉ path.toList) (verb : Verb)
    (query : String) : Gives (ofUri verb (path ++ "?" ++ query)) (Form.parse query.toUTF8) := by
  have cut : Text.cut? '?' (path ++ "?" ++ query) = some (path, query) := Text.cut?_append plain _
  unfold ofUri
  rw [cut]
  let bare : Request := { verb, path := if path = "" then "/" else path, query := some query }
  have gives := (Gives.of_empty (r := bare) rfl).addForm query.toUTF8
  rwa [List.nil_append] at gives

theorem gives_ofUri {path : String} (plain : '?' ∉ path.toList) (verb : Verb)
    (pairs : List (String × String)) :
    Gives (ofUri verb (path ++ "?" ++ Form.text pairs)) pairs := by
  have gives := gives_ofUri_query plain verb (Form.text pairs)
  rwa [Form.parse_text] at gives

/-- A target without a question mark gives none. -/
theorem gives_ofUri_of_notMem {uri : String} (plain : '?' ∉ uri.toList) (verb : Verb) :
    Gives (ofUri verb uri) [] := by
  unfold ofUri
  rw [Text.cut?_eq_none plain]
  exact .of_empty rfl

/-- Neither headers nor an empty body add to what the target gives. -/
theorem Gives.ofParts {verb : Verb} {uri : String} {pairs : List (String × String)}
    (gives : Gives (ofUri verb uri) pairs) (headers : Headers) (remote : Option String) :
    Gives (ofParts verb uri headers ByteArray.empty remote) pairs := by
  let base : Request :=
    { ofUri verb uri with headers, body := ByteArray.empty, remoteAddress := remote }
  have fields : base.deriveFields.Gives pairs :=
    gives.of_params_eq (params_deriveFields base)
  change Gives base.derive pairs
  rw [derive_eq]
  split
  · have none : Form.parse base.body = [] := rfl
    rwa [addForm_of_parse_eq_nil none]
  · exact fields

/-- The media type is what the first of such headers names. -/
theorem contentType_derive {r : Request} {text : String}
    (told : r.header? "content-type" = some text) :
    r.derive.contentType = (MediaType.parse text).1 := by
  unfold header? at told
  rw [derive_frame, deriveFields_eq]
  unfold typeSaid
  rw [told]
  rfl

/-- Forms have a media type without blanks. -/
theorem parse_fst_eq_formType_iff {header : String} :
    (MediaType.parse header).1 = formType ↔ MediaType.Names formType header := by
  refine MediaType.parse_fst_eq_iff ?_
  have letters : (formType.toList.all fun c => !Text.isBlank c && c != ';') = true := by
    decide +kernel
  simpa using letters

/-- **Parameters come from the query, and from a body that is a form.** Each name has its values in
the query and then those in the body, if the media type is that of forms, else those in the query. The
body stays as it is. -/
theorem params_of_forms {path : String} (plain : '?' ∉ path.toList)
    (queried sent : List (String × String)) (verb : Verb) {headers : Headers} {value : ByteArray}
    {type : String} (single : headers.values "content-type" = [value])
    (readable : Headers.valueText? value = some type) (remote : Option String) :
    let r := ofParts verb (path ++ "?" ++ Form.text queried) headers (Form.bytes sent) remote
    (MediaType.Names formType type → r.Gives (queried ++ sent)) ∧
      (¬ MediaType.Names formType type → r.Gives queried) ∧ r.body = Form.bytes sent := by
  let base : Request := { ofUri verb (path ++ "?" ++ Form.text queried) with
    headers, body := Form.bytes sent, remoteAddress := remote }
  have told : base.header? "content-type" = some type := by
    unfold header? Headers.text? Headers.get?
    rw [single]
    exact readable
  have fields : base.deriveFields.Gives queried :=
    (gives_ofUri plain verb queried).of_params_eq (params_deriveFields base)
  have body : base.derive.body = base.body := body_derive base
  have kind : base.derive.contentType = formType ↔ MediaType.Names formType type := by
    rw [contentType_derive told, parse_fst_eq_formType_iff]
  refine ⟨fun form => ?_, fun other => ?_, body⟩
  · change Gives base.derive _
    rw [derive_eq, if_pos (kind.2 form)]
    have gives := fields.addForm base.body
    rwa [Form.parse_bytes] at gives
  · change Gives base.derive _
    rwa [derive_eq, if_neg (mt kind.1 other)]

/-- Headers that tell a media type. -/
def typed (type : String) : Headers := ⟨[("content-type", type.toUTF8)]⟩

/-- Names and values with anything in them, one name in both forms. -/
theorem params_of_forms_search :
    let type := " Application/X-WWW-Form-URLencoded ; charset=UTF-8"
    let r := ofParts .post ("/search" ++ "?" ++ Form.text [("q", "a&b=c"), ("", "é"), ("q", "")])
      (typed type) (Form.bytes [("q", "+ %2B")]) none
    Dictionary.get? r.params "q" = some ["a&b=c", "", "+ %2B"] ∧
      Dictionary.get? r.params "" = some ["é"] ∧ Dictionary.get? r.params "page" = none := by
  intro type r
  have single : (typed type).values "content-type" = [type.toUTF8] := rfl
  have readable : Headers.valueText? type.toUTF8 = some type := by decide +kernel
  have form : MediaType.Names formType type :=
    ⟨" ", "Application/X-WWW-Form-URLencoded", " ", "; charset=UTF-8", by decide +kernel,
      List.all_eq_true.1 (by decide), List.all_eq_true.1 (by decide), by decide +kernel,
      .inr ⟨" charset=UTF-8", by decide +kernel⟩⟩
  have plain : '?' ∉ "/search".toList := by decide +kernel
  have gives := (params_of_forms plain [("q", "a&b=c"), ("", "é"), ("q", "")] [("q", "+ %2B")] .post
    single readable none).1 form
  exact ⟨(gives.values "q").trans (by decide +kernel), (gives.values "").trans (by decide +kernel),
    (gives.values "page").trans (by decide +kernel)⟩

end Request

end Switchboard
