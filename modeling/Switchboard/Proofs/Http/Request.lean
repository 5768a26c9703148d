import Switchboard.Http.Request
import Switchboard.Proofs.Http.Form
import Switchboard.Proofs.Text.Split

/-!
# What a request is derived from

Each step of the derivation sets some fields from the headers and leaves the others
(`Request.deriveFields_eq`), and a form body adds parameters and nothing else
(`Request.derive_frame`). Whatever a request keeps or takes on is read off these two: path, headers
and body stay, and the parameters have two sources, the query of the target and a form body.
`Carries.params_eq` says what becomes of a pair that is written as a form in one of the two places: it
is the only parameter, with the text that was written.
-/

namespace Switchboard

namespace Request

/-! ## What headers say -/

/-- Host and port as headers say them, in place of others. -/
def hostSaid (headers : Headers) (host : Option String) (port : Nat) : Option String × Nat :=
  match headers.text? "host" with
  | none => (host, port)
  | some text =>
    match Text.cut? ':' text with
    | some (name, digits) => (some name, (Number.readNat? 65535 digits).getD 80)
    | none => (some text, port)

/-- The verb as headers say it, in place of another. -/
def verbSaid (headers : Headers) (verb : Verb) : Verb :=
  match (headers.text? overrideHeader).map Verb.parse with
  | some (.ok other) => if other = .ws then verb else other
  | _ => verb

/-- Media type and character set as headers say them, in place of others. -/
def typeSaid (headers : Headers) (type encoding : String) : String × String :=
  match (headers.text? "content-type").map MediaType.parse with
  | some (type, charset) => (type, charset.getD encoding)
  | none => (type, encoding)

section Frames

variable (r : Request)

/-- The step of the host sets host and port. -/
theorem withHost_frame :
    r.withHost = { r with
      host := (hostSaid r.headers r.host r.port).1
      port := (hostSaid r.headers r.host r.port).2 } := by
  unfold withHost hostSaid header?
  cases r.headers.text? "host" with
  | none => rfl
  | some text =>
    dsimp only
    cases Text.cut? ':' text <;> rfl

/-- The step of the override sets the verb. -/
theorem withOverride_frame : r.withOverride = { r with verb := verbSaid r.headers r.verb } := by
  unfold withOverride verbSaid header?
  rcases (r.headers.text? overrideHeader).map Verb.parse with _ | _ | verb
  · rfl
  · rfl
  · dsimp only
    split <;> rfl

/-- The step of forwarding sets the sender. -/
theorem withForwarded_frame :
    r.withForwarded = { r with
      remoteAddress := (r.headers.text? "x-forwarded-for").or r.remoteAddress } := by
  unfold withForwarded header?
  cases r.headers.text? "x-forwarded-for" <;> rfl

/-- The step of the media type sets it and the character set. -/
theorem withContentType_frame :
    r.withContentType = { r with
      contentType := (typeSaid r.headers r.contentType r.encoding).1
      encoding := (typeSaid r.headers r.contentType r.encoding).2 } := by
  unfold withContentType typeSaid header?
  cases (r.headers.text? "content-type").map MediaType.parse <;> rfl

/-- The step of the languages sets them. -/
theorem withLanguages_frame :
    r.withLanguages = { r with
      languages := ((r.headers.text? "accept-language").map Language.parse).getD r.languages } := by
  unfold withLanguages header?
  cases r.headers.text? "accept-language" <;> rfl

end Frames

/-- What the headers but for a form body say. -/
def deriveFields (r : Request) : Request :=
  r.withHost.withCookies.withOverride.withForwarded.withContentType.withConnection.withLanguages

/-- **What headers say, at once.** No step reads what another one sets. -/
theorem deriveFields_eq (r : Request) :
    r.deriveFields = { r with
      host := (hostSaid r.headers r.host r.port).1
      port := (hostSaid r.headers r.host r.port).2
      cookies := r.withCookies.cookies
      verb := verbSaid r.headers r.verb
      remoteAddress := (r.headers.text? "x-forwarded-for").or r.remoteAddress
      contentType := (typeSaid r.headers r.contentType r.encoding).1
      encoding := (typeSaid r.headers r.contentType r.encoding).2
      keepAlive := r.withConnection.keepAlive
      languages := ((r.headers.text? "accept-language").map Language.parse).getD r.languages } := by
  simp only [deriveFields, withHost_frame, withCookies, withOverride_frame, withForwarded_frame,
    withContentType_frame, withConnection, withLanguages_frame, header?]

/-! ## What a form adds -/

/-- Only the parameters change with a form. -/
theorem addForm_frame (r : Request) (form : ByteArray) :
    r.addForm form = { r with params := (r.addForm form).params } := by
  unfold addForm
  generalize Form.parse form = pairs
  induction pairs generalizing r with
  | nil => rfl
  | cons pair pairs ih => exact ih _

/-- A form of one pair gives that one parameter. -/
theorem params_addForm {r : Request} (empty : r.params = []) {form : ByteArray}
    {n v : String} (single : Form.parse form = [(n, v)]) : (r.addForm form).params = [(n, [v])] := by
  unfold addForm
  rw [single, List.foldl_cons, List.foldl_nil]
  unfold addParam
  rw [empty]
  rfl

theorem addForm_of_parse_eq_nil {form : ByteArray} (none : Form.parse form = []) (r : Request) :
    r.addForm form = r := by
  unfold addForm
  rw [none]
  rfl

theorem withFormBody_frame (r : Request) :
    r.withFormBody = { r with params := r.withFormBody.params } := by
  unfold withFormBody
  split
  · exact addForm_frame _ _
  · rfl

theorem derive_eq_withFormBody (r : Request) : r.derive = r.deriveFields.withFormBody := rfl

/-- **A form body adds parameters** to what the headers say, and nothing else. -/
theorem derive_frame (r : Request) :
    r.derive = { r.deriveFields with params := r.derive.params } := by
  rw [derive_eq_withFormBody]
  exact withFormBody_frame _

/-- Headers say nothing of the parameters. -/
theorem params_deriveFields (r : Request) : r.deriveFields.params = r.params := by
  rw [deriveFields_eq]

/-- The parameters of a form body are added if the headers say that it is one. -/
theorem derive_eq (r : Request) :
    r.derive = if r.derive.contentType = formType then r.deriveFields.addForm r.body
      else r.deriveFields := by
  have type : r.derive.contentType = r.deriveFields.contentType := by rw [derive_frame]
  have body : r.body = r.deriveFields.body := by rw [deriveFields_eq]
  rw [type, body, derive_eq_withFormBody]
  rfl

/-- The body of a request stays as it came. -/
theorem body_derive (r : Request) : r.derive.body = r.body := by
  rw [derive_frame, deriveFields_eq]

/-- The path is the one of the target. -/
theorem path_derive (r : Request) : r.derive.path = r.path := by
  rw [derive_frame, deriveFields_eq]

/-- Headers alone settle the verb, the host and the port of what is derived. -/
theorem verb_derive (r : Request) : r.derive.verb = verbSaid r.headers r.verb := by
  rw [derive_frame, deriveFields_eq]

theorem host_derive (r : Request) :
    r.derive.host = (hostSaid r.headers r.host r.port).1 ∧
      r.derive.port = (hostSaid r.headers r.host r.port).2 := by
  rw [derive_frame, deriveFields_eq]
  exact ⟨rfl, rfl⟩

/-! ## Targets -/

/-- A target says path, query and parameters; all else is at its default but for the verb. -/
theorem ofUri_frame (verb : Verb) (uri : String) :
    ofUri verb uri =
      { verb
        path := (ofUri verb uri).path
        query := (ofUri verb uri).query
        params := (ofUri verb uri).params } := by
  unfold ofUri
  cases Text.cut? '?' uri with
  | none => rfl
  | some parts =>
    dsimp only
    rw [addForm_frame]

theorem path_ofParts (verb : Verb) (uri : String) (headers : Headers) (body : ByteArray)
    (remote : Option String) :
    (ofParts verb uri headers body remote).path = (ofUri verb uri).path :=
  path_derive _

/-- What stands in front of the first question mark is the path. -/
theorem path_ofUri_query {path : String} (plain : '?' ∉ path.toList) (some : path ≠ "")
    (verb : Verb) (query : String) : (ofUri verb (path ++ "?" ++ query)).path = path := by
  have cut : Text.cut? '?' (path ++ "?" ++ query) = .some (path, query) := Text.cut?_append plain _
  unfold ofUri
  rw [cut]
  dsimp only
  rw [addForm_frame]
  exact if_neg some

theorem path_ofUri_of_notMem {uri : String} (plain : '?' ∉ uri.toList) (some : uri ≠ "")
    (verb : Verb) : (ofUri verb uri).path = uri := by
  unfold ofUri
  rw [Text.cut?_eq_none plain]
  exact if_neg some

/-! ## One pair -/

theorem params_ofUri {path query : String} (plain : '?' ∉ path.toList) (verb : Verb) {n v : String}
    (single : Form.parse query.toUTF8 = [(n, v)]) :
    (ofUri verb (path ++ "?" ++ query)).params = [(n, [v])] := by
  have cut : Text.cut? '?' (path ++ "?" ++ query) = some (path, query) := Text.cut?_append plain query
  unfold ofUri
  rw [cut]
  exact params_addForm rfl single

/-- A request that carries one pair, written as a form in its query or in a form body. In the other
place there is no pair. -/
inductive Carries (n v : String) : Request → Prop
  | query {verb : Verb} {path : String} {headers : Headers} {body : ByteArray}
      {remote : Option String} (plain : '?' ∉ path.toList)
      (alone : (ofParts verb (path ++ "?" ++ Form.text [(n, v)]) headers body remote).contentType =
        formType → Form.parse body = []) :
      Carries n v (ofParts verb (path ++ "?" ++ Form.text [(n, v)]) headers body remote)
  | body {verb : Verb} {uri : String} {headers : Headers} {remote : Option String}
      (form : (ofParts verb uri headers (Form.bytes [(n, v)]) remote).contentType = formType)
      (alone : (ofUri verb uri).params = []) :
      Carries n v (ofParts verb uri headers (Form.bytes [(n, v)]) remote)

/-- **Parameters are the texts that were written.** -/
theorem Carries.params_eq {n v : String} {r : Request} (h : Carries n v r) :
    r.params = [(n, [v])] := by
  cases h with
  | @query verb path headers body remote plain alone =>
    have kept := params_deriveFields
      { ofUri verb (path ++ "?" ++ Form.text [(n, v)]) with
        headers, body, remoteAddress := remote }
    have sent := params_ofUri plain verb (Form.parse_text [(n, v)])
    unfold ofParts at alone ⊢
    rw [derive_eq]
    split
    · next form => rw [addForm_of_parse_eq_nil (alone form), kept, sent]
    · rw [kept, sent]
  | @body verb uri headers remote form alone =>
    have kept := params_deriveFields
      { ofUri verb uri with headers, body := Form.bytes [(n, v)], remoteAddress := remote }
    unfold ofParts at form ⊢
    rw [derive_eq, if_pos form]
    exact params_addForm (kept.trans alone) (Form.parse_bytes [(n, v)])

end Request

end Switchboard
