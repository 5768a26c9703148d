import Switchboard.Answer.View
import Switchboard.Proofs.Http.Host
import Switchboard.Proofs.Number.Decimal

/-!
# Where a redirect leads

A redirect sends the client to the URL of its model. One that does not begin with `http` is written
behind host and port of the request, as it stands. `View.redirect_leads_to` says where that leads: to
the host of the request exactly if the URL begins with a mark that ends a host, or is empty. Any
other beginning is read as a part of the host (`View.not_forall_redirect_stays`).
-/

namespace Switchboard

/-! ## The authority of a URL -/

namespace Url

/-- A character that ends the authority of a URL. -/
def endsAuthority (c : Char) : Bool := c == '/' || c == '?' || c == '#'

/-- What stands before the first character that ends an authority. -/
def authorityPart (s : String) : String := String.ofList (s.toList.takeWhile (!endsAuthority ·))

/-- The authority of an absolute URL: what stands between `//` and the next character that ends it,
behind a scheme `http` or `https` in letters of either case. Other texts have none. -/
def authority? (url : String) : Option String :=
  match Text.cut? ':' url with
  | some (scheme, rest) =>
    if Text.lower scheme = "http" ∨ Text.lower scheme = "https" then
      (Text.after? "//" rest).map authorityPart
    else none
  | none => none

theorem authority?_http (rest : String) :
    authority? ("http://" ++ rest) = some (authorityPart rest) := by
  have cut : Text.cut? ':' ("http://" ++ rest) = some ("http", "//" ++ rest) := by
    have plain : ':' ∉ "http".toList := by decide
    have cut := Text.cut?_append plain ("//" ++ rest)
    rwa [← String.append_assoc] at cut
  have behind : Text.after? "//" ("//" ++ rest) = some rest := Text.after?_eq_some.2 rfl
  unfold authority?
  rw [cut]
  simp only [behind]
  rfl

/-- What ends no authority is a part of it, and all that comes behind up to the end. -/
theorem authorityPart_append {a : String} (inner : ∀ c ∈ a.toList, endsAuthority c = false)
    (b : String) : authorityPart (a ++ b) = a ++ authorityPart b := by
  unfold authorityPart
  rw [String.toList_append, List.takeWhile_append_of_pos, String.ofList_append,
    String.ofList_toList]
  intro c hc
  rw [inner c hc]
  rfl

theorem authorityPart_eq_empty_iff {s : String} :
    authorityPart s = "" ↔ ∀ c ∈ s.toList.head?, endsAuthority c = true := by
  unfold authorityPart
  rw [← String.toList_inj, String.toList_ofList]
  cases s.toList with
  | nil => simp
  | cons c cs => cases hc : endsAuthority c <;> simp [hc]

/-- A text is the whole authority of the text it begins exactly if no character in it ends the
authority and the next one does. -/
theorem authorityPart_append_iff {a b : String} :
    authorityPart (a ++ b) = a ↔
      (∀ c ∈ a.toList, endsAuthority c = false) ∧ ∀ c ∈ b.toList.head?, endsAuthority c = true := by
  constructor
  · intro whole
    have inner : ∀ c ∈ a.toList, endsAuthority c = false := by
      intro c hc
      rw [← whole] at hc
      unfold authorityPart at hc
      rw [String.toList_ofList] at hc
      have kept := List.mem_takeWhile_imp hc
      simpa using kept
    rw [authorityPart_append inner, String.append_eq_left_iff] at whole
    exact ⟨inner, authorityPart_eq_empty_iff.1 whole⟩
  · rintro ⟨inner, stops⟩
    rw [authorityPart_append inner, authorityPart_eq_empty_iff.2 stops, String.append_empty]

end Url

/-! ## Where the client is sent -/

namespace View

open Url

/-- Host and port as a URL names them. -/
def place (host : String) (port : Nat) : String := host ++ ":" ++ toString port

theorem endsAuthority_of_isDigit {c : Char} (h : c.isDigit = true) : endsAuthority c = false := by
  rw [← Bool.not_eq_true]
  intro mark
  simp only [endsAuthority, Bool.or_eq_true, beq_iff_eq] at mark
  rcases mark with (rfl | rfl) | rfl <;> exact absurd h (by decide)

theorem inner_place_iff {host : String} {port : Nat} :
    (∀ c ∈ (place host port).toList, endsAuthority c = false) ↔
      ∀ c ∈ host.toList, endsAuthority c = false := by
  have digits : ∀ c ∈ (toString port).toList, endsAuthority c = false :=
    fun c hc => endsAuthority_of_isDigit (Number.isDigit_of_mem_toString hc)
  unfold place
  simp only [String.toList_append, List.forall_mem_append]
  have colon : ∀ c ∈ ":".toList, endsAuthority c = false := by simp [endsAuthority]
  exact ⟨fun h => h.1.1, fun h => ⟨⟨h, colon⟩, digits⟩⟩

variable {request : Request} {host url : String}

theorem absoluteUrl_relative (known : request.host = some host)
    (other : Text.startsWith "http" url = false) :
    absoluteUrl request url = "http://" ++ (place host request.port ++ url) := by
  unfold absoluteUrl
  rw [if_neg (by rw [other]; exact Bool.false_ne_true), known]
  rfl

/-- A text that begins with a mark that ends an authority, or is empty, begins with no scheme. -/
theorem startsWith_http_of_stops (stops : ∀ c ∈ url.toList.head?, endsAuthority c = true) :
    Text.startsWith "http" url = false := by
  unfold Text.startsWith
  cases chars : url.toList with
  | nil => rfl
  | cons c cs =>
    have mark := stops c (by rw [chars]; rfl)
    have other : ('h' == c) = false := by
      refine beq_false_of_ne ?_
      rintro rfl
      exact absurd mark (by decide)
    show ('h' :: "ttp".toList).isPrefixOf (c :: cs) = false
    rw [List.isPrefixOf_cons_cons, other, Bool.false_and]

/-- A relative URL leads to the host of the request exactly if no mark ends the host early and one
ends it where the URL begins. -/
theorem authority?_absoluteUrl_iff (known : request.host = some host)
    (relative : authority? url = none) :
    authority? (absoluteUrl request url) = some (place host request.port) ↔
      (∀ c ∈ host.toList, endsAuthority c = false) ∧
        ∀ c ∈ url.toList.head?, endsAuthority c = true := by
  cases http : Text.startsWith "http" url with
  | false =>
    rw [absoluteUrl_relative known http, authority?_http, Option.some.injEq,
      authorityPart_append_iff, inner_place_iff]
  | true =>
    have asIs : absoluteUrl request url = url := by
      unfold absoluteUrl
      rw [if_pos http]
    rw [asIs, relative]
    constructor
    · rintro ⟨⟩
    · rintro ⟨-, stops⟩
      rw [startsWith_http_of_stops stops] at http
      cases http

theorem isValue_absoluteUrl (known : request.host = some host)
    (hostValid : Headers.isValue host.toUTF8 = true) (valid : Headers.isValue url.toUTF8 = true) :
    Headers.isValue (absoluteUrl request url).toUTF8 = true := by
  cases http : Text.startsWith "http" url with
  | true =>
    unfold absoluteUrl
    rw [if_pos http]
    exact valid
  | false =>
    have port : Headers.isValue (toString request.port).toUTF8 = true :=
      Headers.isValue_toUTF8 (List.all_eq_true.2 fun c hc =>
        Headers.isVisible_of_isDigit (Number.isDigit_of_mem_toString hc))
    have mark : Headers.isValue ":".toUTF8 = true := Headers.isValue_toUTF8 (by decide)
    have scheme : Headers.isValue "http://".toUTF8 = true := Headers.isValue_toUTF8 (by decide)
    rw [absoluteUrl_relative known http]
    unfold place
    simp only [Headers.isValue_toUTF8_append]
    exact ⟨scheme, ⟨⟨hostValid, mark⟩, port⟩, valid⟩

variable {verb : Verb} {uri : String} {headers : Headers} {body : ByteArray}
  {remote : Option String} {model : Model}

/-- A redirect answers 301 with one location, the absolute URL of its model. -/
theorem run_redirect (received : request = Request.ofParts verb uri headers body remote)
    (derived : request.host = some host) (named : urlOf? model = some url)
    (valid : Headers.isValue url.toUTF8 = true) (response : Response) :
    ∃ sent, (redirect model request).run.run response = (.ok (), sent) ∧ sent.status = 301 ∧
      sent.headers.values "location" = [(absoluteUrl request url).toUTF8] := by
  have hostValid : Headers.isValue host.toUTF8 = true := by
    rw [received] at derived
    exact Request.isValue_host derived
  have written := isValue_absoluteUrl derived hostValid valid
  refine ⟨{ response with status := 301 }.setHeader "location" (absoluteUrl request url), ?_, rfl,
    Headers.values_set rfl written response.headers⟩
  unfold redirect
  rw [named]
  rfl

/-- **Where a relative URL leads.** It leads to the host and the port of the request exactly if no
mark ends the authority within the host and one ends it where the URL begins. -/
theorem redirect_leads_to (received : request = Request.ofParts verb uri headers body remote)
    (derived : request.host = some host) (named : urlOf? model = some url)
    (relative : authority? url = none) (valid : Headers.isValue url.toUTF8 = true)
    (response : Response) :
    ∃ sent location, (redirect model request).run.run response = (.ok (), sent) ∧
      sent.status = 301 ∧ sent.headers.values "location" = [location.toUTF8] ∧
      (authority? location = some (place host request.port) ↔
        (∀ c ∈ host.toList, endsAuthority c = false) ∧
          ∀ c ∈ url.toList.head?, endsAuthority c = true) := by
  obtain ⟨sent, ran, status, written⟩ := run_redirect received derived named valid response
  exact ⟨sent, absoluteUrl request url, ran, status, written,
    authority?_absoluteUrl_iff derived relative⟩

/-- What a client sends to `example.com:8080`. -/
def toExample : Headers := ⟨[("host", "example.com:8080".toUTF8)]⟩

/-- A request of such a client. -/
def asking : Request := .ofParts .get "/" toExample .empty none

theorem host_asking : asking.host = some "example.com" := by
  unfold asking
  rw [Request.host_ofParts]
  decide +kernel

theorem port_asking : asking.port = 8080 := by
  unfold asking
  rw [Request.port_ofParts]
  decide +kernel

theorem redirect_leads_to_login :
    asking = .ofParts .get "/" toExample .empty none ∧ asking.host = some "example.com" ∧
      urlOf? (.text "/login") = some "/login" ∧ authority? "/login" = none ∧
      Headers.isValue "/login".toUTF8 = true ∧
      ∃ sent location, (redirect (.text "/login") asking).run.run {} = (.ok (), sent) ∧
        sent.status = 301 ∧ sent.headers.values "location" = [location.toUTF8] ∧
        authority? location = some "example.com:8080" := by
  have received : asking = .ofParts .get "/" toExample .empty none := rfl
  have named : urlOf? (.text "/login") = some "/login" := rfl
  have relative : authority? "/login" = none := rfl
  have valid : Headers.isValue "/login".toUTF8 = true := Headers.isValue_toUTF8 (by decide)
  obtain ⟨sent, location, ran, status, written, there⟩ :=
    redirect_leads_to received host_asking named relative valid {}
  refine ⟨received, host_asking, named, relative, valid, sent, location, ran, status, written, ?_⟩
  have within : ∀ c ∈ "example.com".toList, endsAuthority c = false := by simp [endsAuthority]
  have slash : ∀ c ∈ "/login".toList.head?, endsAuthority c = true := by simp [endsAuthority]
  rw [there.2 ⟨within, slash⟩, port_asking]
  rfl

/-- Not every relative URL leads to the host of the request: with `@` in front of it, the host is
the name that a user signs in with elsewhere. -/
theorem not_forall_redirect_stays :
    ¬ ∀ (request : Request) (host url : String) (model : Model) (response : Response),
        (∃ verb uri headers body remote,
          request = Request.ofParts verb uri headers body remote) →
        request.host = some host → urlOf? model = some url → authority? url = none →
        Headers.isValue url.toUTF8 = true →
        ∃ sent location, (redirect model request).run.run response = (.ok (), sent) ∧
          sent.headers.values "location" = [location.toUTF8] ∧
          authority? location = some (place host request.port) := by
  intro stays
  have received : asking = .ofParts .get "/" toExample .empty none := rfl
  have named : urlOf? (.text "@evil.org/") = some "@evil.org/" := rfl
  have relative : authority? "@evil.org/" = none := rfl
  have valid : Headers.isValue "@evil.org/".toUTF8 = true := Headers.isValue_toUTF8 (by decide)
  obtain ⟨sent, location, ran, written, there⟩ :=
    stays asking "example.com" "@evil.org/" _ {} ⟨_, _, _, _, _, received⟩ host_asking named
      relative valid
  obtain ⟨sent', ran', -, written'⟩ := run_redirect received host_asking named valid {}
  have same : sent = sent' := (Prod.mk.inj (ran.symm.trans ran')).2
  rw [same, written', List.cons.injEq] at written
  rw [← String.toByteArray_inj.1 written.1, authority?_absoluteUrl_iff host_asking relative]
    at there
  -- the first character of the URL goes on with the authority
  exact absurd (there.2 '@' rfl) (by decide)

end View

end Switchboard
