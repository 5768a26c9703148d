import Switchboard.Proofs.Http.Header
import Switchboard.Proofs.Server.Requests
import Switchboard.Proofs.Time.HttpDate

/-!
# Resources that a client has already

A resource goes out with the time of its last change, and a client that sends this time back is told
that it has the resource (`Engine.resource_revalidated`). Text and time agree because the text is
read as the second it was written of (`Time.HttpDate.parse?_render`); fractions of a second are in
neither. A client that sends anything else, or nothing, gets the resource whole, unless the calendar
ends before the resource is to be asked for again (`Engine.not_forall_resource_sent`).
-/

namespace Switchboard

/-! ## The text of a moment in a header -/

namespace Time.HttpDate

open Headers (isVisible isVisible_of_isDigit)

theorem all_isVisible_padded (width n : Nat) : (padded width n).all isVisible = true :=
  List.all_eq_true.2 fun _ hc => isVisible_of_isDigit (isDigit_of_mem_padded hc)

theorem all_isVisible_name {names : List String}
    (h : names.all (·.toList.all isVisible) = true) (i : Nat) :
    (names[i]?.getD "").toList.all isVisible = true := by
  cases hn : names[i]? with
  | none => rfl
  | some name => exact List.all_eq_true.1 h name (List.mem_of_getElem? hn)

theorem all_isVisible_yearText (year : Int) : (yearText year).all isVisible = true := by
  unfold yearText
  split
  · rw [List.all_cons, all_isVisible_padded]
    rfl
  · split
    · rw [List.all_cons, all_isVisible_padded]
      rfl
    · exact all_isVisible_padded 4 _

theorem all_isVisible_render (seconds : Int) : (render seconds).toList.all isVisible = true := by
  have day := @all_isVisible_name dayNames (by decide)
  have month := @all_isVisible_name monthNames (by decide)
  unfold render
  rw [String.toList_ofList]
  unfold renderChars
  simp only [List.all_append, day, month, all_isVisible_padded, all_isVisible_yearText]
  rfl

end Time.HttpDate

/-! ## What is sent -/

namespace Dispatcher

variable {settings : StaticSettings} {request : Request} {modified : Time.Stamp}

/-- A client has a version if the text it sends says its second. -/
theorem isFresh_iff : isFresh request modified = true ↔
    ∃ said, request.header? "if-modified-since" = some said ∧
      Time.HttpDate.parse? said = some modified.seconds := by
  unfold isFresh
  rw [beq_iff_eq, Option.bind_eq_some_iff]

variable (caching : settings.caching = true) (now : Int) (contentType : String)
  (contents : ByteArray) (r : Response)

include caching

/-- A client that has the version gets no more than that it has. -/
theorem serveResource_fresh (fresh : isFresh request modified = true) :
    serveResource settings now contentType contents modified request r =
      some ({ r with status := 304 }.setHeader "date" (Time.HttpDate.render now)) := by
  unfold serveResource
  simp only [caching, fresh, Bool.not_true, Bool.false_eq_true, ↓reduceIte]

/-- Any other client gets the resource with the second of its last change. -/
theorem serveResource_stale (stale : isFresh request modified = false) {expires : Int}
    (he : expiry? now settings.lifetime = some expires) :
    ∃ headers : Headers,
      serveResource settings now contentType contents modified request r =
        some { r with headers, contentType := some contentType, output := some contents } ∧
      headers.text? "last-modified" = some (Time.HttpDate.render modified.seconds) := by
  unfold serveResource
  simp only [caching, stale, he, Bool.not_true, Bool.false_eq_true, ↓reduceIte,
    Option.bind_eq_bind, Option.bind_some, Option.pure_def, Response.setHeader]
  refine ⟨_, rfl, ?_⟩
  exact Headers.text?_setText (by decide) (Time.HttpDate.all_isVisible_render _) _

theorem serveResource_endless (stale : isFresh request modified = false)
    (he : expiry? now settings.lifetime = none) :
    serveResource settings now contentType contents modified request r = none := by
  unfold serveResource
  simp only [caching, stale, he, Bool.not_true, Bool.false_eq_true, ↓reduceIte]
  rfl

omit caching

theorem run_write {σ : Type} (f : Request → Response → Option Response) (x : Exchange σ) :
    (write f).run.run x =
      match f x.request x.response with
      | some response => (.ok true, { x with response })
      | none => (.ok false, x) := by
  change StateT.run (ExceptT.run (match f x.request x.response with
    | some response => _
    | none => _)) x = _
  cases f x.request x.response with
  | none => rfl
  | some response => rfl

end Dispatcher

namespace Engine

variable {σ : Type} (e : Engine σ) (s : Surroundings) (service : Service σ) (request : Request)
  (path contentType : String) (contents : ByteArray)

/-- Sending a resource changes nothing of the service. -/
theorem carryOut_resource (modified : Time.Stamp) :
    (e.carryOut s request (.resource path contentType contents modified)).run service =
      (Dispatcher.serveResource e.dispatcher.settings s.now contentType contents modified request {},
        service) := by
  let send := Dispatcher.serveResource e.dispatcher.settings s.now contentType contents modified
  let start : Exchange σ := { request, response := {}, world := service.world }
  have ran : (run request (e.dispatcher.dispatch s.now
      (.resource path contentType contents modified))).run service =
        ((Dispatcher.write send).run.run start,
          { service with world := ((Dispatcher.write send).run.run start).2.world }) := rfl
  unfold carryOut
  rw [StateT.run_bind, ran, Dispatcher.run_write]
  change _ = (send start.request start.response, service)
  cases send start.request start.response with
  | none => rfl
  | some r => rfl

/-- **A resource is revalidated by the text it was sent with.** The text of its last change reads as
the second of this change. A client that sends it back is told that it has the resource, and gets
nothing of it. A client that sends nothing, or what is read as no time or another one, gets all of
the resource with this same text, if the calendar reaches to where it is to be asked for again. -/
theorem resource_revalidated (modified : Time.Stamp)
    (caching : e.dispatcher.settings.caching = true)
    (low : 0 ≤ (Time.Moment.ofSeconds modified.seconds).date.year)
    (high : (Time.Moment.ofSeconds modified.seconds).date.year ≤ 9999) :
    let told := Time.HttpDate.render modified.seconds
    let answer :=
      ((e.carryOut s request (.resource path contentType contents modified)).run service).1
    Time.HttpDate.parse? told = some modified.seconds ∧
    (request.header? "if-modified-since" = some told →
      ∃ r, answer = some r ∧ r.status = 304 ∧ r.output = none ∧ r.contentType = none) ∧
    ((∀ said, request.header? "if-modified-since" = some said →
        Time.HttpDate.parse? said ≠ some modified.seconds) →
      match Dispatcher.expiry? s.now e.dispatcher.settings.lifetime with
      | some _ =>
        ∃ r, answer = some r ∧ r.status = ({} : Response).status ∧ r.output = some contents ∧
          r.contentType = some contentType ∧ r.headers.text? "last-modified" = some told
      | none => answer = none) := by
  have back := Time.HttpDate.parse?_render low high
  dsimp only
  rw [carryOut_resource]
  refine ⟨back, fun same => ?_, fun other => ?_⟩
  · have fresh := Dispatcher.isFresh_iff.2 ⟨_, same, back⟩
    exact ⟨_, Dispatcher.serveResource_fresh caching s.now contentType contents {} fresh,
      rfl, rfl, rfl⟩
  · have stale : Dispatcher.isFresh request modified = false := by
      rw [Bool.eq_false_iff]
      intro fresh
      obtain ⟨said, found, read⟩ := Dispatcher.isFresh_iff.1 fresh
      exact other said found read
    split
    · next he =>
      obtain ⟨headers, sent, text⟩ :=
        Dispatcher.serveResource_stale caching s.now contentType contents {} stale he
      exact ⟨_, sent, rfl, rfl, rfl, text⟩
    · next he => exact Dispatcher.serveResource_endless caching s.now contentType contents {} stale he

/-- An engine whose clients may keep resources for some seconds. -/
def lending (lifetime : Nat) : Engine Unit where
  routes := {}
  procedures := {}
  dispatcher := { settings := { caching := true, lifetime } }
  page := .plain
  parameterNamesHeader := "x-names"

/-- A service that has served nothing. -/
def unused : Service Unit := ⟨⟨.ofCapacity 4, none⟩, {}, ()⟩

/-- A request by a client that says when the version it has was changed, or has none. -/
def asking (said : Option String) : Request where
  verb := .get
  path := "/site.css"
  headers := said.elim {} (({} : Headers).setText "if-modified-since")

/-- In the middle of a second. -/
def changed : Time.Stamp := ⟨1709294400, 250000000⟩

theorem resource_revalidated_stylesheet :
    let s : Surroundings := { files := {}, now := 1751234567 }
    let sheet : Action Unit := .resource "/site.css" "text/css" "body".toUTF8 changed
    let told := "Fri, 01 Mar 2024 12:00:00 GMT"
    (∃ r, (((lending 60).carryOut s (asking none) sheet).run unused).1 = some r ∧
      r.output = some "body".toUTF8 ∧ r.headers.text? "last-modified" = some told) ∧
    ∃ r, (((lending 60).carryOut s (asking told) sheet).run unused).1 = some r ∧
      r.status = 304 ∧ r.output = none := by
  intro s sheet told
  have caching : (lending 60).dispatcher.settings.caching = true := rfl
  have low : 0 ≤ (Time.Moment.ofSeconds changed.seconds).date.year := by decide
  have high : (Time.Moment.ofSeconds changed.seconds).date.year ≤ 9999 := by decide
  have same : Time.HttpDate.render changed.seconds = told := by decide
  have expires : Dispatcher.expiry? s.now (lending 60).dispatcher.settings.lifetime =
      some 1751234627 := by decide
  have absent : (asking none).header? "if-modified-since" = none := by decide
  have sentBack : (asking told).header? "if-modified-since" = some told := by decide +kernel
  have first := (lending 60).resource_revalidated s unused (asking none) "/site.css" "text/css"
    "body".toUTF8 changed caching low high
  have again := (lending 60).resource_revalidated s unused (asking told) "/site.css" "text/css"
    "body".toUTF8 changed caching low high
  simp only [expires, same, absent] at first
  simp only [same] at again
  obtain ⟨r, sent, -, output, -, text⟩ := first.2.2 (fun said found => by cases found)
  obtain ⟨r', sent', status, output', -⟩ := again.2.1 sentBack
  exact ⟨⟨r, sent, output, text⟩, r', sent', status, output'⟩

/-- Not every resource is sent whole: to the seconds that it may be kept, a clock of our days is to
be added, and the calendar may end before that. -/
theorem not_forall_resource_sent :
    ¬ ∀ (e : Engine Unit) (s : Surroundings) (service : Service Unit) (request : Request)
      (path contentType : String) (contents : ByteArray) (modified : Time.Stamp),
      e.dispatcher.settings.caching = true →
      0 ≤ (Time.Moment.ofSeconds modified.seconds).date.year →
      (Time.Moment.ofSeconds modified.seconds).date.year ≤ 9999 →
      request.header? "if-modified-since" = none →
      ∃ r, ((e.carryOut s request (.resource path contentType contents modified)).run service).1 =
        some r ∧ r.output = some contents := by
  intro sent
  have caching : (lending 10000000000000).dispatcher.settings.caching = true := rfl
  have stale : Dispatcher.isFresh (asking none) changed = false := by decide +kernel
  have endless := Dispatcher.serveResource_endless caching 1751234567 "text/css" "body".toUTF8 {}
    stale (by decide)
  obtain ⟨r, answer, -⟩ := sent (lending 10000000000000) { files := {}, now := 1751234567 } unused
    (asking none) "/site.css" "text/css" "body".toUTF8 changed caching (by decide) (by decide)
    (by decide)
  rw [carryOut_resource] at answer
  cases endless.symm.trans answer

end Engine

end Switchboard
