import Switchboard.Service.Engine

/-!
# What clients are told of failures

A client is told status, content type and output. Of a failure that has not been handled, these depend
on its verdict alone, and on verb and path of the request (`Failure.told_respond`): not on the response
that handlers, aspects and views have begun, and of failures that are not the client's own not on class,
message and causes either. So clients cannot tell such failures from each other
(`Failure.clients_are_told_alike`).
-/

namespace Switchboard

/-- What a client is told. -/
def Response.told (r : Response) : Status × Option String × Option ByteArray :=
  (r.status, r.contentType, r.output)

theorem Response.body_toMessage_of_told {r r' : Response} (same : r.told = r'.told) :
    r.toMessage.body = r'.toMessage.body := by
  have output : r.output = r'.output := congrArg (·.2.2) same
  unfold toMessage
  rw [output]

/-- What a failure comes to for a client. -/
inductive Verdict where
  | notFound
  /-- The server is to blame, and says nothing more. -/
  | broken
  /-- The client is told its own mistake. -/
  | mistaken (text : String)
  deriving DecidableEq, Repr

/-- What a client is told of a verdict on a request. -/
def Verdict.told (verb : Verb) (path : String) : Verdict → Status × Option String × Option ByteArray
  | notFound => (404, some "text/plain", some s!"Not Found: {verb.name} {path}".toUTF8)
  | broken => (500, some "text/plain", some "Internal Server Error".toUTF8)
  | mistaken text => (400, some "text/plain", some text.toUTF8)

namespace Failure

/-- The verdict on a failure. -/
def verdict (f : Failure) : Verdict :=
  if f.isNotFound then .notFound else if 500 ≤ f.status then .broken else .mistaken f.display

/-- There are three statuses for failures, one for each verdict. -/
theorem status_cases (f : Failure) :
    f.isNotFound = true ∧ f.status = 404 ∨
      f.isNotFound = false ∧ (f.status = 400 ∨ f.status = 500) := by
  unfold status
  cases f.isNotFound with
  | true => exact .inl ⟨rfl, rfl⟩
  | false => cases f <;> simp

theorem verdict_of_isNotFound {f : Failure} (notFound : f.isNotFound = true) :
    f.verdict = .notFound := if_pos notFound

theorem verdict_of_serverError {f : Failure} (server : 500 ≤ f.status) : f.verdict = .broken := by
  rcases f.status_cases with ⟨-, status⟩ | ⟨other, -⟩
  · rw [status] at server
    exact absurd server (by decide)
  · rw [verdict, if_neg (by rw [other]; exact Bool.false_ne_true), if_pos server]

/-- **A client is told the verdict**, whatever response has been begun. -/
theorem told_respond (f : Failure) (request : Request) (r : Response) :
    (f.respond .plain request r).told = f.verdict.told request.verb request.path := by
  unfold respond verdict
  rcases f.status_cases with ⟨notFound, status⟩ | ⟨other, status | status⟩
  · rw [if_pos notFound, if_pos notFound, status]
    rfl
  · simp only [other, status]
    rfl
  · simp only [other, status]
    rfl

/-- The same failure, two that the server is to blame for, or two that something is not there. -/
def Alike (f f' : Failure) : Prop :=
  f = f' ∨ 500 ≤ f.status ∧ 500 ≤ f'.status ∨ f.isNotFound = true ∧ f'.isNotFound = true

theorem Alike.verdict_eq {f f' : Failure} (alike : f.Alike f') : f.verdict = f'.verdict := by
  rcases alike with rfl | ⟨server, server'⟩ | ⟨notFound, notFound'⟩
  · rfl
  · rw [verdict_of_serverError server, verdict_of_serverError server']
  · rw [verdict_of_isNotFound notFound, verdict_of_isNotFound notFound']

end Failure

namespace Engine

variable {σ : Type}

/-- A request whose action fails is answered by what responds to the failure. -/
theorem handle_of_failed {e : Engine σ} {s : Surroundings} {request : Request} {service : Service σ}
    {f : Failure} {x : Exchange σ}
    (failed : ((e.dispatch s request).run service).1 = (.error f, x)) :
    ((e.handle s request).run service).1 = some (f.respond e.page x.request x.response) := by
  unfold handle
  rw [StateT.run_bind]
  generalize (e.dispatch s request).run service = outcome at failed
  obtain ⟨result, after⟩ := outcome
  obtain rfl : result = (.error f, x) := failed
  rfl

end Engine

namespace Failure

/-- **Clients are told the same of failures that are alike**, for requests of one verb and path: by
what responds to the failures, whatever responses have been begun, and by any two engines where actions
end in them, whatever these have done before. -/
theorem clients_are_told_alike {f f' : Failure} (alike : f.Alike f') {request request' : Request}
    (verb : request.verb = request'.verb) (path : request.path = request'.path) :
    (∀ r r', (f.respond .plain request r).told = (f'.respond .plain request' r').told) ∧
    ∀ {σ τ : Type} (e : Engine σ) (e' : Engine τ) (s s' : Surroundings) (sent sent' : Request)
      (service : Service σ) (service' : Service τ) (x : Exchange σ) (x' : Exchange τ),
      e.page = .plain → e'.page = .plain → x.request = request → x'.request = request' →
      ((e.dispatch s sent).run service).1 = (.error f, x) →
      ((e'.dispatch s' sent').run service').1 = (.error f', x') →
      ∃ r r', ((e.handle s sent).run service).1 = some r ∧
        ((e'.handle s' sent').run service').1 = some r' ∧
        r.told = r'.told ∧ r.toMessage.body = r'.toMessage.body := by
  have told (r r' : Response) :
      (f.respond .plain request r).told = (f'.respond .plain request' r').told := by
    rw [told_respond, told_respond, alike.verdict_eq, verb, path]
  refine ⟨told, ?_⟩
  intro σ τ e e' s s' sent sent' service service' x x' plain plain' asked asked' failed failed'
  refine ⟨_, _, Engine.handle_of_failed failed, Engine.handle_of_failed failed', ?_, ?_⟩
  · rw [plain, plain', asked, asked']
    exact told _ _
  · rw [plain, plain', asked, asked']
    exact Response.body_toMessage_of_told (told _ _)

/-- A failure of a class that descends from that of what is not there. -/
def noSuchUser : Fault where
  tag := (Tag.ofName "NoSuchUser").extend .notFound
  message := "pool exhausted at db-3"
  causes := ["timeout"]

/-- A handler that fails when it has begun its response. -/
def showUser : Handler Unit where
  type := "Users"
  method := "show"
  verb := .get
  pattern := "/users"
  body := fun _ _ => do
    modify fun x => { x with response := { x.response with output := some "half".toUTF8 } }
    throw noSuchUser

/-- An engine with some routes. -/
def serving (tree : RouteTree (Action Unit)) : Engine Unit where
  routes := { tree }
  procedures := {}
  dispatcher := {}
  page := .plain
  parameterNamesHeader := "x-names"

/-- Routes to the handler. -/
def userRoutes : RouteTree (Action Unit) :=
  ((({} : RouteTree (Action Unit)).insert .get "/users" (.handler showUser)).toOption).getD {}

/-- A request for users. -/
def forUsers : Request where
  verb := .get
  path := "/users"

/-- A service that has served nothing. -/
def unasked : Service Unit := ⟨⟨.ofCapacity 0, none⟩, {}, ()⟩

/-- What a handler does not find, and what there is no route for. -/
theorem clients_are_told_alike_users :
    ∃ r r', (((serving userRoutes).handle { files := {}, now := 0 } forUsers).run unasked).1 = some r ∧
      (((serving {}).handle { files := {}, now := 0 } forUsers).run unasked).1 = some r' ∧
      r.told = r'.told := by
  have alike : (Failure.raised noSuchUser).Alike (.routeNotFound .get "/users") :=
    .inr (.inr ⟨by decide, by decide⟩)
  have raised : (((serving userRoutes).dispatch { files := {}, now := 0 } forUsers).run
      unasked).1.1 = .error (.raised noSuchUser) := rfl
  have lacking : (((serving {}).dispatch { files := {}, now := 0 } forUsers).run unasked).1.1 =
      .error (.routeNotFound .get "/users") := rfl
  obtain ⟨r, r', answered, answered', told, -⟩ :=
    (@clients_are_told_alike _ _ alike forUsers forUsers rfl rfl).2
      (serving userRoutes) (serving {}) { files := {}, now := 0 } { files := {}, now := 0 } forUsers
      forUsers unasked unasked _ _ rfl rfl rfl rfl (Prod.ext raised rfl) (Prod.ext lacking rfl)
  exact ⟨r, r', answered, answered', told⟩

end Failure

end Switchboard
