import Switchboard.Proofs.Http.Request
import Switchboard.Proofs.Route.Verbs
import Switchboard.Server.Connection

/-!
# Requests that open no socket

A request on the wire has a method of its own and may name another verb in a header. Neither makes
it a request of the verb of sockets (`Server.route_cases`): the shell turns such a method away, and
such a header does not count. The routes of that verb are looked up all the same when a socket is
opened or a message arrives, and what is found there stays in the cache of routes beside all else.
`Server.Reached.selects_no_socket_route` says that a plain request gets none of it.
-/

namespace Switchboard

/-! ## The verb of a request -/

namespace Request

/-- An override header cannot ask for the verb of sockets. -/
theorem verbSaid_ne {verb : Verb} (h : verb ≠ .ws) (headers : Headers) :
    verbSaid headers verb ≠ .ws := by
  unfold verbSaid
  split
  · split
    · exact h
    · assumption
  · exact h

/-- No header makes a request one of a socket. -/
theorem ofParts_verb_ne {verb : Verb} (h : verb ≠ .ws) (uri : String) (headers : Headers)
    (body : ByteArray) (remote : Option String) :
    (ofParts verb uri headers body remote).verb ≠ .ws := by
  unfold ofParts
  rw [verb_derive, ofUri_frame]
  exact verbSaid_ne h headers

end Request

/-! ## What a request does to the caches -/

section Caches

variable {σ α β : Type} {r : Routes σ} {fs : FileSystem}

/-- The caches stay as they are. -/
def LeavesCaches (m : StateM (Service σ) α) : Prop :=
  ∀ service, (m.run service).2.caches = service.caches

/-- The caches stay as they are, or one lookup goes through them. -/
def LooksUpOnce (r : Routes σ) (fs : FileSystem) (m : StateM (Service σ) α) : Prop :=
  ∀ service, (m.run service).2.caches = service.caches ∨
    ∃ verb path, (m.run service).2.caches = (r.route fs verb path service.caches).2

theorem LeavesCaches.pure (a : α) : LeavesCaches (σ := σ) (Pure.pure a) := fun _ => rfl

/-- Two steps that leave the caches alone do so one after the other. -/
theorem LeavesCaches.bind {m : StateM (Service σ) α} {f : α → StateM (Service σ) β}
    (hm : LeavesCaches m) (hf : ∀ a, LeavesCaches (f a)) : LeavesCaches (m >>= f) := by
  intro service
  rw [StateT.run_bind]
  exact (hf _ _).trans (hm service)

theorem LeavesCaches.looksUpOnce {m : StateM (Service σ) α} (hm : LeavesCaches m) :
    LooksUpOnce r fs m := fun service => .inl (hm service)

/-- What follows a lookup may do all but look up again. -/
theorem LooksUpOnce.bind {m : StateM (Service σ) α} {f : α → StateM (Service σ) β}
    (hm : LooksUpOnce r fs m) (hf : ∀ a, LeavesCaches (f a)) : LooksUpOnce r fs (m >>= f) := by
  intro service
  have after := hf (m.run service).1 (m.run service).2
  rcases hm service with same | ⟨verb, path, once⟩
  · exact .inl (after.trans same)
  · exact .inr ⟨verb, path, after.trans once⟩

theorem LeavesCaches.bind_looksUpOnce {m : StateM (Service σ) α} {f : α → StateM (Service σ) β}
    (hm : LeavesCaches m) (hf : ∀ a, LooksUpOnce r fs (f a)) : LooksUpOnce r fs (m >>= f) := by
  intro service
  have after := hf (m.run service).1 (m.run service).2
  rw [hm service] at after
  exact after

/-- One lookup adds nothing to the caches but what it found. -/
theorem LooksUpOnce.filled {m : StateM (Service σ) α} (hm : LooksUpOnce r fs m)
    {seen : List FileSystem} {service : Service σ} (h : ∃ s ⊆ seen, r.Filled s service.caches) :
    ∃ s ⊆ fs :: seen, r.Filled s (m.run service).2.caches := by
  obtain ⟨s, hs, filled⟩ := h
  rcases hm service with same | ⟨verb, path, once⟩
  · rw [same]
    exact ⟨s, List.subset_cons_of_subset _ hs, filled⟩
  · rw [once]
    exact ⟨fs :: s, List.cons_subset_cons _ hs, filled.lookup fs verb path⟩

end Caches

namespace Engine

variable {σ α : Type} (e : Engine σ) (s : Surroundings)

theorem looksUpOnce_route (verb : Verb) (path : String) :
    LooksUpOnce e.routes s.files (e.route s verb path) := fun _ => .inr ⟨verb, path, rfl⟩

theorem leavesCaches_run (request : Request) (course : Course σ α) :
    LeavesCaches (run request course) := fun _ => rfl

theorem leavesCaches_onHub (f : Hub σ → α × Hub σ) : LeavesCaches (onHub f) := fun _ => rfl

/-- Does what an action says, and answers the request with what comes of it. -/
def carryOut (request : Request) (action : Action σ) : StateM (Service σ) (Option Response) := do
  match ← run request (e.dispatcher.dispatch s.now action) with
  | (.ok done, x) => return if done then some x.response else none
  | (.error failure, x) => return failure.respond e.page x.request x.response

/-- A request is answered by the action that is looked up for its verb and path. -/
theorem handle_eq (request : Request) :
    e.handle s request = e.route s request.verb request.path >>= e.carryOut s request := rfl

/-- What an action says is done without the caches. -/
theorem leavesCaches_carryOut (request : Request) (action : Action σ) :
    LeavesCaches (e.carryOut s request action) := by
  refine (leavesCaches_run request _).bind fun found => ?_
  obtain ⟨result, x⟩ := found
  cases result with
  | ok _ => exact .pure _
  | error _ => exact .pure _

/-- A request is looked up once, and no call of a procedure is. -/
theorem looksUpOnce_handle (request : Request) :
    LooksUpOnce e.routes s.files (e.handle s request) :=
  (looksUpOnce_route e s _ _).bind (leavesCaches_carryOut e s request)

theorem leavesCaches_handleCall (path : String) (request : Request) :
    LeavesCaches (e.handleCall path request) := by
  refine (leavesCaches_run _ _).bind fun found => ?_
  obtain ⟨result, x⟩ := found
  cases result with
  | ok _ => exact .pure _
  | error _ => exact .pure _

/-- Opening a socket looks its path up, if anything does. -/
theorem looksUpOnce_acceptsSocket (path : String) :
    LooksUpOnce e.routes s.files (e.acceptsSocket s path) := by
  have get : LeavesCaches (MonadState.get : StateM (Service σ) (Service σ)) := fun _ => rfl
  refine get.bind_looksUpOnce fun service => ?_
  split
  · exact (LeavesCaches.pure _).looksUpOnce
  · refine (looksUpOnce_route e s .ws path).bind fun action => ?_
    split
    · exact .pure _
    · exact .pure _

/-- A message looks up the path of its socket. -/
theorem looksUpOnce_handleMessage (path : String) (handshake : Request) (text : String) :
    LooksUpOnce e.routes s.files (e.handleMessage s path handshake text) := by
  refine (looksUpOnce_route e s .ws path).bind fun action => ?_
  split
  · refine (leavesCaches_run _ _).bind fun found => ?_
    obtain ⟨result, x⟩ := found
    cases result with
    | ok _ => exact .pure _
    | error _ => exact .pure _
  · exact .pure _

end Engine

namespace Server

variable {σ : Type} (server : Server σ) (s : Surroundings)

/-- Serves a request: a call of a procedure, or a route. -/
def serve (request : Request) : StateM (Service σ) (Option Response) :=
  match procedurePath? server.procedureRoot request.path with
  | some path => some <$> server.engine.handleCall path request
  | none => server.engine.handle s request

/-- Whatever a request is for, it is looked up at most once. -/
theorem looksUpOnce_serve (request : Request) :
    LooksUpOnce server.engine.routes s.files (server.serve s request) := by
  unfold serve
  split
  · exact ((server.engine.leavesCaches_handleCall _ _).bind fun _ => .pure _).looksUpOnce
  · exact server.engine.looksUpOnce_handle s request

/-- Past the sockets, the shell answers by itself or serves a request of a plain verb. -/
theorem dispatch_cases (limit : Nat) (r : WireRequest) :
    (∃ m, server.dispatch s limit r = pure m) ∨
    ∃ verb, Verb.parse r.method = .ok verb ∧ verb ≠ .ws ∧ server.dispatch s limit r =
      Option.map Response.toMessage <$>
        server.serve s (.ofParts verb r.pathAndQuery r.headers r.body none) := by
  unfold dispatch
  cases hp : Verb.parse r.method with
  | error e => exact .inl ⟨some (.plain 405 e.message), rfl⟩
  | ok verb =>
    by_cases hw : verb = .ws
    · subst hw
      exact .inl ⟨some <| .plain 405 "WS is only reachable by upgrade", rfl⟩
    · by_cases long : limit < r.body.size
      · refine .inl ⟨some (.plain 413 "failed to read body: length limit exceeded"), ?_⟩
        simp only [long, ↓reduceIte]
      · refine .inr ⟨verb, rfl, hw, ?_⟩
        unfold serve
        simp only [long, ↓reduceIte, map_eq_pure_bind]
        cases procedurePath? server.procedureRoot
            (Request.ofParts verb r.pathAndQuery r.headers r.body none).path with
        | none => rfl
        | some path => rfl

/-- What the shell makes of a request: it answers by itself, or serves a request of a verb that is
not the one of sockets. -/
theorem route_cases (r : WireRequest) :
    (∃ m, server.route s r = pure m) ∨
    ∃ verb, Verb.parse r.method = .ok verb ∧ verb ≠ .ws ∧ server.route s r =
      Option.map Response.toMessage <$>
        server.serve s (.ofParts verb r.pathAndQuery r.headers r.body none) := by
  unfold route
  dsimp only
  split
  · left
    split
    · exact ⟨_, rfl⟩
    · exact ⟨_, rfl⟩
  · split
    · exact .inl ⟨_, rfl⟩
    · exact server.dispatch_cases s _ r

theorem looksUpOnce_route (r : WireRequest) :
    LooksUpOnce server.engine.routes s.files (server.route s r) := by
  rcases server.route_cases s r with ⟨m, he⟩ | ⟨verb, -, -, he⟩
  · rw [he]
    exact (LeavesCaches.pure m).looksUpOnce
  · rw [he, map_eq_pure_bind]
    exact (server.looksUpOnce_serve s _).bind fun _ => .pure _

/-- Answering a request takes one lookup at most. -/
theorem looksUpOnce_respond (fresh : String) (r : WireRequest) :
    LooksUpOnce server.engine.routes s.files (server.respond s fresh r) :=
  (server.looksUpOnce_route s _).bind fun _ => .pure _

/-! ## Sockets -/

theorem leavesCaches_sendWaiting (n : Nat) (c : Connection) :
    LeavesCaches (σ := σ) (sendWaiting n c) := by
  induction n generalizing c with
  | zero => exact .pure c
  | succ n ih =>
    intro service
    unfold sendWaiting
    cases hr : service.hub.receive? c.channel with
    | none =>
      simp [hr]
      rfl
    | some taken =>
      obtain ⟨message, hub⟩ := taken
      have rest := ih { c with frames := c.frames ++ [.text message] } { service with hub }
      simpa [hr] using rest

theorem leavesCaches_flush (c : Connection) : LeavesCaches (σ := σ) (flush c) :=
  fun service => leavesCaches_sendWaiting _ c service

/-- Closing a socket leaves the caches alone. -/
theorem leavesCaches_closeSocket (c : Connection) : LeavesCaches (σ := σ) (closeSocket c) := by
  unfold closeSocket
  split
  · exact (Engine.leavesCaches_onHub _).bind fun _ => .pure _
  · exact .pure _

/-- Taking a message from a socket takes one lookup at most. -/
theorem looksUpOnce_takeMessage (c : Connection) (m : ClientMessage) :
    LooksUpOnce server.engine.routes s.files (server.takeMessage s c m) := by
  unfold takeMessage
  cases m with
  | text text =>
    dsimp only
    split
    · exact (leavesCaches_closeSocket c).looksUpOnce
    · refine (server.engine.looksUpOnce_handleMessage s _ _ _).bind fun reply => ?_
      cases reply with
      | none => exact leavesCaches_flush c
      | some reply => exact (Engine.leavesCaches_onHub _).bind fun _ => leavesCaches_flush c
  | binary data =>
    dsimp only
    split
    · exact (leavesCaches_closeSocket c).looksUpOnce
    · exact (LeavesCaches.pure _).looksUpOnce
  | ping data => exact (LeavesCaches.pure _).looksUpOnce
  | close => exact (leavesCaches_closeSocket c).looksUpOnce

/-- Opening a socket takes one lookup at most. -/
theorem looksUpOnce_openSocket (fresh : String) (r : WireRequest) :
    LooksUpOnce server.engine.routes s.files (server.openSocket s fresh r) := by
  unfold openSocket
  dsimp only
  split
  · split
    · exact (LeavesCaches.pure _).looksUpOnce
    · refine (server.engine.looksUpOnce_acceptsSocket s _).bind fun accepted => ?_
      split
      · exact (Engine.leavesCaches_onHub _).bind fun _ => .pure _
      · exact .pure _
  · exact (server.looksUpOnce_respond s fresh _).bind fun _ => .pure _

/-! ## Histories -/

/-- The states a service gets into, with the file systems there were when it was asked. Requests,
sockets and messages come in any order, and hub and application change in between as they like. -/
inductive Reached : List FileSystem → Service σ → Prop where
  | start (files routes : Nat) (hub : Hub σ) (world : σ) :
      Reached [] ⟨⟨.ofCapacity files, RouteCache.ofCapacity? routes⟩, hub, world⟩
  | respond {seen : List FileSystem} {service : Service σ} (before : Reached seen service)
      (s : Surroundings) (fresh : String) (r : WireRequest) :
      Reached (s.files :: seen) ((server.respond s fresh r).run service).2
  | openSocket {seen : List FileSystem} {service : Service σ} (before : Reached seen service)
      (s : Surroundings) (fresh : String) (r : WireRequest) :
      Reached (s.files :: seen) ((server.openSocket s fresh r).run service).2
  | takeMessage {seen : List FileSystem} {service : Service σ} (before : Reached seen service)
      (s : Surroundings) (c : Connection) (m : ClientMessage) :
      Reached (s.files :: seen) ((server.takeMessage s c m).run service).2
  | meanwhile {seen : List FileSystem} {service : Service σ} (before : Reached seen service)
      (hub : Hub σ) (world : σ) : Reached seen { service with hub, world }

variable {server}

/-- The caches of every state hold what was looked up on the way there, and nothing else. -/
theorem Reached.filled {seen : List FileSystem} {service : Service σ}
    (reached : server.Reached seen service) :
    ∃ looked ⊆ seen, server.engine.routes.Filled looked service.caches := by
  induction reached with
  | start files routes hub world => exact ⟨[], List.Subset.refl _, .empty files routes⟩
  | respond _ s fresh r ih => exact (server.looksUpOnce_respond s fresh r).filled ih
  | openSocket _ s fresh r ih => exact (server.looksUpOnce_openSocket s fresh r).filled ih
  | takeMessage _ s c m ih => exact (server.looksUpOnce_takeMessage s c m).filled ih
  | meanwhile _ hub world ih => exact ih

/-- **A plain request selects no route of the verb of sockets.** Whatever its method, headers and
path, the shell answers a request by itself, or serves one of another verb. That is answered by the
action looked up for its verb and path, and the lookup selects what the routes without those of
sockets lead to, now or when the same was looked up before. -/
theorem Reached.selects_no_socket_route {seen : List FileSystem} {service : Service σ}
    (reached : server.Reached seen service) (s : Surroundings) (r : WireRequest) :
    (∀ fs path files, ((server.engine.routes.without .ws).resolve fs .ws path files).1 = .nothing) ∧
    ((∃ m, server.route s r = pure m) ∨
      ∃ verb request, Verb.parse r.method = .ok verb ∧
        request = Request.ofParts verb r.pathAndQuery r.headers r.body none ∧ request.verb ≠ .ws ∧
        server.route s r = Option.map Response.toMessage <$> server.serve s request ∧
        server.engine.handle s request =
          (server.engine.route s request.verb request.path >>= server.engine.carryOut s request) ∧
        (server.engine.routes.without .ws).Finds (s.files :: seen) request.verb request.path
          ((server.engine.route s request.verb request.path).run service).1) := by
  refine ⟨fun fs path files => by rw [Routes.resolve_without_self], ?_⟩
  rcases server.route_cases s r with shell | ⟨verb, parsed, hv, served⟩
  · exact .inl shell
  · right
    have plain := Request.ofParts_verb_ne hv r.pathAndQuery r.headers r.body none
    obtain ⟨looked, hl, filled⟩ := reached.filled
    have selected := filled.route_without plain s.files
      (Request.ofParts verb r.pathAndQuery r.headers r.body none).path
    exact ⟨verb, _, parsed, rfl, plain, served, server.engine.handle_eq s _,
      selected.mono (List.cons_subset_cons _ hl)⟩

/-- A server with a route of sockets and a plain one on the same path. -/
def chat : Server Unit where
  engine := {
    routes := { statics := { statuses := [((.ws, "/chat"), 200), ((.get, "/chat"), 403)] } }
    procedures := {}
    dispatcher := {}
    page := .plain
    parameterNamesHeader := "x-names" }
  procedureRoot := "/rpc"
  socketRoot := "/ws"
  maxBodySize := 1024
  maxMessageSize := 1024

/-- A request with a header that asks for the verb of sockets. -/
def overriding : WireRequest where
  method := "GET"
  target := "/chat"
  headers := ({} : Headers).setText "x-http-method-override" "ws"

/-- A message came in on the path, so that its route is kept, and then a request asks for the
verb of sockets by a header. -/
theorem Reached.selects_no_socket_route_override :
    ∃ service, chat.Reached [{}] service ∧
      ((∃ m, chat.route { files := {}, now := 0 } overriding = pure m) ∨
        ∃ request : Request, request.verb ≠ .ws ∧
          (chat.engine.routes.without .ws).Finds [{}, {}] request.verb request.path
            ((chat.engine.route { files := {}, now := 0 } request.verb request.path).run
              service).1) := by
  have fresh : chat.Reached [] ⟨_, {}, ()⟩ := .start 4 4 {} ()
  have opened := fresh.takeMessage { files := {}, now := 0 }
    { path := "/chat", channel := 0, handshake := default } (.text "hello")
  refine ⟨_, opened, ?_⟩
  rcases (opened.selects_no_socket_route { files := {}, now := 0 } overriding).2 with
    shell | ⟨_, request, -, -, plain, -, -, selected⟩
  · exact .inl shell
  · exact .inr ⟨request, plain, selected⟩

end Server

end Switchboard
