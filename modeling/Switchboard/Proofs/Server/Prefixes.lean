import Switchboard.Config.Validation
import Switchboard.Proofs.Http.Request
import Switchboard.Proofs.Text.Split
import Switchboard.Server.Shell

/-!
# Two prefixes

Sockets are below one prefix and procedures below the other. Valid settings have two that differ, but
one may lie below the other, and then the sockets have what both are in front of: a call of a
procedure there is answered as a request that opens no socket should be (`Server.route_of_captured`).
Apart from that every call within the limit of its body reaches its procedure
(`Server.route_of_free`).

The prefix of sockets goes into a route of the router, which reads some signs as its own. So it is
asked for that the router takes the prefix as it is written (`Server.IsLiteral`); the prefix of
procedures is only compared.
-/

namespace Switchboard

/-- Is a path that of another, with a slash and more behind it? -/
def IsBelow (path upper : String) : Prop := ∃ rest, path = upper ++ "/" ++ rest

/-- Two prefixes that are in front of one path are nested. -/
theorem isBelow_of_common {a b p rest : String} (ne : a ≠ b) (slash : Text.startsWith "/" p = true)
    (common : a ++ p = b ++ "/" ++ rest) : IsBelow a b ∨ IsBelow b a := by
  obtain ⟨tail, begins⟩ := List.isPrefixOf_iff_prefix.1 slash
  have common : a.toList ++ p.toList = b.toList ++ ("/".toList ++ rest.toList) := by
    rw [← String.toList_append, ← String.toList_append, ← String.toList_append, common,
      String.append_assoc]
  have below {x y : String} {c : Char} {cs more more' : List Char} (first : '/' :: more = c :: more')
      (longer : x.toList = y.toList ++ c :: cs) : IsBelow x y := by
    obtain ⟨rfl, -⟩ := List.cons.inj first
    refine ⟨String.ofList cs, ?_⟩
    rw [← String.toList_inj, longer, String.toList_append, String.toList_append, String.toList_ofList]
    simp
  rcases List.append_eq_append_iff.1 common with ⟨cs, longer, hp⟩ | ⟨cs, longer, hp⟩
  · cases cs with
    | nil =>
      rw [List.append_nil, String.toList_inj] at longer
      exact absurd longer.symm ne
    | cons c cs =>
      rw [← begins] at hp
      exact .inr (below hp longer)
  · cases cs with
    | nil =>
      rw [List.append_nil, String.toList_inj] at longer
      exact absurd longer ne
    | cons c cs => exact .inl (below hp longer)

/-! ## Valid prefixes -/

namespace Settings

theorem problemUnless_eq_nil_iff {holds : Bool} {field : String} {problem : SettingProblem} :
    problemUnless holds field problem = [] ↔ holds = true := by
  unfold problemUnless
  cases holds <;> simp

/-- Settings without problems have two prefixes of paths, which differ. -/
theorem prefixes_of_valid {s : Settings} (valid : s.problems = []) :
    isPathPrefix s.rpc.pathPrefix = true ∧ isPathPrefix s.socket.pathPrefix = true ∧
      s.rpc.pathPrefix ≠ s.socket.pathPrefix := by
  unfold problems at valid
  simp only [List.append_eq_nil_iff, problemUnless_eq_nil_iff, decide_eq_true_eq] at valid
  obtain ⟨⟨⟨⟨⟨⟨⟨⟨⟨-, rpc⟩, socket⟩, other⟩, -⟩, -⟩, -⟩, -⟩, -⟩, -⟩ := valid
  exact ⟨rpc, socket, other⟩

/-- A prefix ends as it is written. -/
theorem trimEndOf_of_isPathPrefix {s : String} (valid : isPathPrefix s = true) :
    Text.trimEndOf '/' s = s := by
  unfold isPathPrefix at valid
  simp only [Bool.and_eq_true, Bool.not_eq_true'] at valid
  exact Text.trimEndOf_eq_self valid.2

end Settings

/-! ## Paths behind the prefixes -/

theorem procedurePath?_append (start : String) {p : String} (slash : Text.startsWith "/" p = true) :
    procedurePath? start (start ++ p) = some p := by
  unfold procedurePath?
  rw [Text.after?_eq_some.2 rfl, Option.filter_some, if_pos slash]

/-- The paths that the socket route captures, and what it captures of them. -/
theorem socketPath?_eq_some {start path rest : String} :
    socketPath? start path = some rest ↔ path = start ++ "/" ++ rest ∧ rest ≠ "" := by
  unfold socketPath?
  rw [Option.filter_eq_some_iff, Text.after?_eq_some, decide_eq_true_eq]

namespace WireRequest

/-- The engine reads the path that the shell does. -/
theorem path_ofParts {r : WireRequest} (some : r.path ≠ "") (verb : Verb) (headers : Headers)
    (body : ByteArray) (remote : Option String) :
    (Request.ofParts verb r.pathAndQuery headers body remote).path = r.path := by
  rw [Request.path_ofParts]
  unfold path at some ⊢
  unfold Request.ofUri
  cases cut : Text.cut? '?' r.pathAndQuery with
  | none =>
    rw [cut] at some
    dsimp only at some ⊢
    rw [if_neg some]
  | some parts =>
    rw [cut] at some
    dsimp only at some ⊢
    rw [Request.addForm_frame]
    dsimp only
    rw [if_neg some]

/-- The body is no longer than it says and no longer than bodies may be. -/
structure Fits (limit : Nat) (r : WireRequest) : Prop where
  declared : ∀ n ∈ r.declaredLength?, n ≤ limit ∧ r.body.size ≤ n
  short : r.body.size ≤ limit

end WireRequest

namespace Server

variable {σ : Type}

/-- A prefix that a router takes as it is written: there is no brace, which would belong to a capture,
and no segment begins with a sign that the router refuses there. -/
structure IsLiteral (start : String) : Prop where
  opening : '\x7b' ∉ start.toList
  closing : '\x7d' ∉ start.toList
  segments : ∀ segment ∈ Text.splitOn '/' start,
    segment.toList.head? ≠ some ':' ∧ segment.toList.head? ≠ some '*'

/-- What answers a request that is neither `GET` nor `HEAD` where the sockets are. -/
def notServed : Message :=
  ({ status := 405, headers := {}, body := ByteArray.empty } : Message).withHeader "allow"
    "GET,HEAD".toUTF8

/-- Hands a call of a procedure to the engine. -/
def callProcedure (engine : Engine σ) (p : String) (r : WireRequest) :
    StateM (Service σ) (Option Message) :=
  (fun response => some response.toMessage) <$>
    engine.handleCall p (.ofParts .post r.pathAndQuery r.headers r.body none)

section Post

variable {server : Server σ} {surroundings : Surroundings} {r : WireRequest}
  (post : r.method = "POST")

theorem not_tooLong {limit : Nat} (fits : r.Fits limit) :
    r.declaredLength?.any (limit < ·) = false := by
  rw [Option.any_eq_false]
  intro n hn
  simpa using (fits.declared n hn).1

include post

theorem refuseSocket_post :
    refuseSocket r = { status := 405, headers := {}, body := ByteArray.empty } := by
  unfold refuseSocket
  rw [post]
  rfl

/-- A post that the socket route captures is refused. -/
theorem route_of_captured {rest : String} (captured : socketPath? server.socketRoot r.path = some rest)
    (fits : r.Fits server.maxBodySize) :
    server.route surroundings r = pure (some notServed) := by
  unfold route
  simp only [captured, not_tooLong fits, refuseSocket_post post, post]
  rfl

theorem dispatch_post (limit : Nat) {p : String} (path : r.path = server.procedureRoot ++ p)
    (slash : Text.startsWith "/" p = true) :
    server.dispatch surroundings limit r =
      if limit < r.body.size then
        pure (some (.plain 413 "failed to read body: length limit exceeded"))
      else callProcedure server.engine p r := by
  have some : r.path ≠ "" := by
    intro empty
    rw [empty] at path
    have none : p = "" := by
      have both := congrArg String.toList path
      simp only [String.toList_append] at both
      exact String.toList_inj.1 (List.append_eq_nil_iff.1 both.symm).2
    rw [none] at slash
    cases slash
  unfold dispatch
  rw [post]
  change (if limit < r.body.size then _ else _) = _
  split
  · rfl
  · dsimp only
    rw [WireRequest.path_ofParts some, path, procedurePath?_append _ slash]
    rfl

/-- A post behind the other prefix is a call, where no socket route captures it. -/
theorem route_of_free {p : String} (path : r.path = server.procedureRoot ++ p)
    (slash : Text.startsWith "/" p = true) (free : socketPath? server.socketRoot r.path = none) :
    (r.Fits server.maxBodySize →
      server.route surroundings r = callProcedure server.engine p r) ∧
    (¬ r.Fits server.maxBodySize →
      ∃ text, server.route surroundings r = pure (some (.plain 413 text))) := by
  constructor
  · intro fits
    have within :
        ¬ min server.maxBodySize (r.declaredLength?.getD server.maxBodySize) < r.body.size := by
      have short := fits.short
      cases told : r.declaredLength? with
      | none => simpa using short
      | some n =>
        have own := (fits.declared n told).2
        rw [Option.getD_some]
        omega
    unfold route
    simp only [free, not_tooLong fits]
    rw [dispatch_post post _ path slash, if_neg within]
    rfl
  · intro long
    unfold route
    simp only [free]
    split
    · exact ⟨_, rfl⟩
    · next within =>
      rw [dispatch_post post _ path slash]
      refine ⟨_, if_pos ?_⟩
      by_contra short
      refine long ⟨fun n hn => ?_, by omega⟩
      rw [hn] at within short
      simp only [Option.any_some, decide_eq_true_eq] at within
      rw [Option.getD_some] at short
      omega

end Post

/-- **Calls reach their procedures, if the sockets do not have their path.** Where the prefix of the
sockets is taken as it is written, they cannot have it unless one prefix lies below the other, which
valid settings allow. -/
theorem posts_reach_procedures {s : Settings} (valid : s.problems = [])
    (_literal : IsLiteral s.socket.pathPrefix) (engine : Engine σ)
    (surroundings : Surroundings) {r : WireRequest} {p : String} (post : r.method = "POST")
    (path : r.path = s.rpc.pathPrefix ++ p) (slash : Text.startsWith "/" p = true) :
    (¬ IsBelow s.rpc.pathPrefix s.socket.pathPrefix ∧
        ¬ IsBelow s.socket.pathPrefix s.rpc.pathPrefix →
      socketPath? s.socket.pathPrefix r.path = none) ∧
    (socketPath? s.socket.pathPrefix r.path = none →
      (r.Fits s.listener.maxBodySize →
        (ofSettings engine s).route surroundings r = callProcedure engine p r) ∧
      (¬ r.Fits s.listener.maxBodySize →
        ∃ text, (ofSettings engine s).route surroundings r = pure (some (.plain 413 text)))) ∧
    ∀ rest, socketPath? s.socket.pathPrefix r.path = some rest → r.Fits s.listener.maxBodySize →
      (ofSettings engine s).route surroundings r = pure (some notServed) := by
  obtain ⟨rpc, socket, other⟩ := Settings.prefixes_of_valid valid
  have procedures : (ofSettings engine s).procedureRoot = s.rpc.pathPrefix :=
    Settings.trimEndOf_of_isPathPrefix rpc
  have sockets : (ofSettings engine s).socketRoot = s.socket.pathPrefix :=
    Settings.trimEndOf_of_isPathPrefix socket
  rw [← sockets]
  refine ⟨fun apart => ?_, fun free => ?_, fun rest captured fits => ?_⟩
  · rw [Option.eq_none_iff_forall_ne_some]
    intro rest captured
    rw [sockets] at captured apart
    have common := path.symm.trans (socketPath?_eq_some.1 captured).1
    rcases isBelow_of_common other slash common with below | below
    · exact apart.1 below
    · exact apart.2 below
  · exact route_of_free post (procedures ▸ path) slash free
  · exact route_of_captured post captured fits

/-- An engine without routes and procedures. -/
def bare : Engine Unit where
  routes := {}
  procedures := {}
  dispatcher := {}
  page := .plain
  parameterNamesHeader := "x-names"

/-- A call on the wire. -/
def callOf (target : String) : WireRequest where
  method := "POST"
  target := target

/-- A call that goes to its procedure, even if there is none. -/
theorem posts_reach_procedures_default :
    (ofSettings bare {}).route { files := {}, now := 0 } (callOf "/rpc/calc/add") =
      callProcedure bare "/calc/add" (callOf "/rpc/calc/add") := by
  have free : socketPath? ({} : Settings).socket.pathPrefix (callOf "/rpc/calc/add").path = none := by
    decide +kernel
  have fits : (callOf "/rpc/calc/add").Fits ({} : Settings).listener.maxBodySize :=
    ⟨by decide +kernel, by decide +kernel⟩
  have literal : IsLiteral ({} : Settings).socket.pathPrefix :=
    ⟨by decide +kernel, by decide +kernel, by decide +kernel⟩
  have rules := posts_reach_procedures (s := {}) (by decide +kernel) literal bare
    { files := {}, now := 0 } (r := callOf "/rpc/calc/add") (p := "/calc/add") rfl
    (by decide +kernel) (by decide +kernel)
  exact (rules.2.1 free).1 fits

/-- Not every call reaches its procedure: the sockets have the paths below their prefix, procedures or
not, though the prefix is taken as it is written. -/
theorem not_forall_posts_reach_procedures :
    ¬ ∀ (s : Settings) (engine : Engine Unit) (surroundings : Surroundings) (r : WireRequest)
        (p : String), s.problems = [] → IsLiteral s.socket.pathPrefix → r.method = "POST" →
        r.path = s.rpc.pathPrefix ++ p → Text.startsWith "/" p = true →
        r.Fits s.listener.maxBodySize →
        (ofSettings engine s).route surroundings r = callProcedure engine p r := by
  intro reach
  have reached := reach { rpc := { pathPrefix := "/ws/rpc" } } bare { files := {}, now := 0 }
    (callOf "/ws/rpc/calc/add") "/calc/add" (by decide +kernel)
    ⟨by decide +kernel, by decide +kernel, by decide +kernel⟩ rfl
    (by decide +kernel) (by decide +kernel) ⟨by decide +kernel, by decide +kernel⟩
  have statuses := congrArg
    (fun answer => ((answer.run ⟨⟨.ofCapacity 0, none⟩, {}, ()⟩).1.map (·.status))) reached
  revert statuses
  decide +kernel

end Server

end Switchboard
