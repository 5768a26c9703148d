import Switchboard.Proofs.Answer.Invocation
import Switchboard.Proofs.Bind.Shape
import Switchboard.Proofs.Rpc.Arguments

/-!
# Parts of the call among the arguments

A handler may ask for parts of its call: the session, the body, the files, the parameters. Under a
route it is given them as the aspects before it left the request, for its arguments are bound behind
these aspects. As a procedure it is given them as the request came in: `Dispatcher.callProcedure`
makes the arguments first and the aspects run on the way to the handler. Both ways lead to the
handler with the same exchange, so what it is given differs just where the aspects change what it
asks for (`Dispatcher.parts_of_calls`).

The calls of a course are read off its twin on a handler that notes them (`callsFrom`). What a course
with a reading binding calls the handler with is settled by `Lifecycle.handler_mem_callsFrom`, for
both ways at once.
-/

namespace Switchboard

variable {σ : Type}

/-! ## The parts of a request -/

/-- Each argument for a part of the call is that part of a request. -/
def PartsOf (request : Request) (params : List Parameter) (args : List Value) : Prop :=
  ∀ (i : Nat) (p : Parameter) (kind : ContextKind), params[i]? = some p → p.type = .context kind →
    args[i]? = some (Binder.contextValue { request } kind)

theorem Binder.contextValue_param (request : Request) (param : Option Parameter)
    (kind : ContextKind) :
    contextValue { request, param } kind = contextValue { request } kind := by
  cases kind <;> rfl

/-- The arguments of a resolved procedure are parts of the request where a part is asked for. -/
theorem RpcMatch.partsOf_arguments (found : RpcMatch σ) (request : Request) :
    PartsOf request found.handler.params (found.arguments request) := by
  intro i p kind hp part
  rw [getElem?_arguments, hp, Option.map_some, argument_context part, Binder.contextValue_param]

namespace BindManager

variable {m : BindManager} {request : Request} {values : Dictionary (List String)} {p : Parameter}
  {kind : ContextKind}

/-- Parts of the call are bound as parts of the call. -/
def BindsParts (m : BindManager) : Prop :=
  ∀ kind, m.findBinder (.context kind) = some .context

theorem bindsParts_of_binders (hm : m.binders = builtin.binders) : m.BindsParts := by
  intro kind
  rw [binders_builtin] at hm
  obtain ⟨t, b, provided, takes⟩ := exists_provided (.context kind)
  rw [← mem_builtinBinders_iff, ← hm] at provided
  obtain ⟨found, hf⟩ := exists_findBinder provided takes
  obtain ⟨u, among, takes⟩ := mem_of_findBinder hf
  rw [hm, mem_builtinBinders_iff] at among
  rw [hf]
  cases among with
  | context => rfl
  | scalar | boxed | text | upload => cases takes

theorem valueOf_context (hm : m.BindsParts) (type : p.type = .context kind)
    (direct : p.convertTo = none) :
    m.valueOf { request } values p = Binder.contextValue { request } kind := by
  have target : p.bindType = .context kind := by
    rw [Parameter.bindType, direct, type]
    rfl
  have single : p.isArray = false := by
    rw [Parameter.isArray, type]
    rfl
  rw [valueOf, bind, single, if_neg Bool.false_ne_true, bindOne, target, hm kind]
  exact Binder.contextValue_param request (some p) kind

/-- Arguments that were bound are parts of the request where a part is asked for. -/
theorem partsOf_bindArguments (hm : m.BindsParts) {params : List Parameter}
    (direct : ∀ p ∈ params, p.isContext = true → p.convertTo = none) {args : List Value}
    {checks : Checks} (given : m.bindArguments request params values none = .ok (args, checks)) :
    PartsOf request params args := by
  intro i p kind hp type
  have part : p.isContext = true := by
    rw [Parameter.isContext, type]
    rfl
  rw [((judgesInOrder m request params values none).ok args checks given).1, List.getElem?_map, hp,
    Option.map_some, valueOf_context hm type (direct p (List.mem_of_getElem? hp) part)]

end BindManager

/-! ## The calls of a course -/

namespace Lifecycle

section Calls

variable {α : Type} {m : Course σ α} {twin : Course (Recorded σ) α} {x y z : Exchange σ}
  {calls : List (CallEvent σ)} {result : Except Failure α}

/-- The calls that a course makes from an exchange, as its twin notes them. -/
def callsFrom (twin : Course (Recorded σ) α) (x : Exchange σ) : List (CallEvent σ) :=
  (twin.run.run (x.withCalls [])).2.world.2

/-- A course does the same whether its calls are noted or not. -/
def SameNoted (m : Course σ α) (twin : Course (Recorded σ) α) (x : Exchange σ) : Prop :=
  twin.run.run (x.withCalls []) =
    ((m.run.run x).1, (m.run.run x).2.withCalls (callsFrom twin x))

theorem Runs.callsFrom_eq (h : Runs m twin x calls result y) : callsFrom twin x = calls := by
  rw [callsFrom, h.noted []]
  rfl

theorem Runs.sameNoted (h : Runs m twin x calls result y) : SameNoted m twin x := by
  rw [SameNoted, h.callsFrom_eq, h.noted [], h.plain]
  rfl

end Calls

variable {h : Handler σ} {f : Request → Except Failure (List Value)} {x y : Exchange σ}
  {args : List Value}

/-- Behind the aspects before it, a handler whose arguments are given is called with them. -/
theorem Passed.exists_attempt {calls : List (CallEvent σ)}
    (before : Passed .before h.aspects.before x calls y) (given : f y.request = .ok args) :
    ∃ noted found z, Runs (attempt h (.reading f)) (attempt h.recorded (.reading f)) x noted found z ∧
      .handler args none y ∈ noted := by
  have step := Runs.reading given
  cases handler : (h.body args none).run.run y with
  | mk answer w =>
    have called := Runs.callHandler handler
    cases answer with
    | error fault =>
      refine ⟨_, _, w, before.runs.bind_ok (step.bind_ok called.bind_error), ?_⟩
      exact List.mem_append_right _ List.mem_cons_self
    | ok reply =>
      rcases passed_or_stopped .after h.aspects.after w with ⟨_, v, after⟩ | ⟨_, _, v, after⟩
      · refine ⟨_, _, v, before.runs.bind_ok (step.bind_ok (called.bind_ok after.runs.map)), ?_⟩
        exact List.mem_append_right _ List.mem_cons_self
      · refine ⟨_, _, v,
          before.runs.bind_ok (step.bind_ok (called.bind_ok after.runs.bind_error)), ?_⟩
        exact List.mem_append_right _ List.mem_cons_self

/-- **With what a handler is called**: just where the aspects before it pass, with the arguments
that the request gives as they left it. -/
theorem handler_mem_callsFrom {cause : Option Failure} :
    .handler args cause y ∈ callsFrom (execute h.recorded (.reading f)) x ↔
      cause = none ∧ f y.request = .ok args ∧
        ∃ first, Passed .before h.aspects.before x first y := by
  obtain ⟨calls, result, z, ran, called⟩ := exists_runs_reading h f x
  rw [ran.callsFrom_eq]
  constructor
  · exact called args cause y
  · rintro ⟨rfl, given, first, before⟩
    obtain ⟨noted, found, u, attempted, there⟩ := before.exists_attempt given
    obtain ⟨recovery, result, v, recovered⟩ := exists_recovered h u found
    obtain ⟨last, w, ensured⟩ := exists_ensured (failureOf? result) h.aspects.ensure v
    have whole := attempted.execute recovered ensured
    rw [← ran.callsFrom_eq, whole.callsFrom_eq]
    exact List.mem_append_left _ (List.mem_append_left _ there)

end Lifecycle

/-! ## Both ways to a handler -/

/-- The match of a payload with the handler that notes its calls. -/
def RpcMatch.recorded (found : RpcMatch σ) : RpcMatch (Recorded σ) :=
  ⟨found.handler.recorded, found.payload⟩

namespace Dispatcher

open Lifecycle

theorem runs_onResponse (step : Request → ExceptT Failure (StateM Response) Unit) (x : Exchange σ) :
    ∃ result y, Runs (onResponse step) (onResponse step) x [] result y := by
  refine ⟨_, _, rfl, fun log => ?_⟩
  rw [List.append_nil]
  rfl

/-- A procedure makes the calls of a course whose arguments are there before it begins. -/
theorem exists_runs_callProcedure (found : RpcMatch σ) (x : Exchange σ) :
    ∃ result y, Runs (callProcedure found) (callProcedure found.recorded) x
      (callsFrom
        (execute found.handler.recorded (.reading fun _ => .ok (found.arguments x.request))) x)
      result y := by
  obtain ⟨calls, result, y, ran, -⟩ :=
    exists_runs_reading found.handler (fun _ => .ok (found.arguments x.request)) x
  rw [ran.callsFrom_eq]
  -- the procedure looks at the exchange first, which is the same whether calls are noted or not
  cases result with
  | error e =>
    have whole := ran.bind_error (f := fun reply => onResponse (View.json reply.model))
      (k := fun reply => onResponse (View.json reply.model))
    exact ⟨.error e, y, whole.plain, whole.noted⟩
  | ok reply =>
    obtain ⟨result, z, rendered⟩ := runs_onResponse (View.json reply.model) y
    have whole := ran.bind_ok (f := fun reply => onResponse (View.json reply.model))
      (k := fun reply => onResponse (View.json reply.model)) rendered
    rw [List.append_nil] at whole
    exact ⟨result, z, whole.plain, whole.noted⟩

/-- A handler is called from an exchange just where the aspects before it pass, and with the
arguments that the exchange they leave gives. -/
def CallsHandler {α : Type} (h : Handler σ) (x : Exchange σ) (twin : Course (Recorded σ) α)
    (gives : Exchange σ → List Value → Prop) : Prop :=
  ∀ args cause y, .handler args cause y ∈ callsFrom twin x ↔
    cause = none ∧ gives y args ∧ ∃ first, Passed .before h.aspects.before x first y

/-- An action calls its handler with the arguments bound from the request of that moment. -/
theorem callsHandler_invoke (d : Dispatcher) (h : Handler σ) (x : Exchange σ) :
    CallsHandler h x (d.invoke h.recorded) fun y args =>
      d.bindArguments h y.request (rawValues h y.request) = .ok args := by
  intro args cause y
  exact handler_mem_callsFrom

/-- A procedure calls its handler with the arguments it was resolved with. -/
theorem callsHandler_callProcedure (found : RpcMatch σ) (x : Exchange σ) :
    CallsHandler found.handler x (callProcedure found.recorded) fun _ args =>
      args = found.arguments x.request := by
  intro args cause y
  obtain ⟨result, z, ran⟩ := exists_runs_callProcedure found x
  rw [ran.callsFrom_eq, handler_mem_callsFrom, Except.ok.injEq, eq_comm (b := args)]

/-- **Which request the parts of a call are read from.** A handler under a route is called, once the
aspects before it have passed, with the arguments that are bound from the request as they left it,
and the parts of the call among them are those of that request. As a procedure it is called where
the same aspects have passed, but with the parts of the request as it came in. A part is the same
both ways just if the aspects have not changed it. -/
theorem parts_of_calls {d : Dispatcher} (binds : d.binders.BindsParts) {found : RpcMatch σ}
    (direct : ∀ p ∈ found.handler.params, p.isContext = true → p.convertTo = none)
    (x : Exchange σ) :
    SameNoted (d.invoke found.handler) (d.invoke found.handler.recorded) x ∧
    SameNoted (callProcedure found) (callProcedure found.recorded) x ∧
    (CallsHandler found.handler x (d.invoke found.handler.recorded) fun y args =>
      d.bindArguments found.handler y.request (rawValues found.handler y.request) = .ok args) ∧
    (CallsHandler found.handler x (callProcedure found.recorded) fun _ args =>
      args = found.arguments x.request) ∧
    PartsOf x.request found.handler.params (found.arguments x.request) ∧
    ∀ request args,
      d.bindArguments found.handler request (rawValues found.handler request) = .ok args →
      PartsOf request found.handler.params args ∧
      ∀ (i : Nat) (p : Parameter) (kind : ContextKind), found.handler.params[i]? = some p →
        p.type = .context kind →
        ((found.arguments x.request)[i]? = args[i]? ↔
          Binder.contextValue { request := x.request } kind =
            Binder.contextValue { request } kind) := by
  obtain ⟨_, _, _, invoked, -⟩ := exists_runs_reading found.handler
    (fun request => d.bindArguments found.handler request (rawValues found.handler request)) x
  obtain ⟨_, _, called⟩ := exists_runs_callProcedure found x
  have early := found.partsOf_arguments x.request
  refine ⟨invoked.sameNoted, called.sameNoted, callsHandler_invoke d found.handler x,
    callsHandler_callProcedure found x, early, ?_⟩
  intro request args given
  obtain ⟨checks, bound⟩ := bindArguments_eq_ok given
  have late := BindManager.partsOf_bindArguments binds direct bound
  refine ⟨late, ?_⟩
  intro i p kind hp part
  rw [early i p kind hp part, late i p kind hp part, Option.some.injEq]

/-- An aspect that signs the caller in. -/
def signIn : Aspect Unit where
  owner := "Account"
  method := "signIn"
  kind := .before
  body := fun _ _ => do
    modify fun x => { x with
      request := x.request.attach Request.sessionKey (.text "ada") }
    return { model := .empty }

/-- A handler behind it that asks for the session. -/
def account : RpcMatch Unit where
  handler := {
    type := "Account"
    method := "show"
    verb := .post
    pattern := "/account"
    params := [.ofContext .session]
    aspects := { before := [signIn] }
    body := fun _ _ => return { model := .empty } }
  payload := .listed []

/-- A call from nobody. -/
def stranger : Exchange Unit := ⟨{ verb := .post, path := "/account" }, {}, ()⟩

/-- The call as the aspect leaves it. -/
def signedIn : Exchange Unit :=
  { stranger with request := stranger.request.attach Request.sessionKey (.text "ada") }

theorem passed_signIn :
    ∃ first, Passed .before account.handler.aspects.before stranger first signedIn :=
  ⟨_, .cons (y := signedIn) rfl .nil⟩

/-- Under its route the handler sees the session, as a procedure it does not. -/
theorem parts_of_calls_account :
    .handler [.context .session] none signedIn ∈
        callsFrom (({} : Dispatcher).invoke account.handler.recorded) stranger ∧
      .handler [.null] none signedIn ∈ callsFrom (callProcedure account.recorded) stranger ∧
      (account.arguments stranger.request)[0]? ≠ some (.context .session) := by
  have binds : BindManager.BindsParts ({} : Dispatcher).binders :=
    BindManager.bindsParts_of_binders rfl
  have direct : ∀ p ∈ account.handler.params, p.isContext = true → p.convertTo = none := by
    intro p hp _
    rw [List.mem_singleton.1 hp]
    rfl
  obtain ⟨-, -, routed, called, -, both⟩ := parts_of_calls binds direct stranger
  have bound : ({} : Dispatcher).bindArguments account.handler signedIn.request
      (rawValues account.handler signedIn.request) = .ok [.context .session] := by rfl
  have differs := ((both signedIn.request _ bound).2 0 _ .session rfl rfl).not.2 nofun
  exact ⟨(routed _ _ _).2 ⟨rfl, bound, passed_signIn⟩, (called _ _ _).2 ⟨rfl, rfl, passed_signIn⟩,
    differs⟩

/-- It is not so that a procedure is given the parts of the request as the aspects before it left
it. -/
theorem not_forall_parts_as_left :
    ¬ ∀ (found : RpcMatch Unit) (x y : Exchange Unit) (args : List Value) (cause : Option Failure),
      .handler args cause y ∈ callsFrom (callProcedure found.recorded) x →
        PartsOf y.request found.handler.params args := by
  intro h
  have called := (callsHandler_callProcedure account stranger _ none signedIn).2
    ⟨rfl, rfl, passed_signIn⟩
  have session := h account stranger signedIn _ none called 0 _ .session rfl rfl
  cases session

end Dispatcher

end Switchboard
