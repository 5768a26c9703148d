import Switchboard.Proofs.Answer.Parts
import Switchboard.Proofs.Call.PathVariables

/-!
# What arguments are bound from

A handler under a route takes the values of its arguments from the path and from the parameters of
the request. What the path has in the place of a name goes before any parameter of that name, so a
client cannot put another value in its place; all other names have what the request has for them
(`Supplies`). Path and parameters are read where the arguments are bound, and this is when the
aspects before the handler have run (`Lifecycle.Served.binding_mem_iff`).
-/

namespace Switchboard

variable {σ : Type}

/-! ## When a binding is called -/

namespace Lifecycle

variable {kind : AspectKind} {l : List (Aspect σ)} {x y z : Exchange σ}
  {calls first : List (CallEvent σ)} {h : Handler σ} {bind : Binding σ} {request : Request}
  {world : σ}

/-- Aspects that pass leave one exchange. -/
theorem Passed.unique (t : Passed kind l x calls y) (t' : Passed kind l x first z) : y = z := by
  have same := t.runs.plain
  rw [t'.runs.plain] at same
  exact (Prod.mk.inj same).2.symm

theorem Stopped.not_passed {e : Failure} (t : Stopped kind l x calls e y) :
    ¬ Passed kind l x first z := by
  intro passed
  have same := t.runs.plain
  rw [passed.runs.plain] at same
  cases same

/-- The exchange that the aspects before a handler leave, if all of them pass. -/
def Reaches (h : Handler σ) (x y : Exchange σ) : Prop :=
  ∃ first, Passed .before h.aspects.before x first y

theorem Attempted.binding_mem_iff {found : Except Failure Outcome}
    (t : Attempted h bind x calls found y) :
    .binding request world ∈ calls ↔
      ∃ z, Reaches h x z ∧ z.request = request ∧ z.world = world := by
  have reached {calls : List (CallEvent σ)} {z : Exchange σ}
      (before : Passed .before h.aspects.before x calls z) :
      (∃ w, Reaches h x w ∧ w.request = request ∧ w.world = world) ↔
        z.request = request ∧ z.world = world := by
    constructor
    · rintro ⟨w, ⟨first, passed⟩, there⟩
      rwa [before.unique passed]
    · intro there
      exact ⟨z, ⟨calls, before⟩, there⟩
  cases t with
  | beforeFails before =>
    constructor
    · intro called
      exact absurd called (before.allAspects.binding_notMem request world)
    · rintro ⟨z, ⟨first, passed⟩, -⟩
      exact absurd passed before.not_passed
  | bindingFails before | handlerFails before =>
    rw [reached before]
    simp [Binding.event, before.allAspects.binding_notMem, eq_comm]
  | afterFails before _ _ after | succeeds before _ _ after =>
    rw [reached before]
    simp [Binding.event, before.allAspects.binding_notMem, after.allAspects.binding_notMem, eq_comm]

/-- **A binding is called once the aspects before the handler have passed**, on what they left. -/
theorem Served.binding_mem_iff {result : Except Failure Outcome}
    (t : Served h bind x calls result y) :
    .binding request world ∈ calls ↔
      ∃ z, Reaches h x z ∧ z.request = request ∧ z.world = world := by
  obtain ⟨attempted, recovered, ensured⟩ := t
  simp [attempted.binding_mem_iff, recovered.allAspects.binding_notMem,
    ensured.allAspects.binding_notMem]

end Lifecycle

/-! ## The raw values -/

/-- Raw values for a request under a pattern: what the path has for a name, and what the request has
for all other names. -/
structure Supplies (pattern : String) (request : Request) (values : Dictionary (List String)) :
    Prop where
  ofPath {name segment : String} {i : Nat} (at_ : NamesAt pattern request.path name i segment)
    (last : ∀ j other, NamesAt pattern request.path name j other → j ≤ i) :
    values.get? name = some [segment]
  ofRequest {name : String} (none : ∀ i segment, ¬ NamesAt pattern request.path name i segment) :
    values.get? name = request.params.get? name

/-- There is one way to supply values. -/
theorem Supplies.get?_eq {pattern : String} {request : Request}
    {values other : Dictionary (List String)} (h : Supplies pattern request values)
    (h' : Supplies pattern request other) (name : String) : values.get? name = other.get? name := by
  by_cases named : ∃ i segment, NamesAt pattern request.path name i segment
  · obtain ⟨i, segment, at_, last⟩ := exists_last named
    rw [h.ofPath at_ last, h'.ofPath at_ last]
  · have none : ∀ i segment, ¬ NamesAt pattern request.path name i segment := by
      simpa using named
    rw [h.ofRequest none, h'.ofRequest none]

namespace Dispatcher

open Lifecycle

theorem get?_rawValues (h : Handler σ) (request : Request) (name : String) :
    (rawValues h request).get? name =
      ((pathVariables h.pattern request.path).get? name).or (request.params.get? name) :=
  (Dictionary.sorted_ofPairs _).get?_foldl_put request.params name

theorem supplies_rawValues (h : Handler σ) (request : Request) :
    Supplies h.pattern request (rawValues h request) where
  ofPath at_ last := by
    rw [get?_rawValues, get?_pathVariables_of_last at_ last]
    rfl
  ofRequest none := by
    rw [get?_rawValues, get?_pathVariables_of_none none]
    rfl

/-- The binding of a handler under its route. -/
def binding (d : Dispatcher) (h : Handler σ) : Binding σ :=
  .reading fun request => d.bindArguments h request (rawValues h request)

/-- The arguments that were bound, or the failure that a refusal is. -/
def given : Except Refusal (List Value × Checks) → Except Failure (List Value)
  | .ok (args, _) => .ok args
  | .error refusal => .error (.refused refusal)

theorem answer_binding (d : Dispatcher) (h : Handler σ) (z : Exchange σ) :
    (d.binding h).answer z =
      (given (d.binders.bindArguments z.request h.params (rawValues h z.request) none), z) := by
  change (d.bindArguments h z.request (rawValues h z.request), z) = _
  unfold bindArguments
  split
  · next bound =>
    rw [bound]
    rfl
  · next bound =>
    rw [bound]
    rfl

/-- **Arguments are bound from the path as the aspects left it.** A handler under its route is
called in a course whose binding is called just if the aspects before the handler pass, on the
request that they leave. What it is given there is what the binders make of the raw values, and these
are what the path of that request has in place of the names of the pattern, whatever the request has
for them, and what the request has for other names. Whatever other values were of that kind, the
binders would make the same of them: for each parameter the value of what they have for its name. -/
theorem arguments_from_path (d : Dispatcher) (h : Handler σ) (x : Exchange σ) :
    d.invoke h = execute h (d.binding h) ∧
      SameNoted (d.invoke h) (execute h.recorded (d.binding h).recorded) x ∧
      (∀ request world,
        .binding request world ∈ callsFrom (execute h.recorded (d.binding h).recorded) x ↔
          ∃ z, Reaches h x z ∧ z.request = request ∧ z.world = world) ∧
      ∀ z, (d.binding h).answer z =
          (given (d.binders.bindArguments z.request h.params (rawValues h z.request) none), z) ∧
        Supplies h.pattern z.request (rawValues h z.request) ∧
        ∀ values, Supplies h.pattern z.request values →
          (∀ name, values.get? name = (rawValues h z.request).get? name) ∧
          d.binders.bindArguments z.request h.params values none =
            d.binders.bindArguments z.request h.params (rawValues h z.request) none ∧
          ∀ args, (d.binding h).answer z = (.ok args, z) →
            args = h.params.map (d.binders.valueOf { request := z.request } values) := by
  obtain ⟨calls, result, y, served⟩ := exists_served h (d.binding h) x
  refine ⟨rfl, served.runs.sameNoted, ?_, ?_⟩
  · intro request world
    rw [served.runs.callsFrom_eq]
    exact served.binding_mem_iff
  · intro z
    have supplied := supplies_rawValues h z.request
    refine ⟨d.answer_binding h z, supplied, fun values other => ?_⟩
    have same := other.get?_eq supplied
    have bound : d.binders.bindArguments z.request h.params values none =
        d.binders.bindArguments z.request h.params (rawValues h z.request) none :=
      BindManager.bindArguments_congr same
    refine ⟨same, bound, fun args told => ?_⟩
    obtain ⟨checks, made⟩ := bindArguments_eq_ok (congrArg Prod.fst told)
    exact ((d.binders.judgesInOrder _ _ _ _).ok args checks (bound.trans made)).1

/-- An aspect that leads all calls to one path. -/
def toOrder : Aspect Unit where
  owner := "Orders"
  method := "toOrder"
  kind := .before
  body := fun _ _ => do
    modify fun x => { x with request := { x.request with path := "/orders//7/8" } }
    return { model := .empty }

/-- A handler behind it that has one name twice in its pattern, and another behind the last segment
of that path. -/
def order : Handler Unit where
  type := "Orders"
  method := "show"
  verb := .get
  pattern := "/orders/\x7bid\x7d/\x7bid\x7d/\x7btab\x7d"
  params := [{ name := "id", type := .scalar (.whole .int) }]
  aspects := { before := [toOrder] }
  body := fun _ _ => return { model := .empty }

/-- A call with a parameter of each name. -/
def tampered : Exchange Unit :=
  ⟨{ verb := .get, path := "/", params := [("id", ["1"]), ("tab", ["notes"])] }, {}, ()⟩

/-- The call as the aspect leaves it. -/
def ordered : Exchange Unit :=
  { tampered with request := { tampered.request with path := "/orders//7/8" } }

/-- The path decides on the name that it has, though the call has a parameter of that name, and so
the handler is given what the path has. -/
theorem arguments_from_path_order :
    .binding ordered.request () ∈
        callsFrom (execute order.recorded (({} : Dispatcher).binding order).recorded) tampered ∧
      (rawValues order ordered.request).get? "id" = some ["8"] ∧
      (rawValues order ordered.request).get? "tab" = some ["notes"] ∧
      (({} : Dispatcher).binding order).answer ordered =
        (.ok [.whole .int 8], ordered) := by
  obtain ⟨-, -, called, bound⟩ := arguments_from_path {} order tampered
  obtain ⟨answered, supplied, -⟩ := bound ordered
  have pattern : Text.segments '/' order.pattern =
      ["orders", inBraces "id", inBraces "id", inBraces "tab"] := by rfl
  have path : Text.segments '/' ordered.request.path = ["orders", "7", "8"] := by rfl
  have passed : Passed .before order.aspects.before tampered _ ordered :=
    .cons (y := ordered) rfl .nil
  refine ⟨(called _ _).2 ⟨ordered, ⟨_, passed⟩, rfl, rfl⟩, ?_, ?_, ?_⟩
  · have named : placeholder? (inBraces "id") = some "id" := by rfl
    have at_ : NamesAt order.pattern ordered.request.path "id" 2 "8" := by
      refine ⟨(placeholder?_eq_some_iff.1 named).2, ?_, ?_⟩
      · rw [pattern]
        rfl
      · rw [path]
        rfl
    refine supplied.ofPath at_ ?_
    intro j other there
    have short := (List.getElem?_eq_some_iff.1 there.there).1
    rw [path] at short
    exact Nat.le_of_lt_succ short
  · refine supplied.ofRequest ?_
    intro i segment there
    have own := there.own
    have short := (List.getElem?_eq_some_iff.1 there.there).1
    rw [pattern] at own
    rw [path] at short
    match i, own, short with
    | 0, own, _ | 1, own, _ | 2, own, _ => exact absurd own (by decide)
  · rw [answered]
    rfl

end Dispatcher

end Switchboard
