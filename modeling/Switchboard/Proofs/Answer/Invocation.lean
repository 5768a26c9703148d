import Switchboard.Answer.Dispatcher
import Switchboard.Proofs.Bind.Acceptance
import Switchboard.Proofs.Call.Course

/-!
# Calls of handlers

A dispatcher binds the arguments of a handler in the course of its call, when the aspects before it
have run. Only the handler's own step of the course calls it (`Lifecycle.Attempted.reading`): no
aspect and no rescue leads to it, and it is passed by where an aspect before it fails or a value is
refused. So whatever handler a course calls, its arguments were bound and accepted
(`Dispatcher.called_with_accepted`).

The calls are observed as in the course in general, on a handler that notes them. A binding that
only reads needs no twin that notes.
-/

namespace Switchboard

variable {σ : Type}

namespace Lifecycle

/-- No call is one of a handler. -/
def OnlyAspects (calls : List (CallEvent σ)) : Prop :=
  ∀ args cause z, .handler args cause z ∉ calls

/-- The handler is called, if at all, on an exchange as the aspects before it left it, and with the
arguments that its request gives. -/
def CalledWith (h : Handler σ) (f : Request → Except Failure (List Value)) (x : Exchange σ)
    (calls : List (CallEvent σ)) : Prop :=
  ∀ args cause z, .handler args cause z ∈ calls →
    cause = none ∧ f z.request = .ok args ∧
      ∃ first, Passed .before h.aspects.before x first z

/-! ## Which calls are not the handler's -/

/-- Every call is one of an aspect. -/
def AllAspects (calls : List (CallEvent σ)) : Prop :=
  ∀ e ∈ calls, ∃ kind a cause x, e = Aspect.event kind a cause x

theorem allAspects_nil : AllAspects ([] : List (CallEvent σ)) := fun _ hm =>
  absurd hm List.not_mem_nil

theorem allAspects_cons {kind : AspectKind} {a : Aspect σ} {cause : Option Failure}
    {x : Exchange σ} {calls : List (CallEvent σ)} (h : AllAspects calls) :
    AllAspects (a.event kind cause x :: calls) := by
  intro e hm
  rcases List.mem_cons.1 hm with rfl | hm
  · exact ⟨kind, a, cause, x, rfl⟩
  · exact h e hm

theorem AllAspects.append {calls later : List (CallEvent σ)} (h : AllAspects calls)
    (t : AllAspects later) : AllAspects (calls ++ later) := by
  intro e hm
  rcases List.mem_append.1 hm with hm | hm
  · exact h e hm
  · exact t e hm

variable {kind : AspectKind} {l : List (Aspect σ)} {x y z : Exchange σ}
  {calls : List (CallEvent σ)} {h : Handler σ}

/-- A call of an aspect is none of a handler. -/
theorem AllAspects.onlyAspects (all : AllAspects calls) : OnlyAspects calls := by
  intro args cause z hm
  obtain ⟨kind, a, _, _, other⟩ := all _ hm
  cases other

/-- A call of an aspect is none of a binding. -/
theorem AllAspects.binding_notMem (all : AllAspects calls) (request : Request) (world : σ) :
    .binding request world ∉ calls := by
  intro hm
  obtain ⟨kind, a, _, _, other⟩ := all _ hm
  cases other

theorem Passed.allAspects (t : Passed kind l x calls y) : AllAspects calls := by
  induction t with
  | nil => exact allAspects_nil
  | cons _ _ ih => exact allAspects_cons ih

theorem Stopped.allAspects {e : Failure} (t : Stopped kind l x calls e y) : AllAspects calls := by
  obtain ⟨-, passed, -⟩ := t
  exact passed.allAspects.append (allAspects_cons allAspects_nil)

theorem Recovered.allAspects {found result : Except Failure Outcome}
    (t : Recovered h x found calls result y) : AllAspects calls := by
  cases t with
  | unneeded => exact allAspects_nil
  | uncaught => exact allAspects_nil
  | rescued => exact allAspects_cons allAspects_nil
  | rescueFails => exact allAspects_cons allAspects_nil

theorem Ensured.allAspects {cause : Option Failure} (t : Ensured cause l x calls y) :
    AllAspects calls := by
  induction t with
  | nil => exact allAspects_nil
  | cons _ ih => exact allAspects_cons ih

/-! ## Which calls are -/

variable {f : Request → Except Failure (List Value)} {later : List (CallEvent σ)}

theorem CalledWith.of_allAspects (all : AllAspects calls) : CalledWith h f x calls :=
  fun args cause z hm => absurd hm (all.onlyAspects args cause z)

/-- Calls one after the other are those of both. -/
theorem CalledWith.append (first : CalledWith h f x calls) (last : CalledWith h f x later) :
    CalledWith h f x (calls ++ later) := by
  intro args cause z hm
  rcases List.mem_append.1 hm with hm | hm
  · exact first args cause z hm
  · exact last args cause z hm

/-- The one call of a handler has the arguments that were given. -/
theorem CalledWith.handler_cons {args : List Value}
    (before : Passed .before h.aspects.before x calls y) (given : f y.request = .ok args)
    (after : AllAspects later) : CalledWith h f x (.handler args none y :: later) := by
  intro args cause z hm
  rcases List.mem_cons.1 hm with he | hm
  · cases he
    exact ⟨rfl, given, calls, before⟩
  · exact absurd hm (after.onlyAspects args cause z)

/-! ## A binding that reads -/

/-- A binding that reads makes no call to note. -/
theorem Runs.reading {answer : Except Failure (List Value)} (given : f x.request = answer) :
    Runs (Lifecycle.callBinding (.reading f)) (Lifecycle.callBinding (.reading f)) x []
      answer x := by
  subst given
  refine ⟨rfl, fun log => ?_⟩
  rw [List.append_nil]
  rfl

/-- It leaves the exchange as it is. -/
theorem answer_reading_eq {answer : Except Failure (List Value)}
    (binding : (Binding.reading f : Binding σ).answer x = (answer, y)) :
    f x.request = answer ∧ y = x := by
  cases binding
  exact ⟨rfl, rfl⟩

/-- However an attempt goes, its handler is called with what its binding gave. -/
theorem Attempted.reading {found : Except Failure Outcome}
    (t : Attempted h (.reading f) x calls found y) :
    ∃ noted, Runs (attempt h (.reading f)) (attempt h.recorded (.reading f)) x noted found y ∧
      CalledWith h f x noted := by
  cases t with
  | beforeFails before => exact ⟨_, before.runs.bind_error, .of_allAspects before.allAspects⟩
  | bindingFails before binding =>
    obtain ⟨given, rfl⟩ := answer_reading_eq binding
    have step := Runs.reading given
    exact ⟨_, before.runs.bind_ok step.bind_error,
      .append (.of_allAspects before.allAspects) (.of_allAspects allAspects_nil)⟩
  | handlerFails before binding handler =>
    obtain ⟨given, rfl⟩ := answer_reading_eq binding
    have step := Runs.reading given
    exact ⟨_, before.runs.bind_ok (step.bind_ok (Runs.callHandler handler).bind_error),
      .append (.of_allAspects before.allAspects) (.handler_cons before given allAspects_nil)⟩
  | afterFails before binding handler after =>
    obtain ⟨given, rfl⟩ := answer_reading_eq binding
    have step := Runs.reading given
    exact ⟨_, before.runs.bind_ok
        (step.bind_ok ((Runs.callHandler handler).bind_ok after.runs.bind_error)),
      .append (.of_allAspects before.allAspects)
        (.handler_cons before given after.allAspects)⟩
  | succeeds before binding handler after =>
    obtain ⟨given, rfl⟩ := answer_reading_eq binding
    have step := Runs.reading given
    exact ⟨_, before.runs.bind_ok
        (step.bind_ok ((Runs.callHandler handler).bind_ok after.runs.map)),
      .append (.of_allAspects before.allAspects)
        (.handler_cons before given after.allAspects)⟩

/-- A course with a binding that reads, on a handler that notes its calls. -/
theorem exists_runs_reading (h : Handler σ) (f : Request → Except Failure (List Value))
    (x : Exchange σ) :
    ∃ calls result y,
      Runs (execute h (.reading f)) (execute h.recorded (.reading f)) x calls result y ∧
      CalledWith h f x calls := by
  obtain ⟨_, found, y, attempted⟩ := exists_attempted h (.reading f) x
  obtain ⟨attempt, ran, called⟩ := attempted.reading
  obtain ⟨recovery, result, z, recovered⟩ := exists_recovered h y found
  obtain ⟨last, w, ensured⟩ := exists_ensured (failureOf? result) h.aspects.ensure z
  refine ⟨_, result, w, ran.execute recovered ensured, ?_⟩
  exact .append (.append called (.of_allAspects recovered.allAspects))
    (.of_allAspects ensured.allAspects)

end Lifecycle

/-! ## The courses of a dispatcher -/

namespace Dispatcher

open Lifecycle

/-- Arguments that are given were bound and accepted. -/
theorem bindArguments_eq_ok {d : Dispatcher} {h : Handler σ} {request : Request}
    {values : Dictionary (List String)} {args : List Value}
    (given : d.bindArguments h request values = .ok args) :
    ∃ checks, d.binders.bindArguments request h.params values none = .ok (args, checks) := by
  unfold bindArguments at given
  split at given
  · next checks bound =>
    cases given
    exact ⟨checks, bound⟩
  · cases given

/-- A course comes to the same with a handler that notes its calls, and where the handler is called,
its arguments are those that some raw values were bound to and the validators accepted. They are
bound from the request as the aspects before the handler left it. -/
def CallsAccepted (d : Dispatcher) (h : Handler σ) (raw : Request → Dictionary (List String))
    (x : Exchange σ) (course : Course σ Outcome) (noting : Course (Recorded σ) Outcome) : Prop :=
  ∃ calls result y, course.run.run x = (result, y) ∧
    noting.run.run (x.withCalls []) = (result, y.withCalls calls) ∧
    ∀ args cause z, .handler args cause z ∈ calls →
      (∃ first, Passed .before h.aspects.before x first z) ∧
      ∃ checks,
        d.binders.bindArguments z.request h.params (raw z.request) none = .ok (args, checks)

/-- Handlers are called with accepted arguments, whatever raw values they are bound from. -/
theorem callsAccepted (d : Dispatcher) (h : Handler σ) (raw : Request → Dictionary (List String))
    (x : Exchange σ) :
    d.CallsAccepted h raw x
      (execute h (.reading fun request => d.bindArguments h request (raw request)))
      (execute h.recorded (.reading fun request => d.bindArguments h request (raw request))) := by
  obtain ⟨calls, result, y, ran, called⟩ :=
    exists_runs_reading h (fun request => d.bindArguments h request (raw request)) x
  refine ⟨calls, result, y, ran.plain, ran.noted [], fun args cause z hm => ?_⟩
  obtain ⟨-, given, passed⟩ := called args cause z hm
  exact ⟨passed, bindArguments_eq_ok given⟩

/-- **Validation guards the handler**: binding gives arguments just if no validator refuses one, in
the order of parameters and markers and no further than the first refusal, and in every course of a
dispatcher the handler is called only with arguments that were given so. -/
theorem called_with_accepted :
    (∀ (m : BindManager) request params values cause,
      m.JudgesInOrder request params values cause) ∧
    ∀ (d : Dispatcher) (h : Handler σ) (x : Exchange σ),
      d.CallsAccepted h (rawValues h) x (d.invoke h) (d.invoke h.recorded) ∧
      d.CallsAccepted h (fun _ => []) x (d.invokeWithDefaults h)
        (d.invokeWithDefaults h.recorded) :=
  ⟨BindManager.judgesInOrder, fun d h x =>
    ⟨d.callsAccepted h (rawValues h) x, d.callsAccepted h (fun _ => []) x⟩⟩

/-- A handler that has to be told a name. -/
def greeting : Handler Unit where
  type := "Greet"
  method := "greet"
  verb := .get
  pattern := "/greet"
  params := [{ name := "name", type := .text, markers := [{ name := "Required" }] }]
  body := fun _ _ => pure default

/-- Called with defaults, it is told none, and so it is not called. -/
theorem called_with_accepted_greeting :
    ∃ (calls : List (CallEvent Unit)) (result : Except Failure Outcome) (y : Exchange Unit),
      (({} : Dispatcher).invokeWithDefaults greeting.recorded).run.run
          (Exchange.withCalls ⟨default, default, ()⟩ []) = (result, y.withCalls calls) ∧
        OnlyAspects calls := by
  obtain ⟨judges, courses⟩ := called_with_accepted (σ := Unit)
  obtain ⟨calls, result, y, -, noted, accepted⟩ := (courses {} greeting ⟨default, default, ()⟩).2
  refine ⟨calls, result, y, noted, fun args cause z hm => ?_⟩
  obtain ⟨-, checks, bound⟩ := accepted args cause z hm
  have all := (judges _ _ _ _ _).ok_iff.1 ⟨args, checks, bound⟩
  have refused : BindManager.builtin.verdict? .null { name := "Required" } = some false := rfl
  exact all _ (List.mem_singleton_self _) _ (List.mem_singleton_self _) refused

end Dispatcher

end Switchboard
