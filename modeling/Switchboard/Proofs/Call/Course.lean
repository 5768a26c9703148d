import Switchboard.Call.Lifecycle

/-!
# The calls of a course

`Lifecycle.execute` calls bodies and a binding that an application supplies. `Served` says which
calls a course makes, in which order and on which exchange, and what it comes to: aspects before the
handler up to the first that fails, the binding, the handler, aspects after it, at most one rescue,
and every aspect that runs in any case.

What is called is observed by the callee: `Handler.recorded` is a handler whose aspects and body
do what they did and note each call beside the world. `execute_calls` runs the course on both
handlers: they come to the same, and the notes are the one list of calls that `Served` allows.
-/

namespace Switchboard

variable {σ : Type}

/-! ## Calls and what they answer -/

/-- A call that a course makes, with what the callee finds. -/
inductive CallEvent (σ : Type) where
  | aspect (kind : AspectKind) (a : Aspect σ) (args : List Value) (cause : Option Failure)
      (x : Exchange σ)
  | binding (request : Request) (world : σ)
  | handler (args : List Value) (cause : Option Failure) (x : Exchange σ)

/-- The call of an aspect. -/
def Aspect.event (kind : AspectKind) (a : Aspect σ) (cause : Option Failure) (x : Exchange σ) :
    CallEvent σ :=
  .aspect kind a (contextArguments x.request a.params cause) cause x

/-- What an aspect answers to its call, with the exchange as it leaves it. -/
def Aspect.answer (a : Aspect σ) (cause : Option Failure) (x : Exchange σ) :
    Except Fault Reply × Exchange σ :=
  (a.body (contextArguments x.request a.params cause) cause).run.run x

/-- An aspect catches a failure whose class, or an ancestor of it, is among those it declares. -/
def Aspect.Catches (a : Aspect σ) (f : Failure) : Prop :=
  ∃ declared ∈ a.rescues, declared.name = f.tag.name ∨ declared.name ∈ f.tag.ancestors

/-- The call of a binding. -/
def Binding.event (x : Exchange σ) : CallEvent σ := .binding x.request x.world

/-- What a binding answers to its call, with the exchange as it leaves it. -/
def Binding.answer (bind : Binding σ) (x : Exchange σ) : Except Failure (List Value) × Exchange σ :=
  (((bind x.request).run.run x.world).1, { x with world := ((bind x.request).run.run x.world).2 })

/-- An aspect handles the failures that it catches. -/
theorem Aspect.handles_iff {a : Aspect σ} {f : Failure} : a.handles f.tag = true ↔ a.Catches f := by
  unfold Aspect.handles Aspect.Catches
  simp only [List.any_eq_true, Tag.isA, Bool.or_eq_true, beq_iff_eq, List.contains_iff_mem]
  constructor
  · rintro ⟨c, hc, h | h⟩
    · exact ⟨c, hc, Or.inl h.symm⟩
    · exact ⟨c, hc, Or.inr h⟩
  · rintro ⟨c, hc, h | h⟩
    · exact ⟨c, hc, Or.inl h.symm⟩
    · exact ⟨c, hc, Or.inr h⟩

/-! ## The law of a course -/

namespace Lifecycle

/-- All aspects of a list are called in order, and none of them fails. -/
inductive Passed (kind : AspectKind) :
    List (Aspect σ) → Exchange σ → List (CallEvent σ) → Exchange σ → Prop
  | nil {x : Exchange σ} : Passed kind [] x [] x
  | cons {a : Aspect σ} {rest : List (Aspect σ)} {x y z : Exchange σ} {reply : Reply}
      {calls : List (CallEvent σ)} (answer : a.answer none x = (.ok reply, y))
      (tail : Passed kind rest y calls z) :
      Passed kind (a :: rest) x (a.event kind none x :: calls) z

/-- The aspects of a list are called in order up to and including the first that fails. -/
inductive Stopped (kind : AspectKind) (l : List (Aspect σ)) (x : Exchange σ) :
    List (CallEvent σ) → Failure → Exchange σ → Prop
  | intro {before after : List (Aspect σ)} {a : Aspect σ} {calls : List (CallEvent σ)}
      {y z : Exchange σ} {fault : Fault} (split : l = before ++ a :: after)
      (passed : Passed kind before x calls y) (answer : a.answer none y = (.error fault, z)) :
      Stopped kind l x (calls ++ [a.event kind none y]) (.raised fault) z

/-- The calls up to the first failure, and what they come to. -/
inductive Attempted (h : Handler σ) (bind : Binding σ) (x : Exchange σ) :
    List (CallEvent σ) → Except Failure Outcome → Exchange σ → Prop
  | beforeFails {calls : List (CallEvent σ)} {f : Failure} {y : Exchange σ}
      (before : Stopped .before h.aspects.before x calls f y) :
      Attempted h bind x calls (.error f) y
  | bindingFails {calls : List (CallEvent σ)} {f : Failure} {y z : Exchange σ}
      (before : Passed .before h.aspects.before x calls y)
      (binding : bind.answer y = (.error f, z)) :
      Attempted h bind x (calls ++ [Binding.event y]) (.error f) z
  | handlerFails {calls : List (CallEvent σ)} {args : List Value} {fault : Fault}
      {y z w : Exchange σ}
      (before : Passed .before h.aspects.before x calls y)
      (binding : bind.answer y = (.ok args, z))
      (handler : (h.body args none).run.run z = (.error fault, w)) :
      Attempted h bind x (calls ++ [Binding.event y, .handler args none z])
        (.error (.raised fault)) w
  | afterFails {calls later : List (CallEvent σ)} {args : List Value} {reply : Reply} {f : Failure}
      {y z w v : Exchange σ}
      (before : Passed .before h.aspects.before x calls y)
      (binding : bind.answer y = (.ok args, z))
      (handler : (h.body args none).run.run z = (.ok reply, w))
      (after : Stopped .after h.aspects.after w later f v) :
      Attempted h bind x (calls ++ [Binding.event y, .handler args none z] ++ later) (.error f) v
  | succeeds {calls later : List (CallEvent σ)} {args : List Value} {reply : Reply}
      {y z w v : Exchange σ}
      (before : Passed .before h.aspects.before x calls y)
      (binding : bind.answer y = (.ok args, z))
      (handler : (h.body args none).run.run z = (.ok reply, w))
      (after : Passed .after h.aspects.after w later v) :
      Attempted h bind x (calls ++ [Binding.event y, .handler args none z] ++ later)
        (.ok ⟨reply.model, reply.view.or h.view⟩) v

/-- The call of the first rescue that catches a failure, if there is a failure and such a rescue. -/
inductive Recovered (h : Handler σ) (x : Exchange σ) :
    Except Failure Outcome → List (CallEvent σ) → Except Failure Outcome → Exchange σ → Prop
  | unneeded {found : Outcome} : Recovered h x (.ok found) [] (.ok found) x
  | uncaught {f : Failure} (none : ∀ a ∈ h.aspects.rescue, ¬ a.Catches f) :
      Recovered h x (.error f) [] (.error f) x
  | rescued {f : Failure} {before after : List (Aspect σ)} {a : Aspect σ} {reply : Reply}
      {y : Exchange σ} (split : h.aspects.rescue = before ++ a :: after)
      (first : ∀ b ∈ before, ¬ b.Catches f) (catches : a.Catches f)
      (answer : a.answer (some f) x = (.ok reply, y)) :
      Recovered h x (.error f) [a.event .rescue (some f) x]
        (.ok ⟨reply.model, reply.view.or a.view⟩) y
  | rescueFails {f : Failure} {before after : List (Aspect σ)} {a : Aspect σ} {fault : Fault}
      {y : Exchange σ} (split : h.aspects.rescue = before ++ a :: after)
      (first : ∀ b ∈ before, ¬ b.Catches f) (catches : a.Catches f)
      (answer : a.answer (some f) x = (.error fault, y)) :
      Recovered h x (.error f) [a.event .rescue (some f) x] (.error (.raised fault)) y

/-- Every aspect of a list is called once, in order, whatever it returns. -/
inductive Ensured (cause : Option Failure) :
    List (Aspect σ) → Exchange σ → List (CallEvent σ) → Exchange σ → Prop
  | nil {x : Exchange σ} : Ensured cause [] x [] x
  | cons {a : Aspect σ} {rest : List (Aspect σ)} {x z : Exchange σ} {calls : List (CallEvent σ)}
      (tail : Ensured cause rest (a.answer cause x).2 calls z) :
      Ensured cause (a :: rest) x (a.event .ensure cause x :: calls) z

/-- The failure of a result. -/
def failureOf? {α : Type} : Except Failure α → Option Failure
  | .ok _ => none
  | .error f => some f

/-- The calls of a whole course, what it comes to, and the exchange as it leaves it. -/
inductive Served (h : Handler σ) (bind : Binding σ) (x : Exchange σ) :
    List (CallEvent σ) → Except Failure Outcome → Exchange σ → Prop
  | intro {attempt recovery last : List (CallEvent σ)} {found result : Except Failure Outcome}
      {y z w : Exchange σ} (attempted : Attempted h bind x attempt found y)
      (recovered : Recovered h y found recovery result z)
      (ensured : Ensured (failureOf? result) h.aspects.ensure z last w) :
      Served h bind x (attempt ++ recovery ++ last) result w

end Lifecycle

/-! ## Handlers that note their calls -/

/-- A world with the calls made so far. -/
abbrev Recorded (σ : Type) := σ × List (CallEvent σ)

namespace Exchange

/-- An exchange with the calls made so far beside its world. -/
def withCalls (x : Exchange σ) (calls : List (CallEvent σ)) : Exchange (Recorded σ) :=
  ⟨x.request, x.response, (x.world, calls)⟩

/-- The exchange without the calls made so far. -/
def plain (x : Exchange (Recorded σ)) : Exchange σ := ⟨x.request, x.response, x.world.1⟩

/-- An exchange and its calls can be read off each other. -/
theorem withCalls_inj {x y : Exchange σ} {calls other : List (CallEvent σ)}
    (h : x.withCalls calls = y.withCalls other) : x = y ∧ calls = other :=
  ⟨congrArg plain h, congrArg (fun z : Exchange (Recorded σ) => z.world.2) h⟩

end Exchange

/-- A body that does the same and notes its call. -/
def Body.recorded (event : List Value → Option Failure → Exchange σ → CallEvent σ) (b : Body σ) :
    Body (Recorded σ) :=
  fun args cause => ExceptT.mk fun x =>
    let (result, y) := (b args cause).run.run x.plain
    (result, y.withCalls (x.world.2 ++ [event args cause x.plain]))

/-- A binding that does the same and notes its call. -/
def Binding.recorded (bind : Binding σ) : Binding (Recorded σ) :=
  fun request => ExceptT.mk fun w =>
    let (result, world) := (bind request).run.run w.1
    (result, (world, w.2 ++ [.binding request w.1]))

/-- An aspect that does the same and notes its calls. -/
def Aspect.recorded (kind : AspectKind) (a : Aspect σ) : Aspect (Recorded σ) where
  owner := a.owner
  method := a.method
  kind := a.kind
  priority := a.priority
  onlyWith := a.onlyWith
  notWith := a.notWith
  rescues := a.rescues
  view := a.view
  params := a.params
  body := a.body.recorded (.aspect kind a)

/-- The aspects that do the same and note their calls. -/
def AspectSet.recorded (s : AspectSet σ) : AspectSet (Recorded σ) where
  before := s.before.map (Aspect.recorded .before)
  after := s.after.map (Aspect.recorded .after)
  rescue := s.rescue.map (Aspect.recorded .rescue)
  ensure := s.ensure.map (Aspect.recorded .ensure)

/-- A handler that does the same and notes its calls and those of its aspects. -/
def Handler.recorded (h : Handler σ) : Handler (Recorded σ) where
  type := h.type
  method := h.method
  verb := h.verb
  pattern := h.pattern
  params := h.params
  markers := h.markers
  view := h.view
  aspects := h.aspects.recorded
  body := h.body.recorded .handler

namespace Lifecycle

/-! ## Steps of a course -/

section Steps

variable {α β : Type} {m : Course σ α} {f : α → Course σ β} {x y : Exchange σ}

theorem run_bind_of_run {s : Type} {m : StateM s α} {f : α → StateM s β} {u v : s} {a : α}
    (h : m.run u = (a, v)) : (m >>= f).run u = (f a).run v := by
  rw [StateT.run_bind, h]
  rfl

theorem run_bind_ok {a : α} (h : m.run.run x = (.ok a, y)) :
    (m >>= f).run.run x = (f a).run.run y := by
  rw [ExceptT.run_bind]
  exact run_bind_of_run h

theorem run_bind_error {e : Failure} (h : m.run.run x = (.error e, y)) :
    (m >>= f).run.run x = (.error e, y) := by
  rw [ExceptT.run_bind]
  exact run_bind_of_run h

end Steps

theorem callBody_run {b : Body σ} {args : List Value} {cause : Option Failure} {x y : Exchange σ}
    {result : Except Fault Reply} (h : (b args cause).run.run x = (result, y)) :
    (callBody b args cause).run.run x = (result.mapError .raised, y) := by
  unfold callBody
  rw [ExceptT.run_mk, run_bind_of_run h]
  cases result <;> rfl

/-- An aspect runs as it answers, and its fault is a failure. -/
theorem callAspect_run (a : Aspect σ) (cause : Option Failure) (x : Exchange σ) :
    (callAspect a cause).run.run x =
      ((a.answer cause x).1.mapError .raised, (a.answer cause x).2) :=
  callBody_run rfl

theorem callBinding_run (bind : Binding σ) (x : Exchange σ) :
    (callBinding bind).run.run x = bind.answer x :=
  rfl

/-! ## A course beside its recorded twin -/

/-- A course and its twin on noting callees come to one result from an exchange, and the twin notes
these calls. -/
structure Runs {α : Type} (m : Course σ α) (twin : Course (Recorded σ) α) (x : Exchange σ)
    (calls : List (CallEvent σ)) (result : Except Failure α) (y : Exchange σ) : Prop where
  plain : m.run.run x = (result, y)
  noted : ∀ log, twin.run.run (x.withCalls log) = (result, y.withCalls (log ++ calls))

namespace Runs

variable {α β : Type} {m : Course σ α} {twin : Course (Recorded σ) α} {f : α → Course σ β}
  {k : α → Course (Recorded σ) β} {x y z : Exchange σ} {calls later : List (CallEvent σ)}

theorem pure (a : α) (x : Exchange σ) :
    Runs (Pure.pure a : Course σ α) (Pure.pure a) x [] (.ok a) x := by
  refine ⟨rfl, fun log => ?_⟩
  rw [List.append_nil]
  rfl

theorem throw (e : Failure) (x : Exchange σ) :
    Runs (MonadExcept.throw e : Course σ α) (MonadExcept.throw e) x [] (.error e) x := by
  refine ⟨rfl, fun log => ?_⟩
  rw [List.append_nil]
  rfl

/-- The calls of a course go on with those of the next. -/
theorem bind_ok {a : α} {result : Except Failure β} (h : Runs m twin x calls (.ok a) y)
    (t : Runs (f a) (k a) y later result z) :
    Runs (m >>= f) (twin >>= k) x (calls ++ later) result z := by
  refine ⟨?_, fun log => ?_⟩
  · rw [run_bind_ok h.plain, t.plain]
  · rw [run_bind_ok (h.noted log), t.noted, List.append_assoc]

/-- A failure ends a course. -/
theorem bind_error {e : Failure} (h : Runs m twin x calls (.error e) y) :
    Runs (m >>= f) (twin >>= k) x calls (.error e) y :=
  ⟨run_bind_error h.plain, fun log => run_bind_error (h.noted log)⟩

/-- What is done last without a call. -/
theorem map {a : α} {g : α → β} (h : Runs m twin x calls (.ok a) y) :
    Runs (do return g (← m)) (do return g (← twin)) x calls (.ok (g a)) y := by
  have t : Runs (do return g (← m)) (do return g (← twin)) x (calls ++ []) (.ok (g a)) y :=
    h.bind_ok (Runs.pure (g a) y)
  rwa [List.append_nil] at t

/-- An aspect notes itself once, with what it was called on. -/
theorem callAspect {a : Aspect σ} {cause : Option Failure} {answer : Except Fault Reply}
    (kind : AspectKind) (h : a.answer cause x = (answer, y)) :
    Runs (callAspect a cause) (callAspect (a.recorded kind) cause) x [a.event kind cause x]
      (answer.mapError .raised) y := by
  refine ⟨?_, fun log => ?_⟩
  · rw [callAspect_run, h]
  · rw [callAspect_run]
    have twin : (a.recorded kind).answer cause (x.withCalls log) =
        ((a.answer cause x).1, (a.answer cause x).2.withCalls (log ++ [a.event kind cause x])) :=
      rfl
    rw [twin, h]

/-- A binding notes itself once. -/
theorem callBinding {bind : Binding σ} {answer : Except Failure (List Value)}
    (h : bind.answer x = (answer, y)) :
    Runs (callBinding bind) (callBinding bind.recorded) x [Binding.event x] answer y := by
  refine ⟨?_, fun log => ?_⟩
  · rw [callBinding_run, h]
  · rw [callBinding_run]
    have twin : bind.recorded.answer (x.withCalls log) =
        ((bind.answer x).1, (bind.answer x).2.withCalls (log ++ [Binding.event x])) :=
      rfl
    rw [twin, h]

/-- A handler notes itself once, with its arguments. -/
theorem callHandler {b : Body σ} {args : List Value} {answer : Except Fault Reply}
    (h : (b args none).run.run x = (answer, y)) :
    Runs (callBody b args none) (callBody (b.recorded .handler) args none) x
      [.handler args none x] (answer.mapError .raised) y := by
  refine ⟨callBody_run h, fun log => callBody_run ?_⟩
  have twin : (b.recorded .handler args none).run.run (x.withCalls log) =
      (((b args none).run.run x).1,
        ((b args none).run.run x).2.withCalls (log ++ [.handler args none x])) :=
    rfl
  rw [twin, h]

end Runs

/-! ## The course keeps the law -/

/-- Aspects that pass are called one after the other. -/
theorem Passed.runs {kind : AspectKind} {l : List (Aspect σ)} {x y : Exchange σ}
    {calls : List (CallEvent σ)} (h : Passed kind l x calls y) :
    Runs (callAll l) (callAll (l.map (Aspect.recorded kind))) x calls (.ok ()) y := by
  induction h with
  | nil => exact Runs.pure () _
  | cons answer _ ih => exact (Runs.callAspect kind answer).bind_ok ih

/-- No aspect behind the one that fails is called. -/
theorem Stopped.runs {kind : AspectKind} {l : List (Aspect σ)} {x z : Exchange σ}
    {calls : List (CallEvent σ)} {e : Failure} (h : Stopped kind l x calls e z) :
    Runs (callAll l) (callAll (l.map (Aspect.recorded kind))) x calls (.error e) z := by
  obtain ⟨rfl, passed, answer⟩ := h
  induction passed with
  | nil => exact (Runs.callAspect kind answer).bind_error
  | cons first _ ih => exact (Runs.callAspect kind first).bind_ok (ih answer)

/-- An attempt calls the aspects before the handler, the binding, the handler and the aspects after.
-/
theorem Attempted.runs {h : Handler σ} {bind : Binding σ} {x y : Exchange σ}
    {calls : List (CallEvent σ)} {found : Except Failure Outcome}
    (t : Attempted h bind x calls found y) :
    Runs (attempt h bind) (attempt h.recorded bind.recorded) x calls found y := by
  cases t with
  | beforeFails before => exact before.runs.bind_error
  | bindingFails before binding =>
    exact before.runs.bind_ok (Runs.callBinding binding).bind_error
  | handlerFails before binding handler =>
    exact before.runs.bind_ok ((Runs.callBinding binding).bind_ok
      (Runs.callHandler handler).bind_error)
  | afterFails before binding handler after =>
    rw [List.append_assoc]
    exact before.runs.bind_ok ((Runs.callBinding binding).bind_ok
      ((Runs.callHandler handler).bind_ok after.runs.bind_error))
  | succeeds before binding handler after =>
    rw [List.append_assoc]
    exact before.runs.bind_ok ((Runs.callBinding binding).bind_ok
      ((Runs.callHandler handler).bind_ok after.runs.map))

/-- Of the rescues the first one that catches a failure is called. -/
theorem rescueFor_of_first {h : Handler σ} {f : Failure} {a : Aspect σ} {before after : List (Aspect σ)}
    (split : h.aspects.rescue = before ++ a :: after) (first : ∀ b ∈ before, ¬ b.Catches f)
    (catches : a.Catches f) : h.aspects.rescueFor f.tag = some a := by
  unfold AspectSet.rescueFor
  rw [List.find?_eq_some_iff_append]
  refine ⟨Aspect.handles_iff.2 catches, before, after, split, fun b hb => ?_⟩
  have := first b hb
  rw [← Aspect.handles_iff] at this
  simpa using this

theorem rescueFor_recorded (s : AspectSet σ) (tag : Tag) :
    s.recorded.rescueFor tag = (s.rescueFor tag).map (Aspect.recorded .rescue) := by
  unfold AspectSet.rescueFor AspectSet.recorded
  rw [List.find?_map]
  rfl

/-- The course behind the first failure, or behind none. -/
def settle (h : Handler σ) : Except Failure Outcome → Course σ Outcome
  | .ok found => return found
  | .error f => recover h f

/-- A failure is settled by one rescue, if any catches it. -/
theorem Recovered.runs {h : Handler σ} {x y : Exchange σ} {calls : List (CallEvent σ)}
    {found result : Except Failure Outcome} (t : Recovered h x found calls result y) :
    Runs (settle h found) (settle h.recorded found) x calls result y := by
  have twin (tag : Tag) : h.recorded.aspects.rescueFor tag =
      (h.aspects.rescueFor tag).map (Aspect.recorded .rescue) :=
    rescueFor_recorded h.aspects tag
  cases t with
  | unneeded => exact Runs.pure _ x
  | @uncaught f none =>
    have missing : h.aspects.rescueFor f.tag = .none := by
      unfold AspectSet.rescueFor
      rw [List.find?_eq_none]
      intro a ha
      rw [Aspect.handles_iff]
      exact none a ha
    simp only [settle, recover, twin, missing]
    exact Runs.throw f x
  | rescued split first catches answer =>
    simp only [settle, recover, twin, rescueFor_of_first split first catches]
    exact (Runs.callAspect .rescue answer).map
  | rescueFails split first catches answer =>
    simp only [settle, recover, twin, rescueFor_of_first split first catches]
    exact (Runs.callAspect .rescue answer).bind_error

theorem callEach_cons_run (cause : Option Failure) (a : Aspect σ) (rest : List (Aspect σ))
    (x : Exchange σ) :
    (callEach cause (a :: rest)).run x = (callEach cause rest).run (a.answer cause x).2 := by
  rw [callEach]
  exact run_bind_of_run (callAspect_run a cause x)

theorem Ensured.run {cause : Option Failure} {l : List (Aspect σ)} {x y : Exchange σ}
    {calls : List (CallEvent σ)} (t : Ensured cause l x calls y) :
    (callEach cause l).run x = ((), y) := by
  induction t with
  | nil => rfl
  | cons _ ih =>
    rw [callEach_cons_run]
    exact ih

/-- The last aspects are all called, whatever they come to. -/
theorem Ensured.noted {cause : Option Failure} {l : List (Aspect σ)} {x y : Exchange σ}
    {calls : List (CallEvent σ)} (t : Ensured cause l x calls y) (log : List (CallEvent σ)) :
    (callEach cause (l.map (Aspect.recorded .ensure))).run (x.withCalls log) =
      ((), y.withCalls (log ++ calls)) := by
  induction t generalizing log with
  | nil => rw [List.append_nil]; rfl
  | @cons a rest x _ calls _ ih =>
    have rest := ih (log ++ [a.event .ensure cause x])
    rw [List.append_assoc] at rest
    rw [List.map_cons, callEach_cons_run]
    exact rest

/-- What a course comes to, stage by stage. -/
theorem execute_run {h : Handler σ} {bind : Binding σ} {x y z w : Exchange σ}
    {found result : Except Failure Outcome} (attempted : (attempt h bind).run.run x = (found, y))
    (settled : (settle h found).run.run y = (result, z))
    (ensured : (callEach (failureOf? result) h.aspects.ensure).run z = ((), w)) :
    (execute h bind).run.run x = (result, w) := by
  have last : (do callEach (failureOf? result) h.aspects.ensure; return result :
      StateM (Exchange σ) (Except Failure Outcome)).run z = (result, w) :=
    run_bind_of_run ensured
  unfold execute
  rw [ExceptT.run_mk, run_bind_of_run attempted]
  -- the course asks for the failure of each result by a match of its own
  cases found with
  | ok found =>
    refine (run_bind_of_run settled).trans ?_
    cases result <;> exact last
  | error f =>
    refine (run_bind_of_run settled).trans ?_
    cases result <;> exact last

theorem Runs.execute {h : Handler σ} {bind : Binding σ} {twin : Binding (Recorded σ)}
    {x y z w : Exchange σ} {calls recovery last : List (CallEvent σ)}
    {found result : Except Failure Outcome}
    (attempted : Runs (attempt h bind) (attempt h.recorded twin) x calls found y)
    (recovered : Recovered h y found recovery result z)
    (ensured : Ensured (failureOf? result) h.aspects.ensure z last w) :
    Runs (execute h bind) (execute h.recorded twin) x (calls ++ recovery ++ last) result w := by
  refine ⟨execute_run attempted.plain recovered.runs.plain ensured.run, fun log => ?_⟩
  rw [← List.append_assoc, ← List.append_assoc]
  exact execute_run (attempted.noted log) (recovered.runs.noted _) (ensured.noted _)

/-- A course makes the calls that the law says. -/
theorem Served.runs {h : Handler σ} {bind : Binding σ} {x y : Exchange σ}
    {calls : List (CallEvent σ)} {result : Except Failure Outcome}
    (t : Served h bind x calls result y) :
    Runs (execute h bind) (execute h.recorded bind.recorded) x calls result y := by
  obtain ⟨attempted, recovered, ensured⟩ := t
  exact attempted.runs.execute recovered ensured

/-! ## The law allows one course -/

/-- Some aspects either all pass or stop at one of them. -/
theorem passed_or_stopped (kind : AspectKind) (l : List (Aspect σ)) (x : Exchange σ) :
    (∃ calls y, Passed kind l x calls y) ∨ ∃ calls e y, Stopped kind l x calls e y := by
  induction l generalizing x with
  | nil => exact Or.inl ⟨[], x, .nil⟩
  | cons a rest ih =>
    cases h : a.answer none x with
    | mk answer y =>
      cases answer with
      | error fault =>
        have split : a :: rest = [] ++ a :: rest := rfl
        exact Or.inr ⟨_, _, y, .intro split .nil h⟩
      | ok reply =>
        rcases ih y with ⟨calls, z, passed⟩ | ⟨_, _, z, ⟨split, passed, failed⟩⟩
        · exact Or.inl ⟨_, z, .cons h passed⟩
        · exact Or.inr ⟨_, _, z, .intro (congrArg (a :: ·) split) (.cons h passed) failed⟩

theorem exists_attempted (h : Handler σ) (bind : Binding σ) (x : Exchange σ) :
    ∃ calls found y, Attempted h bind x calls found y := by
  rcases passed_or_stopped .before h.aspects.before x with ⟨_, y, before⟩ | ⟨_, _, y, before⟩
  · cases binding : bind.answer y with
    | mk bound z =>
      cases bound with
      | error f => exact ⟨_, _, z, .bindingFails before binding⟩
      | ok args =>
        cases handler : (h.body args none).run.run z with
        | mk answer w =>
          cases answer with
          | error fault => exact ⟨_, _, w, .handlerFails before binding handler⟩
          | ok reply =>
            rcases passed_or_stopped .after h.aspects.after w with
              ⟨_, v, after⟩ | ⟨_, _, v, after⟩
            · exact ⟨_, _, v, .succeeds before binding handler after⟩
            · exact ⟨_, _, v, .afterFails before binding handler after⟩
  · exact ⟨_, _, y, .beforeFails before⟩

theorem exists_recovered (h : Handler σ) (x : Exchange σ) (found : Except Failure Outcome) :
    ∃ calls result y, Recovered h x found calls result y := by
  cases found with
  | ok found => exact ⟨_, _, x, .unneeded⟩
  | error f =>
    cases rescue : h.aspects.rescueFor f.tag with
    | none =>
      have none : ∀ a ∈ h.aspects.rescue, ¬ a.Catches f := by
        intro a ha
        rw [← Aspect.handles_iff]
        exact List.find?_eq_none.1 rescue a ha
      exact ⟨_, _, x, .uncaught none⟩
    | some a =>
      obtain ⟨handles, before, after, split, others⟩ := List.find?_eq_some_iff_append.1 rescue
      have first : ∀ b ∈ before, ¬ b.Catches f := by
        intro b hb
        rw [← Aspect.handles_iff]
        simpa using others b hb
      have catches : a.Catches f := Aspect.handles_iff.1 handles
      cases answer : a.answer (some f) x with
      | mk reply y =>
        cases reply with
        | ok reply => exact ⟨_, _, y, .rescued split first catches answer⟩
        | error fault => exact ⟨_, _, y, .rescueFails split first catches answer⟩

theorem exists_ensured (cause : Option Failure) (l : List (Aspect σ)) (x : Exchange σ) :
    ∃ calls y, Ensured cause l x calls y := by
  induction l generalizing x with
  | nil => exact ⟨[], x, .nil⟩
  | cons a rest ih =>
    obtain ⟨calls, y, tail⟩ := ih (a.answer cause x).2
    exact ⟨_, y, .cons tail⟩

/-- There is a course for every exchange. -/
theorem exists_served (h : Handler σ) (bind : Binding σ) (x : Exchange σ) :
    ∃ calls result y, Served h bind x calls result y := by
  obtain ⟨_, found, y, attempted⟩ := exists_attempted h bind x
  obtain ⟨_, result, z, recovered⟩ := exists_recovered h y found
  obtain ⟨_, w, ensured⟩ := exists_ensured (failureOf? result) h.aspects.ensure z
  exact ⟨_, result, w, .intro attempted recovered ensured⟩

/-- **The calls of a course.** For every handler with its aspects, every binding and every exchange,
the course comes to the same with noting callees, and the law allows the calls that they note, that
result and that exchange, and no others. -/
theorem execute_calls (h : Handler σ) (bind : Binding σ) (x : Exchange σ) :
    ∃ calls result y,
      (execute h bind).run.run x = (result, y) ∧
      (execute h.recorded bind.recorded).run.run (x.withCalls []) = (result, y.withCalls calls) ∧
      ∀ calls' result' y', Served h bind x calls' result' y' ↔
        calls' = calls ∧ result' = result ∧ y' = y := by
  obtain ⟨calls, result, y, served⟩ := exists_served h bind x
  have noted := served.runs.noted []
  refine ⟨calls, result, y, served.runs.plain, noted, fun calls' result' y' => ⟨?_, ?_⟩⟩
  · intro other
    have same := (other.runs.noted []).symm.trans noted
    obtain ⟨hresult, hexchange⟩ := Prod.mk.inj same
    obtain ⟨hy, hcalls⟩ := Exchange.withCalls_inj hexchange
    exact ⟨hcalls, hresult, hy⟩
  · rintro ⟨rfl, rfl, rfl⟩
    exact served

end Lifecycle

end Switchboard
