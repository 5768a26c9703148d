import Switchboard.Bind.Manager
import Mathlib.Data.List.Basic

/-!
# Arguments that validators accept

The arguments of a call are bound and checked in one pass over the parameters and their markers. It
goes through if no validator refuses the value of its parameter, and the record then has a verdict
for each marker that names a validator. Else it ends at the first refusal, and nothing behind that
takes part (`BindManager.judgesInOrder`).

Parameters and markers are walked alike: each list is passed as a whole, or it splits at the first
element that is not (`forall_or_first`), and the lemmas about the walks follow that split.
-/

namespace Switchboard

/-- All elements of a list pass, or there is a first that does not. -/
theorem forall_or_first {α : Type} (P : α → Prop) (l : List α) :
    (∀ a ∈ l, P a) ∨ ∃ before a after, l = before ++ a :: after ∧ (∀ b ∈ before, P b) ∧ ¬ P a := by
  induction l with
  | nil => exact .inl (List.forall_mem_nil _)
  | cons a l ih =>
    by_cases ha : P a
    · rcases ih with all | ⟨before, b, after, rfl, passed, hb⟩
      · exact .inl (List.forall_mem_cons.2 ⟨ha, all⟩)
      · exact .inr ⟨a :: before, b, after, rfl, List.forall_mem_cons.2 ⟨ha, passed⟩, hb⟩
    · exact .inr ⟨[], a, l, rfl, List.forall_mem_nil _, ha⟩

namespace BindManager

/-! ## Verdicts -/

/-- What the validator that a marker names says of a value, if there is one. -/
def verdict? (m : BindManager) (v : Value) (marker : Marker) : Option Bool :=
  (Dictionary.get? m.validators marker.name).map fun validator => validator v marker

/-- No validator that some markers name refuses a value. -/
def Accepts (m : BindManager) (v : Value) (markers : List Marker) : Prop :=
  ∀ marker ∈ markers, m.verdict? v marker ≠ some false

/-- The record of a parameter whose value is accepted: in order of its markers, a verdict for each
that names a validator. -/
def passedChecks (m : BindManager) (p : Parameter) (markers : List Marker) : Checks :=
  (markers.filter fun marker => (Dictionary.get? m.validators marker.name).isSome).map
    fun marker => ⟨p.sourceName, marker.name, true⟩

/-- The value of a parameter, from what was sent under its source name. -/
def valueOf (m : BindManager) (ctx : BindContext) (values : Dictionary (List String))
    (p : Parameter) : Value :=
  m.bind ctx p ((Dictionary.get? values p.sourceName).getD [])

section Markers

variable {m : BindManager} {v : Value} {p : Parameter} {marker : Marker} {markers : List Marker}

/-- A marker is passed by: it names no validator, or one that accepts. -/
theorem checkMarkers_cons_of_ne (h : m.verdict? v marker ≠ some false) (checks : Checks) :
    m.checkMarkers v p (marker :: markers) checks =
      m.checkMarkers v p markers (checks ++ m.passedChecks p [marker]) := by
  unfold verdict? at h
  unfold passedChecks
  rw [checkMarkers]
  cases named : Dictionary.get? m.validators marker.name with
  | none => simp [named]
  | some validator =>
    rw [named, Option.map_some, ne_eq, Option.some_inj, Bool.not_eq_false] at h
    simp [named, h]

/-- The first marker whose validator refuses ends the check. -/
theorem checkMarkers_cons_of_eq (h : m.verdict? v marker = some false) (checks : Checks) :
    (m.checkMarkers v p (marker :: markers) checks).1 = .error ⟨p.sourceName, marker.name⟩ := by
  obtain ⟨validator, named, refuses⟩ := Option.map_eq_some_iff.1 h
  rw [checkMarkers, named]
  dsimp only
  rw [refuses]
  rfl

/-- Markers that are passed leave their verdicts. -/
theorem checkMarkers_of_accepts (all : m.Accepts v markers) (rest : List Marker) (checks : Checks) :
    m.checkMarkers v p (markers ++ rest) checks =
      m.checkMarkers v p rest (checks ++ m.passedChecks p markers) := by
  induction markers generalizing checks with
  | nil => rw [List.nil_append, passedChecks, List.filter_nil, List.map_nil, List.append_nil]
  | cons marker markers ih =>
    obtain ⟨first, all⟩ := List.forall_mem_cons.1 all
    rw [List.cons_append, checkMarkers_cons_of_ne first, ih all, List.append_assoc]
    unfold passedChecks
    rw [← List.map_append, ← List.filter_append]
    rfl

end Markers

/-! ## Arguments -/

/-- No validator refuses the value of any of some parameters. -/
def AcceptsAll (m : BindManager) (ctx : BindContext) (values : Dictionary (List String))
    (params : List Parameter) : Prop :=
  ∀ p ∈ params, m.Accepts (m.valueOf ctx values p) p.markers

/-- The first refusal: the value of a parameter is refused under a marker, and no value is before,
neither of a parameter before nor of this one under the markers before. -/
structure RefusesFirst (m : BindManager) (ctx : BindContext) (values : Dictionary (List String))
    (before : List Parameter) (p : Parameter) (earlier : List Marker) (marker : Marker) : Prop where
  before : m.AcceptsAll ctx values before
  earlier : m.Accepts (m.valueOf ctx values p) earlier
  refused : m.verdict? (m.valueOf ctx values p) marker = some false

section Params

variable {m : BindManager} {ctx : BindContext} {values : Dictionary (List String)}
  {params before : List Parameter} {p : Parameter} {earlier : List Marker} {marker : Marker}

theorem validate_of_accepts {v : Value} (h : m.Accepts v p.markers) (checks : Checks) :
    m.validate v p checks = (.ok (), checks ++ m.passedChecks p p.markers) := by
  have walked := checkMarkers_of_accepts (p := p) h [] checks
  rwa [List.append_nil, checkMarkers] at walked

theorem validate_of_refused {v : Value} {later : List Marker}
    (markers : p.markers = earlier ++ marker :: later) (passed : m.Accepts v earlier)
    (refused : m.verdict? v marker = some false) (checks : Checks) :
    (m.validate v p checks).1 = .error ⟨p.sourceName, marker.name⟩ := by
  rw [validate, markers, checkMarkers_of_accepts passed]
  exact checkMarkers_cons_of_eq refused _

/-- The step: a parameter whose value is accepted adds its value and its verdicts. -/
theorem bindFrom_cons_of_accepts (h : m.Accepts (m.valueOf ctx values p) p.markers)
    (rest : List Parameter) (bound : List Value) (checks : Checks) :
    m.bindFrom ctx values (p :: rest) bound checks =
      m.bindFrom ctx values rest (bound ++ [m.valueOf ctx values p])
        (checks ++ m.passedChecks p p.markers) := by
  have valid := validate_of_accepts h checks
  unfold valueOf at valid
  rw [bindFrom, valid]
  rfl

theorem bindFrom_cons_of_refused {refusal : Refusal} {checks : Checks}
    (h : (m.validate (m.valueOf ctx values p) p checks).1 = .error refusal)
    (rest : List Parameter) (bound : List Value) :
    m.bindFrom ctx values (p :: rest) bound checks = .error refusal := by
  unfold valueOf at h
  rw [bindFrom]
  split
  · next passed =>
    rw [passed] at h
    cases h
  · next refused =>
    rw [refused] at h
    cases h
    rfl

/-- Parameters whose values are accepted are bound one after the other. -/
theorem bindFrom_of_acceptsAll (all : m.AcceptsAll ctx values params) (rest : List Parameter)
    (bound : List Value) (checks : Checks) :
    m.bindFrom ctx values (params ++ rest) bound checks =
      m.bindFrom ctx values rest (bound ++ params.map (m.valueOf ctx values))
        (checks ++ params.flatMap fun p => m.passedChecks p p.markers) := by
  induction params generalizing bound checks with
  | nil => rw [List.nil_append, List.map_nil, List.flatMap_nil, List.append_nil, List.append_nil]
  | cons p params ih =>
    obtain ⟨first, all⟩ := List.forall_mem_cons.1 all
    rw [List.cons_append, bindFrom_cons_of_accepts first, ih all, List.map_cons,
      List.flatMap_cons, List.append_assoc, List.append_assoc]
    rfl

/-- Of the values that were sent, binding reads those under each name. -/
theorem bindFrom_congr {other : Dictionary (List String)}
    (same : ∀ name, Dictionary.get? other name = Dictionary.get? values name)
    (params : List Parameter) (bound : List Value) (checks : Checks) :
    m.bindFrom ctx other params bound checks = m.bindFrom ctx values params bound checks := by
  induction params generalizing bound checks with
  | nil => rfl
  | cons p params ih =>
    rw [bindFrom, bindFrom, same]
    split
    · exact ih _ _
    · rfl

variable {request : Request} {cause : Option Failure}

/-- **Values with the same lookups are bound to the same arguments.** -/
theorem bindArguments_congr {other : Dictionary (List String)}
    (same : ∀ name, Dictionary.get? other name = Dictionary.get? values name) :
    m.bindArguments request params other cause = m.bindArguments request params values cause :=
  bindFrom_congr same params [] []

theorem bindArguments_of_acceptsAll (all : m.AcceptsAll { request, cause } values params) :
    m.bindArguments request params values cause =
      .ok (params.map (m.valueOf { request, cause } values),
        params.flatMap fun p => m.passedChecks p p.markers) := by
  have walked := bindFrom_of_acceptsAll all [] [] []
  rwa [List.append_nil, bindFrom, List.nil_append, List.nil_append] at walked

theorem bindArguments_of_refusesFirst
    (h : m.RefusesFirst { request, cause } values before p earlier marker) {later : List Marker}
    (markers : p.markers = earlier ++ marker :: later) (after : List Parameter) :
    m.bindArguments request (before ++ p :: after) values cause =
      .error ⟨p.sourceName, marker.name⟩ := by
  rw [bindArguments, bindFrom_of_acceptsAll h.before]
  exact bindFrom_cons_of_refused (validate_of_refused markers h.earlier h.refused _) _ _

/-- The split of the parameters and markers at the first refusal, if there is one. -/
theorem acceptsAll_or_refusesFirst (m : BindManager) (ctx : BindContext)
    (values : Dictionary (List String)) (params : List Parameter) :
    m.AcceptsAll ctx values params ∨ ∃ before p after earlier marker later,
      params = before ++ p :: after ∧ p.markers = earlier ++ marker :: later ∧
        m.RefusesFirst ctx values before p earlier marker := by
  rcases forall_or_first (fun p => m.Accepts (m.valueOf ctx values p) p.markers) params with
    all | ⟨before, p, after, split, passed, refused⟩
  · exact .inl all
  · rcases forall_or_first (fun marker => m.verdict? (m.valueOf ctx values p) marker ≠ some false)
      p.markers with all | ⟨earlier, marker, later, markers, others, first⟩
    · exact absurd all refused
    · exact .inr ⟨before, p, after, earlier, marker, later, split, markers, passed, others,
        not_ne_iff.1 first⟩

end Params

/-! ## The law of binding -/

/-- What another manager answers up to a marker of a parameter is what this one does: it binds the
same values, and its validators say the same of them. -/
structure AgreesUpTo (m other : BindManager) (ctx : BindContext)
    (values : Dictionary (List String)) (before : List Parameter) (p : Parameter)
    (markers : List Marker) : Prop where
  bound : ∀ q ∈ before ++ [p], other.valueOf ctx values q = m.valueOf ctx values q
  before : ∀ q ∈ before, ∀ marker ∈ q.markers,
    other.verdict? (m.valueOf ctx values q) marker = m.verdict? (m.valueOf ctx values q) marker
  last : ∀ marker ∈ markers,
    other.verdict? (m.valueOf ctx values p) marker = m.verdict? (m.valueOf ctx values p) marker

/-- Managers that agree up to a refusal refuse the same. -/
theorem AgreesUpTo.refusesFirst {m other : BindManager} {ctx : BindContext}
    {values : Dictionary (List String)} {before : List Parameter} {p : Parameter}
    {earlier : List Marker} {marker : Marker}
    (agrees : m.AgreesUpTo other ctx values before p (earlier ++ [marker]))
    (h : m.RefusesFirst ctx values before p earlier marker) :
    other.RefusesFirst ctx values before p earlier marker := by
  have last : other.valueOf ctx values p = m.valueOf ctx values p :=
    agrees.bound p (List.mem_append_right _ (List.mem_singleton_self p))
  refine ⟨fun q hq k hk => ?_, fun k hk => ?_, ?_⟩
  · rw [agrees.bound q (List.mem_append_left _ hq), agrees.before q hq k hk]
    exact h.before q hq k hk
  · rw [last, agrees.last k (List.mem_append_left _ hk)]
    exact h.earlier k hk
  · rw [last, agrees.last marker (List.mem_append_right _ (List.mem_singleton_self marker))]
    exact h.refused

/-- How binding goes by the validators. Arguments are given just if no validator refuses a value:
one for each parameter in order, with the verdicts of its markers, all of them that it passed. A
refusal names the first refused value and marker, and it would be the same whatever parameters came
behind, whatever they were bound to, and whatever any validator said of that or under later
markers. -/
structure JudgesInOrder (m : BindManager) (request : Request) (params : List Parameter)
    (values : Dictionary (List String)) (cause : Option Failure) : Prop where
  ok_iff : (∃ args checks, m.bindArguments request params values cause = .ok (args, checks)) ↔
    m.AcceptsAll { request, cause } values params
  ok : ∀ args checks, m.bindArguments request params values cause = .ok (args, checks) →
    args = params.map (m.valueOf { request, cause } values) ∧
      checks = params.flatMap fun p => m.passedChecks p p.markers
  refused : ∀ refusal, m.bindArguments request params values cause = .error refusal →
    ∃ before p after earlier marker later,
      params = before ++ p :: after ∧ p.markers = earlier ++ marker :: later ∧
      m.RefusesFirst { request, cause } values before p earlier marker ∧
      refusal = ⟨p.sourceName, marker.name⟩ ∧
      ∀ other others,
        m.AgreesUpTo other { request, cause } values before p (earlier ++ [marker]) →
        other.bindArguments request (before ++ p :: others) values cause = .error refusal

/-- **Every manager judges in order.** -/
theorem judgesInOrder (m : BindManager) (request : Request) (params : List Parameter)
    (values : Dictionary (List String)) (cause : Option Failure) :
    m.JudgesInOrder request params values cause := by
  rcases m.acceptsAll_or_refusesFirst { request, cause } values params with
    all | ⟨before, p, after, earlier, marker, later, split, markers, first⟩
  · have given := bindArguments_of_acceptsAll all
    refine ⟨⟨fun _ => all, fun _ => ⟨_, _, given⟩⟩, fun args checks h => ?_, fun refusal h => ?_⟩
    · rw [given] at h
      cases h
      exact ⟨rfl, rfl⟩
    · rw [given] at h
      cases h
  · have stopped := bindArguments_of_refusesFirst first markers after
    rw [← split] at stopped
    refine ⟨⟨?_, fun all => ?_⟩, fun args checks h => ?_, fun refusal h => ?_⟩
    · rintro ⟨args, checks, h⟩
      rw [stopped] at h
      cases h
    · have accepted := all p (split ▸ List.mem_append_right _ List.mem_cons_self)
      exact absurd first.refused
        (accepted marker (markers ▸ List.mem_append_right _ List.mem_cons_self))
    · rw [stopped] at h
      cases h
    · rw [stopped] at h
      cases h
      refine ⟨before, p, after, earlier, marker, later, split, markers, first, rfl, ?_⟩
      intro other others agrees
      exact bindArguments_of_refusesFirst (agrees.refusesFirst first) markers others

end BindManager

end Switchboard
