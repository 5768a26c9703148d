import Switchboard.Bind.Binder
import Switchboard.Bind.Converter
import Switchboard.Bind.Validator

/-!
# Binding arguments

The binders, converters and validators in force, and how the arguments of a call come from its raw
values: each parameter is converted, bound and validated in order of declaration, and the first
value that a validator refuses ends it.
-/

namespace Switchboard

/-- One verdict of a validator. -/
structure Check where
  parameter : String
  marker : String
  passed : Bool
  deriving DecidableEq, Repr

/-- The verdicts of one call in order. -/
abbrev Checks := List Check

/-- The first verdict that is a refusal. -/
def Checks.firstError? (cs : Checks) : Option Check := List.find? (fun c => !c.passed) cs

/-! ## The binders in force -/

/-- An index leads to the entry of each type in a list of binders, and nowhere else. -/
def Indexes (index : List (ParamType × Nat)) (binders : List (ParamType × Binder)) : Prop :=
  ∀ type i, index.lookup type = some i ↔ (binders.map Prod.fst)[i]? = some type

namespace Indexes

variable {index : List (ParamType × Nat)} {binders : List (ParamType × Binder)}

theorem nil : Indexes [] [] := fun _ _ => iff_of_false nofun nofun

/-- A binder that is replaced leaves the types as they are. -/
theorem map_fst_replace (binders : List (ParamType × Binder)) (i : Nat) (b : Binder) :
    (binders.modify i fun e => (e.1, b)).map Prod.fst = binders.map Prod.fst := by
  refine List.ext_getElem? fun j => ?_
  rw [List.getElem?_map, List.getElem?_map, List.getElem?_modify]
  cases binders[j]? with
  | none => rfl
  | some e => by_cases place : i = j <;> simp [place]

theorem replace (h : Indexes index binders) (i : Nat) (b : Binder) :
    Indexes index (binders.modify i fun e => (e.1, b)) := by
  intro type j
  rw [map_fst_replace]
  exact h type j

/-- A binder of a new type stands behind the others. -/
theorem append (h : Indexes index binders) {type : ParamType} (new : index.lookup type = none)
    (b : Binder) : Indexes ((type, binders.length) :: index) (binders ++ [(type, b)]) := by
  intro other j
  have known := h other j
  have before : (binders.map Prod.fst)[j]? ≠ some type := by
    rw [Ne, ← h type j, new]
    nofun
  rw [List.lookup_cons, List.map_append, List.map_singleton, List.getElem?_append, List.length_map]
  by_cases same : other = type
  · subst same
    grind
  · rw [beq_false_of_ne same]
    grind

end Indexes

/-- What takes part in binding. -/
structure BindManager where
  /-- Binders by type in order of first registration, one a type. -/
  binders : List (ParamType × Binder) := []
  /-- The place of each type among the binders. -/
  index : List (ParamType × Nat) := []
  indexed : Indexes index binders := by exact Indexes.nil
  converters : Dictionary Converter := []
  validators : Dictionary Validator := []

namespace BindManager

instance : Inhabited BindManager := ⟨{}⟩

/-- Registers a binder. One for the same type is replaced where it stands. -/
def addBinder (m : BindManager) (type : ParamType) (b : Binder) : BindManager :=
  match new : m.index.lookup type with
  | some i =>
    { m with
      binders := m.binders.modify i fun e => (e.1, b)
      indexed := m.indexed.replace i b }
  | none =>
    { m with
      binders := m.binders ++ [(type, b)]
      index := (type, m.binders.length) :: m.index
      indexed := m.indexed.append new b }

/-- The manager that some registrations fill, one after the other. -/
def ofBinders (calls : List (ParamType × Binder)) : BindManager :=
  calls.foldl (fun m (t, b) => m.addBinder t b) {}

/-- Registers a converter for a marker, in place of an earlier one. -/
def addConverter (m : BindManager) (marker : String) (c : Converter) : BindManager :=
  { m with converters := Dictionary.put marker c m.converters }

/-- Registers a validator for a marker, in place of an earlier one. -/
def addValidator (m : BindManager) (marker : String) (v : Validator) : BindManager :=
  { m with validators := Dictionary.put marker v m.validators }

/-- The binders of the built-in types, in the order in which they are tried. -/
def builtinBinders : List (ParamType × Binder) :=
  let both (kind : Scalar) (b : Binder) : List (ParamType × Binder) :=
    [(.scalar kind, b), (.boxed kind, b)]
  both .bool .boolean ++ both .char .character ++
    ([.whole .byte, .whole .short, .whole .int, .whole .long, .real .single,
      .real .double].flatMap (both · .number)) ++
    [(.text, .text), (.upload, .upload)] ++ ContextKind.all.map fun kind => (.context kind, .context)

/-- What takes part in binding when nothing else is registered. -/
def builtin : BindManager :=
  let m := ofBinders builtinBinders
  ((((m.addConverter "Date" .date).addValidator "Required" .required).addValidator
    "Range" .range).addValidator "Email" .email).addValidator "IPv4Address" .ipv4

/-- The binder of a type, else the first one whose type takes values of it. -/
def findBinder (m : BindManager) (target : ParamType) : Option Binder :=
  match m.index.lookup target with
  | some i => (m.binders[i]?).map (·.2)
  | none => (m.binders.find? fun (t, _) => t.isAssignableFrom target).map (·.2)

/-- Reads a raw text by the first of the parameter's markers that names a converter. -/
def convert (m : BindManager) (request : Request) (p : Parameter) (raw : String) : Value :=
  let read := p.markers.findSome? fun marker =>
    (Dictionary.get? m.converters marker.name).map fun c => c request p marker raw
  (read.bind id).getD (.text raw)

/-- Binds one value to a parameter's type; without a binder it stays as it is. -/
def bindOne (m : BindManager) (ctx : BindContext) (p : Parameter) (v : Option Value) : Value :=
  match m.findBinder p.bindType with
  | some b => b.bind { ctx with param := some p } p.bindType v
  | none => v.getD .null

/-- Binds a parameter from the raw texts sent for it: the first of them, or for an array all. An
array that nothing is sent for is empty, or has the default for its only item. -/
def bind (m : BindManager) (ctx : BindContext) (p : Parameter) (raw : List String) : Value :=
  let one (s : String) : Value := m.convert ctx.request p s
  if p.isArray then
    if raw.isEmpty then
      .array (if p.default.isSome then [m.bindOne ctx p none] else [])
    else .array (raw.map fun s => m.bindOne ctx p (some (one s)))
  else m.bindOne ctx p (raw.head?.map one)

/-- Puts a value to the validators that some markers name, up to the first that refuses it. -/
def checkMarkers (m : BindManager) (v : Value) (p : Parameter) :
    List Marker → Checks → Except Refusal Unit × Checks
  | [], checks => (.ok (), checks)
  | marker :: rest, checks =>
    match Dictionary.get? m.validators marker.name with
    | none => m.checkMarkers v p rest checks
    | some validator =>
      let passed := validator v marker
      let checks := checks ++ [⟨p.sourceName, marker.name, passed⟩]
      if passed then m.checkMarkers v p rest checks
      else (.error ⟨p.sourceName, marker.name⟩, checks)

/-- Puts a value to the validators that the parameter's markers name. -/
def validate (m : BindManager) (v : Value) (p : Parameter) (checks : Checks) :
    Except Refusal Unit × Checks := m.checkMarkers v p p.markers checks

/-- Binds and validates some parameters in order, each from the raw texts of its source name. -/
def bindFrom (m : BindManager) (ctx : BindContext) (values : Dictionary (List String)) :
    List Parameter → List Value → Checks → Except Refusal (List Value × Checks)
  | [], bound, checks => .ok (bound, checks)
  | p :: rest, bound, checks =>
    let v := m.bind ctx p ((Dictionary.get? values p.sourceName).getD [])
    match m.validate v p checks with
    | (.ok (), checks) => m.bindFrom ctx values rest (bound ++ [v]) checks
    | (.error refusal, _) => .error refusal

/-- The arguments of a call with the verdicts that accepted them. -/
def bindArguments (m : BindManager) (request : Request) (params : List Parameter)
    (values : Dictionary (List String)) (cause : Option Failure) :
    Except Refusal (List Value × Checks) :=
  m.bindFrom { request, cause } values params [] []

end BindManager

/-- Arguments for what is not called with values of its own: parts of the call as they are, all
else zero. -/
def contextArguments (request : Request) (params : List Parameter) (cause : Option Failure) :
    List Value :=
  params.map fun p =>
    match p.type with
    | .context kind => Binder.contextValue { request, param := some p, cause } kind
    | other => .zeroOf other

end Switchboard
