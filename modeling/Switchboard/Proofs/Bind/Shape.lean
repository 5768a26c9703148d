import Switchboard.Bind.Manager
import Switchboard.Proofs.Param.Descent
import Switchboard.Proofs.Param.Value

/-!
# Shapes of bound values

A binder always answers, and what it answers has the shape of the declared type, whatever was sent
and whatever a converter made of it (`BindManager.bind_suits`).

A binder that goes by the raw value has three sources: the value converted, the default text
converted, and the zero of the type. So it is enough that what it converts has the shape
(`Binder.yields_of_convert`). No other binder stands in for the one of a built-in type, for each
built-in type but that of uploaded files takes values of itself alone.
-/

namespace Switchboard

/-! ## Built-in types -/

/-- The class of uploaded files, or one that descends from it. -/
inductive ParamType.IsUpload : ParamType → Prop
  | object {tag : Tag} (isA : tag.isA (.ofName "UploadedFile") = true) : IsUpload (.object tag)
  | generic {raw : Tag} {args : List ParamType} (isA : raw.isA (.ofName "UploadedFile") = true) :
      IsUpload (.generic raw args)

/-- A type that is bound without binders of an application. -/
inductive ParamType.IsBuiltin : ParamType → Prop
  | scalar (kind : Scalar) : IsBuiltin (.scalar kind)
  | boxed (kind : Scalar) : IsBuiltin (.boxed kind)
  | text : IsBuiltin .text
  | upload {type : ParamType} (h : type.IsUpload) : IsBuiltin type
  | context (kind : ContextKind) : IsBuiltin (.context kind)

theorem ParamType.isUpload_of_isAssignableFrom {type : ParamType}
    (h : upload.isAssignableFrom type = true) : type.IsUpload := by
  cases isAssignableFrom_iff.1 h with
  | same => exact .object (by decide)
  | object isA => exact .object isA
  | raw isA => exact .generic isA
  | all object => exact absurd object (by decide)

theorem ParamType.IsUpload.isAssignableFrom {type : ParamType} (h : type.IsUpload) :
    upload.isAssignableFrom type = true := by
  unfold ParamType.isAssignableFrom upload
  rw [Bool.or_eq_true]
  cases h with
  | object isA => exact .inr isA
  | generic isA => exact .inr isA

theorem Scalar.mem_all (kind : Scalar) : kind ∈ all := by
  cases kind with
  | whole width => cases width <;> decide
  | real precision => cases precision <;> decide
  | _ => decide

theorem ContextKind.mem_all (kind : ContextKind) : kind ∈ all := by
  cases kind <;> decide

/-- A value of the shape of a declared type. Null stands only for what is boxed, for text and files,
and for a session or cause that is not there. -/
inductive Value.Suits : ParamType → Value → Prop
  | scalar {kind : Scalar} {v : Value} (h : IsScalar kind v) : Suits (.scalar kind) v
  | boxed {kind : Scalar} {v : Value} (h : IsScalar kind v) : Suits (.boxed kind) v
  | boxedNull {kind : Scalar} : Suits (.boxed kind) .null
  | text (s : String) : Suits .text (.text s)
  | textNull : Suits .text .null
  | file {type : ParamType} (h : type.IsUpload) (u : Upload) : Suits type (.file u)
  | fileNull {type : ParamType} (h : type.IsUpload) : Suits type .null
  | request : Suits (.context .request) (.context .request)
  | response : Suits (.context .response) (.context .response)
  | session : Suits (.context .session) (.context .session)
  | sessionNull : Suits (.context .session) .null
  | body (data : ByteArray) : Suits (.context .body) (.bytes data)
  | cause : Suits (.context .cause) (.context .cause)
  | causeNull : Suits (.context .cause) .null
  | files (uploads : Dictionary Upload) : Suits (.context .files) (.files uploads)
  | params (entries : Dictionary String) : Suits (.context .params) (.map entries)

theorem Value.Suits.isScalar {kind : Scalar} {v : Value} (h : Suits (.scalar kind) v) :
    IsScalar kind v := by
  cases h with
  | scalar h => exact h
  | file upload => cases upload
  | fileNull upload => cases upload

/-! ## What the binders answer -/

namespace Binder

open Value

variable {b : Binder} {type : ParamType} {kind : Scalar} {v w : Value} {ctx : BindContext}

/-- Whatever is sent, the binder's answer has the shape of a type. -/
def Yields (b : Binder) (type : ParamType) : Prop :=
  ∀ (ctx : BindContext) (sent : Option Value), Suits type (b.bind ctx type sent)

/-- What is converted, or what stands in for it. -/
theorem suits_getD {x : Except BindError Value} (converted : ∀ w, x = .ok w → Suits type w)
    (instead : Suits type v) : Suits type (x.toOption.getD v) := by
  cases x with
  | error e => exact instead
  | ok w => exact converted w rfl

/-- A binder that resolves as usual yields what it converts to, and else the zero of the type. -/
theorem yields_of_convert (usual : b.resolve? = none)
    (converted : ∀ ctx v w, b.convert ctx type v = .ok w → Suits type w)
    (zero : Suits type (.zeroOf type)) : b.Yields type := by
  intro ctx sent
  have default : Suits type (b.default ctx type) := by
    unfold Binder.default
    split
    · exact suits_getD (converted _ _) zero
    · exact zero
  unfold Binder.bind
  rw [usual]
  dsimp only
  split
  · exact default
  · exact default
  · exact suits_getD (converted _ _) default

/-- One binder serves a kind of scalars and the boxed kind. -/
theorem yields_scalar (usual : b.resolve? = none)
    (converted : ∀ type ∈ [ParamType.scalar kind, .boxed kind], ∀ ctx v w,
      b.convert ctx type v = .ok w → IsScalar kind w) :
    b.Yields (.scalar kind) ∧ b.Yields (.boxed kind) := by
  constructor
  · refine yields_of_convert usual (fun ctx v w h => ?_) (.scalar (isScalar_zeroOfScalar kind))
    exact .scalar (converted _ (by simp) ctx v w h)
  · refine yields_of_convert usual (fun ctx v w h => ?_) .boxedNull
    exact .boxed (converted _ (by simp) ctx v w h)

theorem isScalar_of_boolean (h : boolean.convert ctx type v = .ok w) : IsScalar .bool w := by
  unfold boolean at h
  dsimp only at h
  split at h <;> cases h <;> exact .bool _

/-- What a converter without rules for failures answers. -/
theorem ofPartial_eq_ok {f : ParamType → Value → Option Value}
    (h : (ofPartial f).convert ctx type v = .ok w) : f type v = some w := by
  unfold ofPartial at h
  dsimp only at h
  split at h
  · next bound found =>
    cases h
    exact found
  · cases h

theorem isScalar_of_character (h : character.convert ctx type v = .ok w) : IsScalar .char w := by
  have read := ofPartial_eq_ok h
  cases v with
  | char c =>
    cases read
    exact .char c
  | text s =>
    dsimp only at read
    obtain ⟨c, -, rfl⟩ := Option.map_eq_some_iff.1 read
    exact .char c
  | _ => cases read

theorem isScalar_of_readNumber? {s : String} (h : readNumber? kind s = some w) :
    IsScalar kind w := by
  cases kind with
  | bool => cases h
  | char => cases h
  | whole width =>
    rw [readNumber?] at h
    exact isScalar_of_holds h
  | real precision =>
    cases precision with
    | single =>
      rw [readNumber?] at h
      obtain ⟨x, -, rfl⟩ := Option.map_eq_some_iff.1 h
      exact .single x
    | double =>
      rw [readNumber?] at h
      obtain ⟨x, -, rfl⟩ := Option.map_eq_some_iff.1 h
      exact .double x

theorem isScalar_of_narrow? (h : narrow? kind v = some w) : IsScalar kind w := by
  cases kind with
  | bool => cases h
  | char => cases h
  | whole width =>
    rw [narrow?] at h
    exact isScalar_of_holds h
  | real precision =>
    cases precision with
    | single =>
      rw [narrow?] at h
      obtain ⟨x, -, rfl⟩ := Option.map_eq_some_iff.1 h
      exact .single _
    | double =>
      rw [narrow?] at h
      obtain ⟨x, -, rfl⟩ := Option.map_eq_some_iff.1 h
      exact .double x

/-- What the number binder converts is a number of the kind that the type asks for. -/
theorem isScalar_of_number (number? : numberKind? type = some kind)
    (h : number.convert ctx type v = .ok w) : IsScalar kind w := by
  unfold number at h
  dsimp only at h
  rw [number?] at h
  dsimp only at h
  split at h
  · next bound read =>
    cases h
    split at read
    · exact isScalar_of_readNumber? read
    · exact isScalar_of_narrow? read
  · cases h

/-- The binder of a kind of scalars. -/
def ofKind : Scalar → Binder
  | .bool => boolean
  | .char => character
  | .whole _ | .real _ => number

/-- The binder of a kind yields scalars of it, boxed or not. -/
theorem ofKind_yields (kind : Scalar) :
    (ofKind kind).Yields (.scalar kind) ∧ (ofKind kind).Yields (.boxed kind) := by
  cases kind with
  | bool => exact yields_scalar rfl fun _ _ _ _ _ h => isScalar_of_boolean h
  | char => exact yields_scalar rfl fun _ _ _ _ _ h => isScalar_of_character h
  | whole width =>
    refine yields_scalar rfl fun type among _ _ _ h => isScalar_of_number ?_ h
    rcases List.mem_pair.1 among with rfl | rfl <;> rfl
  | real precision =>
    refine yields_scalar rfl fun type among _ _ _ h => isScalar_of_number ?_ h
    rcases List.mem_pair.1 among with rfl | rfl <;> rfl

/-- The text binder yields texts. -/
theorem text_yields : text.Yields .text := by
  refine yields_of_convert rfl (fun ctx v w h => ?_) .textNull
  have read := ofPartial_eq_ok h
  cases v with
  | text s =>
    cases read
    exact .text _
  | char c =>
    cases read
    exact .text _
  | _ => cases read

/-- The upload binder yields uploads. -/
theorem upload_yields (h : type.IsUpload) : upload.Yields type := by
  intro ctx sent
  have null : Value.zeroOf type = .null := by
    cases h <;> rfl
  have found : Suits type ((uploaded? ctx).getD (.zeroOf type)) := by
    cases file : uploaded? ctx with
    | none =>
      rw [null]
      exact .fileNull h
    | some v =>
      rw [uploaded?] at file
      obtain ⟨p, -, there⟩ := Option.bind_eq_some_iff.1 file
      obtain ⟨u, -, rfl⟩ := Option.map_eq_some_iff.1 there
      exact .file h u
  cases sent with
  | none => exact found
  | some v =>
    cases v with
    | file u => exact .file h u
    | _ => exact found

theorem suits_contextValue (ctx : BindContext) (kind : ContextKind) :
    Suits (.context kind) (contextValue ctx kind) := by
  cases kind with
  | request => exact .request
  | response => exact .response
  | session =>
    rw [contextValue]
    split
    · exact .session
    · exact .sessionNull
  | body => exact .body _
  | cause =>
    rw [contextValue]
    split
    · exact .cause
    · exact .causeNull
  | files => exact .files _
  | params => exact .params _

theorem context_yields (kind : ContextKind) : context.Yields (.context kind) :=
  fun ctx _ => suits_contextValue ctx kind

end Binder

/-! ## The binder of a type -/

namespace BindManager

open Value

variable {m : BindManager} {type : ParamType} {b : Binder}

/-- A type of its own entry is found there. -/
theorem findBinder_of_index {i : Nat} (h : m.index.lookup type = some i) :
    ∃ b, m.binders[i]? = some (type, b) ∧ m.findBinder type = some b := by
  have there := (m.indexed type i).1 h
  rw [List.getElem?_map] at there
  obtain ⟨⟨t, b⟩, entry, rfl⟩ := Option.map_eq_some_iff.1 there
  refine ⟨b, entry, ?_⟩
  unfold findBinder
  rw [h]
  dsimp only
  rw [entry]
  rfl

/-- A type without one is left to the first that takes its values. -/
theorem findBinder_of_index_eq_none (h : m.index.lookup type = none) :
    m.findBinder type =
      (m.binders.find? fun e => e.1.isAssignableFrom type).map Prod.snd := by
  unfold findBinder
  rw [h]

/-- A binder that is found was registered for a type that takes values of the one asked for. -/
theorem mem_of_findBinder (h : m.findBinder type = some b) :
    ∃ t, (t, b) ∈ m.binders ∧ t.isAssignableFrom type = true := by
  cases place : m.index.lookup type with
  | some i =>
    obtain ⟨own, entry, found⟩ := findBinder_of_index place
    cases found.symm.trans h
    exact ⟨type, List.mem_of_getElem? entry, type.isAssignableFrom_self⟩
  | none =>
    rw [findBinder_of_index_eq_none place] at h
    obtain ⟨⟨t, b⟩, found, rfl⟩ := Option.map_eq_some_iff.1 h
    have takes := List.find?_some found
    exact ⟨t, List.mem_of_find?_eq_some found, takes⟩

theorem exists_findBinder {t : ParamType} (hm : (t, b) ∈ m.binders)
    (h : t.isAssignableFrom type = true) : ∃ found, m.findBinder type = some found := by
  cases place : m.index.lookup type with
  | some i =>
    obtain ⟨own, -, found⟩ := findBinder_of_index place
    exact ⟨own, found⟩
  | none =>
    rw [findBinder_of_index_eq_none place]
    refine Option.isSome_iff_exists.1 ?_
    rw [Option.isSome_map, List.find?_isSome]
    exact ⟨(t, b), hm, h⟩

/-! ## The built-in binders -/

/-- The built-in binders by type. -/
inductive Provided : ParamType → Binder → Prop
  | scalar (kind : Scalar) : Provided (.scalar kind) (.ofKind kind)
  | boxed (kind : Scalar) : Provided (.boxed kind) (.ofKind kind)
  | text : Provided .text .text
  | upload : Provided .upload .upload
  | context (kind : ContextKind) : Provided (.context kind) .context

theorem builtinBinders_eq :
    builtinBinders =
      (Scalar.all.flatMap fun kind =>
        [(.scalar kind, Binder.ofKind kind), (.boxed kind, Binder.ofKind kind)]) ++
      [(.text, .text), (.upload, .upload)] ++
      ContextKind.all.map fun kind => (.context kind, .context) := rfl

theorem binders_builtin : builtin.binders = builtinBinders := rfl

theorem mem_builtinBinders_iff : (type, b) ∈ builtinBinders ↔ Provided type b := by
  rw [builtinBinders_eq, List.mem_append, List.mem_append, List.mem_flatMap, List.mem_pair,
    List.mem_map]
  constructor
  · rintro ((⟨kind, -, h⟩ | h) | ⟨kind, -, h⟩)
    · rcases List.mem_pair.1 h with h | h
      · cases h
        exact .scalar kind
      · cases h
        exact .boxed kind
    · rcases h with h | h
      · cases h
        exact .text
      · cases h
        exact .upload
    · cases h
      exact .context kind
  · intro h
    cases h with
    | scalar kind => exact .inl (.inl ⟨kind, kind.mem_all, List.mem_pair.2 (.inl rfl)⟩)
    | boxed kind => exact .inl (.inl ⟨kind, kind.mem_all, List.mem_pair.2 (.inr rfl)⟩)
    | text => exact .inl (.inr (.inl rfl))
    | upload => exact .inl (.inr (.inr rfl))
    | context kind => exact .inr ⟨kind, kind.mem_all, rfl⟩

/-- A built-in binder yields what each type needs that it may be found for. -/
theorem Provided.yields {t : ParamType} (h : Provided t b)
    (takes : t.isAssignableFrom type = true) : b.Yields type := by
  have self (object : ∀ tag, t ≠ .object tag) (generic : ∀ raw args, t ≠ .generic raw args) :
      type = t := ParamType.eq_of_isAssignableFrom takes object generic
  cases h with
  | scalar kind =>
    rw [self nofun nofun]
    exact (Binder.ofKind_yields kind).1
  | boxed kind =>
    rw [self nofun nofun]
    exact (Binder.ofKind_yields kind).2
  | text =>
    rw [self nofun nofun]
    exact Binder.text_yields
  | upload => exact Binder.upload_yields (ParamType.isUpload_of_isAssignableFrom takes)
  | context kind =>
    rw [self nofun nofun]
    exact Binder.context_yields kind

/-- Every built-in type has a built-in binder that takes its values. -/
theorem exists_provided (h : type.IsBuiltin) :
    ∃ t b, Provided t b ∧ t.isAssignableFrom type = true := by
  cases h with
  | scalar kind => exact ⟨_, _, .scalar kind, ParamType.isAssignableFrom_self _⟩
  | boxed kind => exact ⟨_, _, .boxed kind, ParamType.isAssignableFrom_self _⟩
  | text => exact ⟨_, _, .text, ParamType.isAssignableFrom_self _⟩
  | upload h => exact ⟨_, _, .upload, h.isAssignableFrom⟩
  | context kind => exact ⟨_, _, .context kind, ParamType.isAssignableFrom_self _⟩

variable {ctx : BindContext} {p : Parameter}

/-- One value is bound to one of the type. -/
theorem suits_bindOne (hm : m.binders = builtin.binders) (h : p.bindType.IsBuiltin)
    (ctx : BindContext) (sent : Option Value) : Suits p.bindType (m.bindOne ctx p sent) := by
  rw [binders_builtin] at hm
  obtain ⟨t, b, provided, takes⟩ := exists_provided h
  rw [← mem_builtinBinders_iff, ← hm] at provided
  obtain ⟨found, hf⟩ := exists_findBinder provided takes
  obtain ⟨t, among, takes⟩ := mem_of_findBinder hf
  rw [hm, mem_builtinBinders_iff] at among
  unfold bindOne
  rw [hf]
  exact among.yields takes _ _

/-- **Binding keeps the declared shape**: with the built-in binders alone, whatever the converters
answer and whatever is sent or declared as the default, a built-in type is bound to a value of its
own. An array has one such value for each raw text; where there is none it has the default for its
only item, or it is empty. -/
theorem bind_suits (hm : m.binders = builtin.binders) (h : p.bindType.IsBuiltin)
    (ctx : BindContext) (raw : List String) :
    (p.isArray = false → Suits p.bindType (m.bind ctx p raw)) ∧
      (p.isArray = true → ∃ items, m.bind ctx p raw = .array items ∧
        (∀ v ∈ items, Suits p.bindType v) ∧
        items.length =
          if raw = [] then (if p.default.isSome then 1 else 0) else raw.length) := by
  have one := suits_bindOne hm h ctx
  unfold BindManager.bind
  constructor
  · intro single
    rw [single]
    exact one _
  · intro array
    rw [array, if_pos rfl]
    cases raw with
    | nil =>
      cases p.default with
      | none => exact ⟨[], rfl, List.forall_mem_nil _, rfl⟩
      | some literal => exact ⟨_, rfl, List.forall_mem_singleton.2 (one none), rfl⟩
    | cons s raw =>
      refine ⟨_, rfl, fun v hv => ?_, List.length_map _⟩
      obtain ⟨s, -, rfl⟩ := List.mem_map.1 hv
      exact one _

/-- A converter whose answers are not of the kind that the parameter declares. -/
def astray : BindManager := builtin.addConverter "Astray" fun _ _ _ _ => some (.bytes .empty)

/-- Bytes that are read astray, with a default that no byte holds. -/
def strayBytes : Parameter where
  name := "n"
  type := .array (.scalar (.whole .byte))
  markers := [{ name := "Astray" }]
  default := some "1000"

theorem bind_suits_astray :
    ∃ items, astray.bind { request := default } strayBytes ["7", "x"] = .array items ∧
      (∀ v ∈ items, IsScalar (.whole .byte) v) ∧ items.length = 2 := by
  have type : strayBytes.bindType.IsBuiltin := .scalar (.whole .byte)
  have same : astray.binders = builtin.binders := rfl
  have array : strayBytes.isArray = true := rfl
  obtain ⟨items, bound, each, length⟩ :=
    (bind_suits same type { request := default } ["7", "x"]).2 array
  exact ⟨items, bound, fun v hv => (each v hv).isScalar, length⟩

end BindManager

end Switchboard
