import Switchboard.Rpc.Shape
import Mathlib.Data.List.Basic

/-!
# Values of declared types

A scalar has a kind of its own, and an integer is one of its width (`Value.IsScalar`). A document is
read as a value of a declared type by one table and accepted for the type by another. `Value.Reads`
says what a document gives a type, and both tables follow it (`Value.reads_iff`): the documents that
are accepted are those that are read as something, and what they are read as is null only for null.
-/

namespace Switchboard

/-- No width holds more than the signed integers of 64 bits. -/
theorem Width.bounds_of_holds {w : Width} {n : Int} (range : w.holds n = true) :
    Number.leastSigned 64 ≤ n ∧ n ≤ Number.largestSigned 64 := by
  have least : Number.leastSigned 64 ≤ Number.leastSigned w.bits := by
    cases w <;> decide
  have most : Number.largestSigned w.bits ≤ Number.largestSigned 64 := by
    cases w <;> decide
  unfold Width.holds Number.fitsSigned at range
  rw [Bool.and_eq_true, decide_eq_true_eq, decide_eq_true_eq] at range
  exact ⟨Int.le_trans least range.1, Int.le_trans range.2 most⟩

namespace Value

/-! ## Kinds of scalars -/

/-- A value of just this kind of scalars. -/
inductive IsScalar : Scalar → Value → Prop
  | bool (b : Bool) : IsScalar .bool (.bool b)
  | char (c : Char) : IsScalar .char (.char c)
  | whole {w : Width} {n : Int} (range : w.holds n = true) : IsScalar (.whole w) (.whole w n)
  | single (x : Number.Single) : IsScalar (.real .single) (.single x)
  | double (x : Number.Double) : IsScalar (.real .double) (.double x)

theorem IsScalar.ne_null {kind : Scalar} {v : Value} (h : IsScalar kind v) : v ≠ .null := by
  cases h <;> exact Value.noConfusion

/-- The zero of a kind is of that kind. -/
theorem isScalar_zeroOfScalar (kind : Scalar) : IsScalar kind (zeroOfScalar kind) := by
  cases kind with
  | bool => exact .bool false
  | char => exact .char _
  | whole w =>
    refine .whole ?_
    cases w <;> decide
  | real precision =>
    cases precision with
    | single => exact .single _
    | double => exact .double _

/-- An integer that is kept if a width holds it. -/
theorem isScalar_of_holds {w : Width} {n? : Option Int} {v : Value}
    (h : (n?.filter w.holds).map (whole w) = some v) : IsScalar (.whole w) v := by
  obtain ⟨n, kept, rfl⟩ := Option.map_eq_some_iff.1 h
  exact .whole (Option.filter_eq_some_iff.1 kept).2

/-! ## Documents read as scalars -/

/-- A document is read as a scalar: a truth value, a text of one character or an integer as what it
is, and a number in the precision asked for. -/
inductive ReadsScalar : Scalar → Json → Value → Prop
  | bool (b : Bool) : ReadsScalar .bool (.bool b) (.bool b)
  | char (c : Char) : ReadsScalar .char (.text (String.singleton c)) (.char c)
  | whole {w : Width} {n : Int} (range : w.holds n = true) :
      ReadsScalar (.whole w) (.number (.int n)) (.whole w n)
  | single {n : Json.Number} {x : Number.Double} (number : (Json.number n).double? = some x) :
      ReadsScalar (.real .single) (.number n) (.single x.convert)
  | double {n : Json.Number} {x : Number.Double} (number : (Json.number n).double? = some x) :
      ReadsScalar (.real .double) (.number n) (.double x)

variable {kind : Scalar} {node : Json} {v : Value}

/-- What is read as a scalar is one of that kind. -/
theorem ReadsScalar.isScalar (h : ReadsScalar kind node v) : IsScalar kind v := by
  cases h with
  | bool b => exact .bool b
  | char c => exact .char c
  | whole range => exact .whole range
  | single => exact .single _
  | double => exact .double _

theorem ReadsScalar.ne_null (h : ReadsScalar kind node v) : node ≠ .null := by
  cases h <;> exact Json.noConfusion

theorem int?_eq_some {n : Int} (h : node.int? = some n) : node = .number (.int n) := by
  unfold Json.int? at h
  split at h
  · split at h
    · cases h
      rfl
    · cases h
  · cases h

theorem int?_of_holds {w : Width} {n : Int} (range : w.holds n = true) :
    (Json.number (.int n)).int? = some n :=
  if_pos (Width.bounds_of_holds range).2

theorem double?_eq_some {x : Number.Double} (h : node.double? = some x) :
    ∃ n, node = .number n := by
  cases node with
  | number n => exact ⟨n, rfl⟩
  | _ => cases h

/-- The reader reads nothing but scalars of the kind. -/
theorem readsScalar_of_scalarOfJson? (h : scalarOfJson? kind node = some v) :
    ReadsScalar kind node v := by
  cases kind with
  | bool =>
    rw [scalarOfJson?] at h
    obtain ⟨b, hb, rfl⟩ := Option.map_eq_some_iff.1 h
    cases node <;> cases hb
    exact .bool b
  | char =>
    rw [scalarOfJson?] at h
    split at h
    · next c hc =>
      cases h
      obtain ⟨s, hs, single⟩ := Option.map_eq_some_iff.1 hc
      cases node <;> cases hs
      rw [← String.ofList_toList (s := s), single]
      exact .char c
    · cases h
  | whole w =>
    rw [scalarOfJson?] at h
    obtain ⟨n, hn, rfl⟩ := Option.map_eq_some_iff.1 h
    obtain ⟨hn, range⟩ := Option.filter_eq_some_iff.1 hn
    rw [int?_eq_some hn]
    exact .whole range
  | real precision =>
    cases precision with
    | single =>
      rw [scalarOfJson?] at h
      obtain ⟨x, hx, rfl⟩ := Option.map_eq_some_iff.1 h
      obtain ⟨n, rfl⟩ := double?_eq_some hx
      exact .single hx
    | double =>
      rw [scalarOfJson?] at h
      obtain ⟨x, hx, rfl⟩ := Option.map_eq_some_iff.1 h
      obtain ⟨n, rfl⟩ := double?_eq_some hx
      exact .double hx

/-- The reader reads every scalar of the kind. -/
theorem ReadsScalar.scalarOfJson? (h : ReadsScalar kind node v) :
    Value.scalarOfJson? kind node = some v := by
  cases h with
  | bool b => rfl
  | char c => simp only [Value.scalarOfJson?, Json.text?, Option.map_some, String.toList_singleton]
  | whole range =>
    rw [Value.scalarOfJson?, int?_of_holds range, Option.filter_some, if_pos range]
    rfl
  | single number =>
    rw [Value.scalarOfJson?, number]
    rfl
  | double number =>
    rw [Value.scalarOfJson?, number]
    rfl

/-! ## Documents read as values -/

/-- A document is read as a value of a declared type. Only what is declared as boxed, as text or as
a generic class can be null, and it is for null alone; an array has an item for each of the
document's, and an object is the document as it stands. -/
inductive Reads : ParamType → Json → Value → Prop
  | scalar {kind : Scalar} {node : Json} {v : Value} (read : ReadsScalar kind node v) :
      Reads (.scalar kind) node v
  | boxed {kind : Scalar} {node : Json} {v : Value} (read : ReadsScalar kind node v) :
      Reads (.boxed kind) node v
  | boxedNull {kind : Scalar} : Reads (.boxed kind) .null .null
  | text (s : String) : Reads .text (.text s) (.text s)
  | textNull : Reads .text .null .null
  | array {element : ParamType} (items : List Json) :
      Reads (.array element) (.array items) (.array (items.map (ofJson element)))
  | object {tag : Tag} (fields : List (String × Json)) :
      Reads (.object tag) (.object fields) (.json (.object fields))
  | generic {raw : Tag} {args : List ParamType} {node : Json} (there : node ≠ .null) :
      Reads (.generic raw args) node (.json node)
  | genericNull {raw : Tag} {args : List ParamType} : Reads (.generic raw args) .null .null

variable {type : ParamType}

theorem Reads.eq_null_iff (h : Reads type node v) : v = .null ↔ node = .null := by
  cases h with
  | scalar read => exact iff_of_false read.isScalar.ne_null read.ne_null
  | boxed read => exact iff_of_false read.isScalar.ne_null read.ne_null
  | boxedNull => exact iff_of_true rfl rfl
  | text s => exact iff_of_false Value.noConfusion Json.noConfusion
  | textNull => exact iff_of_true rfl rfl
  | array items => exact iff_of_false Value.noConfusion Json.noConfusion
  | object fields => exact iff_of_false Value.noConfusion Json.noConfusion
  | generic there => exact iff_of_false Value.noConfusion there
  | genericNull => exact iff_of_true rfl rfl

theorem ofJsonAll_eq_map (element : ParamType) (items : List Json) :
    ofJsonAll element items = items.map (ofJson element) := by
  induction items with
  | nil => rfl
  | cons node rest ih => rw [ofJsonAll, ih, List.map_cons]

theorem ofJson_scalar (kind : Scalar) (node : Json) :
    ofJson (.scalar kind) node = (Value.scalarOfJson? kind node).getD .null := by
  cases node with
  | null =>
    cases kind with
    | real precision => cases precision <;> rfl
    | _ => rfl
  | _ => rfl

theorem ofJson_boxed (kind : Scalar) (node : Json) :
    ofJson (.boxed kind) node = ofJson (.scalar kind) node := by
  cases node <;> rfl

theorem reads_scalar (accepted : (Value.scalarOfJson? kind node).isSome = true) :
    ReadsScalar kind node (ofJson (.scalar kind) node) := by
  obtain ⟨v, hv⟩ := Option.isSome_iff_exists.1 accepted
  rw [ofJson_scalar, hv, Option.getD_some]
  exact readsScalar_of_scalarOfJson? hv

/-- A document that a type accepts is read as a value of it. -/
theorem reads_ofJson (own : type.isContext = false) (accepted : type.accepts node = true) :
    Reads type node (ofJson type node) := by
  cases type with
  | scalar kind => exact .scalar (reads_scalar accepted)
  | boxed kind =>
    rw [ParamType.accepts, Bool.or_eq_true] at accepted
    by_cases null : node = .null
    · subst null
      exact .boxedNull
    · have scalar : (Value.scalarOfJson? kind node).isSome = true := by
        refine accepted.resolve_left fun hn => null ?_
        cases node <;> cases hn
        rfl
      rw [ofJson_boxed]
      exact .boxed (reads_scalar scalar)
  | text =>
    cases node with
    | null => exact .textNull
    | text s => exact .text s
    | _ => cases accepted
  | array element =>
    cases node with
    | array items =>
      rw [ofJson, ofJsonAll_eq_map]
      exact .array items
    | _ => cases accepted
  | object tag =>
    cases node with
    | object fields => exact .object fields
    | _ => cases accepted
  | generic raw args =>
    cases node with
    | null => exact .genericNull
    | _ => exact .generic Json.noConfusion
  | context kind => cases own

/-- **The two tables agree**: what is accepted for a type is what is read as a value of it. -/
theorem reads_iff (own : type.isContext = false) :
    Reads type node v ↔ type.accepts node = true ∧ ofJson type node = v := by
  constructor
  · intro h
    cases h with
    | scalar read =>
      rw [ofJson_scalar, ParamType.accepts, read.scalarOfJson?]
      exact ⟨rfl, rfl⟩
    | boxed read =>
      rw [ofJson_boxed, ofJson_scalar, ParamType.accepts, read.scalarOfJson?]
      exact ⟨Bool.or_true _, rfl⟩
    | boxedNull => exact ⟨rfl, rfl⟩
    | text s => exact ⟨rfl, rfl⟩
    | textNull => exact ⟨rfl, rfl⟩
    | array items => exact ⟨rfl, by rw [ofJson, ofJsonAll_eq_map]⟩
    | object fields => exact ⟨rfl, rfl⟩
    | generic there =>
      refine ⟨rfl, ?_⟩
      cases node with
      | null => exact absurd rfl there
      | _ => rfl
    | genericNull => exact ⟨rfl, rfl⟩
  · rintro ⟨accepted, rfl⟩
    exact reads_ofJson own accepted

end Value

end Switchboard
