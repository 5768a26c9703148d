import Switchboard.Proofs.Number.Rounding
import Switchboard.Proofs.Param.Value

/-!
# Values that are written and read back

A value is written as a document without its type, and the document is read as a value of one. For
the types that are made of scalars, text and arrays nothing is lost on the way
(`Value.written_reads_back`): an integer keeps its width because the type says it, and a number of
the 32 bit format comes back from the 64 bit one that documents have. A type of classes keeps the
document as it is.
-/

namespace Switchboard.Value

/-- Is it a finite number, or none of the two formats? -/
def isFinite : Value → Bool
  | single x => x.isFinite
  | double x => x.isFinite
  | _ => true

/-- A value of a type that is made of scalars, text and arrays. Only a scalar that is not boxed
cannot be null. -/
inductive Inhabits : ParamType → Value → Prop
  | scalar {kind : Scalar} {v : Value} (is : IsScalar kind v) (finite : v.isFinite = true) :
      Inhabits (.scalar kind) v
  | boxed {kind : Scalar} {v : Value} (is : IsScalar kind v) (finite : v.isFinite = true) :
      Inhabits (.boxed kind) v
  | boxedNull {kind : Scalar} : Inhabits (.boxed kind) .null
  | text (s : String) : Inhabits .text (.text s)
  | textNull : Inhabits .text .null
  | array {element : ParamType} {items : List Value} (each : ∀ v ∈ items, Inhabits element v) :
      Inhabits (.array element) (.array items)
  | arrayNull {element : ParamType} : Inhabits (.array element) .null

variable {kind : Scalar} {type : ParamType} {v : Value}

theorem toJson_single {x : Number.Single} (finite : x.isFinite = true) :
    (single x).toJson = .number (.float x.convert) := by
  obtain ⟨wide, -⟩ := Number.Binary.convert_convert Number.Format.embeds_single_double
    Number.Format.isProper_single Number.Format.isProper_double finite
  rw [toJson, Json.ofDouble, if_pos wide]

theorem toJson_double {x : Number.Double} (finite : x.isFinite = true) :
    (double x).toJson = .number (.float x) := by
  rw [toJson, Json.ofDouble, if_pos finite]

/-- What a scalar is written as is read as that scalar. -/
theorem IsScalar.readsScalar (is : IsScalar kind v) (finite : v.isFinite = true) :
    ReadsScalar kind v.toJson v := by
  cases is with
  | bool b => exact .bool b
  | char c => exact .char c
  | whole range => exact .whole range
  | single x =>
    obtain ⟨-, back⟩ := Number.Binary.convert_convert Number.Format.embeds_single_double
      Number.Format.isProper_single Number.Format.isProper_double finite
    have read : ReadsScalar (.real .single) (.number (.float x.convert)) (.single _) := .single rfl
    rw [back] at read
    rwa [toJson_single finite]
  | double x =>
    rw [toJson_double finite]
    exact .double rfl

theorem IsScalar.ofJson_toJson (is : IsScalar kind v) (finite : v.isFinite = true) :
    ofJson (.scalar kind) v.toJson = v := by
  rw [ofJson_scalar, (is.readsScalar finite).scalarOfJson?, Option.getD_some]

theorem toJsonAll_eq_map (items : List Value) : toJsonAll items = items.map toJson := by
  induction items with
  | nil => rfl
  | cons v rest ih => rw [toJsonAll, ih, List.map_cons]

/-- A value of a type that is written is read back as the same value. -/
theorem Inhabits.ofJson_toJson (h : Inhabits type v) : ofJson type v.toJson = v := by
  induction h with
  | scalar is finite => exact is.ofJson_toJson finite
  | boxed is finite =>
    rw [ofJson_boxed]
    exact is.ofJson_toJson finite
  | boxedNull => rfl
  | text s => rfl
  | textNull => rfl
  | @array element items each ih =>
    have all : (items.map toJson).map (ofJson element) = items := by
      rw [List.map_map]
      exact (List.map_congr_left ih).trans (List.map_id items)
    rw [toJson, toJsonAll_eq_map, ofJson, ofJsonAll_eq_map, all]
  | arrayNull => rfl

/-- **What is written reads back.** A value of a type that is made of scalars, text and arrays is
the one that its document is read as, and for any other type of the payload a document is the one
that its value is written as. -/
theorem written_reads_back :
    (∀ (type : ParamType) (v : Value), Inhabits type v → ofJson type v.toJson = v) ∧
    (∀ (tag : Tag) (node : Json), (ofJson (.object tag) node).toJson = node) ∧
    ∀ (raw : Tag) (args : List ParamType) (node : Json),
      (ofJson (.generic raw args) node).toJson = node := by
  refine ⟨fun type v h => h.ofJson_toJson, fun tag node => ?_, fun raw args node => ?_⟩
  · cases node <;> rfl
  · cases node <;> rfl

/-- Rows of readings, each of which may be missing. -/
def readingsType : ParamType := .array (.array (.boxed (.real .single)))

/-- A row with the least positive reading, a negative zero and none, and a row that is missing. -/
def readings : Value :=
  .array [.array [.single (.value false 1), .single (.value true 0), .null], .null]

/-- Arrays in arrays, with a missing item and numbers of the narrower format. -/
theorem inhabits_readings : Inhabits readingsType readings := by
  have least : Inhabits (.boxed (.real .single)) (.single (.value false 1)) :=
    .boxed (.single _) (by decide)
  have zero : Inhabits (.boxed (.real .single)) (.single (.value true 0)) :=
    .boxed (.single _) (by decide)
  have row : Inhabits (.array (.boxed (.real .single)))
      (.array [.single (.value false 1), .single (.value true 0), .null]) := by
    refine .array ?_
    simpa using ⟨least, zero, Inhabits.boxedNull⟩
  refine .array ?_
  simpa using ⟨row, Inhabits.arrayNull⟩

theorem written_reads_back_readings :
    Inhabits readingsType readings ∧ ofJson readingsType readings.toJson = readings :=
  ⟨inhabits_readings, written_reads_back.1 _ _ inhabits_readings⟩

end Switchboard.Value
