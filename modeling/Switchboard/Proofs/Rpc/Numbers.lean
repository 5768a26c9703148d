import Switchboard.Proofs.Json.Numbers
import Switchboard.Proofs.Param.RoundTrip
import Switchboard.Proofs.Rpc.Arguments

/-!
# Numbers as arguments

A number is refused for an integer that is not of the declared width, and for any integer if it was
written with a fraction or an exponent. Numbers of the double format take every number that a
document can have. Those of the 32 bit format take them all as well, and there a number from the
limit of the format on is handed on as infinity: `RpcTable.numbers_of_resolve` says that this is the
only way for a number out of range to become an argument, and `Value.not_forall_number_in_range` that
it is one.
-/

namespace Switchboard

open Number (Binary Format Double Single)

/-! ## Ranges -/

namespace Json.Number

/-- The number itself. -/
def toRat : Number → ℚ
  | int n => n
  | float x => x.toRat

/-- Is the number in the range of a kind of scalars? For integers this is an integer of the width,
and for the formats a number that is not rounded to infinity. -/
def InRange (n : Number) : Scalar → Prop
  | .whole w => ∃ k : Int, n.toRat = k ∧ w.holds k = true
  | .real .single => |n.toRat| < Format.single.limit
  | .real .double => |n.toRat| < Format.double.limit
  | _ => False

/-- Is the number taken for a kind of scalars? -/
def IsTaken (n : Number) : Scalar → Prop
  | .whole w => ∃ k : Int, n = .int k ∧ w.holds k = true
  | .real _ => True
  | _ => False

end Json.Number

/-- Is it a kind of numbers? -/
def Scalar.isNumber : Scalar → Bool
  | .whole _ | .real _ => true
  | _ => false

namespace Value

variable {kind : Scalar} {type : ParamType} {n : Json.Number} {v : Value}

/-- An integer is in the range of both formats, and so is what it is rounded to. -/
theorem lt_limit_of_isValid {k : Int} (valid : (Json.Number.int k).IsValid) :
    |(k : ℚ)| < Format.single.limit ∧ |(Binary.ofInt k : Double).toRat| < Format.single.limit := by
  have rounded := Binary.abs_toRat_ofInt_le Format.isProper_double k
  have small : |(k : ℚ)| ≤ 2 ^ 64 := by exact_mod_cast Json.Number.abs_le_of_isValid valid
  have far : (2 ^ 65 : ℚ) < Format.single.limit := by
    have finite : (Binary.ofInt (2 ^ 65) : Single).isFinite = true := by decide +kernel
    have below := (Binary.isFinite_ofInt Format.isProper_single _).1 finite
    rwa [Int.cast_pow, abs_of_nonneg (by positivity)] at below
  constructor <;> linarith

/-! ## What a number is read as -/

theorem isSome_scalarOfJson?_iff :
    (scalarOfJson? kind (.number n)).isSome = true ↔ n.IsTaken kind := by
  constructor
  · intro taken
    obtain ⟨v, hv⟩ := Option.isSome_iff_exists.1 taken
    cases readsScalar_of_scalarOfJson? hv with
    | whole range => exact ⟨_, rfl, range⟩
    | single => exact trivial
    | double => exact trivial
  · intro taken
    cases kind with
    | bool => cases taken
    | char => cases taken
    | whole w =>
      obtain ⟨k, rfl, range⟩ := taken
      rw [(ReadsScalar.whole range).scalarOfJson?]
      rfl
    | real precision => cases n <;> cases precision <;> rfl

/-- What is read is finite exactly if the number is in range. -/
theorem ReadsScalar.isFinite_iff (valid : n.IsValid) (read : ReadsScalar kind (.number n) v) :
    v.isFinite = true ↔ n.InRange kind := by
  cases read with
  | @whole w k range => exact iff_of_true rfl ⟨k, rfl, range⟩
  | single number =>
    cases n with
    | int k =>
      cases number
      -- rounded twice, first to the double format, an integer stays far below the limit
      obtain ⟨range, rounded⟩ := lt_limit_of_isValid valid
      have finite := Json.isFinite_ofInt_of_abs_le (Json.Number.abs_le_of_isValid valid)
      exact iff_of_true ((Binary.isFinite_convert Format.isProper_single finite).2 rounded) range
    | float x =>
      cases number
      exact Binary.isFinite_convert Format.isProper_single valid
  | double number =>
    cases n with
    | int k =>
      cases number
      exact Binary.isFinite_ofInt Format.isProper_double k
    | float x =>
      cases number
      exact iff_of_true valid (Binary.abs_toRat_lt_limit Format.isProper_double valid)

/-- What is read is in range, unless it is read in the 32 bit format. -/
theorem ReadsScalar.inRange (valid : n.IsValid) (read : ReadsScalar kind (.number n) v)
    (wide : kind ≠ .real .single) : n.InRange kind := by
  have iff := read.isFinite_iff valid
  cases read with
  | whole range => exact iff.1 rfl
  | single => exact absurd rfl wide
  | double number =>
    refine iff.1 ?_
    cases n with
    | int k =>
      cases number
      exact Json.isFinite_ofInt_of_abs_le (Json.Number.abs_le_of_isValid valid)
    | float x =>
      cases number
      exact valid

end Value

/-! ## Numbers that are handed on -/

/-- A number is handed on as a value of a kind: as one that is finite exactly if the number is in
range, and as one that is in range unless the kind is that of 32 bit numbers. -/
structure Json.Number.HandedAs (n : Json.Number) (kind : Scalar) (v : Value) : Prop where
  read : Value.ReadsScalar kind (.number n) v
  finite : v.isFinite = true ↔ n.InRange kind
  range : kind ≠ .real .single → n.InRange kind

namespace Value

variable {kind : Scalar} {type : ParamType} {n : Json.Number} {node : Json} {v : Value}

theorem ReadsScalar.handedAs (valid : n.IsValid) (read : ReadsScalar kind (.number n) v) :
    n.HandedAs kind v :=
  ⟨read, read.isFinite_iff valid, read.inRange valid⟩

theorem accepts_number_iff (of : type = .scalar kind ∨ type = .boxed kind) :
    type.accepts (.number n) = true ↔ n.IsTaken kind := by
  rw [← isSome_scalarOfJson?_iff]
  rcases of with rfl | rfl <;> rfl

theorem handedAs_ofJson (of : type = .scalar kind ∨ type = .boxed kind) (valid : n.IsValid)
    (taken : n.IsTaken kind) : n.HandedAs kind (ofJson type (.number n)) := by
  have read := reads_scalar (isSome_scalarOfJson?_iff.2 taken)
  rcases of with rfl | rfl
  · exact read.handedAs valid
  · rw [ofJson_boxed]
    exact read.handedAs valid

/-- A number that is refused is read as null. -/
theorem ofJson_of_not_isTaken (of : type = .scalar kind ∨ type = .boxed kind)
    (refused : ¬ n.IsTaken kind) : ofJson type (.number n) = .null := by
  have none : scalarOfJson? kind (.number n) = none := by
    rwa [← isSome_scalarOfJson?_iff, Option.not_isSome_iff_eq_none] at refused
  have read : ofJson (.scalar kind) (.number n) = .null := by
    rw [ofJson_scalar, none]
    rfl
  rcases of with rfl | rfl
  · exact read
  · rw [ofJson_boxed, read]

theorem ReadsScalar.exists_number (number : kind.isNumber = true) (read : ReadsScalar kind node v) :
    ∃ n, node = .number n := by
  cases read with
  | bool b => cases number
  | char c => cases number
  | whole range => exact ⟨_, rfl⟩
  | single => exact ⟨_, rfl⟩
  | double => exact ⟨_, rfl⟩

end Value

/-- What a payload sends is part of a document that was read. -/
theorem Payload.Sent.numbersValid {request : Request} {payload : Payload}
    (sent : payload.Sent request) {params : List Parameter} {i : Nat} {p : Parameter} {node : Json}
    (there : payload.sentFor? params i p = some node) : node.NumbersValid := by
  cases sent with
  | named form document =>
    rw [← parse?_textOf] at document
    cases Json.numbersValid_of_parse? document with
    | object each => exact each _ (Dictionary.mem_of_get? there)
  | listed form document =>
    rw [← parse?_textOf] at document
    cases Json.numbersValid_of_parse? document with
    | array each => exact each _ (List.mem_of_getElem? there)

namespace RpcTable

variable {σ : Type}

/-- **Numbers as arguments.** A number is taken for an integer if it is one of the width, and for the
two formats in any case. What is handed on is finite exactly if the number is in range, and only in
the 32 bit format a number out of range is handed on at all. So it is with every argument of a call:
where a number is declared, it is null for a boxed one, or what a number of the payload is handed on
as. -/
theorem numbers_of_resolve :
    (∀ (kind : Scalar) (type : ParamType) (n : Json.Number),
      (type = .scalar kind ∨ type = .boxed kind) → n.IsValid →
      ((Value.scalarOfJson? kind (.number n)).isSome = true ↔ n.IsTaken kind) ∧
      (type.accepts (.number n) = true ↔ n.IsTaken kind) ∧
      (n.IsTaken kind → n.HandedAs kind (Value.ofJson type (.number n))) ∧
      (¬ n.IsTaken kind → Value.ofJson type (.number n) = .null)) ∧
    ∀ (t : RpcTable σ) (path : String) (request call : Request) (found : RpcMatch σ),
      t.resolve path request = .ok found →
      ∀ (i : Nat) (p : Parameter) (kind : Scalar), found.handler.params[i]? = some p →
        (p.type = .scalar kind ∨ p.type = .boxed kind) → kind.isNumber = true →
        ∃ v, (found.arguments call)[i]? = some v ∧
          (v = .null ∧ p.type = .boxed kind ∨
            ∃ n, found.payload.sentFor? found.handler.params i p = some (.number n) ∧ n.IsValid ∧
              n.HandedAs kind v) := by
  refine ⟨fun kind type n of valid => ⟨Value.isSome_scalarOfJson?_iff,
    Value.accepts_number_iff of, Value.handedAs_ofJson of valid, Value.ofJson_of_not_isTaken of⟩, ?_⟩
  intro t path request call found h i p kind hp of number
  have own : p.isContext = false := by
    unfold Parameter.isContext
    rcases of with type | type <;> rw [type] <;> rfl
  obtain ⟨node, there, -, given, reads⟩ := exists_argument_of_resolve h call hp own
  have numbers := (fits_of_resolve h).1.numbersValid there
  refine ⟨_, given, ?_⟩
  have scalar {v : Value} (read : Value.ReadsScalar kind node v) :
      ∃ n, found.payload.sentFor? found.handler.params i p = some (.number n) ∧ n.IsValid ∧
        n.HandedAs kind v := by
    obtain ⟨n, rfl⟩ := read.exists_number number
    cases numbers with
    | number valid => exact ⟨n, there, valid, read.handedAs valid⟩
  rcases of with type | type
  · rw [type] at reads ⊢
    cases reads with
    | scalar read => exact .inr (scalar read)
  · rw [type] at reads ⊢
    cases reads with
    | boxed read => exact .inr (scalar read)
    | boxedNull => exact .inl ⟨rfl, rfl⟩

/-- A procedure with an integer of eight bits and a number that may be missing. -/
def adjusting : Handler Unit where
  verb := .post
  pattern := "/adjust"
  type := "Scale"
  method := "adjust"
  params := [{ name := "step", type := .scalar (.whole .byte) },
    { name := "ratio", type := .boxed (.real .single) }]
  body := fun _ _ => pure default

/-- The body is an array with the least integer of eight bits in front. -/
def sendsLeast : Request :=
  { verb := .post, path := "/adjust", attachments := [("body", .text "[-128,7]")] }

theorem document_sendsLeast : Payload.document? sendsLeast =
    some (.array [.number (.int (-128)), .number (.int 7)]) := by
  have text : Text.trim sendsLeast.bodyText = "[-128,7]" := by decide
  have chars : "[-128,7]".toList = ['[', '-', '1', '2', '8', ',', '7', ']'] := by decide
  have first : Json.readNumber? ['-', '1', '2', '8'] = some (.int (-128)) := by decide +kernel
  have second : Json.readNumber? ['7'] = some (.int 7) := by decide +kernel
  rw [Payload.document?, text, if_neg (by decide), Json.parse?, chars]
  simp [Json.tokens?, Json.isNumberChar, first, second, Json.step?, Json.beginValue?, Json.deepest]

/-- The least integer is handed on as it is, the one after the largest is refused. -/
theorem numbers_of_resolve_least :
    ∃ found,
      (({} : RpcTable Unit).add "/adjust" adjusting).resolve "/adjust" sendsLeast = .ok found ∧
      (found.arguments sendsLeast)[0]? = some (.whole .byte (-128)) ∧
      (∃ v, (found.arguments sendsLeast)[1]? = some v ∧ v.isFinite = true) ∧
      (Json.Number.int 128).IsValid ∧
      ¬ (ParamType.scalar (.whole .byte)).accepts (.number (.int 128)) = true := by
  have lists : (({} : RpcTable Unit).add "/adjust" adjusting).Lists "/adjust" [adjusting] :=
    (lists_empty "/adjust").add (show List.Nodup _ by decide)
  have called : (({} : RpcTable Unit).add "/adjust" adjusting).resolve "/adjust" sendsLeast =
      .ok ⟨adjusting, .listed [.number (.int (-128)), .number (.int 7)]⟩ := by
    rw [lists.resolve_of_sent (List.cons_ne_nil _ _) (.listed (by decide) document_sendsLeast)]
    rfl
  obtain ⟨values, calls⟩ := numbers_of_resolve (σ := Unit)
  have valid : (Json.Number.int 128).IsValid := ⟨by decide, by decide⟩
  have refused := (values (.whole .byte) _ _ (.inl rfl) valid).2.1
  have arguments := calls _ _ _ sendsLeast _ called
  obtain ⟨v, first, step⟩ := arguments 0 _ (.whole .byte) rfl (.inl rfl) rfl
  obtain ⟨w, second, ratio⟩ := arguments 1 _ (.real .single) rfl (.inr rfl) rfl
  refine ⟨_, called, ?_, ⟨w, second, ?_⟩, valid, ?_⟩
  · rcases step with ⟨-, boxed⟩ | ⟨n, sent, -, handed⟩
    · cases boxed
    · cases sent
      cases handed.read
      exact first
  · rcases ratio with ⟨rfl, -⟩ | ⟨n, sent, within, handed⟩
    · rfl
    · cases sent
      exact handed.finite.2 (Value.lt_limit_of_isValid within).1
  · rw [refused]
    rintro ⟨k, same, held⟩
    cases same
    exact absurd held (by decide)

end RpcTable

namespace Value

/-- The double that `1e300` is read as. -/
def large : Double := .value false 9094988921128908188

/-- Not every number that is taken is in the range of its kind: one that overflows is taken for a
number of the 32 bit format. -/
theorem not_forall_number_in_range :
    ¬ ∀ (literal : List Char) (n : Json.Number) (kind : Scalar),
      Json.readNumber? literal = some n → (scalarOfJson? kind (.number n)).isSome = true →
      n.InRange kind := by
  intro inRange
  have literal : Json.readNumber? "1e300".toList = some (.float large) := by decide +kernel
  have infinite : (large.convert : Single).isFinite = false := by decide +kernel
  have read : ReadsScalar (.real .single) (.number (.float large)) (.single large.convert) :=
    .single rfl
  have finite := (read.isFinite_iff (Json.isValid_of_readNumber? literal)).2
    (inRange _ _ _ literal rfl)
  cases infinite.symm.trans finite

end Value

end Switchboard
