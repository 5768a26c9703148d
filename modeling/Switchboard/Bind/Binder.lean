import Switchboard.Bind.Diagnostic
import Switchboard.Failure
import Switchboard.Http.Request
import Switchboard.Param.Parameter

/-!
# Binders

A binder turns a raw value into a value of a declared type. Binding never fails: what cannot be
converted gives way to the parameter's default, and that to the zero of the type.
-/

namespace Switchboard

/-- What a binder may read besides the raw value. -/
structure BindContext where
  request : Request
  param : Option Parameter := none
  /-- The failure that is being handled. -/
  cause : Option Failure := none

/-- Why a value could not be converted. -/
inductive BindError where
  | malformed (target : ParamType) (value : Value)
  | unsupported (target : ParamType)

/-- How the failure reads. -/
def BindError.message : BindError → String
  | malformed target value => s!"cannot bind `{value.diagnostic}` as {target.rawName}"
  | unsupported target => s!"{target.rawName} is not handled by this binder"

/-- A binder: how it converts a value that is there, and, where it does not go by the raw value
alone, how it binds one that may be absent. -/
structure Binder where
  convert : BindContext → ParamType → Value → Except BindError Value
  /-- Binding in place of the usual way. -/
  resolve? : Option (BindContext → ParamType → Option Value → Value) := none

namespace Binder

/-- The parameter's default text converted, if it has one that can be, else the zero. -/
def default (b : Binder) (ctx : BindContext) (target : ParamType) : Value :=
  match ctx.param.bind (·.default) with
  | some literal => (b.convert ctx target (.text literal)).toOption.getD (.zeroOf target)
  | none => .zeroOf target

/-- Binds a value that may be absent. -/
def bind (b : Binder) (ctx : BindContext) (target : ParamType) (value : Option Value) : Value :=
  match b.resolve? with
  | some resolve => resolve ctx target value
  | none =>
    match value with
    | none | some .null => b.default ctx target
    | some v => (b.convert ctx target v).toOption.getD (b.default ctx target)

/-- A converter that says whether a value has the right form. -/
def ofPartial (f : ParamType → Value → Option Value) : Binder where
  convert _ target v :=
    match f target v with
    | some bound => .ok bound
    | none => .error (.malformed target v)

/-! ## Scalars and text -/

/-- True for the text `true` in letters of either case, false for anything else. -/
def boolean : Binder where
  convert _ _ v :=
    match v with
    | .bool b => .ok (.bool b)
    | .text s => .ok (.bool (Text.sameIgnoringCase s "true"))
    | _ => .ok (.bool false)

/-- The first character of a text. -/
def character : Binder := ofPartial fun _ v =>
  match v with
  | .char c => some (.char c)
  | .text s => s.toList.head?.map .char
  | _ => none

/-- Reads a text as a number of some kind. -/
def readNumber? : Scalar → String → Option Value
  | .whole width, s => ((Number.readInt? s.toList).filter width.holds).map (.whole width)
  | .real .single, s => (Number.read? s).map .single
  | .real .double, s => (Number.read? s).map .double
  | _, _ => none

/-- A number of another kind, if it is one of this kind. Fractions are rounded to the precision. -/
def narrow? : Scalar → Value → Option Value
  | .whole width, v => (v.int?.filter width.holds).map (.whole width)
  | .real .single, v => v.double?.map fun x => .single x.convert
  | .real .double, v => v.double?.map .double
  | _, _ => none

/-- The kind of number a type declares. -/
def numberKind? : ParamType → Option Scalar
  | .scalar kind | .boxed kind =>
    match kind with
    | .whole _ | .real _ => some kind
    | _ => none
  | _ => none

/-- Numbers of every kind. -/
def number : Binder where
  convert _ target v :=
    match numberKind? target with
    | none => .error (.unsupported target)
    | some kind =>
      let bound := match v with
        | .text s => readNumber? kind s
        | other => narrow? kind other
      match bound with
      | some bound => .ok bound
      | none => .error (.malformed target v)

/-- Reads a text as one value of a form: the separators in it are escaped, so the whole of it is the
first name. -/
def decodeText (raw : String) : String :=
  let escaped := raw.toList.flatMap fun c =>
    if c == '&' then ['%', '2', '6'] else if c == '=' then ['%', '3', 'D'] else [c]
  ((Form.parseBytes (Utf8.encodeList escaped)).head?.map (·.1)).getD ""

/-- Text, with the escapes of forms decoded. -/
def text : Binder := ofPartial fun _ v =>
  match v with
  | .text s => some (.text (decodeText s))
  | .char c => some (.text (String.singleton c))
  | _ => none

/-! ## Parts of the call -/

/-- The uploaded file of the parameter's field. -/
def uploaded? (ctx : BindContext) : Option Value :=
  ctx.param.bind fun p => (Dictionary.get? ctx.request.files p.sourceName).map .file

/-- Uploaded files. -/
def upload : Binder where
  convert ctx target v :=
    match v with
    | .file u => .ok (.file u)
    | other =>
      match uploaded? ctx with
      | some found => .ok found
      | none => .error (.malformed target other)
  resolve? := some fun ctx target v =>
    match v with
    | some (.file u) => .file u
    | _ => (uploaded? ctx).getD (.zeroOf target)

/-- A part of the call. Session and cause are null where there is none. -/
def contextValue (ctx : BindContext) : ContextKind → Value
  | .request => .context .request
  | .response => .context .response
  | .session => if ctx.request.session?.isSome then .context .session else .null
  | .body => .bytes ctx.request.body
  | .cause => if ctx.cause.isSome then .context .cause else .null
  | .files => .files ctx.request.files
  | .params => .map ctx.request.flatParams

/-- Parts of the call; what is sent does not matter. -/
def context : Binder where
  convert ctx target _ :=
    match target with
    | .context kind => .ok (contextValue ctx kind)
    | other => .error (.unsupported other)
  resolve? := some fun ctx target _ =>
    match target with
    | .context kind => contextValue ctx kind
    | _ => .null

end Binder

end Switchboard
