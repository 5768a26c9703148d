import Switchboard.Proofs.Param.Value
import Switchboard.Proofs.Rpc.Resolution
import Switchboard.Rpc.Call

/-!
# Arguments of procedures

A payload is checked against a candidate in one pass and turned into arguments in another. The check
leaves out the parameters that stand for parts of the call; the other pass goes through all of them
and takes an item for each one that does not. Both give a parameter the same document
(`Payload.Sent.accepts`, `RpcMatch.getElem?_arguments`), and by `Value.reads_iff` it is read as a
value of the declared type (`RpcTable.arguments_of_resolve`).
-/

namespace Switchboard

variable {σ : Type}

/-! ## The document for a parameter -/

namespace Payload

/-- What a payload sends for a parameter in its place among all parameters: the field of its source
name, or the item behind those of the parameters before it that are in the payload. -/
def sentFor? (params : List Parameter) (i : Nat) (p : Parameter) : Payload → Option Json
  | named fields => Dictionary.get? fields p.sourceName
  | listed items => items[(params.take i).countP fun q => !q.isContext]?

variable {h : Handler σ} {payload : Payload} {i : Nat} {p : Parameter}

/-- What passes a filter is found behind as many as pass it before. -/
theorem getElem?_filter_countP {α : Type} {pass : α → Bool} {l : List α} {i : Nat} {a : α}
    (ha : l[i]? = some a) (hp : pass a = true) :
    (l.filter pass)[(l.take i).countP pass]? = some a := by
  induction l generalizing i with
  | nil => cases ha
  | cons b l ih =>
    cases i with
    | zero =>
      cases ha
      rw [List.filter_cons_of_pos hp]
      rfl
    | succ i =>
      rw [List.getElem?_cons_succ] at ha
      rw [List.take_succ_cons]
      by_cases hb : pass b = true
      · rw [List.filter_cons_of_pos hb, List.countP_cons_of_pos hb, List.getElem?_cons_succ]
        exact ih ha
      · rw [List.filter_cons_of_neg hb, List.countP_cons_of_neg hb]
        exact ih ha

/-- A payload that fits sends something for every parameter of its own, and the type accepts it. -/
theorem accepts_of_fits (fits : payload.fits h = true) (hp : h.params[i]? = some p)
    (own : p.isContext = false) :
    ∃ node, payload.sentFor? h.params i p = some node ∧ p.type.accepts node = true := by
  have passes : (!p.isContext) = true := by rw [own]; rfl
  cases payload with
  | named fields =>
    rw [Payload.fits, Bool.and_eq_true, List.all_eq_true] at fits
    have there := fits.2 p (List.mem_filter.2 ⟨List.mem_of_getElem? hp, passes⟩)
    exact (Option.any_eq_true _ _).1 there
  | listed items =>
    obtain - | ⟨length, types⟩ := fits_listed_iff.1 fits
    have place : h.ownParams[(h.params.take i).countP fun q => !q.isContext]? = some p :=
      getElem?_filter_countP hp passes
    obtain ⟨below, -⟩ := List.getElem?_eq_some_iff.1 place
    rw [← length] at below
    have item := List.getElem?_eq_getElem below
    exact ⟨_, item, types _ p _ place item⟩

section Places

variable {items : List Json} {params : List Parameter} {q : Parameter}

theorem sentFor?_succ_context (part : q.isContext = true) :
    (listed items).sentFor? (q :: params) (i + 1) p = (listed items).sentFor? params i p := by
  rw [sentFor?, List.take_succ_cons, List.countP_cons, part]
  rfl

theorem sentFor?_succ_own (own : q.isContext = false) :
    (listed items).sentFor? (q :: params) (i + 1) p = (listed items.tail).sentFor? params i p := by
  rw [sentFor?, List.take_succ_cons, List.countP_cons, own, sentFor?, List.getElem?_tail]
  rfl

end Places

end Payload

/-! ## The value for a parameter -/

namespace RpcMatch

/-- The argument for a parameter, given what was sent for it. -/
def argument (request : Request) (p : Parameter) (node : Option Json) : Value :=
  match p.type with
  | .context kind => Binder.contextValue { request, param := some p } kind
  | type => (node.map (Value.ofJson type)).getD .null

variable {request : Request} {params : List Parameter} {p : Parameter}

theorem argument_context {kind : ContextKind} (part : p.type = .context kind) (node : Option Json) :
    argument request p node = Binder.contextValue { request, param := some p } kind := by
  rw [argument, part]

theorem argument_own (own : p.isContext = false) (node : Option Json) :
    argument request p node = (node.map (Value.ofJson p.type)).getD .null := by
  rw [argument]
  split
  · next kind part =>
    rw [Parameter.isContext, part] at own
    cases own
  · rfl

/-- A named payload gives each parameter what it has under the name. -/
theorem namedArguments_eq_map (request : Request) (fields : Dictionary Json)
    (params : List Parameter) :
    namedArguments request fields params =
      params.map fun p => argument request p (Dictionary.get? fields p.sourceName) := rfl

theorem listedArguments_cons_context (part : p.isContext = true) (items : List Json) :
    listedArguments request items (p :: params) =
      argument request p items.head? :: listedArguments request items params := by
  cases type : p.type with
  | context kind => rw [listedArguments, argument, type]
  | _ => rw [Parameter.isContext, type] at part; cases part

theorem listedArguments_cons_own (own : p.isContext = false) (items : List Json) :
    listedArguments request items (p :: params) =
      argument request p items.head? :: listedArguments request items.tail params := by
  cases type : p.type with
  | context kind => rw [Parameter.isContext, type] at own; cases own
  | _ => rw [listedArguments, argument, type]

/-- A listed payload gives each parameter the item that stands at its place. -/
theorem getElem?_listedArguments (items : List Json) (i : Nat) :
    (listedArguments request items params)[i]? = params[i]?.map fun p =>
      argument request p ((Payload.listed items).sentFor? params i p) := by
  induction params generalizing items i with
  | nil => rfl
  | cons q params ih =>
    cases part : q.isContext with
    | true =>
      rw [listedArguments_cons_context part]
      cases i with
      | zero =>
        rw [List.head?_eq_getElem?]
        rfl
      | succ i =>
        rw [List.getElem?_cons_succ, List.getElem?_cons_succ, ih]
        simp only [Payload.sentFor?_succ_context part]
    | false =>
      rw [listedArguments_cons_own part]
      cases i with
      | zero =>
        rw [List.head?_eq_getElem?]
        rfl
      | succ i =>
        rw [List.getElem?_cons_succ, List.getElem?_cons_succ, ih]
        simp only [Payload.sentFor?_succ_own part]

variable {found : RpcMatch σ}

/-- Each parameter's argument comes from what the payload sends for it. -/
theorem getElem?_arguments (i : Nat) :
    (found.arguments request)[i]? = found.handler.params[i]?.map fun p =>
      argument request p (found.payload.sentFor? found.handler.params i p) := by
  obtain ⟨handler, payload⟩ := found
  cases payload with
  | named fields =>
    change (namedArguments request fields handler.params)[i]? = _
    rw [namedArguments_eq_map, List.getElem?_map]
    rfl
  | listed items => exact getElem?_listedArguments items i

theorem length_arguments : (found.arguments request).length = found.handler.params.length := by
  have all (i : Nat) : (found.arguments request).length ≤ i ↔ found.handler.params.length ≤ i := by
    rw [← List.getElem?_eq_none_iff, ← List.getElem?_eq_none_iff, getElem?_arguments,
      Option.map_eq_none_iff]
  exact Nat.le_antisymm ((all _).2 le_rfl) ((all _).1 le_rfl)

end RpcMatch

/-! ## The arguments of a call -/

namespace RpcTable

variable {t : RpcTable σ} {path : String} {request : Request} {found : RpcMatch σ}

/-- The overload that a call is resolved to fits the payload that was sent. -/
theorem fits_of_resolve (h : t.resolve path request = .ok found) :
    found.payload.Sent request ∧ found.payload.fits found.handler = true := by
  unfold resolve at h
  split at h
  · cases h
  · next candidates _ =>
    dsimp only at h
    rw [Payload.parse?_textOf] at h
    split at h
    · cases h
    · next document sent =>
      obtain ⟨payload, made, h⟩ := Registry.exists_ok_of_bind h
      split at h
      · next handler first =>
        cases h
        refine ⟨?_, (List.find?_eq_some_iff_append.1 first).1⟩
        cases form : request.usesParameterNames with
        | true =>
          rw [form] at made
          cases document <;> cases made
          exact .named form sent
        | false =>
          rw [form] at made
          cases document <;> cases made
          exact .listed form sent
      · cases h

/-- What the payload sends for a parameter is accepted, and is what the parameter is given. -/
theorem exists_argument_of_resolve (h : t.resolve path request = .ok found) (call : Request)
    {i : Nat} {p : Parameter} (hp : found.handler.params[i]? = some p)
    (own : p.isContext = false) :
    ∃ node, found.payload.sentFor? found.handler.params i p = some node ∧
      p.type.accepts node = true ∧
      (found.arguments call)[i]? = some (Value.ofJson p.type node) ∧
      Value.Reads p.type node (Value.ofJson p.type node) := by
  obtain ⟨node, there, accepted⟩ := Payload.accepts_of_fits (fits_of_resolve h).2 hp own
  refine ⟨node, there, accepted, ?_, (Value.reads_iff own).2 ⟨accepted, rfl⟩⟩
  rw [RpcMatch.getElem?_arguments, hp, Option.map_some, RpcMatch.argument_own own, there]
  rfl

/-- **Arguments of a call**: when a request calls a candidate, each parameter in its place is given
a value. A part of the call is read from the call itself. Any other parameter is given what the
payload sends for it, wherever the parts of the call stand in the list: a document that the check
accepted, read as a value of the declared type, and null for null alone. -/
theorem arguments_of_resolve (h : t.resolve path request = .ok found) (call : Request) :
    found.payload.Sent request ∧
      (found.arguments call).length = found.handler.params.length ∧
      ∀ i p, found.handler.params[i]? = some p →
        (∀ kind, p.type = .context kind → (found.arguments call)[i]? =
          some (Binder.contextValue { request := call, param := some p } kind)) ∧
        (p.isContext = false → ∃ node v,
          found.payload.sentFor? found.handler.params i p = some node ∧
          p.type.accepts node = true ∧
          (found.arguments call)[i]? = some v ∧
          Value.Reads p.type node v ∧ (v = .null ↔ node = .null)) := by
  obtain ⟨sent, -⟩ := fits_of_resolve h
  refine ⟨sent, RpcMatch.length_arguments, fun i p hp => ⟨fun kind part => ?_, fun own => ?_⟩⟩
  · rw [RpcMatch.getElem?_arguments, hp, Option.map_some, RpcMatch.argument_context part]
  · obtain ⟨node, there, accepted, given, reads⟩ := exists_argument_of_resolve h call hp own
    exact ⟨node, _, there, accepted, given, reads, reads.eq_null_iff⟩

/-- A procedure with a part of the call between two parameters of its payload. -/
def marking : Handler Unit where
  verb := .post
  pattern := "/mark"
  type := "Mark"
  method := "mark"
  params := [{ name := "done", type := .scalar .bool }, .ofContext .params,
    { name := "note", type := .boxed .char }]
  body := fun _ _ => pure default

/-- The body is an array: the parameters of the payload stand in it by position. -/
def sendsTrueAndNull : Request :=
  { verb := .post, path := "/mark", attachments := [("body", .text "[true,null]")] }

/-- The part of the call takes no item, so the last parameter is given the second one. -/
theorem arguments_of_resolve_marking :
    ∃ found,
      (({} : RpcTable Unit).add "/mark" marking).resolve "/mark" sendsTrueAndNull = .ok found ∧
      (found.arguments sendsTrueAndNull).length = 3 ∧
      (found.arguments sendsTrueAndNull)[0]? = some (.bool true) ∧
      (found.arguments sendsTrueAndNull)[2]? = some .null := by
  have lists : (({} : RpcTable Unit).add "/mark" marking).Lists "/mark" [marking] :=
    (lists_empty "/mark").add (show List.Nodup _ by decide)
  have text : Text.trim sendsTrueAndNull.bodyText = "[true,null]" := by decide
  have document : Payload.document? sendsTrueAndNull = some (.array [.bool true, .null]) := by
    rw [Payload.document?, text, if_neg (by decide)]
    cbv
  have called : (({} : RpcTable Unit).add "/mark" marking).resolve "/mark" sendsTrueAndNull =
      .ok ⟨marking, .listed [.bool true, .null]⟩ := by
    rw [lists.resolve_of_sent (List.cons_ne_nil _ _) (.listed (by decide) document)]
    rfl
  obtain ⟨-, length, each⟩ := arguments_of_resolve called sendsTrueAndNull
  obtain ⟨_, v, sent, -, first, reads, -⟩ := (each 0 _ rfl).2 rfl
  obtain ⟨_, w, sent', -, last, -, null⟩ := (each 2 _ rfl).2 rfl
  cases sent
  cases sent'
  refine ⟨_, called, length, ?_, ?_⟩
  · cases reads with
    | scalar read =>
      cases read
      exact first
  · rw [last, null.2 rfl]

end RpcTable

end Switchboard
