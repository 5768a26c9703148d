import Switchboard.Proofs.Json.Ordered
import Switchboard.Rpc.Overload
import Switchboard.Service.Registry
import Mathlib.Data.List.Perm.Subperm

/-!
# Resolution of overloads

Which candidate of a path a request calls, and how it fails where it calls none. The rules are those
of `RpcTable.Resolution`, and on the procedures of an engine the table follows them
(`RpcTable.resolve_iff_resolution`).

The table compares the number of names and looks each parameter up. That the payload then names the
parameters and nothing else (`Payload.fits_named_iff`) is a count: a document that was read names no
field twice, and no two parameters of a handler share a source name, or it would not have been
attached.
-/

namespace Switchboard

variable {σ : Type}

/-! ## The names of a handler's parameters -/

theorem firstRepeated?_eq_none_iff {seen names : List String} :
    firstRepeated? seen names = none ↔ names.Nodup ∧ ∀ s ∈ names, s ∉ seen := by
  induction names generalizing seen with
  | nil => simp [firstRepeated?]
  | cons s names ih =>
    rw [firstRepeated?, List.nodup_cons, List.forall_mem_cons]
    by_cases hs : s ∈ seen
    · simp [hs]
    · rw [if_neg (by simpa using hs), ih]
      simp only [List.mem_cons, not_or]
      constructor
      · rintro ⟨hn, hf⟩
        exact ⟨⟨fun hm => (hf s hm).1 rfl, hn⟩, hs, fun t ht => (hf t ht).2⟩
      · rintro ⟨⟨hm, hn⟩, -, hf⟩
        exact ⟨hn, fun t ht => ⟨fun he => hm (he ▸ ht), hf t ht⟩⟩

/-- A handler whose parameters have source names of their own. -/
def Handler.Distinct (h : Handler σ) : Prop := (h.ownParams.map Parameter.sourceName).Nodup

theorem Declaration.distinct_of_attach {d : Declaration σ} {aspects : AspectRegistry σ} {verb : Verb}
    {pattern : String} {h : Handler σ} (ha : d.attach aspects verb pattern = .ok h) :
    h.Distinct := by
  unfold attach at ha
  split at ha
  · cases ha
  · rename_i hn
    cases ha
    exact (firstRepeated?_eq_none_iff.1 hn).1

/-! ## What a candidate takes -/

/-- The payload gives each own parameter of a handler a document of its type: by name it has just
their source names, by position as many items as there are parameters. -/
inductive Handler.Takes (h : Handler σ) : Payload → Prop where
  | named {fields : Dictionary Json}
      (names : ∀ key, key ∈ Dictionary.keys fields ↔ ∃ p ∈ h.ownParams, p.sourceName = key)
      (types : ∀ p ∈ h.ownParams, ∀ node, (p.sourceName, node) ∈ fields → p.type.accepts node) :
      h.Takes (.named fields)
  | listed {items : List Json} (length : items.length = h.ownParams.length)
      (types : ∀ (i : Nat) p node, h.ownParams[i]? = some p → items[i]? = some node →
        p.type.accepts node) :
      h.Takes (.listed items)

/-- **The count decides**: as many fields as parameters, and a field for each parameter, leave no
field over. -/
theorem Payload.fits_named_iff {h : Handler σ} (hd : h.Distinct) {fields : Dictionary Json}
    (hs : Dictionary.Sorted fields) :
    (Payload.named fields).fits h = true ↔ h.Takes (.named fields) := by
  have sizes : h.ownParams.length = fields.length ↔
      (h.ownParams.map Parameter.sourceName).length = (Dictionary.keys fields).length := by
    rw [List.length_map, Dictionary.keys, List.length_map]
  rw [fits, Bool.and_eq_true, beq_iff_eq, List.all_eq_true, sizes]
  constructor
  · rintro ⟨hl, hf⟩
    have sub : h.ownParams.map Parameter.sourceName ⊆ Dictionary.keys fields := by
      intro key hk
      obtain ⟨p, hp, rfl⟩ := List.mem_map.1 hk
      have ha := hf p hp
      refine Dictionary.isSome_get?_iff.1 ?_
      cases hg : Dictionary.get? fields p.sourceName with
      | none => rw [hg] at ha; cases ha
      | some node => rfl
    have perm := (hd.subperm sub).perm_of_length_le hl.ge
    refine .named (fun key => ?_) fun p hp node hm => ?_
    · rw [← perm.mem_iff, List.mem_map]
    · have ha := hf p hp
      rwa [hs.get?_of_mem hm] at ha
  · rintro (⟨names, types⟩ | -)
    have perm : (h.ownParams.map Parameter.sourceName).Perm (Dictionary.keys fields) := by
      rw [List.perm_ext_iff_of_nodup hd hs.nodup_keys]
      intro key
      rw [names, List.mem_map]
    refine ⟨perm.length_eq, fun p hp => ?_⟩
    obtain ⟨node, hn⟩ := Option.isSome_iff_exists.1
      (Dictionary.isSome_get?_iff.2 ((names p.sourceName).2 ⟨p, hp, rfl⟩))
    rw [hn]
    exact types p hp node (Dictionary.mem_of_get? hn)

theorem Payload.fits_listed_iff {h : Handler σ} {items : List Json} :
    (Payload.listed items).fits h = true ↔ h.Takes (.listed items) := by
  rw [fits, Bool.and_eq_true, beq_iff_eq, List.all_eq_true]
  constructor
  · rintro ⟨hl, hf⟩
    refine .listed hl.symm fun i p node hi hj => hf (p, node) ?_
    exact List.mem_of_getElem? (List.getElem?_zip_eq_some.2 ⟨hi, hj⟩)
  · rintro (- | ⟨hl, types⟩)
    refine ⟨hl.symm, fun (p, node) hm => ?_⟩
    obtain ⟨i, hi⟩ := List.mem_iff_getElem?.1 hm
    obtain ⟨hi, hj⟩ := List.getElem?_zip_eq_some.1 hi
    exact types i p node hi hj

/-! ## What a request sends -/

/-- The document in the body of a call; a blank body counts as an empty one. -/
def Payload.document? (request : Request) : Option Json :=
  if Text.trim request.bodyText = "" then
    some (if request.usesParameterNames then .object [] else .array [])
  else Json.parse? (Text.trim request.bodyText)

theorem Payload.parse?_textOf (request : Request) :
    Json.parse? (textOf request.usesParameterNames request.bodyText) = document? request := by
  by_cases blank : Text.trim request.bodyText = ""
  · simp only [textOf, document?, blank, ↓reduceIte]
    cases request.usesParameterNames
    · exact Json.parse?_empty_array
    · exact Json.parse?_empty_object
  · simp only [textOf, document?, blank, ↓reduceIte]

/-- The payload of a request: by name the fields of an object, by position the items of an array. -/
inductive Payload.Sent (request : Request) : Payload → Prop where
  | named {fields : Dictionary Json} (form : request.usesParameterNames = true)
      (document : document? request = some (.object fields)) : Sent request (.named fields)
  | listed {items : List Json} (form : request.usesParameterNames = false)
      (document : document? request = some (.array items)) : Sent request (.listed items)

/-- What was sent fits just the candidates that take it: a document that was read is in order. -/
theorem Payload.Sent.fits_iff_takes {request : Request} {payload : Payload}
    (sent : Sent request payload) {h : Handler σ} (hd : h.Distinct) :
    payload.fits h = true ↔ h.Takes payload := by
  cases sent with
  | named form document =>
    rw [← parse?_textOf] at document
    exact fits_named_iff hd (Json.ordered_of_parse? document).sorted
  | listed form document => exact fits_listed_iff

/-! ## The rules -/

namespace RpcTable

/-- How a request to a path with some candidates is answered. -/
inductive Resolution (candidates : List (Handler σ)) (path : String) (request : Request) :
    Except Failure (RpcMatch σ) → Prop where
  | unknownPath (none : candidates = []) :
      Resolution candidates path request (.error (.routeNotFound request.verb path))
  | notJson (known : candidates ≠ []) (document : Payload.document? request = none) :
      Resolution candidates path request (.error (.routeNotFound request.verb path))
  | notObject (known : candidates ≠ []) {document : Json} (form : request.usesParameterNames = true)
      (sent : Payload.document? request = some document) (root : document.fields? = none) :
      Resolution candidates path request (.error (.malformedPayload "expected a JSON object"))
  | notArray (known : candidates ≠ []) {document : Json} (form : request.usesParameterNames = false)
      (sent : Payload.document? request = some document) (root : document.items? = none) :
      Resolution candidates path request (.error (.malformedPayload "expected a JSON array"))
  | found {before after : List (Handler σ)} {handler : Handler σ} {payload : Payload}
      (split : candidates = before ++ handler :: after) (sent : payload.Sent request)
      (passed : ∀ h ∈ before, ¬ h.Takes payload) (takes : handler.Takes payload) :
      Resolution candidates path request (.ok ⟨handler, payload⟩)
  | noOverload (known : candidates ≠ []) {payload : Payload} (sent : payload.Sent request)
      (passed : ∀ h ∈ candidates, ¬ h.Takes payload) :
      Resolution candidates path request (.error (.noOverload path))

variable {t : RpcTable σ} {candidates : List (Handler σ)} {path : String} {request : Request}

/-- The candidates a table lists for a path, each with source names of its own. -/
structure Lists (t : RpcTable σ) (path : String) (candidates : List (Handler σ)) : Prop where
  entry : Dictionary.get? t.candidates path = if candidates = [] then none else some candidates
  distinct : ∀ h ∈ candidates, h.Distinct

/-- The first of some candidates that a payload fits. -/
def choose (candidates : List (Handler σ)) (path : String) (payload : Payload) :
    Except Failure (RpcMatch σ) :=
  match candidates.find? (payload.fits ·) with
  | some handler => .ok ⟨handler, payload⟩
  | none => .error (.noOverload path)

theorem Lists.resolve_of_document (ht : t.Lists path candidates) (known : candidates ≠ [])
    {document : Json} (sent : Payload.document? request = some document) :
    t.resolve path request =
      Payload.ofJson request.usesParameterNames document >>= choose candidates path := by
  unfold resolve
  rw [ht.entry, if_neg known]
  dsimp only
  rw [Payload.parse?_textOf, sent]
  rfl

theorem Lists.resolve_of_sent (ht : t.Lists path candidates) (known : candidates ≠ [])
    {payload : Payload} (sent : payload.Sent request) :
    t.resolve path request = choose candidates path payload := by
  cases sent with
  | named form document =>
    rw [ht.resolve_of_document known document, form]
    rfl
  | listed form document =>
    rw [ht.resolve_of_document known document, form]
    rfl

theorem Lists.resolve_of_resolution (ht : t.Lists path candidates)
    {answer : Except Failure (RpcMatch σ)} (h : Resolution candidates path request answer) :
    t.resolve path request = answer := by
  have fits {payload : Payload} (sent : payload.Sent request) {c : Handler σ} (hc : c ∈ candidates) :
      payload.fits c = true ↔ c.Takes payload :=
    sent.fits_iff_takes (ht.distinct c hc)
  cases h with
  | unknownPath none =>
    unfold resolve
    rw [ht.entry, if_pos none]
  | notJson known document =>
    unfold resolve
    rw [ht.entry, if_neg known]
    dsimp only
    rw [Payload.parse?_textOf, document]
  | notObject known form sent root =>
    rw [ht.resolve_of_document known sent, form]
    cases ‹Json› with
    | object fields => cases root
    | _ => rfl
  | notArray known form sent root =>
    rw [ht.resolve_of_document known sent, form]
    cases ‹Json› with
    | array items => cases root
    | _ => rfl
  | @found before after handler payload split sent passed takes =>
    subst split
    rw [ht.resolve_of_sent (by simp) sent, choose, List.find?_eq_some_iff_append.2]
    refine ⟨(fits sent (by simp)).2 takes, before, after, rfl, fun c hc => ?_⟩
    have no := passed c hc
    rw [← fits sent (List.mem_append_left _ hc)] at no
    simpa using no
  | noOverload known sent passed =>
    rw [ht.resolve_of_sent known sent, choose, List.find?_eq_none.2]
    intro c hc
    rw [fits sent hc]
    exact passed c hc

/-- Some rule applies to every request. -/
theorem exists_resolution (candidates : List (Handler σ)) (path : String) (request : Request) :
    ∃ answer, Resolution candidates path request answer := by
  by_cases none : candidates = []
  · exact ⟨_, .unknownPath none⟩
  have pick {payload : Payload} (sent : payload.Sent request) :
      ∃ answer, Resolution candidates path request answer := by
    classical
    cases hf : candidates.find? fun h => decide (h.Takes payload) with
    | none =>
      refine ⟨_, .noOverload none sent fun h hm => ?_⟩
      simpa using List.find?_eq_none.1 hf h hm
    | some handler =>
      obtain ⟨takes, before, after, split, passed⟩ := List.find?_eq_some_iff_append.1 hf
      exact ⟨_, .found split sent (fun h hm => by simpa using passed h hm) (by simpa using takes)⟩
  cases document : Payload.document? request with
  | none => exact ⟨_, .notJson none document⟩
  | some root =>
    cases form : request.usesParameterNames with
    | true =>
      cases root with
      | object fields => exact pick (.named form document)
      | _ => exact ⟨_, .notObject none form document rfl⟩
    | false =>
      cases root with
      | array items => exact pick (.listed form document)
      | _ => exact ⟨_, .notArray none form document rfl⟩

theorem Lists.resolve_iff (ht : t.Lists path candidates)
    (answer : Except Failure (RpcMatch σ)) :
    t.resolve path request = answer ↔ Resolution candidates path request answer := by
  constructor
  · rintro rfl
    obtain ⟨answer, h⟩ := exists_resolution candidates path request
    rw [ht.resolve_of_resolution h]
    exact h
  · exact ht.resolve_of_resolution

/-! ## The table of an engine -/

theorem lists_empty (path : String) : ({} : RpcTable σ).Lists path [] := ⟨rfl, by simp⟩

/-- The step: a candidate goes behind those of its path, and no other path changes. -/
theorem Lists.add (ht : t.Lists path candidates) {other : String} {h : Handler σ}
    (hd : h.Distinct) :
    (t.add other h).Lists path (if other = path then candidates ++ [h] else candidates) := by
  refine ⟨?_, fun c hc => ?_⟩
  · unfold RpcTable.add
    rw [Dictionary.get?_modify]
    by_cases hp : other = path
    · subst hp
      rw [if_pos rfl, if_pos rfl, ht.entry]
      by_cases none : candidates = []
      · simp [none]
      · simp [none]
    · rw [if_neg (Ne.symm hp), if_neg hp, ht.entry]
  · by_cases hp : other = path
    · rw [if_pos hp, List.mem_append, List.mem_singleton] at hc
      rcases hc with hc | rfl
      · exact ht.distinct c hc
      · exact hd
    · rw [if_neg hp] at hc
      exact ht.distinct c hc

end RpcTable

namespace Registry

open RpcTable

theorem exists_ok_of_bind {ε α β : Type} {x : Except ε α} {f : α → Except ε β} {b : β}
    (h : x >>= f = .ok b) : ∃ a, x = .ok a ∧ f a = .ok b := by
  cases x with
  | error e => cases h
  | ok a => exact ⟨a, rfl, h⟩

/-- The candidates of a path in order of registration, attached as candidates are. -/
def candidatesAt (aspects : AspectRegistry σ) (procedures : List (String × Declaration σ))
    (path : String) : Except DuplicateSource (List (Handler σ)) :=
  (procedures.filter (·.1 = path)).mapM fun p => p.2.attach aspects .post path

/-- The run: the table takes the candidates of each path in order. -/
theorem lists_of_buildProcedures {aspects : AspectRegistry σ}
    {procedures : List (String × Declaration σ)} {t table : RpcTable σ}
    (h : buildProcedures aspects procedures t = .ok table) {path : String}
    {before : List (Handler σ)} (ht : t.Lists path before) :
    ∃ candidates, candidatesAt aspects procedures path = .ok candidates ∧
      table.Lists path (before ++ candidates) := by
  induction procedures generalizing t before with
  | nil =>
    cases h
    exact ⟨[], rfl, by simpa using ht⟩
  | cons procedure procedures ih =>
    obtain ⟨other, d⟩ := procedure
    rw [buildProcedures] at h
    cases ha : d.attach aspects .post other with
    | error e => rw [ha] at h; cases h
    | ok handler =>
      rw [ha] at h
      obtain ⟨candidates, hc, hl⟩ := ih h (ht.add (Declaration.distinct_of_attach ha))
      unfold candidatesAt at hc ⊢
      by_cases hp : other = path
      · subst hp
        refine ⟨handler :: candidates, ?_, by simpa using hl⟩
        rw [List.filter_cons_of_pos (by simp), List.mapM_cons, ha, hc]
        rfl
      · refine ⟨candidates, ?_, by simpa [hp] using hl⟩
        rw [List.filter_cons_of_neg (by simpa using hp)]
        exact hc

/-- What an engine and its service are built of: every part that a registry and its settings decide. -/
theorem exists_of_build {r : Registry σ} {settings : Settings} {files : FileSystem} {world : σ}
    {engine : Engine σ} {service : Service σ}
    (h : r.build settings files world = .ok (engine, service)) :
    ∃ pushes, buildProcedures r.aspects r.procedures {} = .ok engine.procedures ∧
      r.pushes.mapM (buildPush r.aspects) = .ok pushes ∧
      service.hub = .ofPushes pushes settings.socket.channelCapacity ∧
      engine.dispatcher.settings = ⟨settings.http.staticCache, settings.http.cacheLifetime⟩ := by
  unfold build at h
  obtain ⟨tree, -, h⟩ := exists_ok_of_bind h
  obtain ⟨configured, -, h⟩ := exists_ok_of_bind h
  obtain ⟨listed, -, h⟩ := exists_ok_of_bind h
  obtain ⟨procedures, built, h⟩ := exists_ok_of_bind h
  obtain ⟨pushes, attached, h⟩ := exists_ok_of_bind h
  cases h
  exact ⟨pushes, built, attached, rfl, rfl⟩

/-- **Resolution of a call**: the first candidate that takes the payload is called, and each way to
have none is answered by its own failure. -/
theorem resolve_iff_resolution {r : Registry σ} {settings : Settings} {files : FileSystem}
    {world : σ} {engine : Engine σ} {service : Service σ}
    (h : r.build settings files world = .ok (engine, service)) (path : String) :
    ∃ candidates, candidatesAt r.aspects r.procedures path = .ok candidates ∧
      ∀ request answer, engine.procedures.resolve path request = answer ↔
        Resolution candidates path request answer := by
  obtain ⟨-, procedures, -⟩ := exists_of_build h
  obtain ⟨candidates, hc, hl⟩ := lists_of_buildProcedures procedures (lists_empty path)
  exact ⟨candidates, hc, fun request answer => hl.resolve_iff answer⟩

/-- One path with two candidates, the second of them without parameters. -/
def greetings : Registry Unit where
  procedures := [
    ("/greet", { type := "Greet", method := "byName", params := [{ name := "n", type := .text }],
                 body := fun _ _ => pure default }),
    ("/greet", { type := "Greet", method := "anyone", body := fun _ _ => pure default })]

/-- A blank body sent by position passes by the candidate that has a parameter. -/
theorem resolve_iff_resolution_blank :
    ∃ made, greetings.build {} {} () = .ok made ∧
      ∃ handler, handler.method = "anyone" ∧
        made.1.procedures.resolve "/greet"
            { verb := .post, path := "/greet", attachments := [("body", .text " ")] } =
          .ok ⟨handler, .listed []⟩ := by
  obtain ⟨made, h⟩ : ∃ made, greetings.build {} {} () = .ok made := ⟨_, rfl⟩
  obtain ⟨candidates, hc, rules⟩ := resolve_iff_resolution h "/greet"
  obtain ⟨byName, anyone, two, hb, ha, hm⟩ : ∃ byName anyone,
      candidatesAt greetings.aspects greetings.procedures "/greet" = .ok [byName, anyone] ∧
      byName.ownParams.length = 1 ∧ anyone.ownParams = [] ∧ anyone.method = "anyone" :=
    ⟨_, _, rfl, rfl, rfl, rfl⟩
  rw [two] at hc
  cases hc
  have split : [byName, anyone] = [byName] ++ anyone :: [] := rfl
  refine ⟨made, h, anyone, hm, (rules _ _).2 (.found split ?_ ?_ ?_)⟩
  · exact .listed rfl (if_pos (by decide))
  · intro b hmem takes
    cases List.mem_singleton.1 hmem
    cases takes with
    | listed length _ => rw [hb] at length; cases length
  · exact .listed (by rw [ha]; rfl) (by simp)

end Registry

end Switchboard
