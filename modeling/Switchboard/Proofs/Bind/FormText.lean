import Switchboard.Bind.Manager
import Switchboard.Proofs.Dictionary
import Switchboard.Proofs.Http.Request

/-!
# Text sent as a form value

A request reads its query and its form body as forms, and so its parameters are the texts that were
sent (`Carries.params_eq`). The binder of text reads what it is given as a form value, too
(`Binder.decodeText_eq`): that is right for the segments of a path, which come as they were written,
but a parameter has been read before. What a handler receives of it is the text read a second time,
and `bindArguments_of_carries` says for which texts that makes no difference.
-/

namespace Switchboard

/-! ## The binder of text -/

namespace Binder

open Form

/-- How the binder writes a byte before it reads the whole as a form. -/
def shieldByte (b : UInt8) : List UInt8 :=
  if b = 38 then [37, 50, 54] else if b = 61 then [37, 51, 68] else [b]

/-- How the binder writes a character before it reads the whole as a form. -/
def shieldChar (c : Char) : List Char :=
  if c == '&' then ['%', '2', '6'] else if c == '=' then ['%', '3', 'D'] else [c]

theorem shieldByte_of_ne {b : UInt8} (ampersand : b ≠ 38) (equals : b ≠ 61) :
    shieldByte b = [b] := by
  unfold shieldByte
  rw [if_neg ampersand, if_neg equals]

theorem shieldByte_of_isQuiet {b : UInt8} (h : IsQuiet b) : shieldByte b = [b] :=
  shieldByte_of_ne h.2.1 h.2.2.2

theorem separator_notMem_shieldByte (b : UInt8) : 38 ∉ shieldByte b ∧ 61 ∉ shieldByte b :=
  forall_byte (p := fun b => 38 ∉ shieldByte b ∧ 61 ∉ shieldByte b) (by decide +kernel) b

theorem map_unplus_shieldByte (b : UInt8) : (shieldByte b).map unplus = shieldByte (unplus b) :=
  forall_byte (p := fun b => (shieldByte b).map unplus = shieldByte (unplus b)) (by decide +kernel) b

theorem map_unplus_flatMap_shieldByte (bytes : List UInt8) :
    (bytes.flatMap shieldByte).map unplus = (bytes.map unplus).flatMap shieldByte := by
  induction bytes with
  | nil => rfl
  | cons b bytes ih =>
    rw [List.flatMap_cons, List.map_append, map_unplus_shieldByte, ih, List.map_cons,
      List.flatMap_cons]

theorem flatMap_shieldByte_utf8EncodeChar (c : Char) :
    (String.utf8EncodeChar c).flatMap shieldByte = Utf8.encodeList (shieldChar c) := by
  by_cases ascii : c.toNat ≤ 127
  · have one : shieldByte (UInt8.ofNat c.toNat) = Utf8.encodeList (shieldChar c) :=
      Utf8.forall_ascii (p := fun c b => shieldByte b = Utf8.encodeList (shieldChar c))
        (by decide +kernel) ascii
    rw [Utf8.utf8EncodeChar_ascii ascii, List.flatMap_singleton, one]
  · have self : shieldChar c = [c] := by
      unfold shieldChar
      rw [if_neg, if_neg]
      · simp only [beq_iff_eq]
        rintro rfl
        exact ascii (by decide)
      · simp only [beq_iff_eq]
        rintro rfl
        exact ascii (by decide)
    have same : ∀ b ∈ String.utf8EncodeChar c, shieldByte b = [b] := by
      intro b hb
      have high := Utf8.high_of_mem_utf8EncodeChar (by omega) hb
      apply shieldByte_of_ne
      · rintro rfl
        exact absurd high (by decide)
      · rintro rfl
        exact absurd high (by decide)
    rw [self, List.flatMap_congr same, List.flatMap_singleton', Utf8.encodeList_cons]
    exact (List.append_nil _).symm

theorem encodeList_flatMap_shieldChar (cs : List Char) :
    Utf8.encodeList (cs.flatMap shieldChar) = (Utf8.encodeList cs).flatMap shieldByte := by
  induction cs with
  | nil => rfl
  | cons c cs ih =>
    rw [List.flatMap_cons, Utf8.encodeList_append, ih, Utf8.encodeList_cons, List.flatMap_append,
      flatMap_shieldByte_utf8EncodeChar]

/-- A hexadecimal digit in front was there before. -/
theorem exists_of_flatMap_shieldByte {bytes rest : List UInt8} {x : UInt8}
    (h : bytes.flatMap shieldByte = x :: rest) (hx : (hexValue? x).isSome) :
    ∃ more, bytes = x :: more ∧ more.flatMap shieldByte = rest := by
  cases bytes with
  | nil => cases h
  | cons b more =>
    rw [List.flatMap_cons] at h
    by_cases ampersand : b = 38
    · subst ampersand
      obtain ⟨rfl, -⟩ := List.cons.inj h
      exact absurd hx (by decide)
    · by_cases equals : b = 61
      · subst equals
        obtain ⟨rfl, -⟩ := List.cons.inj h
        exact absurd hx (by decide)
      · rw [shieldByte_of_ne ampersand equals] at h
        obtain ⟨rfl, hrest⟩ := List.cons.inj h
        exact ⟨more, rfl, hrest⟩

theorem not_beginsHex_flatMap_shieldByte {bytes : List UInt8} (h : ¬ BeginsHex bytes) :
    ¬ BeginsHex (bytes.flatMap shieldByte) := by
  rintro ⟨x, y, rest, he, hx, hy⟩
  obtain ⟨more, rfl, hmore⟩ := exists_of_flatMap_shieldByte he hx
  obtain ⟨last, rfl, -⟩ := exists_of_flatMap_shieldByte hmore hy
  exact h ⟨x, y, last, rfl, hx, hy⟩

/-- The separators come back as they were, and nothing else is read in another way. -/
theorem percentDecode_flatMap_shieldByte (bytes : List UInt8) :
    percentDecode (bytes.flatMap shieldByte) = percentDecode bytes := by
  have percent : shieldByte 37 = [37] := rfl
  fun_induction percentDecode bytes with
  | case1 a b rest x y hb ha ih =>
    have quietA := isQuiet_of_hexValue? (b := a) (by rw [ha]; rfl)
    have quietB := isQuiet_of_hexValue? (b := b) (by rw [hb]; rfl)
    rw [List.flatMap_cons, List.flatMap_cons, List.flatMap_cons, percent,
      shieldByte_of_isQuiet quietA, shieldByte_of_isQuiet quietB]
    exact (percentDecode_escape ha hb _).trans (congrArg _ ih)
  | case2 a b rest other ih =>
    have lone : ¬ BeginsHex (a :: b :: rest) := by
      rintro ⟨a', b', rest', he, ha, hb⟩
      cases he
      obtain ⟨x, hx⟩ := Option.isSome_iff_exists.1 ha
      obtain ⟨y, hy⟩ := Option.isSome_iff_exists.1 hb
      exact other x y hx hy
    rw [List.flatMap_cons, percent]
    exact (percentDecode_lone (not_beginsHex_flatMap_shieldByte lone)).trans (congrArg _ ih)
  | case3 c rest other ih =>
    rw [List.flatMap_cons]
    by_cases mark : c = 37
    · have lone : ¬ BeginsHex rest := by
        rintro ⟨a, b, more, he, -, -⟩
        exact other a b more mark he
      subst mark
      rw [percent]
      exact (percentDecode_lone (not_beginsHex_flatMap_shieldByte lone)).trans (congrArg _ ih)
    · by_cases ampersand : c = 38
      · subst ampersand
        exact (percentDecode_escape rfl rfl _).trans (congrArg _ ih)
      · by_cases equals : c = 61
        · subst equals
          exact (percentDecode_escape rfl rfl _).trans (congrArg _ ih)
        · rw [shieldByte_of_ne ampersand equals]
          exact (percentDecode_cons mark _).trans (congrArg _ ih)
  | case4 => exact percentDecode_nil

/-- **The binder of text reads the whole of it as one form value.** -/
theorem decodeText_eq (raw : String) : decodeText raw = decodePart (Utf8.encodeList raw.toList) := by
  obtain ⟨bytes, hb⟩ : ∃ bytes, bytes = Utf8.encodeList raw.toList := ⟨_, rfl⟩
  have ampersand : 38 ∉ bytes.flatMap shieldByte := by
    intro h
    obtain ⟨b, -, hb⟩ := List.mem_flatMap.1 h
    exact (separator_notMem_shieldByte b).1 hb
  have equals : 61 ∉ bytes.flatMap shieldByte := by
    intro h
    obtain ⟨b, -, hb⟩ := List.mem_flatMap.1 h
    exact (separator_notMem_shieldByte b).2 hb
  have shielded : decodePart (bytes.flatMap shieldByte) = decodePart bytes := by
    rw [decodePart_eq, decodePart_eq, map_unplus_flatMap_shieldByte,
      percentDecode_flatMap_shieldByte]
  have whole : decodeText raw =
      ((parseBytes (bytes.flatMap shieldByte)).head?.map (·.1)).getD "" := by
    rw [hb, ← encodeList_flatMap_shieldChar]
    rfl
  rw [whole, ← hb, ← shielded]
  by_cases empty : bytes.flatMap shieldByte = []
  · rw [empty, decodePart_eq, List.map_nil, percentDecode_nil, Utf8.decodeList_nil]
    rfl
  · have single : List.intercalate [38] [bytes.flatMap shieldByte] = bytes.flatMap shieldByte :=
      List.intercalate_singleton
    have one : parseBytes (List.intercalate [38] [bytes.flatMap shieldByte]) = _ :=
      parseBytes_parts (List.cons_ne_nil _ _) (by simpa using ampersand) (by simpa using empty)
    rw [single] at one
    rw [one, List.map_singleton, splitPair_of_notMem equals]
    rfl

end Binder

/-! ## What a handler receives -/

/-- A parameter of type text that nothing but the binder looks at. -/
structure Parameter.TakesText (p : Parameter) (n : String) : Prop where
  source : p.sourceName = n
  type : p.type = .text
  convertTo : p.convertTo = none
  markers : p.markers = []

namespace BindManager

theorem findBinder_text : builtin.findBinder .text = some Binder.text := rfl

/-- A text parameter is bound to the first text sent for it, as the binder reads it. -/
theorem bind_text {p : Parameter} {n : String} (takes : p.TakesText n) (ctx : BindContext)
    (v : String) (more : List String) :
    builtin.bind ctx p (v :: more) = .text (Binder.decodeText v) := by
  have scalar : p.isArray = false := by rw [Parameter.isArray, takes.type]; rfl
  have target : p.bindType = .text := by rw [Parameter.bindType, takes.convertTo, takes.type]; rfl
  have raw : builtin.convert ctx.request p v = .text v := by
    unfold convert
    rw [takes.markers]
    rfl
  unfold bind
  rw [scalar, if_neg Bool.false_ne_true, List.head?_cons, Option.map_some, raw]
  unfold bindOne
  rw [target, findBinder_text]
  rfl

theorem bindArguments_text {p : Parameter} {n : String} (takes : p.TakesText n) (request : Request)
    (cause : Option Failure) {values : Dictionary (List String)} {v : String} {more : List String}
    (sent : Dictionary.get? values n = some (v :: more)) :
    builtin.bindArguments request [p] values cause = .ok ([.text (Binder.decodeText v)], []) := by
  have bound := bind_text takes { request, cause } v more
  have accepted : builtin.validate (.text (Binder.decodeText v)) p [] = (.ok (), []) := by
    unfold validate
    rw [takes.markers]
    rfl
  unfold bindArguments bindFrom
  rw [takes.source, sent, Option.getD_some, bound]
  dsimp only
  rw [accepted]
  rfl

/-- **A handler receives what was sent, read as a form value once more.** The request has read it
already. Both readings leave the same text just if what was sent has no `+` and no escape. -/
theorem bindArguments_of_carries {n v : String} {r : Request} (carried : r.Carries n v)
    {p : Parameter} (takes : p.TakesText n) (cause : Option Failure) :
    ∃ received,
      builtin.bindArguments r [p] r.params cause = .ok ([.text received], []) ∧
      received = Form.decodePart v.toUTF8.data.toList ∧
      (received = v ↔ '+' ∉ v.toList ∧ Form.escapes v.toList = 0) := by
  have sent : Dictionary.get? r.params n = some [v] := by
    rw [carried.params_eq, Dictionary.get?_cons, if_pos rfl]
  refine ⟨Binder.decodeText v, bindArguments_text takes r cause sent, ?_, ?_⟩
  · rw [Binder.decodeText_eq, Utf8.toList_toUTF8]
  · have same := Form.decodePart_encodeList_eq_iff v.toList
    rwa [String.ofList_toList, ← Binder.decodeText_eq] at same

/-- A request with the query `q=a%2Bb`. -/
theorem carries_plus :
    (Request.ofParts .get ("/search" ++ "?" ++ Form.text [("q", "a+b")]) {} ByteArray.empty
      none).Carries "q" "a+b" :=
  .query (by decide) fun form => absurd form (by decide)

/-- A plus sign that was sent arrives as a space. -/
theorem bindArguments_of_carries_plus :
    ∃ (r : Request) (p : Parameter), r.query = some "q=a%2Bb" ∧ r.Carries "q" "a+b" ∧
      p.TakesText "q" ∧
      builtin.bindArguments r [p] r.params none = .ok ([.text "a b"], []) := by
  refine ⟨_, { name := "q", type := .text }, ?_, carries_plus, ⟨rfl, rfl, rfl, rfl⟩, ?_⟩
  · decide +kernel
  · obtain ⟨received, bound, read, -⟩ := bindArguments_of_carries carries_plus
      (p := { name := "q", type := .text }) ⟨rfl, rfl, rfl, rfl⟩ none
    have twice : Form.decodePart "a+b".toUTF8.data.toList = "a b" := by decide +kernel
    rw [bound, read, twice]

/-- It is not so that a handler receives what was sent, whatever that is. -/
theorem not_forall_received_eq_sent :
    ¬ ∀ (n v : String) (r : Request) (p : Parameter), r.Carries n v → p.TakesText n →
      builtin.bindArguments r [p] r.params none = .ok ([.text v], []) := by
  intro h
  have received := h "q" "a+b" _ { name := "q", type := .text } carries_plus ⟨rfl, rfl, rfl, rfl⟩
  have sent : Dictionary.get? [("q", ["a+b"])] "q" = some ["a+b"] := rfl
  rw [carries_plus.params_eq,
    bindArguments_text (p := { name := "q", type := .text }) ⟨rfl, rfl, rfl, rfl⟩ _ none sent]
    at received
  injection received with pair
  injection (List.cons.inj (Prod.mk.inj pair).1).1 with text
  have twice : Binder.decodeText "a+b" = "a b" := by decide +kernel
  rw [twice] at text
  exact absurd text (by decide)

end BindManager

end Switchboard
