import Switchboard.Proofs.Bind.FormText

/-!
# One value of a form

A text that is one value of a form is read character by character: a plus sign is a space, an escape
is its byte, and every other character stands for itself, the separators of pairs included
(`Form.readValue`). The binder of text takes another way. It escapes the separators and reads the
first name of the form that it then has. Both give the same text (`Binder.decodeText_of_value`).
-/

namespace Switchboard

namespace Form

/-! ## Reading and writing a value -/

/-- The byte that two hexadecimal digits write. -/
def escape? (a b : Char) : Option UInt8 :=
  (Number.hexValue? a).bind fun high => (Number.hexValue? b).map fun low => .ofNat (high * 16 + low)

/-- The bytes that a value stands for. -/
def valueBytes : List Char → List UInt8
  | '%' :: a :: b :: rest =>
    match escape? a b with
    | some byte => byte :: valueBytes rest
    | none => String.utf8EncodeChar '%' ++ valueBytes (a :: b :: rest)
  | c :: rest => String.utf8EncodeChar (if c = '+' then ' ' else c) ++ valueBytes rest
  | [] => []

/-- Reads a text as one value of a form. -/
def readValue (raw : String) : String := String.ofList (Utf8.decodeList (valueBytes raw.toList))

/-- Writes a text as one value of a form. -/
def writeValue (v : String) : String :=
  String.ofList ((encodePart v).map fun b => Char.ofNat b.toNat)

/-! ## Escapes in characters and in bytes -/

theorem hexValue?_ofNat {c : Char} (hc : c.toNat ≤ 127) :
    hexValue? (.ofNat c.toNat) = (Number.hexValue? c).map .ofNat :=
  Utf8.forall_ascii (p := fun c b => hexValue? b = (Number.hexValue? c).map .ofNat)
    (by decide +kernel) hc

theorem isSome_hexValue? (c : Char) : (Number.hexValue? c).isSome = isHexDigit c := by
  by_cases ascii : c.toNat ≤ 127
  · exact Utf8.forall_ascii (p := fun c _ => (Number.hexValue? c).isSome = isHexDigit c)
      (by decide +kernel) ascii
  · have other : isHexDigit c = false := by
      rw [← Bool.not_eq_true]
      intro hex
      exact ascii (ascii_of_isHexDigit hex)
    rw [other]
    unfold Number.hexValue?
    simp only [Bool.and_eq_true, decide_eq_true_eq]
    rw [if_neg (by omega), if_neg (by omega), if_neg (by omega)]
    rfl

/-- Two characters are an escape just if both are hexadecimal digits. -/
theorem escape?_eq_none_iff {a b : Char} :
    escape? a b = none ↔ ¬ (isHexDigit a && isHexDigit b) = true := by
  rw [← isSome_hexValue?, ← isSome_hexValue?]
  unfold escape?
  cases Number.hexValue? a <;> cases Number.hexValue? b <;> simp

theorem isHexDigit_of_escape? {a b : Char} {byte : UInt8} (h : escape? a b = some byte) :
    isHexDigit a = true ∧ isHexDigit b = true := by
  rw [← Bool.and_eq_true]
  by_contra other
  rw [escape?_eq_none_iff.2 other] at h
  cases h

/-- An escape is read as its byte. -/
theorem percentDecode_of_escape? {a b : Char} {byte : UInt8} (h : escape? a b = some byte)
    (rest : List Char) :
    percentDecode (Utf8.encodeList ('%' :: a :: b :: rest)) =
      byte :: percentDecode (Utf8.encodeList rest) := by
  obtain ⟨hexA, hexB⟩ := isHexDigit_of_escape? h
  obtain ⟨high, ha, h⟩ := Option.bind_eq_some_iff.1 h
  obtain ⟨low, hb, rfl⟩ := Option.map_eq_some_iff.1 h
  have readA : hexValue? (.ofNat a.toNat) = some (.ofNat high) := by
    rw [hexValue?_ofNat (ascii_of_isHexDigit hexA), ha, Option.map_some]
  have readB : hexValue? (.ofNat b.toNat) = some (.ofNat low) := by
    rw [hexValue?_ofNat (ascii_of_isHexDigit hexB), hb, Option.map_some]
  rw [UInt8.ofNat_add, UInt8.ofNat_mul]
  exact percentDecode_encodeList_escape hexA hexB readA readB rest

/-! ## The two ways of reading -/

theorem unplusChar_of_isHexDigit {c : Char} (h : isHexDigit c = true) : unplusChar c = c := by
  unfold unplusChar
  rw [if_neg]
  rintro rfl
  exact absurd h (by decide)

theorem isHexDigit_unplusChar (c : Char) : isHexDigit (unplusChar c) = isHexDigit c := by
  unfold unplusChar
  split
  · next plus =>
    subst plus
    rfl
  · rfl

theorem eq_of_unplusChar_eq {c : Char} (h : unplusChar c = '%') : c = '%' := by
  unfold unplusChar at h
  split at h
  · cases h
  · exact h

/-- Reading the bytes of a value is reading its characters. -/
theorem percentDecode_eq_valueBytes (cs : List Char) :
    percentDecode ((Utf8.encodeList cs).map unplus) = valueBytes cs := by
  rw [map_unplus_encodeList]
  have percent : unplusChar '%' = '%' := rfl
  fun_induction valueBytes cs with
  | case1 a b rest byte h ih =>
    obtain ⟨hexA, hexB⟩ := isHexDigit_of_escape? h
    rw [List.map_cons, List.map_cons, List.map_cons, percent, unplusChar_of_isHexDigit hexA,
      unplusChar_of_isHexDigit hexB, percentDecode_of_escape? h, ih]
  | case2 a b rest h ih =>
    have other : ¬ (isHexDigit (unplusChar a) && isHexDigit (unplusChar b)) = true := by
      rw [isHexDigit_unplusChar, isHexDigit_unplusChar]
      exact escape?_eq_none_iff.1 h
    rw [List.map_cons, percent, percentDecode_encodeList_cons, ih]
    intro _
    exact not_beginsHex_pair other _
  | case3 c rest other ih =>
    rw [List.map_cons, percentDecode_encodeList_cons, ih]
    · rfl
    · intro mark
      apply not_beginsHex_short
      intro a b more short
      -- a mark with two characters behind it is in one of the cases above
      cases rest with
      | nil => cases short
      | cons a' rest =>
        cases rest with
        | nil => cases short
        | cons b' rest => exact other a' b' rest (eq_of_unplusChar_eq mark) rfl
  | case4 => exact percentDecode_nil

/-- Bytes and characters are read alike. -/
theorem decodePart_encodeList (raw : String) :
    decodePart (Utf8.encodeList raw.toList) = readValue raw := by
  rw [decodePart_eq, percentDecode_eq_valueBytes]
  rfl

/-- What was written as a value reads back. -/
theorem readValue_writeValue (v : String) : readValue (writeValue v) = v := by
  have ascii : ∀ b ∈ encodePart v, b.toNat ≤ 127 := by
    intro b hb
    obtain ⟨c, -, hc⟩ := List.mem_flatMap.1 hb
    exact ascii_of_mem_encodeByte hc
  rw [← decodePart_encodeList, writeValue, String.toList_ofList, encodeList_map_ofNat ascii,
    decodePart_encodePart]

end Form

/-- **The binder of text reads what it is given as one value of a form**, whatever it is, so what was
written as one reads back. -/
theorem Binder.decodeText_of_value :
    (∀ raw : String, decodeText raw = Form.readValue raw) ∧
      ∀ v : String, decodeText (Form.writeValue v) = v := by
  have same (raw : String) : decodeText raw = Form.readValue raw := by
    rw [decodeText_eq, Form.decodePart_encodeList]
  refine ⟨same, ?_⟩
  intro v
  rw [same, Form.readValue_writeValue]

/-- Escapes that separators cut short, a separator that was escaped, and a byte that is no text. -/
example : Binder.decodeText "%2&=%=4%3D+%C3" = "%2&=%=4= \uFFFD" := by decide +kernel

end Switchboard
