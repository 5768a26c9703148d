import Switchboard.Http.Header
import Switchboard.Proofs.Text.Utf8

/-!
# Headers that are set

A value of visible characters may stand on the wire as it is and is a text there, so it reads back
as it was set (`Headers.text?_setText`).
-/

namespace Switchboard.Headers

/-- A blank or a visible character of ASCII. -/
def isVisible (c : Char) : Bool := 32 ≤ c.toNat && c.toNat < 127

theorem ascii_of_isVisible {c : Char} (h : isVisible c = true) : c.toNat ≤ 127 := by
  simp only [isVisible, Bool.and_eq_true, decide_eq_true_eq] at h
  omega

theorem isVisible_of_isDigit {c : Char} (h : c.isDigit = true) : isVisible c = true := by
  rw [Char.isDigit_iff_toNat] at h
  change 48 ≤ c.toNat ∧ c.toNat ≤ 57 at h
  simp only [isVisible, Bool.and_eq_true, decide_eq_true_eq]
  omega

theorem isTextByte_of_isVisible {c : Char} (h : isVisible c = true) :
    isTextByte (UInt8.ofNat c.toNat) = true := by
  refine Utf8.forall_ascii (p := fun c b => isVisible c = true → isTextByte b = true) ?_
    (ascii_of_isVisible h) h
  decide

theorem isValueByte_of_isTextByte {b : UInt8} (h : isTextByte b = true) : isValueByte b = true := by
  unfold isTextByte at h
  unfold isValueByte
  simp only [Bool.or_eq_true, Bool.and_eq_true, beq_iff_eq, decide_eq_true_eq, bne_iff_ne] at h ⊢
  refine h.imp_right fun ⟨low, high⟩ => ⟨low, fun delete => ?_⟩
  rw [delete] at high
  exact absurd high (by decide)

variable {name kept value : String}

theorem isTextByte_of_mem_toUTF8 (visible : value.toList.all isVisible = true) {b : UInt8}
    (hb : b ∈ value.toUTF8.data.toList) : isTextByte b = true := by
  rw [Utf8.toList_toUTF8, Utf8.encodeList, List.mem_flatMap] at hb
  obtain ⟨c, hc, hb⟩ := hb
  have hv := List.all_eq_true.1 visible c hc
  rw [Utf8.utf8EncodeChar_ascii (ascii_of_isVisible hv), List.mem_singleton] at hb
  rw [hb]
  exact isTextByte_of_isVisible hv

/-- A text of visible characters is the value of a header. -/
theorem isValue_toUTF8 (visible : value.toList.all isVisible = true) :
    isValue value.toUTF8 = true := by
  unfold isValue
  rw [← Array.all_toList, List.all_eq_true]
  exact fun b hb => isValueByte_of_isTextByte (isTextByte_of_mem_toUTF8 visible hb)

/-- A text of visible characters is read back from its bytes. -/
theorem valueText?_toUTF8 (visible : value.toList.all isVisible = true) :
    valueText? value.toUTF8 = some value := by
  have text : value.toUTF8.data.all isTextByte = true := by
    rw [← Array.all_toList, List.all_eq_true]
    exact fun b hb => isTextByte_of_mem_toUTF8 visible hb
  unfold valueText? Utf8.decode
  rw [if_pos text, Utf8.toList_toUTF8, Utf8.decodeList_encodeList, String.ofList_toList]

/-- A value that is set is the only one of its name: those before it are gone. -/
theorem values_set (hn : name? name = some kept) {bytes : ByteArray} (hb : isValue bytes = true)
    (h : Headers) : (h.set name bytes).values kept = [bytes] := by
  have gone : (h.fields.filter (·.1 != kept)).filter (·.1 == kept) = [] := by
    rw [List.filter_eq_nil_iff]
    intro field hf
    have other := List.of_mem_filter hf
    simpa using other
  unfold set values
  rw [hn]
  simp only [hb, ↓reduceIte, List.filter_append, gone]
  simp

/-- A header that was set is read as it was set. -/
theorem get?_set (hn : name? name = some kept) {bytes : ByteArray} (hb : isValue bytes = true)
    (h : Headers) : (h.set name bytes).get? kept = some bytes := by
  unfold get?
  rw [values_set hn hb]
  rfl

/-- A value that is set leaves those of other names alone. -/
theorem values_set_of_ne {other : String} (hn : name? name = some kept) (ne : other ≠ kept)
    (bytes : ByteArray) (h : Headers) : (h.set name bytes).values other = h.values other := by
  have others : (h.fields.filter (·.1 != kept)).filter (·.1 == other) =
      h.fields.filter (·.1 == other) := by
    rw [List.filter_filter]
    refine List.filter_congr fun field _ => ?_
    by_cases same : field.1 = other <;> simp [same, ne]
  unfold set values
  rw [hn]
  by_cases hb : isValue bytes = true
  · simp [hb, others, ne.symm]
  · simp [hb]

theorem text?_setText_of_ne {other : String} (hn : name? name = some kept) (ne : other ≠ kept)
    (h : Headers) : (h.setText name value).text? other = h.text? other := by
  unfold setText text? get?
  rw [values_set_of_ne hn ne]

/-- Where there was no value, there is no other than the one that is set. -/
theorem eq_of_get?_set (hn : name? name = some kept) {h : Headers} (none : h.get? kept = none)
    {bytes found : ByteArray} (hf : (h.set name bytes).get? kept = some found) : found = bytes := by
  by_cases hb : isValue bytes = true
  · rw [get?_set hn hb, Option.some.injEq] at hf
    exact hf.symm
  · unfold set at hf
    rw [hn] at hf
    simp [hb, none] at hf

theorem isValue_toUTF8_iff {s : String} :
    isValue s.toUTF8 = true ↔ ∀ b ∈ Utf8.encodeList s.toList, isValueByte b = true := by
  unfold isValue
  rw [← Array.all_toList, List.all_eq_true, Utf8.toList_toUTF8]

/-- A text may stand in a header if its parts may. -/
theorem isValue_toUTF8_append {s t : String} :
    isValue (s ++ t).toUTF8 = true ↔ isValue s.toUTF8 = true ∧ isValue t.toUTF8 = true := by
  rw [isValue_toUTF8_iff, isValue_toUTF8_iff, isValue_toUTF8_iff, String.toList_append,
    Utf8.encodeList_append]
  exact List.forall_mem_append

/-- What is read as text may stand in a header again. -/
theorem isValue_of_valueText? {bytes : ByteArray} {s : String} (h : valueText? bytes = some s) :
    isValue s.toUTF8 = true := by
  unfold valueText? at h
  split at h
  · next text =>
    cases h
    rw [← Array.all_toList, List.all_eq_true] at text
    have ascii : ∀ b ∈ bytes.data.toList, b.toNat ≤ 127 := by
      intro b hb
      have visible := text b hb
      simp only [isTextByte, Bool.or_eq_true, Bool.and_eq_true, beq_iff_eq, decide_eq_true_eq,
        UInt8.le_iff_toNat_le, UInt8.lt_iff_toNat_lt] at visible
      rcases visible with rfl | ⟨-, high⟩
      · decide
      · exact Nat.le_of_lt high
    rw [isValue_toUTF8_iff]
    unfold Utf8.decode
    rw [String.toList_ofList, Utf8.encodeList_decodeList ascii]
    exact fun b hb => isValueByte_of_isTextByte (text b hb)
  · cases h

/-- **A visible text that is set reads back.** -/
theorem text?_setText (hn : name? name = some kept) (visible : value.toList.all isVisible = true)
    (h : Headers) : (h.setText name value).text? kept = some value := by
  unfold setText text?
  rw [get?_set hn (isValue_toUTF8 visible)]
  exact valueText?_toUTF8 visible

end Switchboard.Headers
