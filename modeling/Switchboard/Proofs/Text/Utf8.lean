import Switchboard.Text.Utf8
import Mathlib.Data.List.Basic

/-!
# Text and its bytes

What is written as UTF-8 reads back (`decodeList_encodeList`), whatever comes behind it: a character
is read off its own bytes alone (`decodeList_append`).

Reading never gains: a byte in front of others adds one character at most
(`length_decodeList_cons_le`). The bytes that a broken character takes with it continue characters,
and each of them would count for itself.
-/

namespace Switchboard.Utf8

/-! ## Bytes that continue a character -/

theorem toNat_tail (k : Nat) : (UInt8.ofNat (k % 64 + 128)).toNat = k % 64 + 128 := by
  rw [UInt8.toNat_ofNat']
  omega

theorem isTail_tail (k : Nat) : isTail (UInt8.ofNat (k % 64 + 128)) = true := by
  have hk : k % 64 < 64 := Nat.mod_lt k (by decide)
  have hb := toNat_tail k
  simp only [isTail, Bool.and_eq_true, decide_eq_true_eq, UInt8.le_iff_toNat_le, hb]
  constructor
  · show 128 ≤ _
    omega
  · show _ ≤ 191
    omega

theorem tailBits_tail (k : Nat) : tailBits (UInt8.ofNat (k % 64 + 128)) = k % 64 := by
  unfold tailBits
  rw [toNat_tail]
  omega

section Tails

variable (value seen : Nat) (low high : UInt8) (i j k : Nat) (rest : List UInt8)

theorem lastByte_tail :
    lastByte value seen (UInt8.ofNat (k % 64 + 128) :: rest) =
      .whole (value * 64 + k % 64) (seen + 1) := by
  rw [lastByte, if_pos (isTail_tail k), tailBits_tail]

variable {low high} in
theorem lastTwo_tail (hl : low.toNat ≤ j % 64 + 128) (hh : j % 64 + 128 ≤ high.toNat) :
    lastTwo value seen low high
        (UInt8.ofNat (j % 64 + 128) :: UInt8.ofNat (k % 64 + 128) :: rest) =
      .whole ((value * 64 + j % 64) * 64 + k % 64) (seen + 2) := by
  have between : (low ≤ UInt8.ofNat (j % 64 + 128) && UInt8.ofNat (j % 64 + 128) ≤ high) = true := by
    simp only [Bool.and_eq_true, decide_eq_true_eq, UInt8.le_iff_toNat_le, toNat_tail]
    exact ⟨hl, hh⟩
  rw [lastTwo, if_pos between, tailBits_tail, lastByte_tail]

variable {low high} in
theorem lastThree_tail (hl : low.toNat ≤ i % 64 + 128) (hh : i % 64 + 128 ≤ high.toNat) :
    lastThree value low high
        (UInt8.ofNat (i % 64 + 128) :: UInt8.ofNat (j % 64 + 128) ::
          UInt8.ofNat (k % 64 + 128) :: rest) =
      .whole (((value * 64 + i % 64) * 64 + j % 64) * 64 + k % 64) 3 := by
  have between : (low ≤ UInt8.ofNat (i % 64 + 128) && UInt8.ofNat (i % 64 + 128) ≤ high) = true := by
    simp only [Bool.and_eq_true, decide_eq_true_eq, UInt8.le_iff_toNat_le, toNat_tail]
    exact ⟨hl, hh⟩
  have hj : j % 64 < 64 := Nat.mod_lt j (by decide)
  rw [lastThree, if_pos between, tailBits_tail]
  exact lastTwo_tail _ _ j k rest (show 128 ≤ _ by omega) (show _ ≤ 191 by omega)

end Tails

/-! ## The head of a written character -/

section Head

variable (rest : List UInt8)

theorem head_eq (b : UInt8) :
    head b rest =
      if b.toNat < 128 then .whole b.toNat 0
      else if b.toNat < 194 then .broken 0
      else if b.toNat < 224 then lastByte (b.toNat % 32) 0 rest
      else if b.toNat = 224 then lastTwo 0 0 0xA0 0xBF rest
      else if b.toNat = 237 then lastTwo 13 0 0x80 0x9F rest
      else if b.toNat < 240 then lastTwo (b.toNat % 16) 0 0x80 0xBF rest
      else if b.toNat = 240 then lastThree 0 0x90 0xBF rest
      else if b.toNat < 244 then lastThree (b.toNat % 8) 0x80 0xBF rest
      else if b.toNat = 244 then lastThree 4 0x80 0x8F rest
      else .broken 0 := by
  simp only [head, UInt8.lt_iff_toNat_lt, beq_iff_eq, ← UInt8.toNat_inj]
  rfl

variable {n : Nat}

/-- A character of one byte. -/
theorem head_one (h : n ≤ 127) : head (UInt8.ofNat n) rest = .whole n 0 := by
  have hb : (UInt8.ofNat n).toNat = n := by
    rw [UInt8.toNat_ofNat']
    omega
  rw [head_eq, hb, if_pos (by omega)]

/-- A character of two bytes. -/
theorem head_two (hl : 127 < n) (hh : n ≤ 2047) :
    head (UInt8.ofNat (n / 64 % 32 + 192)) (UInt8.ofNat (n % 64 + 128) :: rest) = .whole n 1 := by
  have hb : (UInt8.ofNat (n / 64 % 32 + 192)).toNat = n / 64 + 192 := by
    rw [UInt8.toNat_ofNat']
    omega
  rw [head_eq, hb, if_neg (by omega), if_neg (by omega), if_pos (by omega), lastByte_tail]
  congr 1
  omega

/-- A character of three bytes, which is no half of a pair. -/
theorem head_three (hl : 2047 < n) (hh : n ≤ 65535) (hs : n < 0xD800 ∨ 0xDFFF < n) :
    head (UInt8.ofNat (n / 4096 % 16 + 224))
        (UInt8.ofNat (n / 64 % 64 + 128) :: UInt8.ofNat (n % 64 + 128) :: rest) = .whole n 2 := by
  have hb : (UInt8.ofNat (n / 4096 % 16 + 224)).toNat = n / 4096 + 224 := by
    rw [UInt8.toNat_ofNat']
    omega
  rw [head_eq, hb, if_neg (by omega), if_neg (by omega), if_neg (by omega)]
  by_cases first : n / 4096 + 224 = 224
  · rw [if_pos first, lastTwo_tail _ _ _ _ rest (show 160 ≤ _ by omega) (show _ ≤ 191 by omega)]
    congr 1
    omega
  · rw [if_neg first]
    by_cases surrogates : n / 4096 + 224 = 237
    · rw [if_pos surrogates,
        lastTwo_tail _ _ _ _ rest (show 128 ≤ _ by omega) (show _ ≤ 159 by omega)]
      congr 1
      omega
    · rw [if_neg surrogates, if_pos (by omega),
        lastTwo_tail _ _ _ _ rest (show 128 ≤ _ by omega) (show _ ≤ 191 by omega)]
      congr 1
      omega

/-- A character of four bytes. -/
theorem head_four (hl : 65535 < n) (hh : n < 0x110000) :
    head (UInt8.ofNat (n / 262144 % 8 + 240))
        (UInt8.ofNat (n / 4096 % 64 + 128) :: UInt8.ofNat (n / 64 % 64 + 128) ::
          UInt8.ofNat (n % 64 + 128) :: rest) = .whole n 3 := by
  have hb : (UInt8.ofNat (n / 262144 % 8 + 240)).toNat = n / 262144 + 240 := by
    rw [UInt8.toNat_ofNat']
    omega
  rw [head_eq, hb, if_neg (by omega), if_neg (by omega), if_neg (by omega), if_neg (by omega),
    if_neg (by omega), if_neg (by omega)]
  by_cases first : n / 262144 + 240 = 240
  · rw [if_pos first, lastThree_tail _ _ _ _ rest (show 144 ≤ _ by omega) (show _ ≤ 191 by omega)]
    congr 1
    omega
  · rw [if_neg first]
    by_cases inner : n / 262144 + 240 < 244
    · rw [if_pos inner, lastThree_tail _ _ _ _ rest (show 128 ≤ _ by omega) (show _ ≤ 191 by omega)]
      congr 1
      omega
    · rw [if_neg inner, if_pos (by omega),
        lastThree_tail _ _ _ _ rest (show 128 ≤ _ by omega) (show _ ≤ 143 by omega)]
      congr 1
      omega

end Head

/-- The head of a written character is the character. -/
theorem exists_head_utf8EncodeChar (c : Char) (rest : List UInt8) :
    ∃ b tails, String.utf8EncodeChar c = b :: tails ∧
      head b (tails ++ rest) = .whole c.toNat tails.length := by
  have hn : c.toNat < 0xD800 ∨ 0xDFFF < c.toNat ∧ c.toNat < 0x110000 := c.valid
  unfold String.utf8EncodeChar
  rw [show c.val.toNat = c.toNat from rfl]
  dsimp only
  by_cases one : c.toNat ≤ 127
  · rw [if_pos one]
    exact ⟨_, _, rfl, head_one _ one⟩
  · rw [if_neg one]
    by_cases two : c.toNat ≤ 2047
    · rw [if_pos two]
      exact ⟨_, _, rfl, head_two _ (by omega) two⟩
    · rw [if_neg two]
      by_cases three : c.toNat ≤ 65535
      · rw [if_pos three]
        exact ⟨_, _, rfl, head_three _ (by omega) three (by omega)⟩
      · rw [if_neg three]
        exact ⟨_, _, rfl, head_four _ (by omega) (by omega)⟩

/-! ## Characters of ASCII -/

theorem utf8EncodeChar_ascii {c : Char} (h : c.toNat ≤ 127) :
    String.utf8EncodeChar c = [UInt8.ofNat c.toNat] := by
  unfold String.utf8EncodeChar
  exact if_pos h

/-- No byte of another character is one of ASCII. -/
theorem high_of_mem_utf8EncodeChar {c : Char} (h : 127 < c.toNat) {b : UInt8}
    (hb : b ∈ String.utf8EncodeChar c) : 128 ≤ b.toNat := by
  unfold String.utf8EncodeChar at hb
  rw [show c.val.toNat = c.toNat from rfl] at hb
  dsimp only at hb
  rw [if_neg (by omega)] at hb
  split at hb
  · simp only [List.mem_cons, List.not_mem_nil, or_false] at hb
    rcases hb with rfl | rfl <;> rw [UInt8.toNat_ofNat'] <;> omega
  · split at hb
    · simp only [List.mem_cons, List.not_mem_nil, or_false] at hb
      rcases hb with rfl | rfl | rfl <;> rw [UInt8.toNat_ofNat'] <;> omega
    · simp only [List.mem_cons, List.not_mem_nil, or_false] at hb
      rcases hb with rfl | rfl | rfl | rfl <;> rw [UInt8.toNat_ofNat'] <;> omega

/-- What holds of the first 128 numbers holds of every byte of ASCII and its character. -/
theorem forall_ascii {p : Char → UInt8 → Prop}
    (h : ∀ n < 128, p (Char.ofNat n) (UInt8.ofNat n)) {c : Char} (hc : c.toNat ≤ 127) :
    p c (UInt8.ofNat c.toNat) := by
  have hp := h c.toNat (by omega)
  rwa [Char.ofNat_toNat] at hp

/-- Letters and digits without accents are of ASCII. -/
theorem ascii_of_isAlphanum {c : Char} (h : c.isAlphanum = true) : c.toNat ≤ 127 := by
  have code : c.toNat = c.val.toNat := rfl
  delta Char.isAlphanum Char.isAlpha Char.isUpper Char.isLower Char.isDigit at h
  simp only [Bool.or_eq_true, Bool.and_eq_true, decide_eq_true_eq, ge_iff_le,
    UInt32.le_iff_toNat_le] at h
  have upper : ('Z' : Char).val.toNat = 90 := rfl
  have lower : ('z' : Char).val.toNat = 122 := rfl
  have nine : ('9' : Char).val.toNat = 57 := rfl
  omega

/-! ## Reading back -/

@[simp] theorem decodeList_nil : decodeList [] = [] := by rw [decodeList]

/-- A written character is read off its own bytes. -/
theorem decodeList_utf8EncodeChar_append (c : Char) (rest : List UInt8) :
    decodeList (String.utf8EncodeChar c ++ rest) = c :: decodeList rest := by
  obtain ⟨b, tails, hc, hb⟩ := exists_head_utf8EncodeChar c rest
  rw [hc, List.cons_append, decodeList, hb]
  simp only [List.drop_left, Char.ofNat_toNat]

theorem encodeList_cons (c : Char) (cs : List Char) :
    encodeList (c :: cs) = String.utf8EncodeChar c ++ encodeList cs := List.flatMap_cons

/-- A byte of ASCII in front is the first character. -/
theorem exists_of_encodeList_eq_cons {cs : List Char} {b : UInt8} {bytes : List UInt8}
    (h : encodeList cs = b :: bytes) (hb : b.toNat ≤ 127) :
    ∃ c rest, cs = c :: rest ∧ c.toNat ≤ 127 ∧ UInt8.ofNat c.toNat = b ∧
      encodeList rest = bytes := by
  cases cs with
  | nil => cases h
  | cons c rest =>
    rw [encodeList_cons] at h
    by_cases ascii : c.toNat ≤ 127
    · rw [utf8EncodeChar_ascii ascii] at h
      obtain ⟨hc, hrest⟩ := List.cons.inj h
      exact ⟨c, rest, rfl, ascii, hc, hrest⟩
    · obtain ⟨first, tails, hc, -⟩ := exists_head_utf8EncodeChar c []
      have high := high_of_mem_utf8EncodeChar (c := c) (b := first) (by omega)
        (by rw [hc]; exact List.mem_cons_self)
      rw [hc] at h
      rw [(List.cons.inj h).1] at high
      omega

theorem encodeList_append (cs ds : List Char) :
    encodeList (cs ++ ds) = encodeList cs ++ encodeList ds := List.flatMap_append

/-- Written characters are read back, whatever follows. -/
theorem decodeList_append (cs : List Char) (rest : List UInt8) :
    decodeList (encodeList cs ++ rest) = cs ++ decodeList rest := by
  induction cs with
  | nil => rfl
  | cons c cs ih =>
    rw [encodeList_cons, List.append_assoc, decodeList_utf8EncodeChar_append, ih, List.cons_append]

/-- **What was written reads back.** -/
theorem decodeList_encodeList (cs : List Char) : decodeList (encodeList cs) = cs := by
  have h := decodeList_append cs []
  rwa [List.append_nil, decodeList_nil, List.append_nil] at h

/-- What was written is UTF-8 throughout. -/
theorem decodeList?_encodeList (cs : List Char) : decodeList? (encodeList cs) = some cs := by
  induction cs with
  | nil =>
    rw [encodeList, List.flatMap_nil, decodeList?]
  | cons c cs ih =>
    obtain ⟨b, tails, hc, hb⟩ := exists_head_utf8EncodeChar c (encodeList cs)
    rw [encodeList_cons, hc, List.cons_append, decodeList?, hb]
    simp only [List.drop_left, ih, Option.map_some, Char.ofNat_toNat]

/-- Bytes of ASCII are the text they read as. -/
theorem encodeList_decodeList {bytes : List UInt8} (ascii : ∀ b ∈ bytes, b.toNat ≤ 127) :
    encodeList (decodeList bytes) = bytes := by
  induction bytes with
  | nil =>
    rw [decodeList_nil]
    rfl
  | cons b bytes ih =>
    have small := ascii b List.mem_cons_self
    have whole : head b bytes = .whole b.toNat 0 := by
      have one := head_one bytes small
      rwa [UInt8.ofNat_toNat] at one
    have valid : b.toNat.isValidChar := Or.inl (by omega)
    have code : (Char.ofNat b.toNat).toNat = b.toNat := by
      unfold Char.ofNat
      rw [dif_pos valid]
      rfl
    rw [decodeList, whole]
    simp only [List.drop_zero]
    rw [encodeList_cons, utf8EncodeChar_ascii (by rw [code]; exact small), code,
      UInt8.ofNat_toNat, ih fun x hx => ascii x (List.mem_cons_of_mem _ hx), List.singleton_append]

theorem toList_toUTF8 (s : String) : s.toUTF8.data.toList = encodeList s.toList := by
  have h : s.toUTF8 = s.toList.utf8Encode := by
    conv_lhs => rw [← String.ofList_toList (s := s)]
    exact String.toByteArray_ofList
  rw [h]
  unfold List.utf8Encode encodeList
  rw [List.toList_data_toByteArray]

/-! ## No byte adds more than a character -/

/-- The bytes that a head takes beyond the first. -/
def Head.more : Head → Nat
  | whole _ more => more
  | broken more => more

/-- Of the bytes that a head takes beyond the first, `seen` came before `bs`; those in `bs` continue a
character. -/
def Head.TakesTails (h : Head) (seen : Nat) (bs : List UInt8) : Prop :=
  seen ≤ h.more ∧ ∀ x ∈ bs.take (h.more - seen), isTail x = true

theorem takesTails_broken (seen : Nat) (bs : List UInt8) :
    (Head.broken seen).TakesTails seen bs := by
  refine ⟨Nat.le_refl _, ?_⟩
  simp [Head.more]

theorem Head.TakesTails.cons {h : Head} {seen : Nat} {b : UInt8} {bs : List UInt8}
    (hb : isTail b = true) (rest : h.TakesTails (seen + 1) bs) : h.TakesTails seen (b :: bs) := by
  obtain ⟨le, tails⟩ := rest
  refine ⟨by omega, ?_⟩
  rw [show h.more - seen = (h.more - (seen + 1)) + 1 by omega, List.take_succ_cons]
  intro x hx
  rcases List.mem_cons.1 hx with rfl | hx
  · exact hb
  · exact tails x hx

theorem takesTails_lastByte (value seen : Nat) (bs : List UInt8) :
    (lastByte value seen bs).TakesTails seen bs := by
  cases bs with
  | nil => exact takesTails_broken seen []
  | cons b bs =>
    rw [lastByte]
    split
    · next hb =>
      refine Head.TakesTails.cons hb ⟨Nat.le_refl _, ?_⟩
      simp [Head.more]
    · exact takesTails_broken seen _

theorem isTail_of_between {low high b : UInt8} (hl : 0x80 ≤ low) (hh : high ≤ 0xBF)
    (h : (low ≤ b && b ≤ high) = true) : isTail b = true := by
  simp only [isTail, Bool.and_eq_true, decide_eq_true_eq] at h ⊢
  exact ⟨UInt8.le_trans hl h.1, UInt8.le_trans h.2 hh⟩

theorem takesTails_lastTwo (value seen : Nat) {low high : UInt8} (bs : List UInt8)
    (hl : 0x80 ≤ low) (hh : high ≤ 0xBF) :
    (lastTwo value seen low high bs).TakesTails seen bs := by
  cases bs with
  | nil => exact takesTails_broken seen []
  | cons b bs =>
    rw [lastTwo]
    split
    · next hb =>
      exact Head.TakesTails.cons (isTail_of_between hl hh hb) (takesTails_lastByte _ _ bs)
    · exact takesTails_broken seen _

theorem takesTails_lastThree (value : Nat) {low high : UInt8} (bs : List UInt8)
    (hl : 0x80 ≤ low) (hh : high ≤ 0xBF) :
    (lastThree value low high bs).TakesTails 0 bs := by
  cases bs with
  | nil => exact takesTails_broken 0 []
  | cons b bs =>
    rw [lastThree]
    split
    · next hb =>
      exact Head.TakesTails.cons (isTail_of_between hl hh hb)
        (takesTails_lastTwo _ _ bs (by decide) (by decide))
    · exact takesTails_broken 0 _

/-- A head takes none but bytes that continue a character. -/
theorem takesTails_head (b : UInt8) (bs : List UInt8) : (head b bs).TakesTails 0 bs := by
  rw [head]
  repeat' split
  · exact ⟨Nat.le_refl _, by simp [Head.more]⟩
  · exact takesTails_broken 0 bs
  · exact takesTails_lastByte _ _ bs
  · exact takesTails_lastTwo _ _ bs (by decide) (by decide)
  · exact takesTails_lastTwo _ _ bs (by decide) (by decide)
  · exact takesTails_lastTwo _ _ bs (by decide) (by decide)
  · exact takesTails_lastThree _ bs (by decide) (by decide)
  · exact takesTails_lastThree _ bs (by decide) (by decide)
  · exact takesTails_lastThree _ bs (by decide) (by decide)
  · exact takesTails_broken 0 bs

/-- A head and its tail are one character. -/
theorem length_decodeList_cons (b : UInt8) (bs : List UInt8) :
    (decodeList (b :: bs)).length = (decodeList (bs.drop (head b bs).more)).length + 1 := by
  rw [decodeList]
  cases head b bs <;> rfl

/-- A byte that continues a character counts for itself where it starts none. -/
theorem head_of_isTail {b : UInt8} (hb : isTail b = true) (bs : List UInt8) :
    head b bs = .broken 0 := by
  simp only [isTail, Bool.and_eq_true, decide_eq_true_eq, UInt8.le_iff_toNat_le] at hb
  have low : 128 ≤ b.toNat := hb.1
  have high : b.toNat ≤ 191 := hb.2
  rw [head_eq, if_neg (by omega), if_pos (by omega)]

/-- Bytes that continue a character may be left out without more characters. -/
theorem length_decodeList_drop_le (k : Nat) (bs : List UInt8)
    (tails : ∀ x ∈ bs.take k, isTail x = true) :
    (decodeList (bs.drop k)).length ≤ (decodeList bs).length := by
  induction k generalizing bs with
  | zero => exact Nat.le_refl _
  | succ k ih =>
    cases bs with
    | nil => exact Nat.le_refl _
    | cons b bs =>
      rw [List.take_succ_cons] at tails
      have rest := ih bs fun x hx => tails x (List.mem_cons_of_mem _ hx)
      have step := length_decodeList_cons b bs
      rw [head_of_isTail (tails b List.mem_cons_self)] at step
      simp only [Head.more, List.drop_zero] at step
      rw [List.drop_succ_cons, step]
      omega

/-- **A byte adds one character at most.** -/
theorem length_decodeList_cons_le (b : UInt8) (bs : List UInt8) :
    (decodeList (b :: bs)).length ≤ (decodeList bs).length + 1 := by
  have tails := (takesTails_head b bs).2
  rw [Nat.sub_zero] at tails
  rw [length_decodeList_cons]
  exact Nat.succ_le_succ (length_decodeList_drop_le _ bs tails)

end Switchboard.Utf8
