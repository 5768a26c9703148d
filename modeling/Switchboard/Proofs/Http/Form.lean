import Switchboard.Http.Form
import Switchboard.Proofs.Text.Split
import Switchboard.Proofs.Text.Utf8
import Mathlib.Data.List.TakeWhile

/-!
# Forms read back

What is written as a form reads back (`parseBytes_encode`): a byte of a name or value is read off
what it was written as, and no name or value holds a separator.

A text that was not written as a form is read as one, too. `decodePart_encodeList_eq_iff` says which
texts stay as they are: those without `+` and without an escape.
-/

namespace Switchboard.Form

/-- What a byte of a form stands for before escapes are read. -/
def unplus (b : UInt8) : UInt8 := if b == 43 then 32 else b

theorem decodePart_eq (bytes : List UInt8) :
    decodePart bytes = String.ofList (Utf8.decodeList (percentDecode (bytes.map unplus))) := rfl

/-! ## Bytes -/

/-- What holds of the first 256 numbers holds of every byte. -/
theorem forall_byte {p : UInt8 → Prop} (h : ∀ n < 256, p (UInt8.ofNat n)) (b : UInt8) : p b := by
  have hb := h b.toNat b.toNat_lt
  rwa [UInt8.ofNat_toNat] at hb

theorem hexValue?_high (b : UInt8) : hexValue? (hexByte (b / 16)) = some (b / 16) :=
  forall_byte (p := fun b => hexValue? (hexByte (b / 16)) = some (b / 16)) (by decide +kernel) b

theorem hexValue?_low (b : UInt8) : hexValue? (hexByte (b % 16)) = some (b % 16) :=
  forall_byte (p := fun b => hexValue? (hexByte (b % 16)) = some (b % 16)) (by decide +kernel) b

theorem high_low (b : UInt8) : b / 16 * 16 + b % 16 = b :=
  forall_byte (p := fun b => b / 16 * 16 + b % 16 = b) (by decide +kernel) b

/-- Neither a separator nor a mark of a form. -/
def IsQuiet (b : UInt8) : Prop := b ≠ 37 ∧ b ≠ 38 ∧ b ≠ 43 ∧ b ≠ 61

instance (b : UInt8) : Decidable (IsQuiet b) := inferInstanceAs (Decidable (_ ∧ _))

/-- What is written as it is has no meaning of its own in a form. -/
theorem isQuiet_of_isPlain {b : UInt8} (h : isPlain b = true) : IsQuiet b :=
  forall_byte (p := fun b => isPlain b = true → IsQuiet b) (by decide +kernel) b h

theorem isQuiet_of_hexValue? {b : UInt8} (h : (hexValue? b).isSome) : IsQuiet b :=
  forall_byte (p := fun b => (hexValue? b).isSome → IsQuiet b) (by decide +kernel) b h

theorem isQuiet_high (b : UInt8) : IsQuiet (hexByte (b / 16)) :=
  isQuiet_of_hexValue? (by rw [hexValue?_high]; rfl)

theorem isQuiet_low (b : UInt8) : IsQuiet (hexByte (b % 16)) :=
  isQuiet_of_hexValue? (by rw [hexValue?_low]; rfl)

theorem unplus_of_isQuiet {b : UInt8} (h : IsQuiet b) : unplus b = b :=
  if_neg (by simpa using h.2.2.1)

/-! ## Escapes -/

/-- Do the bytes begin with two hexadecimal digits? -/
def BeginsHex (bytes : List UInt8) : Prop :=
  ∃ a b rest, bytes = a :: b :: rest ∧ (hexValue? a).isSome ∧ (hexValue? b).isSome

theorem percentDecode_nil : percentDecode [] = [] := by rw [percentDecode]

theorem percentDecode_cons {c : UInt8} (hc : c ≠ 37) (rest : List UInt8) :
    percentDecode (c :: rest) = c :: percentDecode rest := by
  rw [percentDecode]
  rintro a b more rfl
  exact absurd rfl hc

/-- Two hexadecimal digits behind a percent sign are a byte. -/
theorem percentDecode_escape {a b x y : UInt8} (ha : hexValue? a = some x)
    (hb : hexValue? b = some y) (rest : List UInt8) :
    percentDecode (37 :: a :: b :: rest) = (x * 16 + y) :: percentDecode rest := by
  rw [percentDecode, ha, hb]

/-- A percent sign without two of them stands for itself. -/
theorem percentDecode_lone {bytes : List UInt8} (h : ¬ BeginsHex bytes) :
    percentDecode (37 :: bytes) = 37 :: percentDecode bytes := by
  match bytes with
  | [] => rw [percentDecode]; simp
  | [a] => rw [percentDecode]; simp
  | a :: b :: rest =>
    rw [percentDecode]
    split
    · next x y ha hb => exact absurd ⟨a, b, rest, rfl, by rw [ha]; rfl, by rw [hb]; rfl⟩ h
    · rfl

/-- What has no percent sign is read as it is. -/
theorem percentDecode_append {bytes : List UInt8} (h : ∀ b ∈ bytes, b ≠ 37) (rest : List UInt8) :
    percentDecode (bytes ++ rest) = bytes ++ percentDecode rest := by
  induction bytes with
  | nil => rfl
  | cons b bytes ih =>
    rw [List.cons_append, percentDecode_cons (h b List.mem_cons_self),
      ih fun c hc => h c (List.mem_cons_of_mem _ hc), List.cons_append]

/-- Bytes as they may be written with escapes: each for itself, if it is no `%`, or as an escape. -/
inductive Escaped : List UInt8 → List UInt8 → Prop
  | nil : Escaped [] []
  | plain {b : UInt8} {written bytes : List UInt8} (other : b ≠ 37)
      (rest : Escaped written bytes) : Escaped (b :: written) (b :: bytes)
  | escape {a b high low : UInt8} {written bytes : List UInt8} (ha : hexValue? a = some high)
      (hb : hexValue? b = some low) (rest : Escaped written bytes) :
      Escaped (37 :: a :: b :: written) ((high * 16 + low) :: bytes)

/-- Whichever bytes were escaped, they read back. -/
theorem Escaped.percentDecode_eq {written bytes : List UInt8} (h : Escaped written bytes) :
    percentDecode written = bytes := by
  induction h with
  | nil => exact percentDecode_nil
  | plain other _ ih => rw [percentDecode_cons other, ih]
  | escape ha hb _ ih => rw [percentDecode_escape ha hb, ih]

/-! ## One name or value -/

/-- A byte is read off what it was written as. -/
theorem percentDecode_encodeByte (b : UInt8) (rest : List UInt8) :
    percentDecode ((encodeByte b).map unplus ++ rest) = b :: percentDecode rest := by
  unfold encodeByte
  by_cases plain : isPlain b = true
  · have quiet := isQuiet_of_isPlain plain
    rw [if_pos plain, List.map_singleton, unplus_of_isQuiet quiet]
    exact percentDecode_cons quiet.1 rest
  · rw [if_neg plain]
    by_cases space : b = 32
    · subst space
      exact percentDecode_cons (by decide) rest
    · rw [if_neg (by simpa using space)]
      simp only [List.map_cons, List.map_nil, unplus_of_isQuiet (isQuiet_high b),
        unplus_of_isQuiet (isQuiet_low b)]
      have mark : unplus 37 = 37 := by decide
      rw [mark, List.cons_append, List.cons_append, List.cons_append, List.nil_append,
        percentDecode_escape (hexValue?_high b) (hexValue?_low b), high_low]

/-- Bytes that were written are read back. -/
theorem percentDecode_flatMap_encodeByte (bytes : List UInt8) :
    percentDecode ((bytes.flatMap encodeByte).map unplus) = bytes := by
  induction bytes with
  | nil => exact percentDecode_nil
  | cons b bytes ih => rw [List.flatMap_cons, List.map_append, percentDecode_encodeByte, ih]

/-- A name or a value that was written is read back. -/
theorem decodePart_encodePart (s : String) : decodePart (encodePart s) = s := by
  unfold encodePart
  rw [decodePart_eq, percentDecode_flatMap_encodeByte, Utf8.decodeList_encodeList,
    String.ofList_toList]

/-- No name or value holds a separator. -/
theorem ne_separator_of_mem_encodePart {s : String} {b : UInt8} (h : b ∈ encodePart s) :
    b ≠ 38 ∧ b ≠ 61 := by
  obtain ⟨c, -, hc⟩ := List.mem_flatMap.1 h
  unfold encodeByte at hc
  split at hc
  · next plain =>
    have quiet := isQuiet_of_isPlain plain
    rw [List.mem_singleton.1 hc]
    exact ⟨quiet.2.1, quiet.2.2.2⟩
  · split at hc
    · rw [List.mem_singleton.1 hc]
      decide
    · simp only [List.mem_cons, List.not_mem_nil, or_false] at hc
      rcases hc with rfl | rfl | rfl
      · decide
      · exact ⟨(isQuiet_high c).2.1, (isQuiet_high c).2.2.2⟩
      · exact ⟨(isQuiet_low c).2.1, (isQuiet_low c).2.2.2⟩

/-! ## Pairs -/

/-- What stands between the separators of a form. -/
def encodePair (pair : String × String) : List UInt8 :=
  encodePart pair.1 ++ 61 :: encodePart pair.2

theorem splitPair_append {name : List UInt8} (h : 61 ∉ name) (value : List UInt8) :
    splitPair (name ++ 61 :: value) = (name, value) := by
  have other : ∀ b ∈ name, (b != 61) = true := by
    intro b hb
    simp only [bne_iff_ne]
    rintro rfl
    exact h hb
  unfold splitPair
  rw [List.takeWhile_append_of_pos other, List.dropWhile_append_of_pos other]
  simp

theorem splitPair_of_notMem {bytes : List UInt8} (h : 61 ∉ bytes) :
    splitPair bytes = (bytes, []) := by
  have other : ∀ b ∈ bytes, (b != 61) = true := by
    intro b hb
    simp only [bne_iff_ne]
    rintro rfl
    exact h hb
  unfold splitPair
  rw [List.takeWhile_eq_self_iff.2 other, List.dropWhile_eq_nil_iff.2 other]
  rfl

theorem ampersand_notMem_encodePair (pair : String × String) : 38 ∉ encodePair pair := by
  intro h
  rcases List.mem_append.1 h with h | h
  · exact (ne_separator_of_mem_encodePart h).1 rfl
  · rcases List.mem_cons.1 h with h | h
    · exact absurd h (by decide)
    · exact (ne_separator_of_mem_encodePart h).1 rfl

/-- A written pair is split where its two parts were joined. -/
theorem splitPair_encodePair (pair : String × String) :
    splitPair (encodePair pair) = (encodePart pair.1, encodePart pair.2) :=
  splitPair_append (fun h => (ne_separator_of_mem_encodePart h).2 rfl) _

theorem parseBytes_parts {parts : List (List UInt8)} (hn : parts ≠ []) (hs : ∀ p ∈ parts, 38 ∉ p)
    (he : ∀ p ∈ parts, p ≠ []) :
    parseBytes (List.intercalate [38] parts) =
      parts.map fun p => (decodePart (splitPair p).1, decodePart (splitPair p).2) := by
  unfold parseBytes
  rw [List.splitOn_intercalate 38 hs hn, List.filter_eq_self.2 (by simpa using he)]

/-- **What was written as a form reads back.** -/
theorem parseBytes_encode (pairs : List (String × String)) : parseBytes (encode pairs) = pairs := by
  have he : encode pairs = List.intercalate [38] (pairs.map encodePair) := rfl
  by_cases hn : pairs = []
  · subst hn
    rfl
  · rw [he, parseBytes_parts (by simpa using hn)]
    · rw [List.map_map]
      refine (List.map_congr_left fun pair _ => ?_).trans (List.map_id pairs)
      simp only [Function.comp_apply, splitPair_encodePair, decodePart_encodePart]
      rfl
    · intro p hp
      obtain ⟨pair, -, rfl⟩ := List.mem_map.1 hp
      exact ampersand_notMem_encodePair pair
    · intro p hp
      obtain ⟨pair, -, rfl⟩ := List.mem_map.1 hp
      simp [encodePair]

/-! ## A form as text -/

/-- A form as it stands in a target. -/
def text (pairs : List (String × String)) : String :=
  String.ofList ((encode pairs).map fun b => Char.ofNat b.toNat)

/-- A form as it stands in a body. -/
def bytes (pairs : List (String × String)) : ByteArray := ⟨(encode pairs).toArray⟩

theorem ascii_of_mem_encodeByte {b x : UInt8} (h : x ∈ encodeByte b) : x.toNat ≤ 127 := by
  have hall : (encodeByte b).all (·.toNat ≤ 127) = true :=
    forall_byte (p := fun b => (encodeByte b).all (·.toNat ≤ 127) = true) (by decide +kernel) b
  exact of_decide_eq_true (List.all_eq_true.1 hall x h)

theorem ascii_of_mem_encodePair {pair : String × String} {x : UInt8} (h : x ∈ encodePair pair) :
    x.toNat ≤ 127 := by
  have part : ∀ s : String, x ∈ encodePart s → x.toNat ≤ 127 := by
    intro s hs
    obtain ⟨b, -, hb⟩ := List.mem_flatMap.1 hs
    exact ascii_of_mem_encodeByte hb
  rcases List.mem_append.1 h with h | h
  · exact part _ h
  · rcases List.mem_cons.1 h with rfl | h
    · decide
    · exact part _ h

theorem ascii_of_mem_encode {pairs : List (String × String)} {x : UInt8} (h : x ∈ encode pairs) :
    x.toNat ≤ 127 := by
  have joined : x ∈ List.intercalate [38] (pairs.map encodePair) := h
  obtain rfl | ⟨part, there, hx⟩ := Text.mem_intercalate joined
  · decide
  · obtain ⟨pair, -, rfl⟩ := List.mem_map.1 there
    exact ascii_of_mem_encodePair hx

theorem encodeList_map_ofNat {bytes : List UInt8} (ascii : ∀ b ∈ bytes, b.toNat ≤ 127) :
    Utf8.encodeList (bytes.map fun b => Char.ofNat b.toNat) = bytes := by
  have one : ∀ b : UInt8, b.toNat ≤ 127 → String.utf8EncodeChar (Char.ofNat b.toNat) = [b] :=
    forall_byte (p := fun b => b.toNat ≤ 127 → String.utf8EncodeChar (Char.ofNat b.toNat) = [b])
      (by decide +kernel)
  rw [Utf8.encodeList, List.flatMap_map, List.flatMap_congr fun b hb => one b (ascii b hb),
    List.flatMap_singleton']

/-- The text of a form has the bytes of the form. -/
theorem toUTF8_text (pairs : List (String × String)) :
    (text pairs).toUTF8.data.toList = encode pairs := by
  rw [Utf8.toList_toUTF8, text, String.toList_ofList,
    encodeList_map_ofNat fun b hb => ascii_of_mem_encode hb]

/-- Pairs that were written as a text are read back. -/
theorem parse_text (pairs : List (String × String)) : parse (text pairs).toUTF8 = pairs := by
  rw [parse, toUTF8_text, parseBytes_encode]

/-- Pairs that were written as bytes are read back. -/
theorem parse_bytes (pairs : List (String × String)) : parse (bytes pairs) = pairs :=
  parseBytes_encode pairs

/-! ## Texts that were not written as a form -/

/-- A hexadecimal digit. -/
def isHexDigit (c : Char) : Bool :=
  ('0' ≤ c && c ≤ '9') || ('A' ≤ c && c ≤ 'F') || ('a' ≤ c && c ≤ 'f')

/-- The number of escapes in a text: each a `%` with two hexadecimal digits behind it. -/
def escapes : List Char → Nat
  | '%' :: a :: b :: rest =>
    if isHexDigit a && isHexDigit b then escapes rest + 1 else escapes (a :: b :: rest)
  | _ :: rest => escapes rest
  | [] => 0

/-- What a character stands for before escapes are read. -/
def unplusChar (c : Char) : Char := if c = '+' then ' ' else c

theorem ascii_of_isHexDigit {c : Char} (h : isHexDigit c = true) : c.toNat ≤ 127 := by
  simp only [isHexDigit, Bool.or_eq_true, Bool.and_eq_true, decide_eq_true_eq, Char.le_def,
    UInt32.le_iff_toNat_le] at h
  have zero : ('9' : Char).val.toNat = 57 := rfl
  have upper : ('F' : Char).val.toNat = 70 := rfl
  have lower : ('f' : Char).val.toNat = 102 := rfl
  have code : c.toNat = c.val.toNat := rfl
  omega

theorem isSome_hexValue?_ofNat {c : Char} (hc : c.toNat ≤ 127) :
    (hexValue? (UInt8.ofNat c.toNat)).isSome = isHexDigit c :=
  Utf8.forall_ascii (p := fun c b => (hexValue? b).isSome = isHexDigit c) (by decide +kernel) hc

theorem ascii_of_hexValue? {b : UInt8} (h : (hexValue? b).isSome) : b.toNat ≤ 127 :=
  forall_byte (p := fun b => (hexValue? b).isSome → b.toNat ≤ 127) (by decide +kernel) b h

/-- Two hexadecimal digits are two characters of that kind. -/
theorem beginsHex_encodeList_iff (cs : List Char) :
    BeginsHex (Utf8.encodeList cs) ↔
      ∃ a b rest, cs = a :: b :: rest ∧ isHexDigit a = true ∧ isHexDigit b = true := by
  constructor
  · rintro ⟨x, y, bytes, hcs, hx, hy⟩
    obtain ⟨a, more, rfl, ha, rfl, hmore⟩ :=
      Utf8.exists_of_encodeList_eq_cons hcs (ascii_of_hexValue? hx)
    obtain ⟨b, rest, rfl, hb, rfl, -⟩ :=
      Utf8.exists_of_encodeList_eq_cons hmore (ascii_of_hexValue? hy)
    rw [isSome_hexValue?_ofNat ha] at hx
    rw [isSome_hexValue?_ofNat hb] at hy
    exact ⟨a, b, rest, rfl, hx, hy⟩
  · rintro ⟨a, b, rest, rfl, ha, hb⟩
    have asciiA := ascii_of_isHexDigit ha
    have asciiB := ascii_of_isHexDigit hb
    refine ⟨UInt8.ofNat a.toNat, UInt8.ofNat b.toNat, Utf8.encodeList rest, ?_, ?_, ?_⟩
    · rw [Utf8.encodeList_cons, Utf8.encodeList_cons, Utf8.utf8EncodeChar_ascii asciiA,
        Utf8.utf8EncodeChar_ascii asciiB]
      rfl
    · rw [isSome_hexValue?_ofNat asciiA, ha]
    · rw [isSome_hexValue?_ofNat asciiB, hb]

theorem map_unplus_utf8EncodeChar (c : Char) :
    (String.utf8EncodeChar c).map unplus = String.utf8EncodeChar (unplusChar c) := by
  by_cases ascii : c.toNat ≤ 127
  · have plus : unplusChar c = if UInt8.ofNat c.toNat = 43 then ' ' else c :=
      Utf8.forall_ascii (p := fun c b => unplusChar c = if b = 43 then ' ' else c)
        (by decide +kernel) ascii
    rw [Utf8.utf8EncodeChar_ascii ascii, plus, List.map_singleton]
    unfold unplus
    by_cases h : UInt8.ofNat c.toNat = 43
    · rw [if_pos h, if_pos (by simpa using h)]
      rfl
    · rw [if_neg h, if_neg (by simpa using h), Utf8.utf8EncodeChar_ascii ascii]
  · have plus : unplusChar c = c := if_neg (by rintro rfl; exact ascii (by decide))
    have same : ∀ b ∈ String.utf8EncodeChar c, unplus b = b := by
      intro b hb
      have high := Utf8.high_of_mem_utf8EncodeChar (by omega) hb
      refine if_neg ?_
      simp only [beq_iff_eq]
      rintro rfl
      exact absurd high (by decide)
    rw [plus]
    exact (List.map_congr_left same).trans (List.map_id _)

/-- A plus sign is read as a blank, in bytes as in characters. -/
theorem map_unplus_encodeList (cs : List Char) :
    (Utf8.encodeList cs).map unplus = Utf8.encodeList (cs.map unplusChar) := by
  induction cs with
  | nil => rfl
  | cons c cs ih =>
    rw [Utf8.encodeList_cons, List.map_append, map_unplus_utf8EncodeChar, ih, List.map_cons,
      Utf8.encodeList_cons]

theorem percent_notMem_utf8EncodeChar {c : Char} (h : c ≠ '%') :
    ∀ b ∈ String.utf8EncodeChar c, b ≠ 37 := by
  intro b hb
  by_cases ascii : c.toNat ≤ 127
  · rw [Utf8.utf8EncodeChar_ascii ascii, List.mem_singleton] at hb
    rw [hb]
    exact Utf8.forall_ascii (p := fun c b => c ≠ '%' → b ≠ 37) (by decide +kernel) ascii h
  · have high := Utf8.high_of_mem_utf8EncodeChar (by omega) hb
    rintro rfl
    exact absurd high (by decide)

/-- What the bytes of a character in front read as, unless an escape begins with it. -/
theorem percentDecode_encodeList_cons {c : Char} {rest : List Char}
    (h : c = '%' → ¬ BeginsHex (Utf8.encodeList rest)) :
    percentDecode (Utf8.encodeList (c :: rest)) =
      String.utf8EncodeChar c ++ percentDecode (Utf8.encodeList rest) := by
  rw [Utf8.encodeList_cons]
  by_cases hc : c = '%'
  · subst hc
    exact percentDecode_lone (h rfl)
  · exact percentDecode_append (percent_notMem_utf8EncodeChar hc) _

/-- An escape reads as one byte. -/
theorem percentDecode_encodeList_escape {a b : Char} {x y : UInt8} (ha : isHexDigit a = true)
    (hb : isHexDigit b = true) (hx : hexValue? (.ofNat a.toNat) = some x)
    (hy : hexValue? (.ofNat b.toNat) = some y) (rest : List Char) :
    percentDecode (Utf8.encodeList ('%' :: a :: b :: rest)) =
      (x * 16 + y) :: percentDecode (Utf8.encodeList rest) := by
  rw [Utf8.encodeList_cons, Utf8.encodeList_cons, Utf8.encodeList_cons,
    Utf8.utf8EncodeChar_ascii (ascii_of_isHexDigit ha),
    Utf8.utf8EncodeChar_ascii (ascii_of_isHexDigit hb)]
  exact percentDecode_escape hx hy _

theorem exists_percentDecode_encodeList_escape {a b : Char} (ha : isHexDigit a = true)
    (hb : isHexDigit b = true) (rest : List Char) :
    ∃ x, percentDecode (Utf8.encodeList ('%' :: a :: b :: rest)) =
      x :: percentDecode (Utf8.encodeList rest) := by
  have readA := (isSome_hexValue?_ofNat (ascii_of_isHexDigit ha)).trans ha
  have readB := (isSome_hexValue?_ofNat (ascii_of_isHexDigit hb)).trans hb
  obtain ⟨x, hx⟩ := Option.isSome_iff_exists.1 readA
  obtain ⟨y, hy⟩ := Option.isSome_iff_exists.1 readB
  exact ⟨x * 16 + y, percentDecode_encodeList_escape ha hb hx hy rest⟩

theorem not_beginsHex_pair {a b : Char} (h : ¬ (isHexDigit a && isHexDigit b) = true)
    (rest : List Char) : ¬ BeginsHex (Utf8.encodeList (a :: b :: rest)) := by
  rw [beginsHex_encodeList_iff]
  rintro ⟨a', b', rest', he, ha, hb⟩
  cases he
  rw [ha, hb] at h
  exact h rfl

theorem not_beginsHex_short {rest : List Char} (h : ∀ a b more, rest ≠ a :: b :: more) :
    ¬ BeginsHex (Utf8.encodeList rest) := by
  rw [beginsHex_encodeList_iff]
  rintro ⟨a, b, more, he, -, -⟩
  exact h a b more he

/-- Each escape costs two characters of the text at least. -/
theorem length_decode_add_escapes_le (cs : List Char) :
    (Utf8.decodeList (percentDecode (Utf8.encodeList cs))).length + 2 * escapes cs ≤ cs.length := by
  fun_induction escapes cs with
  | case1 a b rest hex ih =>
    rw [Bool.and_eq_true] at hex
    obtain ⟨x, hx⟩ := exists_percentDecode_encodeList_escape hex.1 hex.2 rest
    have step := Utf8.length_decodeList_cons_le x (percentDecode (Utf8.encodeList rest))
    rw [hx]
    simp only [List.length_cons]
    omega
  | case2 a b rest hex ih =>
    rw [percentDecode_encodeList_cons fun _ => not_beginsHex_pair hex rest,
      Utf8.decodeList_utf8EncodeChar_append]
    simp only [List.length_cons] at ih ⊢
    omega
  | case3 c rest other ih =>
    rw [percentDecode_encodeList_cons fun hc => not_beginsHex_short fun a b more =>
      other a b more hc, Utf8.decodeList_utf8EncodeChar_append]
    simp only [List.length_cons]
    omega
  | case4 =>
    rw [Utf8.encodeList, List.flatMap_nil, percentDecode_nil, Utf8.decodeList_nil]
    exact Nat.le_refl _

/-- A text without escapes is read as it is. -/
theorem percentDecode_encodeList {cs : List Char} (h : escapes cs = 0) :
    percentDecode (Utf8.encodeList cs) = Utf8.encodeList cs := by
  fun_induction escapes cs with
  | case1 a b rest hex ih => cases h
  | case2 a b rest hex ih =>
    rw [percentDecode_encodeList_cons fun _ => not_beginsHex_pair hex rest, ih h]
    rfl
  | case3 c rest other ih =>
    rw [percentDecode_encodeList_cons fun hc => not_beginsHex_short fun a b more =>
      other a b more hc, ih h]
    rfl
  | case4 => exact percentDecode_nil

/-- **The texts that read as themselves**, although nobody wrote them as a form. -/
theorem decodePart_encodeList_eq_iff (cs : List Char) :
    decodePart (Utf8.encodeList cs) = String.ofList cs ↔ '+' ∉ cs ∧ escapes cs = 0 := by
  rw [decodePart_eq, map_unplus_encodeList, String.ofList_inj]
  constructor
  · intro same
    have cost := length_decode_add_escapes_le (cs.map unplusChar)
    rw [same, List.length_map] at cost
    have none : escapes (cs.map unplusChar) = 0 := by omega
    rw [percentDecode_encodeList none, Utf8.decodeList_encodeList] at same
    refine ⟨?_, by rwa [same] at none⟩
    intro plus
    rw [← same] at plus
    obtain ⟨c, -, hc⟩ := List.mem_map.1 plus
    unfold unplusChar at hc
    split at hc
    · exact absurd hc (by decide)
    · next other => exact other hc
  · rintro ⟨plus, none⟩
    have same : cs.map unplusChar = cs := by
      refine (List.map_congr_left fun c hc => if_neg ?_).trans (List.map_id cs)
      rintro rfl
      exact plus hc
    rw [same, percentDecode_encodeList none, Utf8.decodeList_encodeList]

end Switchboard.Form
