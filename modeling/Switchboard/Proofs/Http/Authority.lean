import Switchboard.Proofs.Http.Host
import Switchboard.Proofs.Number.Decimal

/-!
# Hosts and their ports

A `host` header names a host, and maybe a port behind a colon. The host is a registered name, four
numbers with points between them, or a long address in brackets. The header is cut at its first colon.
Only a long address has colons of its own, so the others are read as they are written, with their port,
and a long address is not (`Request.host_of_authority`).
-/

namespace Switchboard

namespace Authority

/-! ## What a host looks like -/

/-- A character that stands for itself in a registered name. -/
def isNameChar (c : Char) : Bool := c.isAlphanum || "-._~!$&'()*+,;=".toList.contains c

/-- A registered name: letters, digits, some marks, and bytes written `%` with two hexadecimal
digits. It may be empty. -/
inductive IsName : List Char → Prop
  | nil : IsName []
  | char {c : Char} {cs : List Char} (hc : isNameChar c = true) (rest : IsName cs) :
      IsName (c :: cs)
  | escape {a b : Char} {cs : List Char} (ha : Form.isHexDigit a = true)
      (hb : Form.isHexDigit b = true) (rest : IsName cs) : IsName ('%' :: a :: b :: cs)

/-- A number up to 255, without zeros in front. -/
def IsOctet (cs : List Char) : Prop := ∃ n ≤ 255, cs = Number.digitChars n

/-- Four numbers with points between them. -/
inductive IsQuad : List Char → Prop
  | of {a b c d : List Char} (ha : IsOctet a) (hb : IsOctet b) (hc : IsOctet c) (hd : IsOctet d) :
      IsQuad (a ++ '.' :: b ++ '.' :: c ++ '.' :: d)

/-- A group: one to four hexadecimal digits. -/
def IsGroup (cs : List Char) : Prop :=
  cs ≠ [] ∧ cs.length ≤ 4 ∧ ∀ c ∈ cs, Form.isHexDigit c = true

/-- Some groups with colons between them, of which the last two may be four numbers if `quad`. -/
inductive AreGroups (quad : Bool) : Nat → List Char → Prop
  | one {cs : List Char} (group : IsGroup cs) : AreGroups quad 1 cs
  | quad {cs : List Char} (allowed : quad = true) (four : IsQuad cs) : AreGroups quad 2 cs
  | cons {n : Nat} {cs rest : List Char} (group : IsGroup cs) (more : AreGroups quad n rest) :
      AreGroups quad (n + 1) (cs ++ ':' :: rest)

/-- A long address: eight groups, some of which may be left out between two colons. -/
inductive IsLong : List Char → Prop
  | full {cs : List Char} (groups : AreGroups true 8 cs) : IsLong cs
  | shortened {m n : Nat} {front back : List Char}
      (before : m = 0 ∧ front = [] ∨ AreGroups false m front)
      (after : n = 0 ∧ back = [] ∨ AreGroups true n back) (room : m + n ≤ 7) :
      IsLong (front ++ ':' :: ':' :: back)

/-- A host. -/
inductive Host where
  | name (cs : List Char) (h : IsName cs)
  | quad (cs : List Char) (h : IsQuad cs)
  | long (cs : List Char) (h : IsLong cs)

/-- How a host is written. -/
def Host.text : Host → String
  | name cs _ => String.ofList cs
  | quad cs _ => String.ofList cs
  | long cs _ => String.ofList ('[' :: cs ++ [']'])

/-- A port as it is written: a number in decimal, up to 65535. -/
structure Port where
  digits : List Char
  some : digits ≠ []
  decimal : ∀ c ∈ digits, c.isDigit = true
  small : Number.ofDigits digits ≤ 65535

end Authority

/-- A host, and maybe a port. -/
structure Authority where
  host : Authority.Host
  port? : Option Authority.Port

namespace Authority

/-- How host and port are written. -/
def text (a : Authority) : String :=
  match a.port? with
  | some port => a.host.text ++ ":" ++ String.ofList port.digits
  | none => a.host.text

/-- The port, which is 80 if there is none. -/
def port (a : Authority) : Nat := (a.port?.map fun p => Number.ofDigits p.digits).getD 80

/-! ## The characters of a host -/

theorem ascii_of_isNameChar {c : Char} (h : isNameChar c = true) : c.toNat ≤ 127 := by
  unfold isNameChar at h
  rw [Bool.or_eq_true] at h
  rcases h with letter | mark
  · exact Utf8.ascii_of_isAlphanum letter
  · have marks : "-._~!$&'()*+,;=".toList.all (·.toNat ≤ 127) = true := by decide +kernel
    exact of_decide_eq_true (List.all_eq_true.1 marks c (List.contains_iff_mem.1 mark))

/-- Visible, and no colon. -/
def IsInner (c : Char) : Prop := Headers.isVisible c = true ∧ c ≠ ':'

instance (c : Char) : Decidable (IsInner c) := inferInstanceAs (Decidable (_ ∧ _))

theorem isInner_of_isNameChar {c : Char} (h : isNameChar c = true) : IsInner c :=
  Utf8.forall_ascii (p := fun c _ => isNameChar c = true → IsInner c) (by decide +kernel)
    (ascii_of_isNameChar h) h

theorem isInner_of_isHexDigit {c : Char} (h : Form.isHexDigit c = true) : IsInner c :=
  Utf8.forall_ascii (p := fun c _ => Form.isHexDigit c = true → IsInner c) (by decide +kernel)
    (Form.ascii_of_isHexDigit h) h

theorem isHexDigit_of_isDigit {c : Char} (h : c.isDigit = true) : Form.isHexDigit c = true := by
  refine Utf8.forall_ascii (p := fun c _ => c.isDigit = true → Form.isHexDigit c = true)
    (by decide +kernel) ?_ h
  rw [Char.isDigit_iff_toNat] at h
  change 48 ≤ c.toNat ∧ c.toNat ≤ 57 at h
  omega

/-- A name has no colon in it. -/
theorem IsName.inner {cs : List Char} (h : IsName cs) : ∀ c ∈ cs, IsInner c := by
  induction h with
  | nil => exact fun c hc => absurd hc List.not_mem_nil
  | char hc _ ih => exact List.forall_mem_cons.2 ⟨isInner_of_isNameChar hc, ih⟩
  | escape ha hb _ ih =>
    exact List.forall_mem_cons.2 ⟨by decide, List.forall_mem_cons.2
      ⟨isInner_of_isHexDigit ha, List.forall_mem_cons.2 ⟨isInner_of_isHexDigit hb, ih⟩⟩⟩

theorem IsName.of_forall {cs : List Char} (h : ∀ c ∈ cs, isNameChar c = true) : IsName cs := by
  induction cs with
  | nil => exact .nil
  | cons c cs ih =>
    exact .char (h c List.mem_cons_self) (ih fun d hd => h d (List.mem_cons_of_mem c hd))

theorem IsOctet.inner {cs : List Char} (h : IsOctet cs) : ∀ c ∈ cs, IsInner c := by
  obtain ⟨n, -, rfl⟩ := h
  exact fun c hc => isInner_of_isHexDigit (isHexDigit_of_isDigit (Number.isDigit_of_mem_digitChars hc))

theorem IsQuad.inner {cs : List Char} (h : IsQuad cs) : ∀ c ∈ cs, IsInner c := by
  obtain ⟨ha, hb, hc, hd⟩ := h
  have point : IsInner '.' := by decide
  simp only [List.forall_mem_append, List.forall_mem_cons]
  exact ⟨⟨⟨ha.inner, point, hb.inner⟩, point, hc.inner⟩, point, hd.inner⟩

theorem IsGroup.inner {cs : List Char} (h : IsGroup cs) : ∀ c ∈ cs, IsInner c :=
  fun c hc => isInner_of_isHexDigit (h.2.2 c hc)

/-- Groups have nothing but visible characters, points and colons. -/
theorem AreGroups.visible {quad : Bool} {n : Nat} {cs : List Char} (h : AreGroups quad n cs) :
    ∀ c ∈ cs, Headers.isVisible c = true := by
  induction h with
  | one group => exact fun c hc => (group.inner c hc).1
  | quad _ four => exact fun c hc => (four.inner c hc).1
  | cons group _ ih =>
    exact List.forall_mem_append.2 ⟨fun c hc => (group.inner c hc).1,
      List.forall_mem_cons.2 ⟨by decide, ih⟩⟩

theorem IsLong.visible {cs : List Char} (h : IsLong cs) :
    ∀ c ∈ cs, Headers.isVisible c = true := by
  have maybe {quad : Bool} {n : Nat} {cs : List Char} (h : n = 0 ∧ cs = [] ∨ AreGroups quad n cs) :
      ∀ c ∈ cs, Headers.isVisible c = true := by
    rcases h with ⟨-, rfl⟩ | groups
    · exact fun c hc => absurd hc List.not_mem_nil
    · exact groups.visible
  cases h with
  | full groups => exact groups.visible
  | shortened before after _ =>
    have colon : Headers.isVisible ':' = true := by decide
    exact List.forall_mem_append.2 ⟨maybe before,
      List.forall_mem_cons.2 ⟨colon, List.forall_mem_cons.2 ⟨colon, maybe after⟩⟩⟩

/-- A long address has a colon in it. -/
theorem IsLong.colon_mem {cs : List Char} (h : IsLong cs) : ':' ∈ cs := by
  cases h with
  | full groups =>
    cases groups with
    | cons => simp
  | shortened => simp

theorem Host.visible (host : Host) : ∀ c ∈ host.text.toList, Headers.isVisible c = true := by
  cases host with
  | name cs h =>
    rw [text, String.toList_ofList]
    exact fun c hc => (h.inner c hc).1
  | quad cs h =>
    rw [text, String.toList_ofList]
    exact fun c hc => (h.inner c hc).1
  | long cs h =>
    have left : Headers.isVisible '[' = true := by decide
    have right : ∀ c ∈ [']'], Headers.isVisible c = true := List.all_eq_true.1 (by decide)
    rw [text, String.toList_ofList]
    exact List.forall_mem_append.2 ⟨List.forall_mem_cons.2 ⟨left, h.visible⟩, right⟩

/-- An authority can be sent in a header. -/
theorem visible_text (a : Authority) : a.text.toList.all Headers.isVisible = true := by
  rw [List.all_eq_true]
  unfold text
  cases a.port? with
  | none => exact a.host.visible
  | some port =>
    have colon : ∀ c ∈ ":".toList, Headers.isVisible c = true := List.all_eq_true.1 (by decide)
    simp only [String.toList_append, String.toList_ofList, List.forall_mem_append]
    exact ⟨⟨a.host.visible, colon⟩,
      fun c hc => Headers.isVisible_of_isDigit (port.decimal c hc)⟩

end Authority

/-! ## The host that is read -/

namespace Request

open Authority

/-- A numeral has no bracket in it. -/
theorem readNat?_of_bracket {most : Nat} {s : String} (there : ']' ∈ s.toList) :
    Number.readNat? most s = none := by
  rw [Option.eq_none_iff_forall_ne_some]
  intro n read
  obtain ⟨⟨ds, chars, -, digits, -⟩, -⟩ := Number.readNat?_eq_some_iff.1 read
  have digit : ']' ∈ ds := by
    rcases chars with same | signed
    · rwa [same] at there
    · rw [signed] at there
      exact (List.mem_cons.1 there).resolve_left (by decide)
  exact absurd (digits ']' digit) (by decide)

/-- The digits of a port are read as its number. -/
theorem readNat?_port (port : Port) :
    Number.readNat? 65535 (String.ofList port.digits) = some (Number.ofDigits port.digits) := by
  rw [Number.readNat?_eq_some_iff]
  exact ⟨⟨port.digits, .inl String.toList_ofList, port.some, port.decimal, rfl⟩, port.small⟩

/-- A host without a colon is read, and its port. -/
theorem readHost_of_plain {a : Authority} (plain : ':' ∉ a.host.text.toList) :
    readHost a.text = (a.host.text, a.port) := by
  unfold readHost Authority.text Authority.port
  cases a.port? with
  | none =>
    rw [Text.cut?_eq_none plain]
    rfl
  | some port =>
    have cut : Text.cut? ':' (a.host.text ++ ":" ++ String.ofList port.digits) =
        some (a.host.text, String.ofList port.digits) := Text.cut?_append plain _
    rw [cut]
    simp only [readNat?_port, Option.getD_some, Option.map_some]

/-- A host in brackets is cut at its first colon. What stands behind that ends with a bracket or
with a port behind a bracket, so it is no port. -/
theorem readHost_of_long {a : Authority} {front back : List Char}
    (long : a.host.text.toList = '[' :: front ++ ':' :: back ++ [']']) (plain : ':' ∉ front) :
    readHost a.text = (String.ofList ('[' :: front), 80) := by
  -- with a port or without one, the closing bracket is behind the cut
  obtain ⟨rest, there, split⟩ : ∃ rest : String, ']' ∈ rest.toList ∧
      a.text = String.ofList ('[' :: front) ++ ":" ++ rest := by
    unfold Authority.text
    cases a.port? with
    | none =>
      refine ⟨String.ofList (back ++ [']']), by simp, ?_⟩
      rw [← String.toList_inj, long]
      simp
    | some port =>
      refine ⟨String.ofList (back ++ [']']) ++ ":" ++ String.ofList port.digits, by simp, ?_⟩
      rw [← String.toList_inj, String.toList_append, String.toList_append, long]
      simp
  have clear : ':' ∉ (String.ofList ('[' :: front)).toList := by
    rw [String.toList_ofList, List.mem_cons, not_or]
    exact ⟨by decide, plain⟩
  have cut : Text.cut? ':' a.text = some (String.ofList ('[' :: front), rest) :=
    split ▸ Text.cut?_append clear rest
  unfold readHost
  rw [cut]
  simp only [readNat?_of_bracket there, Option.getD_none]

/-! ## Host and port of a request -/

/-- Host and port of a request are those read from the authority that was sent. -/
theorem derived_of_authority (a : Authority) {headers : Headers}
    (sent : headers.get? "host" = some a.text.toUTF8) (verb : Verb) (uri : String)
    (body : ByteArray) (remote : Option String) :
    (ofParts verb uri headers body remote).host = some (readHost a.text).1 ∧
      (ofParts verb uri headers body remote).port = (readHost a.text).2 := by
  have said : headers.text? "host" = some a.text := by
    unfold Headers.text?
    rw [sent]
    exact Headers.valueText?_toUTF8 (visible_text a)
  obtain ⟨host, port⟩ := derived_ofParts verb uri headers body remote
  rw [host, port, said]
  exact ⟨rfl, rfl⟩

/-- **Host and port are those of the header, unless the host is a long address.** Registered names
and four numbers are read as they are written, and the port is the one behind them, or 80. A long
address is cut at its first colon, whatever its port. -/
theorem host_of_authority (a : Authority) {headers : Headers}
    (sent : headers.get? "host" = some a.text.toUTF8) (verb : Verb) (uri : String)
    (body : ByteArray) (remote : Option String) :
    let r := ofParts verb uri headers body remote
    match a.host with
    | .name .. | .quad .. => r.host = some a.host.text ∧ r.port = a.port
    | .long address _ => ∃ front back, address = front ++ ':' :: back ∧ ':' ∉ front ∧
        r.host = some (String.ofList ('[' :: front)) ∧ r.port = 80 := by
  have derived := derived_of_authority a sent verb uri body remote
  have plain (inner : ∀ c ∈ a.host.text.toList, IsInner c) :
      readHost a.text = (a.host.text, a.port) :=
    readHost_of_plain fun there => (inner ':' there).2 rfl
  cases host : a.host with
  | name cs h =>
    rw [plain (by rw [host, Host.text, String.toList_ofList]; exact h.inner), host] at derived
    exact derived
  | quad cs h =>
    rw [plain (by rw [host, Host.text, String.toList_ofList]; exact h.inner), host] at derived
    exact derived
  | long address h =>
    obtain ⟨front, back, rfl, clear⟩ := List.eq_append_cons_of_mem h.colon_mem
    have long : a.host.text.toList = '[' :: front ++ ':' :: back ++ [']'] := by
      rw [host, Host.text, String.toList_ofList]
      simp
    rw [readHost_of_long long clear] at derived
    exact ⟨front, back, rfl, clear, derived⟩

/-- A name with an escape and marks in it, and a port with zeros in front. -/
theorem host_of_authority_escaped :
    let headers : Headers := ⟨[("host", "caf%C3%A9.example_1:00443".toUTF8)]⟩
    ∃ a : Authority, a.text = "caf%C3%A9.example_1:00443" ∧
      headers.get? "host" = some a.text.toUTF8 ∧
      (ofParts .get "/" headers .empty none).host = some "caf%C3%A9.example_1" ∧
      (ofParts .get "/" headers .empty none).port = 443 := by
  have tail : IsName ".example_1".toList :=
    .of_forall (List.all_eq_true.1 (by decide))
  have name : IsName "caf%C3%A9.example_1".toList :=
    .char (by decide) (.char (by decide) (.char (by decide)
      (.escape (by decide) (by decide) (.escape (by decide) (by decide) tail))))
  let a : Authority :=
    { host := .name _ name
      port? := some ⟨"00443".toList, by decide, List.all_eq_true.1 (by decide), by decide⟩ }
  have written : a.text = "caf%C3%A9.example_1:00443" := by
    change String.ofList "caf%C3%A9.example_1".toList ++ ":" ++ String.ofList "00443".toList = _
    decide +kernel
  have sent : Headers.get? ⟨[("host", "caf%C3%A9.example_1:00443".toUTF8)]⟩ "host" =
      some a.text.toUTF8 := by
    rw [written]
    decide +kernel
  have port : a.port = 443 := rfl
  obtain ⟨host, derived⟩ := host_of_authority a sent .get "/" .empty none
  exact ⟨a, written, sent, host, derived.trans port⟩

/-- A long address and its port are not read. -/
theorem not_forall_host_of_authority :
    ¬ ∀ (a : Authority) (headers : Headers), headers.get? "host" = some a.text.toUTF8 →
      (ofParts .get "/" headers .empty none).host = some a.host.text ∧
        (ofParts .get "/" headers .empty none).port = a.port := by
  intro law
  have loopback : IsLong "::1".toList :=
    @IsLong.shortened 0 1 [] ['1'] (.inl ⟨rfl, rfl⟩)
      (.inr (.one ⟨by decide, by decide, List.all_eq_true.1 (by decide)⟩)) (by decide)
  let a : Authority :=
    { host := .long _ loopback
      port? := some ⟨"8080".toList, by decide, List.all_eq_true.1 (by decide), by decide⟩ }
  let headers : Headers := ⟨[("host", a.text.toUTF8)]⟩
  have sent : headers.get? "host" = some a.text.toUTF8 := rfl
  obtain ⟨-, port⟩ := derived_of_authority a sent .get "/" .empty none
  have read : readHost a.text = ("[", 80) := by
    change readHost (String.ofList ('[' :: "::1".toList ++ [']']) ++ ":" ++
      String.ofList "8080".toList) = _
    decide +kernel
  rw [(law a headers sent).2, read] at port
  exact absurd port (by decide : ¬ Number.ofDigits "8080".toList = 80)

end Request

end Switchboard
