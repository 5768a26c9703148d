import Switchboard.Json.Reader

/-!
# What reading keeps

The reader makes documents in few ways: a token is a document by itself, an array is made of its
items, and an object of the fields that were collected. A property that each of them keeps is one of
every document that is read (`Json.Kept.of_parse?`). A token keeps it of all that the reader has in
hand (`Json.Progress.All.step?`).
-/

namespace Switchboard.Json

/-- A property that no way to make a document loses. -/
structure Kept (p : Json → Prop) : Prop where
  null : p .null
  bool (b : Bool) : p (.bool b)
  text (s : String) : p (.text s)
  number {cs : List Char} {n : Number} (read : readNumber? cs = some n) : p (.number n)
  array {items : List Json} (each : ∀ v ∈ items, p v) : p (.array items)
  ofFields {fields : List (String × Json)} (each : ∀ f ∈ fields, p f.2) : p (.ofFields fields)

variable {p : Json → Prop}

/-! ## Tokens -/

/-- A token that is a document by itself has the property. -/
def Token.All (p : Json → Prop) : Token → Prop
  | .scalar v => p v
  | _ => True

theorem Kept.of_tokens? (kept : Kept p) {cs : List Char} {tokens : List Token}
    (h : tokens? cs = some tokens) : ∀ t ∈ tokens, t.All p := by
  -- each step puts one token before those of the rest
  have more {rest : List Char} {t : Token} {tokens : List Token}
      (h : (tokens? rest).map (t :: ·) = some tokens) (ht : t.All p)
      (ih : ∀ {ts}, tokens? rest = some ts → ∀ t ∈ ts, t.All p) : ∀ t ∈ tokens, t.All p := by
    obtain ⟨ts, hts, rfl⟩ := Option.map_eq_some_iff.1 h
    exact List.forall_mem_cons.2 ⟨ht, ih hts⟩
  fun_induction tokens? cs generalizing tokens
  case case1 =>
    cases h
    exact List.forall_mem_nil _
  case case2 ih | case3 ih | case4 ih | case5 ih | case6 ih | case7 ih => exact more h trivial ih
  case case8 ih => exact more h kept.null ih
  case case9 ih | case10 ih => exact more h (kept.bool _) ih
  case case11 ih => exact more h (kept.text _) ih
  case case13 ih => exact ih h
  case case14 read ih => exact more h (kept.number read) ih
  case case12 | case15 | case16 => cases h

/-! ## The reader's state -/

/-- All that has been read of an unfinished array or object. -/
def Frame.All (p : Json → Prop) : Frame → Prop
  | .array items => ∀ v ∈ items, p v
  | .object fields _ => ∀ f ∈ fields, p f.2

/-- All that has been read. -/
def Progress.All (p : Json → Prop) : Progress → Prop
  | .value stack => ∀ f ∈ stack, f.All p
  | .item stack => ∀ f ∈ stack, f.All p
  | .field fields stack => (∀ f ∈ fields, p f.2) ∧ ∀ f ∈ stack, f.All p
  | .colon fields _ stack => (∀ f ∈ fields, p f.2) ∧ ∀ f ∈ stack, f.All p
  | .after v stack => p v ∧ ∀ f ∈ stack, f.All p

theorem Progress.All.beginValue? {t : Token} {stack : List Frame} {next : Progress}
    (ht : t.All p) (hs : ∀ f ∈ stack, f.All p) (h : beginValue? t stack = some next) :
    next.All p := by
  unfold Json.beginValue? at h
  split at h
  · cases h
    exact ⟨ht, hs⟩
  · split at h
    · cases h
      exact hs
    · cases h
  · split at h
    · cases h
      exact ⟨List.forall_mem_nil _, hs⟩
    · cases h
  · cases h

/-- **One token keeps the property** of all that has been read. -/
theorem Progress.All.step? (kept : Kept p) {now next : Progress} {t : Token} (hp : now.All p)
    (ht : t.All p) (h : step? now t = some next) : next.All p := by
  unfold Json.step? at h
  split at h
  · exact beginValue? ht hp h
  · cases h
    exact ⟨kept.array (List.forall_mem_nil _), hp⟩
  · have begun : (Frame.array []).All p := List.forall_mem_nil _
    exact beginValue? ht (List.forall_mem_cons.2 ⟨begun, hp⟩) h
  · cases h
    exact hp
  · cases h
    exact ⟨kept.ofFields (List.forall_mem_nil _), hp.2⟩
  · cases h
    exact List.forall_mem_cons.2 hp
  · cases h
    obtain ⟨hv, hs⟩ := hp
    obtain ⟨hf, hs⟩ := List.forall_mem_cons.1 hs
    exact List.forall_mem_cons.2 ⟨List.forall_mem_cons.2 ⟨hv, hf⟩, hs⟩
  · cases h
    obtain ⟨hv, hs⟩ := hp
    obtain ⟨hf, hs⟩ := List.forall_mem_cons.1 hs
    refine ⟨kept.array fun w hw => ?_, hs⟩
    exact List.forall_mem_cons.2 ⟨hv, hf⟩ w (List.mem_reverse.1 hw)
  · cases h
    obtain ⟨hv, hs⟩ := hp
    obtain ⟨hf, hs⟩ := List.forall_mem_cons.1 hs
    exact ⟨List.forall_mem_cons.2 ⟨hv, hf⟩, hs⟩
  · cases h
    obtain ⟨hv, hs⟩ := hp
    obtain ⟨hf, hs⟩ := List.forall_mem_cons.1 hs
    refine ⟨kept.ofFields fun f hf' => ?_, hs⟩
    rcases List.mem_cons.1 (List.mem_reverse.1 hf') with rfl | hf'
    · exact hv
    · exact hf f hf'
  · cases h

theorem Progress.All.foldlM (kept : Kept p) {tokens : List Token} {now next : Progress}
    (hp : now.All p) (ht : ∀ t ∈ tokens, t.All p) (h : tokens.foldlM Json.step? now = some next) :
    next.All p := by
  induction tokens generalizing now with
  | nil =>
    cases h
    exact hp
  | cons t tokens ih =>
    obtain ⟨ht, hts⟩ := List.forall_mem_cons.1 ht
    rw [List.foldlM_cons] at h
    obtain ⟨middle, hn, h⟩ := Option.bind_eq_some_iff.1 h
    exact ih (hp.step? kept ht hn) hts h

/-- **What is kept is a property of every document that is read.** -/
theorem Kept.of_parse? (kept : Kept p) {s : String} {doc : Json} (h : parse? s = some doc) :
    p doc := by
  unfold parse? at h
  obtain ⟨tokens, ht, h⟩ := Option.bind_eq_some_iff.1 h
  obtain ⟨last, hp, h⟩ := Option.bind_eq_some_iff.1 h
  have start : (Progress.value []).All p := List.forall_mem_nil _
  have done := start.foldlM kept (kept.of_tokens? ht) hp
  split at h
  · cases h
    exact done.1
  · cases h

end Switchboard.Json
