import Switchboard.Proofs.Number.Decimal
import Switchboard.Proofs.Text.Lines
import Switchboard.Route.Target

/-!
# Targets read back

What a word has to be to name a target (`StaticTarget.Written`), and that the text of a target is
such a word. The three forms begin differently, so no word names two targets.
-/

namespace Switchboard

namespace StaticTarget

/-- A word names a target: it is a mark with a path behind it, or a numeral from 100 to 999. -/
inductive Written : String → StaticTarget → Prop where
  | directory (dir : String) : Written (directoryMark ++ dir) (.directory ⟨dir⟩)
  | file (path : String) : Written (fileMark ++ path) (.file ⟨path⟩)
  | status {s : String} {code : Status} (numeral : Number.IsNumeral s code) (least : 100 ≤ code)
      (most : code ≤ 999) : Written s (.status code)

variable {s : String} {target : StaticTarget}

theorem Written.ne_nil (h : Written s target) : s.toList ≠ [] := by
  cases h with
  | directory dir => simp [directoryMark]
  | file path => simp [fileMark]
  | status numeral _ _ =>
    obtain ⟨ds, chars | chars, some, -, -⟩ := numeral
    · rwa [chars]
    · simp [chars]

theorem readStatus?_eq_some_iff {code : Status} :
    readStatus? s = some code ↔ Number.IsNumeral s code ∧ 100 ≤ code ∧ code ≤ 999 := by
  unfold readStatus?
  rw [Option.filter_eq_some_iff, Number.readNat?_eq_some_iff, decide_eq_true_eq]
  exact ⟨fun ⟨⟨numeral, most⟩, least⟩ => ⟨numeral, least, most⟩,
    fun ⟨numeral, least, most⟩ => ⟨⟨numeral, most⟩, least⟩⟩

/-- A numeral does not begin as a mark does. -/
theorem after?_of_isNumeral {mark : String} {c : Char} {cs : List Char}
    (chars : mark.toList = c :: cs) (plus : c ≠ '+') (digit : c.isDigit = false) {n : Nat}
    (numeral : Number.IsNumeral s n) : Text.after? mark s = none := by
  cases h : Text.after? mark s with
  | none => rfl
  | some rest =>
    obtain ⟨ds, read, some, digits, -⟩ := numeral
    rw [Text.after?_eq_some.1 h, String.toList_append, chars, List.cons_append] at read
    rcases read with rfl | read
    · have first := digits c List.mem_cons_self
      rw [digit] at first
      cases first
    · exact absurd (List.cons.inj read).1 plus

theorem after?_directoryMark_fileMark (path : String) :
    Text.after? directoryMark (fileMark ++ path) = none := by
  cases h : Text.after? directoryMark (fileMark ++ path) with
  | none => rfl
  | some rest =>
    have same := congrArg String.toList (Text.after?_eq_some.1 h)
    rw [String.toList_append, String.toList_append] at same
    exact absurd (List.cons.inj same).1 (by decide)

section Word

variable (solid : ∀ c ∈ s.toList, Text.isBlank c = false)

include solid

/-- In a word there is nothing to cut off. -/
theorem parse_word :
    parse s = match Text.after? directoryMark s, Text.after? fileMark s, readStatus? s with
      | some dir, _, _ => .ok (.directory ⟨dir⟩)
      | none, some path, _ => .ok (.file ⟨path⟩)
      | none, none, some code => .ok (.status code)
      | none, none, none => .error ⟨s⟩ := by
  have behind {mark rest : String} (h : Text.after? mark s = some rest) :
      Text.trim rest = rest := by
    refine Text.trim_eq_self fun c hc => solid c ?_
    rw [Text.after?_eq_some.1 h, String.toList_append]
    exact List.mem_append_right _ hc
  unfold parse
  rw [Text.trim_eq_self solid]
  dsimp only
  cases hd : Text.after? directoryMark s with
  | some dir => simp only [behind hd]
  | none =>
    cases hf : Text.after? fileMark s with
    | some path => simp only [behind hf]
    | none => cases readStatus? s <;> rfl

/-- A word is read as the target that it names. -/
theorem parse_eq_ok_iff : parse s = .ok target ↔ Written s target := by
  rw [parse_word solid]
  constructor
  · intro h
    split at h
    · rename_i hd
      cases h
      rw [Text.after?_eq_some.1 hd]
      exact .directory _
    · rename_i hf
      cases h
      rw [Text.after?_eq_some.1 hf]
      exact .file _
    · rename_i hr
      cases h
      obtain ⟨numeral, least, most⟩ := readStatus?_eq_some_iff.1 hr
      exact .status numeral least most
    · cases h
  · intro h
    cases h with
    | directory dir => rw [Text.after?_eq_some.2 rfl]
    | file path => rw [after?_directoryMark_fileMark, Text.after?_eq_some.2 rfl]
    | @status _ code numeral least most =>
      have directory : Text.after? directoryMark s = none :=
        after?_of_isNumeral rfl (by decide) (by decide) numeral
      have file : Text.after? fileMark s = none :=
        after?_of_isNumeral rfl (by decide) (by decide) numeral
      rw [directory, file, readStatus?_eq_some_iff.2 ⟨numeral, least, most⟩]

/-- A word that names nothing is refused, and no other. -/
theorem parse_eq_error_iff {e : InvalidTarget} :
    parse s = .error e ↔ e = ⟨s⟩ ∧ ∀ target, ¬ Written s target := by
  simp only [← parse_eq_ok_iff solid]
  cases h : parse s with
  | ok target => simp
  | error e' =>
    have word : e' = ⟨s⟩ := by
      rw [parse_word solid] at h
      split at h <;> cases h
      rfl
    simp [word, eq_comm]

end Word

/-- The text of a target names it. -/
theorem written_render (codes : ∀ code, target = .status code → 100 ≤ code ∧ code ≤ 999) :
    Written target.render target := by
  cases target with
  | status code =>
    obtain ⟨least, most⟩ := codes code rfl
    exact .status (Number.isNumeral_toString code) least most
  | directory dir => exact .directory dir.text
  | file path => exact .file path.text

end StaticTarget

end Switchboard
