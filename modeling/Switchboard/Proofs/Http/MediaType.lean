import Switchboard.Http.MediaType
import Switchboard.Proofs.Text.Split

/-!
# The media type that a header names

A header names a media type in letters of any case, with blanks around it, and with parameters behind
a semicolon. That is what is read (`MediaType.parse_fst_eq_iff`).
-/

namespace Switchboard.MediaType

/-- The media type stands in front of the first semicolon, but for blanks and the case of letters. -/
def Names (type header : String) : Prop :=
  ∃ before media after rest : String, header = before ++ media ++ after ++ rest ∧
    (∀ c ∈ before.toList, Text.isBlank c = true) ∧ (∀ c ∈ after.toList, Text.isBlank c = true) ∧
    Text.lower media = type ∧ (rest = "" ∨ ∃ parameters, rest = ";" ++ parameters)

/-- What stands in front of the first semicolon is read. -/
theorem parse_fst_of_cut {media rest : String} (plain : ';' ∉ media.toList)
    (cut : rest = "" ∨ ∃ parameters, rest = ";" ++ parameters) :
    (parse (media ++ rest)).1 = Text.lower (Text.trim media) := by
  have alone : Text.splitOn ';' media = [media] := by
    unfold Text.splitOn
    rw [List.splitOn_eq_singleton plain, List.map_singleton, String.ofList_toList]
  unfold parse
  rcases cut with rfl | ⟨parameters, rfl⟩
  · rw [String.append_empty, alone]
  · have parts : Text.splitOn ';' (media ++ (";" ++ parameters)) =
        media :: Text.splitOn ';' parameters := by
      rw [← String.append_assoc]
      refine (Text.splitOn_append ';' media parameters).trans ?_
      rw [alone, List.singleton_append]
    rw [parts]

/-- Every header is cut at its first semicolon. -/
theorem exists_cut (header : String) : ∃ media rest, header = media ++ rest ∧ ';' ∉ media.toList ∧
    (rest = "" ∨ ∃ parameters, rest = ";" ++ parameters) := by
  by_cases some : ';' ∈ header.toList
  · obtain ⟨before, after, parts, plain⟩ := List.eq_append_cons_of_mem some
    refine ⟨String.ofList before, ";" ++ String.ofList after, ?_, ?_, .inr ⟨_, rfl⟩⟩
    · rw [← String.toList_inj, parts, String.toList_append, String.toList_append,
        String.toList_ofList, String.toList_ofList]
      simp
    · rwa [String.toList_ofList]
  · exact ⟨header, "", String.append_empty.symm, some, .inl rfl⟩

variable {type header : String}

/-- **The media type that is named is read.** Media types have neither blanks nor semicolons. -/
theorem parse_fst_eq_iff
    (proper : ∀ c ∈ type.toList, Text.isBlank c = false ∧ c ≠ ';') :
    (parse header).1 = type ↔ Names type header := by
  constructor
  · intro same
    obtain ⟨media, rest, rfl, plain, cut⟩ := exists_cut header
    rw [parse_fst_of_cut plain cut] at same
    obtain ⟨before, after, hb, ha, parts⟩ := Text.exists_around_trimBy Text.isBlank media.toList
    have around : media = String.ofList before ++ Text.trim media ++ String.ofList after := by
      unfold Text.trim
      rw [← String.ofList_append, ← String.ofList_append, ← parts, String.ofList_toList]
    refine ⟨String.ofList before, Text.trim media, String.ofList after, rest, ?_, ?_, ?_, same, cut⟩
    · exact congrArg (· ++ rest) around
    · rwa [String.toList_ofList]
    · rwa [String.toList_ofList]
  · rintro ⟨before, media, after, rest, rfl, hb, ha, named, cut⟩
    have letter {c : Char} (hc : c ∈ media.toList) :
        Text.isBlank c.toLower = false ∧ c.toLower ≠ ';' := by
      refine proper _ ?_
      rw [← named, Text.lower, String.toList_ofList]
      exact List.mem_map_of_mem hc
    have black : ∀ c ∈ media.toList, Text.isBlank c = false := by
      intro c hc
      rw [Bool.eq_false_iff]
      intro blank
      have other := (letter hc).1
      rw [Text.toLower_of_isBlank blank, blank] at other
      cases other
    have plain : ';' ∉ (before ++ media ++ after).toList := by
      rw [String.toList_append, String.toList_append, List.mem_append, List.mem_append]
      rintro ((hc | hc) | hc)
      · exact absurd (hb _ hc) (by decide)
      · exact (letter hc).2 (by decide)
      · exact absurd (ha _ hc) (by decide)
    rw [parse_fst_of_cut plain cut, ← named]
    congr 1
    rw [Text.trim, String.toList_append, String.toList_append, Text.trimBy_append hb ha (.of_forall black),
      String.ofList_toList]

end Switchboard.MediaType
