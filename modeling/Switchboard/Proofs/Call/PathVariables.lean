import Mathlib.Data.Nat.Find
import Switchboard.Call.Action
import Switchboard.Proofs.Dictionary
import Switchboard.Proofs.List.Keyed

/-!
# Names in patterns and segments of paths

A name in braces in a pattern stands for the segment that a path has at the same position. Positions
are counted over the segments that are not empty, on both sides, and a path may be shorter or longer
than the pattern. A name may be in a pattern more than once: the last position that the path has
counts (`get?_pathVariables_of_last`).
-/

namespace Switchboard

/-! ## Braces -/

/-- A name of letters, digits, `_` and `-`. -/
def IsVariableName (name : String) : Prop :=
  name ≠ "" ∧ ∀ c ∈ name.toList, c.isAlphanum = true ∨ c = '_' ∨ c = '-'

/-- A text in braces. -/
def inBraces (name : String) : String := "\x7b" ++ name ++ "\x7d"

theorem toList_inBraces (name : String) :
    (inBraces name).toList = '\x7b' :: (name.toList ++ ['\x7d']) := by
  unfold inBraces
  rw [String.toList_append, String.toList_append]
  rfl

/-- A segment names what stands in braces in it, and only a name may stand there. -/
theorem placeholder?_eq_some_iff {own name : String} :
    placeholder? own = some name ↔ own = inBraces name ∧ IsVariableName name := by
  unfold placeholder? IsVariableName
  constructor
  · intro h
    split at h
    · next rest hl =>
      obtain ⟨passes, named⟩ := Option.ite_none_right_eq_some.1 h
      cases named
      simp only [Bool.and_eq_true, decide_eq_true_eq, List.all_eq_true, Bool.or_eq_true,
        beq_iff_eq] at passes
      obtain ⟨⟨closed, some⟩, chars⟩ := passes
      refine ⟨?_, ?_, ?_⟩
      · rw [← String.toList_inj, toList_inBraces, hl, String.toList_ofList,
          List.dropLast_append_getLast? _ closed]
      · intro empty
        apply some
        rw [← String.toList_ofList (l := rest.dropLast), empty]
        rfl
      · intro c hc
        rw [String.toList_ofList] at hc
        simpa only [or_assoc] using chars c hc
    · cases h
  · rintro ⟨rfl, some, chars⟩
    rw [toList_inBraces]
    have nonempty : name.toList ≠ [] := by
      intro empty
      exact some (String.toList_inj.1 empty)
    have all : name.toList.all (fun c => c.isAlphanum || c == '_' || c == '-') = true := by
      rw [List.all_eq_true]
      intro c hc
      simpa [or_assoc] using chars c hc
    simp [nonempty, all]

/-! ## Positions -/

/-- At a position a pattern has a name in braces, and a path has a segment. -/
structure NamesAt (pattern path name : String) (i : Nat) (segment : String) : Prop where
  isName : IsVariableName name
  own : (Text.segments '/' pattern)[i]? = some (inBraces name)
  there : (Text.segments '/' path)[i]? = some segment

variable {pattern path name segment : String} {i : Nat}

/-- A position of the pattern and the path gives an entry just where it names a segment. -/
theorem namesAt_iff {values : List String} :
    ((Text.segments '/' pattern).zip (Text.segments '/' path))[i]?.bind
        (fun e => (placeholder? e.1).map fun name => (name, [e.2])) = some (name, values) ↔
      ∃ segment, NamesAt pattern path name i segment ∧ values = [segment] := by
  rw [Option.bind_eq_some_iff]
  constructor
  · rintro ⟨⟨own, segment⟩, at_, entry⟩
    obtain ⟨hown, there⟩ := List.getElem?_zip_eq_some.1 at_
    obtain ⟨found, named, same⟩ := Option.map_eq_some_iff.1 entry
    cases same
    obtain ⟨rfl, isName⟩ := placeholder?_eq_some_iff.1 named
    exact ⟨segment, ⟨isName, hown, there⟩, rfl⟩
  · rintro ⟨segment, ⟨isName, own, there⟩, rfl⟩
    refine ⟨(inBraces name, segment), List.getElem?_zip_eq_some.2 ⟨own, there⟩, ?_⟩
    rw [placeholder?_eq_some_iff.2 ⟨rfl, isName⟩]
    rfl

theorem NamesAt.lt (h : NamesAt pattern path name i segment) :
    i < (Text.segments '/' pattern).length :=
  (List.getElem?_eq_some_iff.1 h.own).1

/-- A name that has a position has a last one. -/
theorem exists_last (named : ∃ i segment, NamesAt pattern path name i segment) :
    ∃ i segment, NamesAt pattern path name i segment ∧
      ∀ j other, NamesAt pattern path name j other → j ≤ i := by
  classical
  have bound {i : Nat} : (∃ segment, NamesAt pattern path name i segment) →
      i ≤ (Text.segments '/' pattern).length := by
    rintro ⟨segment, at_⟩
    exact at_.lt.le
  obtain ⟨i, named⟩ := named
  obtain ⟨last, at_⟩ := Nat.findGreatest_spec
    (P := fun i => ∃ segment, NamesAt pattern path name i segment) (bound named) named
  refine ⟨_, last, at_, ?_⟩
  intro j other there
  exact Nat.le_findGreatest (bound ⟨other, there⟩) ⟨other, there⟩

/-- **A name has the segment of its last position.** -/
theorem get?_pathVariables_of_last (at_ : NamesAt pattern path name i segment)
    (last : ∀ j other, NamesAt pattern path name j other → j ≤ i) :
    (pathVariables pattern path).get? name = some [segment] := by
  unfold pathVariables
  rw [Dictionary.get?_ofPairs]
  apply lookup_reverse_filterMap_of_last (namesAt_iff.2 ⟨segment, at_, rfl⟩)
  intro j values there
  obtain ⟨other, named, -⟩ := namesAt_iff.1 there
  exact last j other named

theorem get?_pathVariables_of_none (none : ∀ i segment, ¬ NamesAt pattern path name i segment) :
    (pathVariables pattern path).get? name = .none := by
  unfold pathVariables
  rw [Dictionary.get?_ofPairs]
  apply lookup_reverse_filterMap_of_none
  intro j values there
  obtain ⟨segment, named, -⟩ := namesAt_iff.1 there
  exact none j segment named

end Switchboard
