import Switchboard.Proofs.Text.Split
import Switchboard.Store.FileSystem

/-!
# Paths below a directory

The components of a path that was put together from a directory and a plain rest are those of the
directory and, behind them, the names of the rest. A rest is plain unless it begins with a slash or
with a point for the directory itself, or goes up anywhere.
-/

namespace Switchboard.FilePath

/-! ## Components part by part -/

/-- The component that a path begins with, if it begins with more than a name. -/
def leading (p : FilePath) : List PathComponent :=
  if Text.startsWith "/" p.text then [.root]
  else if (Text.splitOn '/' p.text).head? = some "." then [.here]
  else []

/-- The components of the parts of a text, wherever it stands in a path. -/
def inner (text : String) : List PathComponent := (Text.splitOn '/' text).filterMap component?

/-- A path has what it begins with, and the components of its parts. -/
theorem components_eq (p : FilePath) : p.components = p.leading ++ inner p.text := by
  unfold components leading inner
  dsimp only
  split
  · rfl
  · split <;> rfl

theorem splitOn_slash (before after : String) :
    Text.splitOn '/' (before ++ "/" ++ after) = Text.splitOn '/' before ++ Text.splitOn '/' after :=
  Text.splitOn_append '/' before after

/-- The components of two texts with a slash between them are those of both. -/
theorem inner_slash (before after : String) :
    inner (before ++ "/" ++ after) = inner before ++ inner after := by
  unfold inner
  rw [splitOn_slash, List.filterMap_append]

theorem inner_empty : inner "" = [] := by decide

/-- What a path begins with is settled before its last slash. -/
theorem leading_slash (before after : String) :
    leading ⟨before ++ "/" ++ after⟩ = leading ⟨before ++ "/"⟩ := by
  have hs : Text.startsWith "/" (before ++ "/" ++ after) = Text.startsWith "/" (before ++ "/") := by
    refine Text.startsWith_append ?_ after
    rw [String.length_append]
    exact Nat.le_add_left _ _
  have hp : (Text.splitOn '/' (before ++ "/" ++ after)).head? =
      (Text.splitOn '/' (before ++ "/")).head? := by
    have hn := Text.splitOn_ne_nil '/' before
    have he := splitOn_slash before ""
    rw [String.append_empty] at he
    rw [splitOn_slash, he, List.head?_append_of_ne_nil _ hn, List.head?_append_of_ne_nil _ hn]
  unfold leading
  rw [hs, hp]

theorem leading_slash_of_ne_empty {before : String} (h : before ≠ "") :
    leading ⟨before ++ "/"⟩ = leading ⟨before⟩ := by
  have hs : Text.startsWith "/" (before ++ "/") = Text.startsWith "/" before := by
    refine Text.startsWith_append ?_ "/"
    have hl : before.length ≠ 0 := fun h0 => h (String.length_eq_zero_iff.1 h0)
    have h1 : ("/" : String).length = 1 := rfl
    omega
  have hp : (Text.splitOn '/' (before ++ "/")).head? = (Text.splitOn '/' before).head? := by
    have he := splitOn_slash before ""
    rw [String.append_empty] at he
    rw [he, List.head?_append_of_ne_nil _ (Text.splitOn_ne_nil '/' before)]
  unfold leading
  rw [hs, hp]

/-! ## Plain rests -/

/-- A rest that would leave the directory it is put behind, or name it again in front. -/
def Escapes (rest : String) : Prop :=
  Text.startsWith "/" rest = true ∨ (Text.splitOn '/' rest).head? = some "." ∨
    ".." ∈ Text.splitOn '/' rest

theorem leading_of_not_escapes {rest : String} (h : ¬ Escapes rest) : leading ⟨rest⟩ = [] := by
  unfold leading
  rw [if_neg fun hs => h (.inl hs), if_neg fun hd => h (.inr (.inl hd))]

theorem component?_of_ne_up {part : String} (h : part ≠ "..") :
    component? part = if part ≠ "" ∧ part ≠ "." then some (.normal part) else none := by
  unfold component?
  by_cases he : part = ""
  · simp only [he, ne_eq, not_true_eq_false, false_and, ↓reduceIte, decide_true, Bool.true_or]
  · by_cases hd : part = "."
    · simp only [hd, ne_eq, not_true_eq_false, and_false, ↓reduceIte, decide_true, Bool.or_true]
    · simp only [he, hd, h, ne_eq, not_false_eq_true, and_self, ↓reduceIte, decide_false,
        Bool.or_self, Bool.false_eq_true]

/-- A plain rest has names alone. -/
theorem inner_of_not_escapes {rest : String} (h : ¬ Escapes rest) :
    inner rest = (FileSystem.names ⟨rest⟩).map .normal := by
  have hu : ∀ part ∈ Text.splitOn '/' rest, part ≠ ".." := by
    rintro part hm rfl
    exact h (.inr (.inr hm))
  unfold inner FileSystem.names Text.segments
  generalize Text.splitOn '/' rest = parts at hu
  induction parts with
  | nil => rfl
  | cons part parts ih =>
    have hrest := ih fun q hq => hu q (List.mem_cons_of_mem _ hq)
    rw [List.filterMap_cons, component?_of_ne_up (hu part List.mem_cons_self), hrest]
    by_cases he : part = ""
    · simp [he]
    · by_cases hd : part = "."
      · simp [hd]
      · simp [he, hd]

/-- A path is plain exactly if it does not escape. -/
theorem isPlain_iff (rest : String) : isPlain ⟨rest⟩ = true ↔ ¬ Escapes rest := by
  unfold isPlain
  rw [components_eq, List.all_append, Bool.and_eq_true]
  constructor
  · rintro ⟨hl, hi⟩ (hs | hd | hu)
    · simp [leading, hs] at hl
    · by_cases hs : Text.startsWith "/" rest = true <;> simp [leading, hs, hd] at hl
    · have hm : PathComponent.parent ∈ inner rest := List.mem_filterMap.2 ⟨"..", hu, rfl⟩
      exact absurd (List.all_eq_true.1 hi _ hm) (by decide)
  · intro h
    rw [leading_of_not_escapes h, inner_of_not_escapes h]
    refine ⟨rfl, List.all_eq_true.2 fun c hc => ?_⟩
    obtain ⟨name, -, rfl⟩ := List.mem_map.1 hc
    rfl

/-- A name can be a directory's or a file's own. -/
def IsName (name : String) : Prop :=
  name ≠ "" ∧ name ≠ "." ∧ name ≠ ".." ∧ '/' ∉ name.toList

/-- What a plain rest names can be something in a directory. -/
theorem isName_of_mem_names {rest name : String} (h : ¬ Escapes rest)
    (hm : name ∈ FileSystem.names ⟨rest⟩) : IsName name := by
  unfold FileSystem.names Text.segments at hm
  rw [List.filter_filter, List.mem_filter] at hm
  obtain ⟨hp, hf⟩ := hm
  rw [Bool.and_eq_true, decide_eq_true_eq, decide_eq_true_eq] at hf
  refine ⟨hf.2, hf.1, ?_, Text.sep_not_mem_of_mem_splitOn hp⟩
  rintro rfl
  exact h (.inr (.inr hp))

/-! ## Joining -/

/-- **A plain rest behind a directory** adds its names to the directory's components. -/
theorem components_join (dir : FilePath) {rest : String} (h : ¬ Escapes rest) :
    (dir.join rest).components = dir.components ++ (FileSystem.names ⟨rest⟩).map .normal := by
  have hs : ¬ Text.startsWith "/" rest = true := fun hs => h (.inl hs)
  rw [← inner_of_not_escapes h]
  unfold join
  rw [if_neg hs]
  obtain ⟨text⟩ := dir
  dsimp only
  by_cases he : text = ""
  · subst he
    rw [if_pos (by decide), String.empty_append, components_eq, leading_of_not_escapes h]
    rfl
  · by_cases hw : Text.endsWith "/" text = true
    · obtain ⟨before, rfl⟩ := Text.endsWith_iff.1 hw
      have hb : inner (before ++ "/") = inner before := by
        have hb := inner_slash before ""
        rwa [String.append_empty, inner_empty, List.append_nil] at hb
      rw [if_pos (by simp [hw]), components_eq, components_eq, leading_slash, inner_slash, hb,
        List.append_assoc]
    · rw [if_neg (by simp [he, hw]), components_eq, components_eq, leading_slash, inner_slash,
        leading_slash_of_ne_empty he, List.append_assoc]

end Switchboard.FilePath
