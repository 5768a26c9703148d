import Switchboard.Proofs.Store.FilePath

/-!
# Files by the components of their paths

The components of a path leave out empty parts and points, wherever these stand. For what lies on
the way to a file that makes no difference, but behind it an empty part leads nowhere. So the file a
path leads to, from the root or from the current directory, is settled by the components and by
whether the path ends in a name at all (`file?_eq`).
-/

namespace Switchboard

namespace FilePath

theorem component?_cases (part : String) :
    component? part = none ∨ component? part = some .parent ∨
      component? part = some (.normal part) := by
  unfold component?
  split
  · exact .inl rfl
  · split
    · exact .inr (.inl rfl)
    · exact .inr (.inr rfl)

theorem isSome_component? (part : String) :
    (component? part).isSome = (part ≠ "" && part ≠ ".") := by
  unfold component?
  by_cases blank : part = "" ∨ part = "."
  · rcases blank with rfl | rfl <;> rfl
  · rw [not_or] at blank
    by_cases up : part = ".." <;> simp [blank, up]

/-- Is the last of some parts more than nothing, and no point? -/
def lastIsName (parts : List String) : Bool :=
  parts.getLast?.any fun part => part ≠ "" && part ≠ "."

/-- Does a path end in a name, with no slash behind it? -/
def endsInName (p : FilePath) : Bool := lastIsName (Text.splitOn '/' p.text)

/-- The last part decides, whatever stands before it. -/
theorem lastIsName_cons (part : String) (rest : List String) :
    lastIsName (part :: rest) =
      if rest = [] then (component? part).isSome else lastIsName rest := by
  rw [isSome_component?]
  cases rest with
  | nil => rfl
  | cons next rest =>
    unfold lastIsName
    rw [List.getLast?_cons_cons]
    rfl

theorem filterMap_component?_ne_nil {parts : List String} (h : lastIsName parts = true) :
    parts.filterMap component? ≠ [] := by
  induction parts with
  | nil => cases h
  | cons part rest ih =>
    rw [lastIsName_cons] at h
    rw [List.filterMap_cons]
    cases hc : component? part with
    | none =>
      rw [hc] at h
      split at h
      · cases h
      · exact ih h
    | some c => exact List.cons_ne_nil _ _

end FilePath

namespace FileSystem

open FilePath

variable (fs : FileSystem)

/-- The file something is. -/
def fileOf : Option FileNode → Option StoredFile
  | some (.file f) => some f
  | _ => none

/-- The file that components lead to from the directory `at_`. -/
def fileAt? : (at_ : List String) → List PathComponent → Option StoredFile
  | _, [] => none
  | _, .root :: rest => fileAt? [] rest
  | at_, .here :: rest => fileAt? at_ rest
  | at_, .parent :: rest => fileAt? at_.dropLast rest
  | at_, .normal name :: rest =>
    match fs.files.lookup (at_ ++ [name]) with
    | some f => if rest.isEmpty then some f else none
    | none => if fs.isDirectoryAt (at_ ++ [name]) then fileAt? (at_ ++ [name]) rest else none

/-- A walk over one more part goes on from where the part leads. -/
theorem walk_cons (at_ : List String) (part : String) (rest : List String) :
    fs.walk at_ (part :: rest) =
      match component? part with
      | none => fs.walk at_ rest
      | some .parent => fs.walk at_.dropLast rest
      | some _ =>
        match fs.files.lookup (at_ ++ [part]) with
        | some f => if rest.isEmpty then some (.file f) else none
        | none =>
          if fs.isDirectoryAt (at_ ++ [part]) then fs.walk (at_ ++ [part]) rest else none := by
  rw [walk]
  unfold component?
  by_cases blank : (part = "" || part = ".") = true
  · rw [if_pos blank, if_pos blank]
  · rw [if_neg blank, if_neg blank]
    by_cases up : part = ".."
    · rw [if_pos up, if_pos up]
    · rewrite [if_neg up, if_neg up]
      rfl

/-- **A walk to a file** goes over the components, and ends in a name. -/
theorem fileOf_walk (at_ parts : List String) :
    fileOf (fs.walk at_ parts) =
      if lastIsName parts then fs.fileAt? at_ (parts.filterMap component?) else none := by
  induction parts generalizing at_ with
  | nil => rfl
  | cons part rest ih =>
    -- where the part leads to a directory, nothing more may follow, and then there is no file
    have step (next : List String) :
        fileOf (fs.walk next rest) =
          if lastIsName (part :: rest) then
            fs.fileAt? next (rest.filterMap component?) else none := by
      rw [lastIsName_cons]
      split
      · next final =>
        subst final
        exact (ite_self _).symm
      · exact ih next
    rw [walk_cons, List.filterMap_cons]
    rcases component?_cases part with hc | hc | hc
    · simp only [hc]
      exact step at_
    · simp only [hc, fileAt?]
      exact step at_.dropLast
    · simp only [hc, fileAt?]
      cases hl : fs.files.lookup (at_ ++ [part]) with
      | some f =>
        dsimp only
        rw [lastIsName_cons, hc]
        by_cases final : rest = []
        · subst final
          rfl
        · rw [if_neg final, if_neg (by simpa using final)]
          split
          · next ends =>
            rw [if_neg (by simpa using filterMap_component?_ne_nil ends)]
            rfl
          · rfl
      | none =>
        dsimp only
        split
        · exact step _
        · exact (ite_self _).symm

theorem file?_eq_fileOf (p : FilePath) : fs.file? p = fileOf (fs.find? p) := by
  unfold file?
  cases fs.find? p with
  | none => rfl
  | some node => cases node <;> rfl

/-- What stands in front of the first name says where a path begins. -/
theorem fileAt?_leading (p : FilePath) (rest : List PathComponent) :
    fs.fileAt? fs.here (p.leading ++ rest) = fs.fileAt? (fs.start p) rest := by
  unfold leading start
  split
  · rfl
  · split <;> rfl

/-- **The file of a path** is that of its components, if the path ends in a name. -/
theorem file?_eq (p : FilePath) :
    fs.file? p = if p.endsInName then fs.fileAt? fs.here p.components else none := by
  rw [file?_eq_fileOf, components_eq, fileAt?_leading]
  unfold find? endsInName
  by_cases empty : p.text = ""
  · rw [if_pos empty, empty]
    rfl
  · rw [if_neg empty, fileOf_walk]
    rfl

/-- A path that ends in a name leads to the file of its components. -/
theorem file?_of_endsInName {p : FilePath} (h : p.endsInName = true) :
    fs.file? p = fs.fileAt? fs.here p.components := by
  rw [file?_eq, if_pos h]

/-- A path with something else at its end leads to no file. -/
theorem file?_of_not_endsInName {p : FilePath} (h : p.endsInName = false) : fs.file? p = none := by
  rw [file?_eq, h, if_neg Bool.false_ne_true]

theorem endsInName_of_file? {p : FilePath} {f : StoredFile} (h : fs.file? p = some f) :
    p.endsInName = true := by
  cases hp : p.endsInName with
  | true => rfl
  | false =>
    rw [fs.file?_of_not_endsInName hp] at h
    cases h

end FileSystem

end Switchboard
