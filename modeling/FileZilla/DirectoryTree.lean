import Mathlib.Data.List.Infix

namespace FileZilla

universe u

inductive EntryKind
  | directory
  | file
  deriving DecidableEq

/-- A tree of entries that are found by their names from the top. Only directories have entries
below them. -/
structure DirectoryTree (Name : Type u) where
  kind : List Name → Option EntryKind
  top : kind [] = some .directory
  closed : ∀ path name, kind (path ++ [name]) ≠ none → kind path = some .directory

namespace DirectoryTree

variable {Name : Type u} {tree : DirectoryTree Name} {path above : List Name}

def IsDirectory (tree : DirectoryTree Name) (path : List Name) : Prop :=
  tree.kind path = some .directory

instance (tree : DirectoryTree Name) (path : List Name) : Decidable (tree.IsDirectory path) :=
  inferInstanceAs (Decidable (_ = _))

theorem isDirectory_above (entry : tree.kind path ≠ none) (extended : above <+: path)
    (different : above ≠ path) : tree.IsDirectory above := by
  induction path using List.reverseRecOn with
  | nil => exact absurd (List.prefix_nil.mp extended) different
  | append_singleton path name induction =>
    have parent := tree.closed path name entry
    rcases List.prefix_concat_iff.mp extended with whole | shorter
    · exact absurd whole different
    · by_cases same : above = path
      · rw [same]
        exact parent
      · exact induction (by simp [parent]) shorter same

def makeDirectory [DecidableEq Name] (tree : DirectoryTree Name) (path : List Name)
    (parent : tree.IsDirectory path.dropLast) (free : tree.kind path = none) :
    DirectoryTree Name where
  kind other := if other = path then some .directory else tree.kind other
  top := by
    split
    case isTrue => rfl
    case isFalse => exact tree.top
  closed other last entry := by
    by_cases made : other ++ [last] = path
    · subst made
      rw [List.dropLast_concat] at parent
      rw [if_neg (by simp)]
      exact parent
    · rw [if_neg made] at entry
      have directory := tree.closed other last entry
      split
      case isTrue => rfl
      case isFalse => exact directory

variable [DecidableEq Name]

theorem isDirectory_made (parent : tree.IsDirectory path.dropLast)
    (free : tree.kind path = none) : (tree.makeDirectory path parent free).IsDirectory path :=
  if_pos rfl

theorem isDirectory_makeDirectory {parent : tree.IsDirectory path.dropLast}
    {free : tree.kind path = none} {other : List Name} (directory : tree.IsDirectory other) :
    (tree.makeDirectory path parent free).IsDirectory other := by
  refine (if_neg ?_).trans directory
  rintro rfl
  cases directory.symm.trans free

end DirectoryTree

end FileZilla
