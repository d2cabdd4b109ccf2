import Mathlib.Data.List.Basic
import Mathlib.Algebra.BigOperators.Group.List.Basic
import Mathlib.Algebra.Order.BigOperators.Group.List
import Mathlib.Algebra.Order.Group.Nat
import Mathlib.Algebra.Ring.Nat

/-!
# Directory trees

A directory as a tree of named entries, and the regular files below it with their paths.
-/

namespace Lib

/-- A path below some root, as the names on the way. -/
abbrev Path := List String

instance : LawfulBEq Path := inferInstance

/-- What a directory holds under a name. An `unreadable` entry is one whose listing or status
raises an error. -/
inductive Entry where
  | file (size : Nat)
  | directory (entries : List (String × Entry))
  | symlink
  | other
  | unreadable

structure RegularFile where
  path : Path
  size : Nat
deriving DecidableEq

mutual

def Entry.files : Path → Entry → List RegularFile
  | path, .file size => [⟨path, size⟩]
  | path, .directory entries => filesBelow path entries
  | _, .symlink => []
  | _, .other => []
  | _, .unreadable => []

def filesBelow : Path → List (String × Entry) → List RegularFile
  | _, [] => []
  | directory, (name, entry) :: entries =>
    entry.files (directory ++ [name]) ++ filesBelow directory entries

end

mutual

def Entry.directories : Entry → Nat
  | .directory entries => 1 + directoriesBelow entries
  | .file _ => 0
  | .symlink => 0
  | .other => 0
  | .unreadable => 0

def directoriesBelow : List (String × Entry) → Nat
  | [] => 0
  | (_, entry) :: entries => entry.directories + directoriesBelow entries

end

def bytesWithout (excluded : List Path) (files : List RegularFile) : Nat :=
  (files.map fun f => if f.path ∈ excluded then 0 else f.size).sum

@[simp] theorem bytesWithout_nil (excluded : List Path) : bytesWithout excluded [] = 0 := rfl

@[simp] theorem bytesWithout_append (excluded : List Path) (files files' : List RegularFile) :
    bytesWithout excluded (files ++ files') =
      bytesWithout excluded files + bytesWithout excluded files' := by
  simp [bytesWithout]

/-- The order of the files does not matter. -/
theorem bytesWithout_perm {files files' : List RegularFile} (h : files.Perm files')
    (excluded : List Path) : bytesWithout excluded files = bytesWithout excluded files' :=
  (h.map _).sum_eq

theorem bytesWithout_anti {excluded excluded' : List Path}
    (h : ∀ path ∈ excluded, path ∈ excluded') (files : List RegularFile) :
    bytesWithout excluded' files ≤ bytesWithout excluded files := by
  unfold bytesWithout
  refine List.sum_le_sum fun f _ => ?_
  by_cases hf : f.path ∈ excluded
  · simp [hf, h _ hf]
  · simp only [hf, if_false]
    split <;> omega

/-- Fewer files count less. -/
theorem bytesWithout_sublist {files files' : List RegularFile} (h : files.Sublist files')
    (excluded : List Path) : bytesWithout excluded files ≤ bytesWithout excluded files' :=
  (h.map _).sum_le_sum fun _ _ => Nat.zero_le _

end Lib
