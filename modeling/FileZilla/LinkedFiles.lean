import FileZilla.Text
import Mathlib.Data.List.DropRight
import Mathlib.Data.Nat.Find

namespace FileZilla

open List Function

/-! A file system with symbolic links. A name stands for one place; opening it follows links,
renaming it moves the link itself. -/

inductive FileNode
  | file (content : List UInt8)
  | link (target : WString)
  | other

abbrev Files := WString → Option FileNode

def directoryOf (name : WString) : WString :=
  name.rdropWhile (· != '/'.toNat)

def isAbsolute (target : WString) : Bool :=
  target.head? == some '/'.toNat

def linkTarget (name target : WString) : WString :=
  if isAbsolute target then target else directoryOf name ++ target

namespace Files

variable (files : Files)

/-- What is read under a name through at most `depth` links -/
def read : Nat → WString → Option (List UInt8)
  | 0, _ => none
  | depth + 1, name =>
    match files name with
    | some (.file content) => some content
    | some (.link target) => read depth (linkTarget name target)
    | some .other => none
    | none => none

def add (name : WString) (node : FileNode) : Files :=
  Function.update files name (some node)

def remove (name : WString) : Files :=
  Function.update files name none

def move (source dest : WString) : Files :=
  remove (Function.update files dest (files source)) source

variable {files} {depth : Nat} {name source dest : WString} {content : List UInt8}

theorem read_exists (read : files.read depth name = some content) : files name ≠ none := by
  intro absent
  cases depth with
  | zero => cases read
  | succ depth => rw [Files.read, absent] at read; cases read

theorem read_mono {more : Nat} (enough : depth ≤ more)
    (read : files.read depth name = some content) : files.read more name = some content := by
  induction depth generalizing name more with
  | zero => cases read
  | succ depth ih =>
    obtain ⟨more, rfl⟩ : ∃ less, more = less + 1 := ⟨more - 1, by omega⟩
    rw [Files.read] at read ⊢
    cases found : files name with
    | none => rw [found] at read; cases read
    | some node =>
      rw [found] at read
      cases node with
      | file => exact read
      | link target => exact ih (by omega) read
      | other => cases read

/-- What is read in fewer links than `source` needs is read without going over `source`. -/
theorem read_move_of_early (free : files dest = none) {least : Nat}
    (early : ∀ earlier, earlier < least → files.read earlier source = none)
    (fewer : depth < least) (read : files.read depth name = some content) :
    (files.move source dest).read depth name = some content := by
  induction depth generalizing name with
  | zero => cases read
  | succ depth ih =>
    have away : name ≠ source := by
      rintro rfl
      rw [early _ fewer] at read
      cases read
    have elsewhere : name ≠ dest := by
      rintro rfl
      exact read_exists read free
    have kept : files.move source dest name = files name := by
      rw [move, remove, update_of_ne away, update_of_ne elsewhere]
    rw [Files.read] at read ⊢
    rw [kept]
    cases found : files name with
    | none => rw [found] at read; cases read
    | some node =>
      rw [found] at read
      cases node with
      | file => exact read
      | link target => exact ih (by omega) read
      | other => cases read

theorem read_move (free : files dest = none) (read : files.read depth source = some content)
    (same : ∀ target, files source = some (.link target) →
      linkTarget dest target = linkTarget source target) :
    (files.move source dest).read depth dest = some content := by
  have apart : dest ≠ source := by
    rintro rfl
    exact read_exists read free
  have moved : files.move source dest dest = files source := by
    rw [move, remove, update_of_ne apart, update_self]
  have some_read : ∃ depth, (files.read depth source).isSome := ⟨depth, by rw [read]; rfl⟩
  -- The chain of links from the source is followed for the least number of steps, in which it
  -- cannot come back to the source
  obtain ⟨found, readLeast⟩ := Option.isSome_iff_exists.mp (Nat.find_spec some_read)
  have early : ∀ earlier, earlier < Nat.find some_read → files.read earlier source = none := by
    intro earlier less
    simpa using Nat.find_min some_read less
  have enough : Nat.find some_read ≤ depth := Nat.find_min' some_read (by rw [read]; rfl)
  have value : found = content := Option.some.inj ((read_mono enough readLeast).symm.trans read)
  rw [value] at readLeast
  apply read_mono enough
  generalize Nat.find some_read = least at early readLeast
  cases least with
  | zero => cases readLeast
  | succ least =>
    rw [Files.read] at readLeast ⊢
    rw [moved]
    cases node : files source with
    | none => rw [node] at readLeast; cases readLeast
    | some node' =>
      rw [node] at readLeast
      cases node' with
      | file => exact readLeast
      | link target =>
        change files.read least (linkTarget source target) = some content at readLeast
        change (files.move source dest).read least (linkTarget dest target) = some content
        rw [same target node]
        exact read_move_of_early free early (Nat.lt_succ_self least) readLeast
      | other => cases readLeast

end Files

theorem directoryOf_append (directory : WString) {file : WString} (flat : '/'.toNat ∉ file) :
    directoryOf (directory ++ file) = directoryOf directory := by
  induction file using reverseRecOn with
  | nil => rw [append_nil]
  | append_singleton file char ih =>
    rw [mem_append, not_or] at flat
    have passed : (char != '/'.toNat) = true := by
      rw [bne_iff_ne]
      rintro rfl
      exact flat.2 (mem_singleton_self _)
    rw [← append_assoc, directoryOf, rdropWhile_concat_pos (· != '/'.toNat) _ _ passed]
    exact ih flat.1

theorem linkTarget_append {directory first second target : WString}
    (firstFlat : '/'.toNat ∉ first) (secondFlat : '/'.toNat ∉ second) :
    linkTarget (directory ++ first) target = linkTarget (directory ++ second) target := by
  rw [linkTarget, linkTarget, directoryOf_append directory firstFlat,
    directoryOf_append directory secondFlat]

theorem linkTarget_of_absolute {first second target : WString}
    (absolute : isAbsolute target = true) :
    linkTarget first target = linkTarget second target := by
  rw [linkTarget, linkTarget, if_pos absolute, if_pos absolute]

end FileZilla
