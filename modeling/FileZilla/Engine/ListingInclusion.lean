import Mathlib.Data.Multiset.Count
import FileZilla.Engine.DirectoryListing
import Mathlib.Data.List.Lex

namespace FileZilla

universe u

variable {Time : Type u}

namespace CDirectoryListing

variable (listing : CDirectoryListing Time)

def size : Nat :=
  listing.entries.length

def getFilenames : List WString :=
  listing.entries.map CDirentry.name

@[simp] theorem length_getFilenames :
    listing.getFilenames.length = listing.size :=
  List.length_map CDirentry.name

def nameSet : Multiset WString :=
  Multiset.ofList listing.getFilenames

def Includes (listing1 listing2 : CDirectoryListing Time) : Prop :=
  listing2.nameSet ≤ listing1.nameSet

theorem Includes.size_le {listing1 listing2 : CDirectoryListing Time}
    (includes : listing1.Includes listing2) : listing2.size ≤ listing1.size := by
  have cards := Multiset.card_le_card includes
  simpa [nameSet] using cards

end CDirectoryListing

def sortNames (names : List WString) : List WString :=
  names.mergeSort fun left right => decide (left ≤ right)

/-- The loop over the sorted names: what is left of `names1`, and the position in `names2` -/
def inclusionLoop (names2 : List WString) : List WString → Nat → Bool
  | names1, iter2 =>
    -- the source compares with cbegin, not with cend
    if iter2 ≠ 0 then
      match names1 with
      | [] => false
      | name1 :: names1 =>
        if some name1 ≠ names2[iter2]? then
          inclusionLoop names2 names1 iter2
        else
          inclusionLoop names2 names1 (iter2 + 1)
    else
      true

def checkInclusion (listing1 listing2 : CDirectoryListing Time) : Bool :=
  if listing2.size > listing1.size then
    false
  else
    inclusionLoop (sortNames listing2.getFilenames) (sortNames listing1.getFilenames) 0

theorem inclusionLoop_start (names1 names2 : List WString) :
    inclusionLoop names2 names1 0 = true := by
  cases names1 with
  | nil => rfl
  | cons => rfl

theorem checkInclusion_iff_size (listing1 listing2 : CDirectoryListing Time) :
    checkInclusion listing1 listing2 = true ↔ listing2.size ≤ listing1.size := by
  unfold checkInclusion
  split
  case isTrue larger => simpa using larger
  case isFalse fits =>
    rw [inclusionLoop_start]
    exact iff_of_true rfl (Nat.le_of_not_lt fits)

theorem checkInclusion_decides_iff (listing1 listing2 : CDirectoryListing Time) :
    (checkInclusion listing1 listing2 = true ↔ listing1.Includes listing2) ↔
      (listing1.size < listing2.size ∨ listing1.Includes listing2) := by
  rw [checkInclusion_iff_size]
  constructor
  · intro decides
    rcases Nat.lt_or_ge listing1.size listing2.size with larger | fits
    · exact .inl larger
    · exact .inr (decides.mp fits)
  · rintro (larger | includes)
    · exact ⟨fun fits => absurd larger (Nat.not_lt_of_le fits), fun includes => includes.size_le⟩
    · exact iff_of_true includes.size_le includes

def singleEntry (name : String) : CDirectoryListing Nat where
  path := { data := none, type := .unix }
  entries := [{ name := wide name }]

theorem checkInclusion_accepts_stranger :
    ¬(checkInclusion (singleEntry "a") (singleEntry "b") = true ↔
      (singleEntry "a").Includes (singleEntry "b")) := by
  intro decides
  have includes := decides.mp ((checkInclusion_iff_size _ _).mpr (Nat.le_refl 1))
  have member : wide "b" ∈ (singleEntry "a").getFilenames :=
    Multiset.mem_coe.mp (Multiset.mem_of_le includes (List.mem_cons_self))
  revert member
  decide

end FileZilla
