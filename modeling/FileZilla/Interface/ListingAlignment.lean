import FileZilla.Interface.ListingComparison

namespace FileZilla.ListingComparison

open List Option

open FileListOrder

variable {Time : Type}

/-! The rows shown are those of an alignment of the two lists, and the entries of
each list are sorted by the comparison that aligns them. -/

section Rows

variable (settings : Settings Time)

def itemsOfRow : Row (Entry Time) (Entry Time) → Option (Item Time × Item Time)
  | .both localFile remoteFile =>
    (compareFlags settings localFile remoteFile).map fun flags =>
      (.file localFile flags.1, .file remoteFile flags.2)
  | .left localFile => some (.file localFile .lonely, .fill)
  | .right remoteFile => some (.fill, .file remoteFile .lonely)

def shownRows (locals remotes : List (Entry Time)) : List (Item Time × Item Time) :=
  (align (compareEntries settings) locals remotes).filterMap (itemsOfRow settings)

theorem compareListings_eq_unzip (locals remotes : List (Entry Time)) :
    compareListings settings locals remotes = (shownRows settings locals remotes).unzip := by
  fun_induction compareListings settings locals remotes with
  | case1 => simp [shownRows]
  | case2 localFile locals induction =>
    rw [induction]
    simp [shownRows, compareAddFile, itemsOfRow]
  | case3 remoteFile remotes induction =>
    rw [induction]
    simp [shownRows, compareAddFile, itemsOfRow]
  | case4 localFile locals remoteFile remotes equal localFlag remoteFlag flags induction =>
    rw [induction, shownRows, shownRows, align_eq equal]
    simp [compareAddFile, itemsOfRow, flags]
  | case5 localFile locals remoteFile remotes equal hidden induction =>
    rw [induction, shownRows, shownRows, align_eq equal]
    simp [itemsOfRow, hidden]
  | case6 localFile locals remoteFile remotes less induction =>
    rw [induction, shownRows, shownRows, align_lt less]
    simp [compareAddFile, itemsOfRow]
  | case7 localFile locals remoteFile remotes greater induction =>
    rw [induction, shownRows, shownRows, align_gt greater]
    simp [compareAddFile, itemsOfRow]

theorem zip_compareListings (locals remotes : List (Entry Time)) :
    (compareListings settings locals remotes).1.zip (compareListings settings locals remotes).2 =
      shownRows settings locals remotes := by
  rw [compareListings_eq_unzip]
  exact zip_unzip _

theorem length_compareListings (locals remotes : List (Entry Time)) :
    (compareListings settings locals remotes).1.length =
      (compareListings settings locals remotes).2.length := by
  rw [compareListings_eq_unzip, unzip_fst, unzip_snd, length_map, length_map]

end Rows

open FileList

section Order

variable (settings : Settings Time)

theorem cmpDir_swap (mode : DirSortMode) (first second : Bool) :
    cmpDir mode first second = (cmpDir mode second first).swap := by
  cases mode <;> cases first <;> cases second <;> rfl

theorem cmpDir_congr {mode : DirSortMode} {first second : Bool} (other : Bool)
    (equal : cmpDir mode first second = .eq) : cmpDir mode first other = cmpDir mode second other := by
  cases mode <;> cases first <;> cases second <;> cases other <;> first | rfl | cases equal

theorem compareEntries_eq (localFile remoteFile : Entry Time) :
    compareEntries settings localFile remoteFile =
      (cmpDir (getDirSortMode settings.dirSort false) localFile.dir remoteFile.dir).then
        (getCmpFunction settings.folding settings.nameSort localFile.name remoteFile.name) := by
  have noPath : getCmpFunction settings.folding settings.nameSort [] [] = .eq :=
    (getCmpFunction_congruent settings.folding settings.nameSort).self []
  simp only [compareEntries, compareFiles, getDirSortMode, noPath]
  by_cases inline : settings.dirSort = 2
  · rw [if_pos inline, if_neg (by omega), if_pos inline]
    cases getCmpFunction settings.folding settings.nameSort localFile.name remoteFile.name <;> rfl
  · have onTop : (if settings.dirSort = 1 then if false then DirSortMode.onBottom else .onTop
        else if settings.dirSort = 2 then .inline else .onTop) = .onTop := by
      rw [if_neg inline]
      exact ite_self _
    rw [if_neg inline, onTop]
    cases localFile.dir <;> cases remoteFile.dir <;>
      cases getCmpFunction settings.folding settings.nameSort localFile.name remoteFile.name <;>
      rfl

theorem compareEntries_congruent : Congruent (compareEntries settings) where
  swap first second := by
    rw [compareEntries_eq, compareEntries_eq, Ordering.swap_then, ← cmpDir_swap,
      ← (getCmpFunction_congruent settings.folding settings.nameSort).swap]
  congr {first second} other equal := by
    rw [compareEntries_eq, then_eq] at equal
    rw [compareEntries_eq, compareEntries_eq, cmpDir_congr other.dir equal.1,
      (getCmpFunction_congruent settings.folding settings.nameSort).congr other.name equal.2]

theorem sortName_eq (first second : Entry Time) :
    sortName settings.toSortOptions first second =
      (compareEntries settings first second == .lt) := by
  rw [compareEntries_eq, sortName]
  cases cmpDir (getDirSortMode settings.dirSort false) first.dir second.dir <;> rfl

/-- Equal names, and both directories or both not unless directories are sorted
inline -/
def Matches (localFile remoteFile : Entry Time) : Prop :=
  getCmpFunction settings.folding settings.nameSort localFile.name remoteFile.name = .eq ∧
    (settings.dirSort ≠ 2 → localFile.dir = remoteFile.dir)

theorem compareEntries_eq_iff {localFile remoteFile : Entry Time} :
    compareEntries settings localFile remoteFile = .eq ↔
      Matches settings localFile remoteFile := by
  have sameKind : cmpDir (getDirSortMode settings.dirSort false)
      localFile.dir remoteFile.dir = .eq ↔
        (settings.dirSort ≠ 2 → localFile.dir = remoteFile.dir) := by
    unfold getDirSortMode
    by_cases inline : settings.dirSort = 2
    · rw [if_neg (by omega), if_pos inline]
      exact iff_of_true (by cases localFile.dir <;> cases remoteFile.dir <;> rfl)
        fun different => absurd inline different
    · rw [if_neg inline, if_neg Bool.false_ne_true, ite_self]
      refine Iff.trans ?_ (forall_prop_of_true inline).symm
      cases localFile.dir <;> cases remoteFile.dir <;> simp [cmpDir]
  rw [compareEntries_eq, then_eq, sameKind, Matches, and_comm]

variable {settings}

variable (list : FileList settings.toSortOptions Time)

theorem FileList.nodup : list.entries.Nodup :=
  list.distinct.of_map _

theorem FileList.pairwise :
    list.entries.Pairwise (compareEntries settings · · ≠ .gt) := by
  refine list.sorted.imp fun {first second} notBefore greater => ?_
  rw [sortName_eq, (compareEntries_congruent settings).swap, greater] at notBefore
  cases notBefore

theorem FileList.parent_alone {entry : Entry Time} (member : entry ∈ list.entries) :
    compareEntries settings entry parentEntry ≠ .eq := fun equal =>
  list.noParent entry member (eq_dotdot ((compareEntries_eq_iff settings).mp equal).1)

theorem FileList.parent_alone' {entry : Entry Time} (member : entry ∈ list.entries) :
    compareEntries settings parentEntry entry ≠ .eq := fun equal =>
  list.parent_alone member ((compareEntries_congruent settings).symm equal)

theorem FileList.parent_not_mem :
    parentEntry ∉ list.entries := fun member =>
  list.parent_alone member ((compareEntries_congruent settings).self _)

theorem FileList.files_nodup :
    list.files.Nodup := by
  unfold files
  split
  · exact nodup_cons.mpr ⟨list.parent_not_mem, list.nodup⟩
  · exact list.nodup

end Order

/-! What a comparison is for: the two lists side by side, equal entries in one
row, and identical ones left out on demand. -/

def Item.file? : Item Time → Option (Entry Time)
  | .fill => none
  | .file entry _ => some entry

variable (settings : Settings Time)

def Settings.hiding (hideIdentical : Bool) : Settings Time :=
  { settings with hideIdentical }

open Item

structure Aligns (settings : Settings Time) (locals remotes : List (Entry Time))
    (lists : List (Item Time) × List (Item Time)) : Prop where
  sameLength : lists.1.length = lists.2.length
  localFiles : lists.1.filterMap file? = locals
  remoteFiles : lists.2.filterMap file? = remotes
  shared : ∀ localFile ∈ locals, ∀ remoteFile ∈ remotes, (∃ localFlag remoteFlag,
      (file localFile localFlag, file remoteFile remoteFlag) ∈ lists.1.zip lists.2) ↔
      Matches settings localFile remoteFile
  lonely : ∀ row ∈ lists.1.zip lists.2, (∃ localFile localFlag remoteFile remoteFlag,
      row = (file localFile localFlag, file remoteFile remoteFlag)) ∨
    (∃ localFile, row = (file localFile .lonely, .fill)) ∨
    ∃ remoteFile, row = (.fill, file remoteFile .lonely)

/-- By size, directories are never different; without dates, nothing is newer. -/
def noDifference (localFile remoteFile : Entry Time) : Bool :=
  if settings.comparisonMode = 0 then
    localFile.dir || localFile.size == remoteFile.size
  else
    match localFile.date, remoteFile.date with
    | some localDate, some remoteDate =>
      compareWithThreshold settings.dates localDate remoteDate settings.threshold == .eq
    | localDate, remoteDate => localDate.isNone && remoteDate.isNone

def identical (localFile remoteFile : Entry Time) : Bool :=
  localFile.dir == remoteFile.dir && noDifference settings localFile remoteFile

def identicalRow : Item Time × Item Time → Bool
  | (.file localFile _, .file remoteFile _) =>
    identical settings localFile remoteFile && localFile.name != wide ".."
  | _ => false

structure LeavesOutIdentical (settings : Settings Time)
    (all shown : List (Item Time) × List (Item Time)) : Prop where
  sameLength : shown.1.length = shown.2.length
  rows : shown.1.zip shown.2 = (all.1.zip all.2).filter fun row => !identicalRow settings row

section Flags

variable (settings : Settings Time) (localFile remoteFile : Entry Time)

theorem compareFlags_showing :
    ∃ flags, compareFlags (settings.hiding false) localFile remoteFile = some flags := by
  simp only [compareFlags, Settings.hiding, Bool.not_false, Bool.true_or, if_true]
  split
  · exact ⟨_, rfl⟩
  · split <;> exact ⟨_, rfl⟩

theorem compareFlags_hiding :
    compareFlags (settings.hiding true) localFile remoteFile =
      if noDifference settings localFile remoteFile && localFile.name != wide ".." then none
      else compareFlags (settings.hiding false) localFile remoteFile := by
  simp only [compareFlags, noDifference, Settings.hiding, Bool.not_false, Bool.not_true,
    Bool.true_or, Bool.false_or, if_true, bne]
  generalize (localFile.name == wide "..") = parent
  split
  case isTrue bySize =>
    cases localFile.dir || localFile.size == remoteFile.size <;> cases parent <;> rfl
  case isFalse byDate =>
    cases localFile.date with
    | none => cases remoteFile.date <;> cases parent <;> rfl
    | some localDate =>
      cases remoteFile.date with
      | none => cases parent <;> rfl
      | some remoteDate =>
        cases order : compareWithThreshold settings.dates localDate remoteDate
          settings.threshold <;> cases parent <;> simp [order]

end Flags

section Shown

variable {settings : Settings Time} {locals remotes : List (Entry Time)}

theorem file_of_itemsOfRow {row : Row (Entry Time) (Entry Time)}
    {localFile remoteFile : Entry Time} {localFlag remoteFlag : Flag}
    (items : itemsOfRow settings row =
      some (.file localFile localFlag, .file remoteFile remoteFlag)) :
    row = .both localFile remoteFile := by
  cases row with
  | both localEntry remoteEntry =>
    obtain ⟨flags, -, same⟩ := map_eq_some_iff.mp items
    cases same
    rfl
  | left localEntry => cases items
  | right remoteEntry => cases items

theorem shared_iff {localFile remoteFile : Entry Time} :
    (∃ localFlag remoteFlag, (file localFile localFlag, file remoteFile remoteFlag) ∈
        shownRows (settings.hiding false) locals remotes) ↔
      .both localFile remoteFile ∈ align (compareEntries settings) locals remotes := by
  constructor
  · rintro ⟨localFlag, remoteFlag, shown⟩
    obtain ⟨row, member, items⟩ := mem_filterMap.mp shown
    rw [file_of_itemsOfRow items] at member
    exact member
  · intro member
    obtain ⟨flags, shown⟩ := compareFlags_showing settings localFile remoteFile
    exact ⟨flags.1, flags.2, mem_filterMap.mpr ⟨_, member, by rw [itemsOfRow, shown]; rfl⟩⟩

theorem localFiles_shownRows :
    ((shownRows (settings.hiding false) locals remotes).map Prod.fst).filterMap file? =
      locals := by
  rw [filterMap_map, shownRows, filterMap_filterMap]
  refine Eq.trans (filterMap_congr fun row _ => ?_)
    (lefts_align (compareEntries settings) locals remotes)
  cases row with
  | both localFile remoteFile =>
    obtain ⟨flags, shown⟩ := compareFlags_showing settings localFile remoteFile
    rw [itemsOfRow, shown]
    rfl
  | left localFile => rfl
  | right remoteFile => rfl

theorem remoteFiles_shownRows :
    ((shownRows (settings.hiding false) locals remotes).map Prod.snd).filterMap file? =
      remotes := by
  rw [filterMap_map, shownRows, filterMap_filterMap]
  refine Eq.trans (filterMap_congr fun row _ => ?_)
    (rights_align (compareEntries settings) locals remotes)
  cases row with
  | both localFile remoteFile =>
    obtain ⟨flags, shown⟩ := compareFlags_showing settings localFile remoteFile
    rw [itemsOfRow, shown]
    rfl
  | left localFile => rfl
  | right remoteFile => rfl

theorem aligns_iff_complete :
    Aligns settings locals remotes (compareListings (settings.hiding false) locals remotes) ↔
      Complete (compareEntries settings) locals remotes := by
  have rows := zip_compareListings (settings.hiding false) locals remotes
  constructor
  · intro aligns localFile localMember remoteFile remoteMember equal
    have shared := (aligns.shared localFile localMember remoteFile remoteMember).mpr
      ((compareEntries_eq_iff settings).mp equal)
    rw [rows] at shared
    exact shared_iff.mp shared
  · intro complete
    refine {
      sameLength := length_compareListings _ locals remotes
      localFiles := ?locals
      remoteFiles := ?remotes
      shared := ?shared
      lonely := ?lonely }
    case locals =>
      rw [compareListings_eq_unzip, unzip_fst]
      exact localFiles_shownRows
    case remotes =>
      rw [compareListings_eq_unzip, unzip_snd]
      exact remoteFiles_shownRows
    case shared =>
      intro localFile localMember remoteFile remoteMember
      rw [rows, shared_iff, ← compareEntries_eq_iff]
      exact ⟨equal_of_both, complete localFile localMember remoteFile remoteMember⟩
    case lonely =>
      rw [rows]
      intro shown member
      obtain ⟨row, -, items⟩ := mem_filterMap.mp member
      cases row with
      | both localFile remoteFile =>
        obtain ⟨flags, -, rfl⟩ := map_eq_some_iff.mp items
        exact .inl ⟨_, _, _, _, rfl⟩
      | left localFile => exact .inr (.inl ⟨localFile, (some.inj items).symm⟩)
      | right remoteFile => exact .inr (.inr ⟨remoteFile, (some.inj items).symm⟩)

theorem identicalRow_items (localFile remoteFile : Entry Time) (localFlag remoteFlag : Flag) :
    identicalRow settings (.file localFile localFlag, .file remoteFile remoteFlag) =
      (identical settings localFile remoteFile && localFile.name != wide "..") :=
  rfl

theorem leavesOutIdentical_iff :
    LeavesOutIdentical settings (compareListings (settings.hiding false) locals remotes)
        (compareListings (settings.hiding true) locals remotes) ↔
      ∀ localFile remoteFile,
        .both localFile remoteFile ∈ align (compareEntries settings) locals remotes →
        noDifference settings localFile remoteFile = true → localFile.name ≠ wide ".." →
        localFile.dir = remoteFile.dir := by
  have lengths := length_compareListings (settings.hiding true) locals remotes
  have all := zip_compareListings (settings.hiding false) locals remotes
  have shown := zip_compareListings (settings.hiding true) locals remotes
  constructor
  · intro leaves localFile remoteFile member same notParent
    have rows := leaves.rows
    rw [all, shown] at rows
    refine Decidable.byContradiction fun otherKind => ?_
    -- the row is one of those to be kept, but the code leaves it out
    obtain ⟨localFlag, remoteFlag, showing⟩ := shared_iff.mpr member
    have kept : (file localFile localFlag, file remoteFile remoteFlag) ∈
        shownRows (settings.hiding true) locals remotes := by
      rw [rows]
      refine mem_filter.mpr ⟨showing, ?_⟩
      rw [identicalRow_items, identical]
      simp [otherKind]
    obtain ⟨row, -, items⟩ := mem_filterMap.mp kept
    have both := file_of_itemsOfRow items
    rw [both, itemsOfRow, compareFlags_hiding, if_pos (by simp [same, notParent])] at items
    cases items
  · intro sameKind
    refine ⟨lengths, ?_⟩
    rw [all, shown, shownRows, shownRows, filter_filterMap]
    refine filterMap_congr fun row member => ?_
    cases row with
    | both localFile remoteFile =>
      obtain ⟨flags, showing⟩ := compareFlags_showing settings localFile remoteFile
      have rowKept : (some (file localFile flags.1, file remoteFile flags.2)).filter
          (fun items => !identicalRow settings items) =
            if identical settings localFile remoteFile && localFile.name != wide ".." then none
            else some (.file localFile flags.1, .file remoteFile flags.2) := by
        rw [filter_some, identicalRow_items]
        cases identical settings localFile remoteFile && localFile.name != wide ".." <;> rfl
      have agree : (noDifference settings localFile remoteFile && localFile.name != wide "..") =
          (identical settings localFile remoteFile && localFile.name != wide "..") := by
        have same := sameKind localFile remoteFile member
        rw [identical]
        cases different : noDifference settings localFile remoteFile <;>
          cases parent : localFile.name != wide ".." <;> simp_all
      rw [itemsOfRow, itemsOfRow, compareFlags_hiding, showing, map_some, rowKept, agree]
      split <;> rfl
    | left localFile => rfl
    | right remoteFile => rfl

end Shown

structure Comparable (settings : Settings Time)
    (localList remoteList : FileList settings.toSortOptions Time) : Prop where
  oneToOne : OneToOne (compareEntries settings) localList.entries remoteList.entries
  localParent : localList.hasParent = false → remoteList.hasParent = true →
    ∀ localFile ∈ localList.entries.takeWhile (compareEntries settings · parentEntry == .lt),
      ∀ remoteFile ∈ remoteList.entries, ¬Matches settings localFile remoteFile
  remoteParent : localList.hasParent = true → remoteList.hasParent = false →
    ∀ remoteFile ∈ remoteList.entries.takeWhile (compareEntries settings parentEntry · == .gt),
      ∀ localFile ∈ localList.entries, ¬Matches settings localFile remoteFile
  sameKind : ∀ localFile ∈ localList.entries, ∀ remoteFile ∈ remoteList.entries,
    Matches settings localFile remoteFile → noDifference settings localFile remoteFile = true →
    localFile.dir = remoteFile.dir

section Comparable

variable {settings : Settings Time}
variable {localList remoteList : FileList settings.toSortOptions Time}

theorem guided_of_oneToOne
    (oneToOne : OneToOne (compareEntries settings) localList.entries remoteList.entries) :
    Guided (compareEntries settings) localList.entries remoteList.entries :=
  guided_of_sorted (compareEntries_congruent settings) localList.nodup remoteList.nodup
    localList.pairwise remoteList.pairwise oneToOne

theorem FileList.entries_subset (list : FileList settings.toSortOptions Time) :
    list.entries ⊆ list.files := by
  unfold files
  split
  · exact subset_cons_self _ _
  · exact List.Subset.refl _

theorem oneToOne_of_files (complete : Complete (compareEntries settings)
    localList.files remoteList.files) :
    OneToOne (compareEntries settings) localList.entries remoteList.entries := by
  have oneToOne := oneToOne_of_complete localList.files_nodup remoteList.files_nodup complete
  have locals := localList.entries_subset
  have remotes := remoteList.entries_subset
  exact ⟨fun right member first firstMember second secondMember =>
      oneToOne.left right (remotes member) first (locals firstMember) second (locals secondMember),
    fun left member first firstMember second secondMember =>
      oneToOne.right left (locals member) first (remotes firstMember) second
        (remotes secondMember)⟩

theorem complete_files_iff
    (oneToOne : OneToOne (compareEntries settings) localList.entries remoteList.entries) :
    Complete (compareEntries settings) localList.files remoteList.files ↔
      (localList.hasParent = false → remoteList.hasParent = true →
        ∀ localFile ∈ localList.entries.takeWhile (compareEntries settings · parentEntry == .lt),
          ∀ remoteFile ∈ remoteList.entries, ¬Matches settings localFile remoteFile) ∧
      (localList.hasParent = true → remoteList.hasParent = false →
        ∀ remoteFile ∈ remoteList.entries.takeWhile
            (compareEntries settings parentEntry · == .gt),
          ∀ localFile ∈ localList.entries, ¬Matches settings localFile remoteFile) := by
  have guided := guided_of_oneToOne oneToOne
  have complete := complete_of_guided guided
  simp only [← compareEntries_eq_iff]
  cases localParent : localList.hasParent with
  | false =>
    cases remoteParent : remoteList.hasParent with
    | false => simpa [files, localParent, remoteParent] using complete
    | true =>
      simp only [files, localParent, remoteParent, if_true, Bool.false_eq_true,
        if_false, forall_true_left, false_implies, and_true]
      exact complete_cons_right_iff localList.nodup remoteList.parent_not_mem
        (fun _ member => localList.parent_alone member) guided
  | true =>
    cases remoteParent : remoteList.hasParent with
    | false =>
      simp only [files, localParent, remoteParent, if_true, Bool.false_eq_true,
        Bool.true_eq_false, if_false, forall_true_left, false_implies, true_and]
      exact complete_cons_left_iff remoteList.nodup localList.parent_not_mem
        (fun _ member => remoteList.parent_alone' member) guided
    | true =>
      simp only [files, localParent, remoteParent, if_true]
      rw [complete_cons_eq ((compareEntries_congruent settings).self _)
        (fun _ member => remoteList.parent_alone' member)
        (fun _ member => localList.parent_alone member)]
      simpa using complete

theorem FileList.mem_entries {list : FileList settings.toSortOptions Time} {entry : Entry Time}
    (member : entry ∈ list.files) (other : entry ≠ parentEntry) : entry ∈ list.entries := by
  unfold files at member
  split at member
  · exact (mem_cons.mp member).resolve_left other
  · exact member

end Comparable

def defaultSettings : Settings Nat where
  folding := asciiFolding
  dirSort := 0
  nameSort := .caseInsensitive
  dates := { compare := compare, addMinutes := fun date minutes => date + minutes.toNat }
  comparisonMode := 0
  threshold := 1
  hideIdentical := false

def trashEntry : Entry Nat :=
  { name := wide "$trash", dir := true, size := -1, date := none }

/-- Only the root of the local file system has no parent. -/
def listingOf (hasParent : Bool) : FileList defaultSettings.toSortOptions Nat where
  hasParent := hasParent
  entries := [trashEntry]
  distinct := List.nodup_singleton _
  sorted := List.pairwise_singleton _ _
  noParent entry member := by
    rw [List.mem_singleton.mp member]
    decide

end FileZilla.ListingComparison
