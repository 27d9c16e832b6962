import FileZilla.Interface.FileListOrder

namespace FileZilla

open FileListOrder

namespace ListingComparison

variable {Time : Type}

structure Entry (Time : Type) where
  name : WString
  dir : Bool
  size : Int
  date : Option Time
  deriving DecidableEq

def parentEntry : Entry Time :=
  { name := wide "..", dir := true, size := -1, date := none }

inductive DirSortMode where
  | onTop
  | onBottom
  | inline

structure SortOptions where
  folding : CaseFolding
  dirSort : Int
  nameSort : NameSortMode

def getDirSortMode (dirSortOption : Int) (descending : Bool) : DirSortMode :=
  if dirSortOption = 1 then
    if descending then .onBottom else .onTop
  else if dirSortOption = 2 then .inline
  else .onTop

def cmpDir : DirSortMode → Bool → Bool → Ordering
  | .onTop, true, false => .lt
  | .onTop, false, true => .gt
  | .onBottom, true, false => .gt
  | .onBottom, false, true => .lt
  | _, _, _ => .eq

/-- `CFileListCtrlSortName` in ascending order, as comparisons start with -/
def sortName (options : SortOptions) (data1 data2 : Entry Time) : Bool :=
  match cmpDir (getDirSortMode options.dirSort false) data1.dir data2.dir with
  | .lt => true
  | .gt => false
  | .eq => getCmpFunction options.folding options.nameSort data1.name data2.name == .lt

structure FileList (options : SortOptions) (Time : Type) where
  hasParent : Bool
  entries : List (Entry Time)
  distinct : (entries.map Entry.name).Nodup
  sorted : entries.Pairwise fun first second => sortName options second first = false
  noParent : ∀ entry ∈ entries, entry.name ≠ wide ".."

def FileList.files {options : SortOptions} (list : FileList options Time) :
    List (Entry Time) :=
  if list.hasParent then parentEntry :: list.entries else list.entries

structure DateArithmetic (Time : Type) where
  compare : Time → Time → Ordering
  addMinutes : Time → Int → Time

structure Settings (Time : Type) extends SortOptions where
  dates : DateArithmetic Time
  comparisonMode : Int
  threshold : Int
  hideIdentical : Bool

inductive Flag where
  | normal
  | different
  | newer
  | lonely
  deriving DecidableEq

inductive Item (Time : Type) where
  | fill
  | file (entry : Entry Time) (flag : Flag)
  deriving DecidableEq

def compareWithThreshold (dates : DateArithmetic Time) (first second : Time)
    (threshold : Int) : Ordering :=
  match dates.compare first second with
  | .eq => .eq
  | .lt =>
    if dates.compare (dates.addMinutes first threshold) second = .gt then .eq else .lt
  | .gt =>
    if dates.compare first (dates.addMinutes second threshold) = .lt then .eq else .gt

def compareFiles (options : SortOptions) (localPath localFile remotePath remoteFile : WString)
    (localDir remoteDir : Bool) : Ordering :=
  let byName :=
    let f := getCmpFunction options.folding options.nameSort
    match f localFile remoteFile with
    | .eq => f localPath remotePath
    | order => order
  if options.dirSort = 2 then byName
  else if localDir && !remoteDir then .lt
  else if !localDir && remoteDir then .gt
  else byName

variable (settings : Settings Time)

def compareFlags (localFile remoteFile : Entry Time) : Option (Flag × Flag) :=
  if settings.comparisonMode = 0 then
    let flag :=
      if localFile.dir || localFile.size == remoteFile.size then Flag.normal else .different
    if !settings.hideIdentical || flag != .normal || localFile.name == wide ".." then
      some (flag, flag)
    else
      none
  else
    match localFile.date, remoteFile.date with
    | some localDate, some remoteDate =>
      let dateCmp := compareWithThreshold settings.dates localDate remoteDate settings.threshold
      let localFlag := if dateCmp = .gt then Flag.newer else .normal
      let remoteFlag := if dateCmp = .lt then Flag.newer else .normal
      if !settings.hideIdentical || localFlag != .normal || remoteFlag != .normal ||
          localFile.name == wide ".." then
        some (localFlag, remoteFlag)
      else
        none
    | localDate, remoteDate =>
      if !settings.hideIdentical || localDate.isSome || remoteDate.isSome ||
          localFile.name == wide ".." then
        some (.normal, .normal)
      else
        none

/-- Neither file list sets the path of an entry. -/
def compareEntries (localFile remoteFile : Entry Time) : Ordering :=
  compareFiles settings.toSortOptions [] localFile.name [] remoteFile.name
    localFile.dir remoteFile.dir

def compareAddFile (localItem remoteItem : Item Time)
    (rest : List (Item Time) × List (Item Time)) : List (Item Time) × List (Item Time) :=
  (localItem :: rest.1, remoteItem :: rest.2)

def compareListings : List (Entry Time) → List (Entry Time) → List (Item Time) × List (Item Time)
  | [], [] => ([], [])
  | localFile :: locals, [] =>
    compareAddFile (.file localFile .lonely) .fill (compareListings locals [])
  | [], remoteFile :: remotes =>
    compareAddFile .fill (.file remoteFile .lonely) (compareListings [] remotes)
  | localFile :: locals, remoteFile :: remotes =>
    match compareEntries settings localFile remoteFile with
    | .eq =>
      match compareFlags settings localFile remoteFile with
      | some (localFlag, remoteFlag) =>
        compareAddFile (.file localFile localFlag) (.file remoteFile remoteFlag)
          (compareListings locals remotes)
      | none => compareListings locals remotes
    | .lt =>
      compareAddFile (.file localFile .lonely) .fill
        (compareListings locals (remoteFile :: remotes))
    | .gt =>
      compareAddFile .fill (.file remoteFile .lonely)
        (compareListings (localFile :: locals) remotes)
termination_by locals remotes => locals.length + remotes.length

end ListingComparison

end FileZilla
