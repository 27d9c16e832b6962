import FileZilla.CommonUi.RemoteRecursiveOperation

namespace FileZilla

universe u

/-! The recursive operation on local directories: a thread that lists queued directories and
queues what it finds in them. -/

structure LocalNewDir where
  localPath : WString
  remotePath : CServerPath := CServerPath.none
  recurse : Bool := true

structure LocalRecursionRoot where
  dirsToVisit : List LocalNewDir := []

/-- What `get_next_file` returns -/
structure FoundFile (Time : Type u) where
  name : List UInt8
  isLink : Bool := false
  isDir : Bool := false
  size : Int := -1
  time : Option Time := none
  attributes : Int := 0
  deriving DecidableEq

structure LocalEntry (Time : Type u) where
  name : WString
  size : Int
  time : Option Time
  attributes : Int
  isDir : Bool
  isLink : Bool

structure LocalListing (Time : Type u) where
  files : List (LocalEntry Time) := []
  dirs : List (LocalEntry Time) := []
  localPath : WString := []
  remotePath : CServerPath := CServerPath.none

/-- `filter_manager::FilenameFiltered` with the active local filters -/
abbrev LocalFilters (Time : Type u) :=
  (name path : WString) → (dir : Bool) → (size attributes : Int) → (date : Option Time) → Bool

/-- The file system and the conversion of its names: what is found in the directory that a path
stands for, unless it cannot be opened, and `fz::to_wstring`, which is empty for a name that it
cannot convert. -/
structure LocalFilesys (Time : Type u) where
  findFiles : WString → Option (List (FoundFile Time))
  toWstring : List UInt8 → WString

/-- `listedDirectories` holds every listing appended so far, also those handed over already. -/
structure LocalRecursiveOperation (Time : Type u) where
  recursionRoots : List LocalRecursionRoot := []
  operationMode : OperationMode := .none
  filters : LocalFilters Time := fun _ _ _ _ _ _ => false
  ignoreLinks : Bool := true
  listedDirectories : List (LocalListing Time) := []

namespace LocalRecursiveOperation

variable {Time : Type u}

def batchSize : Nat := 5000

def remoteSub (mode : OperationMode) (remotePath : CServerPath) (name : WString) : CServerPath :=
  if !remotePath.empty && mode = .transfer then (remotePath.addSegment name).getD remotePath
  else remotePath

def subdirs (mode : OperationMode) (d : LocalListing Time) : List LocalNewDir :=
  d.dirs.map fun entry =>
    { localPath := CLocalPath.addSegment d.localPath entry.name
      remotePath := remoteSub mode d.remotePath entry.name }

variable (self : LocalRecursiveOperation Time)

def enqueueEnumeratedListing (d : LocalListing Time)
    (recurse : Bool) : LocalRecursiveOperation Time :=
  match self.recursionRoots with
  | [] => self
  | root :: roots =>
    { self with
      recursionRoots := (if recurse then
          { dirsToVisit := root.dirsToVisit ++ subdirs self.operationMode d }
        else root) :: roots
      listedDirectories := self.listedDirectories ++ [d] }

def toEntry (toWstring : List UInt8 → WString)
    (path : WString) (file : FoundFile Time) : Option (LocalEntry Time) :=
  if file.isLink && self.ignoreLinks then none
  else
    let name := toWstring file.name
    if self.filters name path file.isDir file.size file.attributes file.time then none
    else
      some
        { name, size := file.size, time := file.time, attributes := file.attributes
          isDir := file.isDir, isLink := file.isLink }

def addEntry (d : LocalListing Time) (entry : LocalEntry Time) : LocalListing Time :=
  if entry.isDir then { d with dirs := d.dirs ++ [entry] }
  else { d with files := d.files ++ [entry] }

structure Enumeration (Time : Type u) where
  operation : LocalRecursiveOperation Time
  d : LocalListing Time
  sentPartial : Bool := false

def enumerateFile (toWstring : List UInt8 → WString) (recurse : Bool)
    (enumeration : Enumeration Time) (file : FoundFile Time) : Enumeration Time :=
  match enumeration.operation.toEntry toWstring enumeration.d.localPath file with
  | none => enumeration
  | some entry =>
    let d := addEntry enumeration.d entry
    if d.files.length + d.dirs.length ≥ batchSize then
      { operation := enumeration.operation.enqueueEnumeratedListing d recurse
        d := { localPath := d.localPath, remotePath := d.remotePath }
        sentPartial := true }
    else { enumeration with d := d }

def visit (filesys : LocalFilesys Time)
    (dir : LocalNewDir) : LocalRecursiveOperation Time :=
  let enumeration := ((filesys.findFiles dir.localPath).getD []).foldl
    (enumerateFile filesys.toWstring dir.recurse)
    { operation := self
      d := { localPath := dir.localPath, remotePath := dir.remotePath } }
  if !enumeration.sentPartial || !enumeration.d.files.isEmpty || !enumeration.d.dirs.isEmpty then
    enumeration.operation.enqueueEnumeratedListing enumeration.d dir.recurse
  else enumeration.operation

/-- The body of the outer loop; none when there are no recursion roots any more. -/
def visitNext (filesys : LocalFilesys Time) :
    Option (LocalRecursiveOperation Time) :=
  match self.recursionRoots with
  | [] => none
  | root :: roots =>
    match root.dirsToVisit with
    | [] => some { self with recursionRoots := roots }
    | dir :: dirs =>
      some ({ self with
        recursionRoots := { dirsToVisit := dirs } :: roots }.visit filesys dir)

/-- `thread_entry` for a number of rounds; none where it needs more of them. -/
def threadEntry (filesys : LocalFilesys Time) :
    Nat → LocalRecursiveOperation Time → Option (LocalRecursiveOperation Time)
  | 0, _ => none
  | rounds + 1, operation =>
    match operation.visitNext filesys with
    | none => some { operation with
        listedDirectories := operation.listedDirectories ++ [{}] }
    | some next => threadEntry filesys rounds next

end LocalRecursiveOperation

end FileZilla
