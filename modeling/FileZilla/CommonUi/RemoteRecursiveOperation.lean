import FileZilla.Runs
import FileZilla.Engine.DirectoryListing

namespace FileZilla

universe u

/-! The recursive operations on remote directories: a list of directories to
visit for each recursion root, worked off by list commands. -/

inductive OperationMode
  | none
  | transfer
  | transferFlatten
  | delete
  | chmod
  | list
  deriving DecidableEq

inductive LinkKind
  | notLink
  | discovered
  | queued
  deriving DecidableEq

structure NewDir where
  parent : CServerPath
  subdir : WString := []
  localDir : WString := []
  restricted : Option WString := none
  startDir : CServerPath := CServerPath.none
  link : LinkKind := .notLink
  doVisit : Bool := true
  recurse : Bool := true
  secondTry : Bool := false

structure RecursionRoot where
  remoteStartDir : CServerPath
  allowParent : Bool
  visitedDirs : List CServerPath := []
  dirsToVisit : List NewDir := []

namespace RecursionRoot

def addDirToVisit (root : RecursionRoot) (path : CServerPath) (subdir : WString)
    (localDir : WString := []) (isLink : Bool := false) (recurse : Bool := true) :
    RecursionRoot :=
  { root with
    dirsToVisit := root.dirsToVisit ++
      [{ parent := path
         subdir
         localDir
         link := if isLink then .queued else .notLink
         recurse }] }

def addDirToVisitRestricted (root : RecursionRoot) (path : CServerPath)
    (restricted : WString) (recurse : Bool) : RecursionRoot :=
  { root with
    dirsToVisit := root.dirsToVisit ++
      [{ parent := path
         recurse
         restricted := if restricted.isEmpty then none else some restricted }] }

def empty (root : RecursionRoot) : Bool :=
  root.dirsToVisit.isEmpty || root.remoteStartDir.empty

end RecursionRoot

/-- `std::set<CServerPath>::insert`: the set, and whether the path is new. -/
def insertVisited (visited : List CServerPath) (path : CServerPath) :
    List CServerPath × Bool :=
  if visited.any fun other => compareOfLess CServerPath.less other path == .eq then
    (visited, false)
  else
    (path :: visited, true)

/-- The permissions are computed by `ChmodData::Apply` and written in octal. -/
structure ChmodData where
  applyFiles : Bool := true
  applyDirs : Bool := true
  apply : (old : WString) → (dir : Bool) → WString

/-- `filter_manager::FilenameFiltered` with the active remote filters. -/
abbrev ActiveFilters (Time : Type u) :=
  (name path : WString) → (dir : Bool) → (size : Int) → (date : Option Time) → Bool

inductive RecursiveOutput
  | list (path : CServerPath) (subdir : WString) (refresh link : Bool)
  | removeDir (path : CServerPath) (subdir : WString)
  | delete (path : CServerPath) (files : List WString)
  | chmod (path : CServerPath) (file permissions : WString)
  | handleFile (sourceFile localPath : WString) (remotePath : CServerPath) (size : Int)
  | handleEmptyDirectory (localPath : WString)
  | handleInvalidDirLink (sourceFile localPath : WString) (remotePath : CServerPath)
  | handleDirListingEnd
  | handleListingFailed
  | operationFinished

structure RemoteRecursiveOperation (Time : Type u) where
  recursionRoots : List RecursionRoot := []
  operationMode : OperationMode := .none
  chmodData : Option ChmodData := none
  filters : ActiveFilters Time := fun _ _ _ _ _ => false
  refresh : Bool := false
  failed : Bool := false
  processedFiles : Nat := 0
  processedDirectories : Nat := 0

namespace CLocalPath

def addSegment (path segment : WString) : WString :=
  if segment.isEmpty then path else path ++ segment ++ wide "/"

/-- A path that has no parent is left as it is. -/
def makeParent (path : WString) : WString :=
  let parent := path.dropLast.reverse.dropWhile (· ≠ '/'.toNat)
  if parent.isEmpty then path else parent.reverse

end CLocalPath

namespace RemoteRecursiveOperation

variable {Time : Type u}

/-- `FZ_REPLY_CANCELED` and `FZ_REPLY_CRITICALERROR` share the error bit. -/
def isCanceled (error : Nat) : Bool :=
  error &&& 0x000a == 0x000a

def isCritical (error : Nat) : Bool :=
  error &&& 0x0006 == 0x0006

variable (self : RemoteRecursiveOperation Time)

def addRecursionRoot (root : RecursionRoot) :
    RemoteRecursiveOperation Time :=
  if root.empty then self
  else { self with recursionRoots := self.recursionRoots ++ [root] }

def stopRecursiveOperation :
    RemoteRecursiveOperation Time :=
  { self with operationMode := .none, recursionRoots := [], chmodData := none }

/-- The inner loop of `NextOperation`: what was visited for deletion is removed. -/
def nextDir (mode : OperationMode) (refresh : Bool) :
    List NewDir → List NewDir × List RecursiveOutput
  | [] => ([], [])
  | dir :: rest =>
    if mode = .delete ∧ !dir.doVisit ∧ dir.recurse then
      let (dirs, outputs) := nextDir mode refresh rest
      (dirs, .removeDir dir.parent dir.subdir :: outputs)
    else
      (dir :: rest, [.list dir.parent dir.subdir refresh (dir.link ≠ .notLink)])

def nextRoot (mode : OperationMode) (refresh : Bool) :
    List RecursionRoot → List RecursionRoot × List RecursiveOutput
  | [] => ([], [])
  | root :: rest =>
    let (dirs, outputs) := nextDir mode refresh root.dirsToVisit
    if dirs.isEmpty then
      let (roots, later) := nextRoot mode refresh rest
      (roots, outputs ++ later)
    else
      ({ root with dirsToVisit := dirs } :: rest, outputs)

def nextOperation :
    RemoteRecursiveOperation Time × List RecursiveOutput :=
  if self.operationMode = .none then
    (self, [])
  else
    let (roots, outputs) := nextRoot self.operationMode self.refresh self.recursionRoots
    if roots.isEmpty then
      (self.stopRecursiveOperation, outputs ++ [.operationFinished])
    else
      ({ self with recursionRoots := roots }, outputs)

def startRecursiveOperation (mode : OperationMode)
    (filters : ActiveFilters Time) (refresh : Bool) :
    RemoteRecursiveOperation Time × List RecursiveOutput :=
  let self := { self with failed := false }
  if self.operationMode ≠ .none then
    (self, [])
  else if mode = .chmod ∧ self.chmodData.isNone then
    (self, [])
  else if self.recursionRoots.isEmpty then
    (self, [])
  else
    nextOperation
      { self with
        processedFiles := 0
        processedDirectories := 0
        operationMode := mode
        refresh
        filters }

/-- Whether the listed path may be worked on, and the directory, which may become
a start directory of its own. -/
def belowRecursionRoot (root : RecursionRoot) (path : CServerPath) (dir : NewDir) :
    Bool × NewDir :=
  if !dir.startDir.empty then
    (path.isSubdirOf dir.startDir, dir)
  else if path.isSubdirOf root.remoteStartDir then
    (true, dir)
  else if path.equal root.remoteStartDir && root.allowParent then
    (true, dir)
  else if dir.link = .queued then
    (true, { dir with startDir := path })
  else
    (false, dir)

/-- What the loop of `process_entries` has collected. -/
structure EntriesProgress where
  dirsToVisit : List NewDir
  filesToDelete : List WString := []
  outputs : List RecursiveOutput := []
  processedFiles : Nat

def skipped (filters : ActiveFilters Time) (dir : NewDir) (remotePath : WString)
    (entry : CDirentry Time) : Bool :=
  match dir.restricted with
  | some restricted => entry.name != restricted
  | none => filters entry.name remotePath entry.isDir entry.size entry.time

def entryDir (sanitizeFilename : WString → WString) (mode : OperationMode)
    (path : CServerPath) (dir : NewDir) (entry : CDirentry Time) : NewDir :=
  { parent := path
    subdir := entry.name
    localDir :=
      if mode = .transfer then
        CLocalPath.addSegment dir.localDir (sanitizeFilename entry.name)
      else
        dir.localDir
    startDir := dir.startDir
    link := if entry.isLink then .discovered else .notLink
    recurse := !entry.isLink }

def chmodEntry (mode : OperationMode) (chmodData : Option ChmodData) (path : CServerPath)
    (entry : CDirentry Time) : List RecursiveOutput :=
  match mode, chmodData with
  | .chmod, some data =>
    if (!entry.isDir && data.applyFiles) || (entry.isDir && data.applyDirs) then
      [.chmod path entry.name (data.apply entry.permissions entry.isDir)]
    else
      []
  | _, _ => []

def processEntry (sanitizeFilename : WString → WString)
    (self : RemoteRecursiveOperation Time) (path : CServerPath) (dir : NewDir)
    (progress : EntriesProgress) (entry : CDirentry Time) : EntriesProgress :=
  if skipped self.filters dir path.getPath entry then
    progress
  else
    let counted : EntriesProgress :=
      { progress with
        processedFiles := progress.processedFiles + if entry.isDir then 0 else 1 }
    let handled : EntriesProgress :=
      if entry.isDir && (!entry.isLink || self.operationMode ≠ .delete) then
        if dir.recurse then
          { counted with
            dirsToVisit := entryDir sanitizeFilename self.operationMode path dir entry ::
                counted.dirsToVisit }
        else
          counted
      else
        match self.operationMode with
        | .transfer | .transferFlatten =>
          { counted with
            outputs := counted.outputs ++
              [.handleFile entry.name dir.localDir path entry.size] }
        | .delete => { counted with filesToDelete := counted.filesToDelete ++ [entry.name] }
        | _ => counted
    { handled with
      outputs := handled.outputs ++
        chmodEntry self.operationMode self.chmodData path entry }

def processEntries (sanitizeFilename : WString → WString)
    (self : RemoteRecursiveOperation Time) (listing : CDirectoryListing Time)
    (dirsToVisit : List NewDir) (dir : NewDir) : EntriesProgress :=
  let progress := listing.entries.reverse.foldl
    (processEntry sanitizeFilename self listing.path dir)
    { dirsToVisit, processedFiles := self.processedFiles }
  if self.operationMode = .delete ∧ !progress.filesToDelete.isEmpty then
    { progress with
      outputs := progress.outputs ++ [.delete listing.path progress.filesToDelete] }
  else
    progress

def removeLater (mode : OperationMode) (dir : NewDir) (rest : List NewDir) :
    List NewDir :=
  if mode = .delete ∧ dir.doVisit ∧ dir.recurse ∧ !dir.subdir.isEmpty then
    { dir with doVisit := false } :: rest
  else
    rest

def setFront (root : RecursionRoot)
    (roots : List RecursionRoot) (dirs : List NewDir) : RemoteRecursiveOperation Time :=
  { self with recursionRoots := { root with dirsToVisit := dirs } :: roots }

def andThen (outputs : List RecursiveOutput)
    (next : RemoteRecursiveOperation Time × List RecursiveOutput) :
    RemoteRecursiveOperation Time × List RecursiveOutput :=
  (next.1, outputs ++ next.2)

/-- `ProcessDirectoryListing` for a listing that did not fail. -/
def processListing (sanitizeFilename : WString → WString)
    (self : RemoteRecursiveOperation Time) (listing : CDirectoryListing Time)
    (root : RecursionRoot) (roots : List RecursionRoot) (dir : NewDir)
    (rest : List NewDir) : RemoteRecursiveOperation Time × List RecursiveOutput :=
  let (below, dir) := belowRecursionRoot root listing.path dir
  if !below then
    nextOperation (self.setFront root roots rest)
  else
    let dirs := removeLater self.operationMode dir rest
    if dir.link ≠ .notLink ∧ !dir.recurse then
      nextOperation (self.setFront root roots dirs)
    else
      let (visited, fresh) := insertVisited root.visitedDirs listing.path
      if !fresh then
        nextOperation (self.setFront root roots dirs)
      else
        let root := { root with visitedDirs := visited }
        let self := { self with processedDirectories := self.processedDirectories + 1 }
        if listing.entries.isEmpty ∧ self.operationMode = .transfer then
          andThen [.handleEmptyDirectory dir.localDir, .handleDirListingEnd]
            (nextOperation (self.setFront root roots dirs))
        else
          let progress := processEntries sanitizeFilename self listing dirs dir
          andThen (progress.outputs ++ [.handleDirListingEnd]) (nextOperation
              (setFront { self with processedFiles := progress.processedFiles } root roots
                progress.dirsToVisit))

def processDirectoryListing (sanitizeFilename : WString → WString)
    (self : RemoteRecursiveOperation Time) :
    Option (CDirectoryListing Time) → RemoteRecursiveOperation Time × List RecursiveOutput
  | none => (self.stopRecursiveOperation, [])
  | some listing =>
    match self.operationMode, self.recursionRoots with
    | .none, _ => (self, [])
    | _, [] => (self, [])
    | _, root :: roots =>
      if listing.failed then
        (self, [])
      else
        match root.dirsToVisit with
        | [] => (self.stopRecursiveOperation, [])
        | dir :: rest => processListing sanitizeFilename self listing root roots dir rest

def listingFailed (error : Nat) :
    RemoteRecursiveOperation Time × List RecursiveOutput :=
  let self := { self with failed := true }
  match self.operationMode, self.recursionRoots with
  | .none, _ => (self, [])
  | _, [] => (self, [])
  | _, root :: roots =>
    if isCanceled error then
      (self.stopRecursiveOperation, [])
    else
      match root.dirsToVisit with
      | [] => (self.stopRecursiveOperation, [])
      | dir :: rest =>
        if !isCritical error && !dir.secondTry then
          nextOperation (self.setFront root roots ({ dir with secondTry := true } :: rest))
        else
          andThen (if self.operationMode = .list then [.handleListingFailed] else [])
            (nextOperation (self.setFront root roots (removeLater self.operationMode dir rest)))

def linkIsNotDir (site : Bool) :
    RemoteRecursiveOperation Time × List RecursiveOutput :=
  match self.operationMode, self.recursionRoots with
  | .none, _ => (self, [])
  | _, [] => (self, [])
  | mode, root :: roots =>
    match root.dirsToVisit with
    | [] => (self.stopRecursiveOperation, [])
    | dir :: rest =>
      let outputs : List RecursiveOutput :=
        if !site then []
        else if mode = .delete then
          if dir.subdir.isEmpty then [] else [.delete dir.parent [dir.subdir]]
        else if mode ≠ .list then
          [.handleInvalidDirLink dir.subdir
            (if mode ≠ .transferFlatten then CLocalPath.makeParent dir.localDir
              else dir.localDir) dir.parent]
        else []
      andThen outputs (nextOperation (self.setFront root roots rest))

end RemoteRecursiveOperation

inductive RecursiveEvent (Time : Type u)
  | addRecursionRoot (root : RecursionRoot)
  | setChmodData (data : ChmodData)
  | start (mode : OperationMode) (filters : ActiveFilters Time) (refresh : Bool)
  | listing (listing : Option (CDirectoryListing Time))
  | listingFailed (error : Nat)
  | linkIsNotDir (site : Bool)
  | stop

variable {Time : Type u}

/-- What an event does and which commands and calls it causes. -/
def respond (sanitizeFilename : WString → WString) (self : RemoteRecursiveOperation Time) :
    RecursiveEvent Time → RemoteRecursiveOperation Time × List RecursiveOutput
  | .addRecursionRoot root => (self.addRecursionRoot root, [])
  | .setChmodData data => ({ self with chmodData := some data }, [])
  | .start mode filters refresh => self.startRecursiveOperation mode filters refresh
  | .listing listing => self.processDirectoryListing sanitizeFilename listing
  | .listingFailed error => self.listingFailed error
  | .linkIsNotDir site => self.linkIsNotDir site
  | .stop => (self.stopRecursiveOperation, [])

def recursiveStep (sanitizeFilename : WString → WString)
    (self : RemoteRecursiveOperation Time) (event : RecursiveEvent Time) :
    Option (RemoteRecursiveOperation Time) :=
  some (respond sanitizeFilename self event).1

end FileZilla
