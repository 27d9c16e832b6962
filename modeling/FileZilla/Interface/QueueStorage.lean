import FileZilla.Interface.Queue

namespace FileZilla

universe u

namespace QueueStorage

/-- `transfer_flags`; the lowest bits belong to the queue. -/
abbrev TransferFlags := BitVec 16

namespace TransferFlags

def download : TransferFlags := 0x10

/-- `queue_flags::queued` -/
def queued : TransferFlags := 0x01

/-- `queue_flags::mask` -/
def mask : TransferFlags := 0x0f

def has (flags flag : TransferFlags) : Bool :=
  flags &&& flag ≠ 0

def without (flags removed : TransferFlags) : TransferFlags :=
  flags &&& ~~~removed

end TransferFlags

inductive OverwriteAction
  | unknown
  | ask
  | overwrite
  | overwriteNewer
  | overwriteSize
  | overwriteSizeOrNewer
  | resume
  | rename
  | skip
  deriving DecidableEq

namespace OverwriteAction

def all : List OverwriteAction :=
  [.unknown, .ask, .overwrite, .overwriteNewer, .overwriteSize, .overwriteSizeOrNewer, .resume,
    .rename, .skip]

def value (action : OverwriteAction) : Int :=
  (action.ctorIdx : Int) - 1

end OverwriteAction

/-- The data of a `CFileItem`, or of a `CFolderItem`, that the storage knows about -/
structure FileItem where
  folder : Bool := false
  flags : TransferFlags
  sourceFile : WString := []
  targetFile : WString := []
  extraFlags : WString := []
  persistentState : List UInt8 := []
  localPath : WString := []
  remotePath : CServerPath := CServerPath.none
  size : Int := -1
  errorCount : BitVec 8 := 0
  priority : QueuePriority := .normal
  defaultFileExistsAction : OverwriteAction := .unknown
  edit : Bool := false

def downloadFolder (queued : Bool) (localPath : WString) : FileItem :=
  { folder := true
    flags := .download ||| if queued then .queued else 0
    localPath }

def uploadFolder (queued : Bool) (remotePath : CServerPath) (remoteFile : WString) : FileItem :=
  { folder := true
    flags := if queued then .queued else 0
    targetFile := remoteFile
    remotePath }

def FileItem.download (item : FileItem) : Bool :=
  item.flags.has .download

structure PathTable where
  rows : List (Int × WString) := []
  next : Int := 1
  cache : List (WString × Int) := []

/-- `SaveLocalPath`, `SaveRemotePath` -/
def PathTable.save (table : PathTable) (path : WString) : Int × PathTable :=
  match table.cache.lookup path with
  | some id => (id, table)
  | none =>
    (table.next,
      { rows := table.rows ++ [(table.next, path)]
        next := table.next + 1
        cache := (path, table.next) :: table.cache })

/-- `ReadLocalPaths` or `ReadRemotePaths`, and the path found for an id then -/
def PathTable.get {Path : Type u} (table : PathTable) (setPath : WString → Option Path)
    (id : Int) : Option Path :=
  (table.rows.reverse.filterMap fun row =>
    if row.1 > 0 && !row.2.isEmpty then (setPath row.2).map fun path => (row.1, path)
    else none).lookup id

structure FileRow where
  server : Option Int := none
  sourceFile : Option WString := none
  targetFile : Option WString := none
  localPath : Option Int := none
  remotePath : Option Int := none
  size : Option Int := none
  errorCount : Option Int := none
  priority : Option Int := none
  flags : Option Int := none
  defaultExistsAction : Option Int := none
  extraFlags : Option WString := none
  persistentState : Option (List UInt8) := none

structure Storage where
  localPaths : PathTable := {}
  remotePaths : PathTable := {}
  files : List FileRow := []
  nextServer : Int := 1
  insertFile : FileRow := {}

structure PathText where
  setLocalPath : WString → Option WString
  getSafePath : CServerPath → WString
  setSafePath : WString → Option CServerPath

def bindText {Element : Type u} (text : List Element) : Option (List Element) :=
  if text.isEmpty then none else some text

variable (text : PathText) (self : Storage)

def saveFile (file : FileItem) : Storage :=
  if file.edit then self
  else
    let (localPathId, localPaths) := self.localPaths.save file.localPath
    let (remotePathId, remotePaths) := self.remotePaths.save (text.getSafePath file.remotePath)
    let row : FileRow :=
      { self.insertFile with
        sourceFile := some file.sourceFile
        targetFile := bindText file.targetFile
        extraFlags := bindText file.extraFlags
        persistentState := bindText file.persistentState
        localPath := some localPathId
        remotePath := some remotePathId
        size := if file.size ≠ -1 then some file.size else none
        errorCount := if file.errorCount ≠ 0 then some file.errorCount.toNat else none
        priority := some file.priority.value
        flags := some (file.flags.without .mask).toNat
        defaultExistsAction :=
          if file.defaultFileExistsAction ≠ .unknown then some file.defaultFileExistsAction.value
          else none }
    { self with localPaths, remotePaths, insertFile := row, files := self.files ++ [row] }

/-- The columns for extra flags and the persistent state are not bound. -/
def saveDirectory (directory : FileItem) : Storage :=
  let (localPathId, localPaths) :=
    if directory.download then self.localPaths.save directory.localPath
    else (-1, self.localPaths)
  let (remotePathId, remotePaths) :=
    if directory.download then (-1, self.remotePaths)
    else self.remotePaths.save (text.getSafePath directory.remotePath)
  let row : FileRow :=
    { self.insertFile with
      sourceFile := if directory.download then none else some directory.sourceFile
      targetFile := none
      localPath := some localPathId
      remotePath := some remotePathId
      size := none
      errorCount := if directory.errorCount ≠ 0 then some directory.errorCount.toNat else none
      priority := some directory.priority.value
      flags := some (directory.flags.without .mask).toNat
      defaultExistsAction := none }
  { self with localPaths, remotePaths, insertFile := row, files := self.files ++ [row] }

def saveItem (item : FileItem) : Storage :=
  if item.folder then saveDirectory text self item else saveFile text self item

/-- `SaveServer` as far as the files are concerned -/
def saveServer (items : List FileItem) : Storage :=
  items.foldl (saveItem text)
    { self with
      nextServer := self.nextServer + 1
      insertFile := { self.insertFile with server := some self.nextServer } }

def clearCaches : Storage :=
  { self with
    localPaths := { self.localPaths with cache := [] }
    remotePaths := { self.remotePaths with cache := [] } }

def saveQueue (queue : List (List FileItem)) : Storage :=
  clearCaches (queue.foldl (saveServer text) (clearCaches self))

def priorityOf (value : Int) : Option QueuePriority :=
  QueuePriority.all.find? fun priority => (priority.value : Int) = value

def actionOf (value : Int) : OverwriteAction :=
  if 0 < value then
    (OverwriteAction.all.find? fun action => action.value = value).getD .unknown
  else .unknown

/-- `ParseFileFromRow`; none for invalid data. A column that is NULL reads as empty, as 0, or as
the default that is given. -/
def parseFileFromRow (row : FileRow) : Option FileItem :=
  let sourceFile := row.sourceFile.getD []
  let localPathId := row.localPath.getD 0
  let remotePathId := row.remotePath.getD 0
  let localPath := self.localPaths.get text.setLocalPath localPathId
  let remotePath := self.remotePaths.get text.setSafePath remotePathId
  let flags : TransferFlags := BitVec.ofInt 16 (row.flags.getD 0)
  if localPathId = -1 || remotePathId = -1 then
    if flags.has .download then localPath.map (downloadFolder true)
    else remotePath.map fun path => uploadFolder true path sourceFile
  else
    let size := row.size.getD 0
    match localPath, remotePath, priorityOf (row.priority.getD QueuePriority.normal.value) with
    | some localPath, some remotePath, some priority =>
      if sourceFile.isEmpty || size < -1 then none
      else
        some
          { flags := flags ||| .queued
            sourceFile
            targetFile := row.targetFile.getD []
            extraFlags := row.extraFlags.getD []
            persistentState := row.persistentState.getD []
            localPath
            remotePath
            size
            errorCount := BitVec.ofInt 8 (row.errorCount.getD 0)
            priority
            defaultFileExistsAction :=
              actionOf (row.defaultExistsAction.getD OverwriteAction.unknown.value) }
    | _, _, _ => none

def getFiles (server : Int) : List FileItem :=
  (self.files.filter fun row => row.server = some server).filterMap (parseFileFromRow text self)

end QueueStorage

end FileZilla
