import FileZilla.Quoting
import FileZilla.Utf8
import FileZilla.Engine.Aio
import FileZilla.Engine.EnginePrivate
import FileZilla.Engine.ServerPath

namespace FileZilla.Storj

/-! The operations of `CStorjControlSocket` as far as they send: what each `Send` writes to the
`fzstorj` process. -/

def newline : WChar := 10

def carriageReturn : WChar := 13

def quotationMark : WChar := 34

def quoteFilename (filename : WString) : WString :=
  Quoting.quoted quotationMark filename

abbrev Written := Reply × Bytes

def addToStream (cmd : WString) : Written :=
  let str := toUtf8Bytes cmd
  if str.isEmpty then (.error, []) else (.wouldBlock, str)

def sendCommand (cmd : WString) : Written :=
  if newline ∈ cmd ∨ carriageReturn ∈ cmd then
    (.internalError, [])
  else
    addToStream (cmd ++ [newline])

/-- What the rest of the engine and the system give a `Send` -/
structure SendEnvironment where
  bufferPool : Bool := true
  spawned : Bool := true
  threadStarted : Bool := true
  opLock : Bool := true
  lockWaiting : Bool := false
  /-- The cache has got a listing since the lock was asked for. -/
  listingCached : Bool := false
  needsListing : Bool := false
  checkOverwriteFile : Reply := .ok
  /-- The writer of a download, or the reader of an upload -/
  opened : Bool := true
  memoryHandle : Int := 0
  memorySize : Nat := 0
  offset : Nat := 0

inductive ConnectState
  | init
  | host
  | user
  | pass
  deriving DecidableEq

structure ConnectOpData where
  opState : ConnectState := .init
  /-- The server in the format `with_port` -/
  host : WString
  user : WString
  pass : WString

inductive ListState
  | init
  | waitlock
  | list
  deriving DecidableEq

structure ListOpData where
  opState : ListState := .init
  path : CServerPath

inductive DeleteState
  | init
  | resolve
  | delete
  deriving DecidableEq

structure DeleteOpData where
  opState : DeleteState := .init
  path : CServerPath
  files : List WString
  deleteFailed : Bool := false

inductive MkdState
  | init
  | mkbucket
  | put
  deriving DecidableEq

structure MkdirOpData where
  opState : MkdState := .init
  path : CServerPath

inductive RmdState
  | init
  | rmbucket
  | rmdir
  deriving DecidableEq

structure RemoveDirOpData where
  opState : RmdState := .init
  path : CServerPath

inductive FileTransferState
  | init
  | checkfileexists
  | waitfileexists
  | delete
  | transfer
  deriving DecidableEq

structure FileTransferOpData where
  opState : FileTransferState := .init
  download : Bool
  remotePath : CServerPath
  remoteFile : WString
  localName : WString

inductive Operation
  | connect (data : ConnectOpData)
  | list (data : ListOpData)
  | delete (data : DeleteOpData)
  | mkdir (data : MkdirOpData)
  | removeDir (data : RemoveDirOpData)
  | transfer (data : FileTransferOpData)

structure Sent where
  reply : Reply
  written : Bytes := []
  op : Operation

def rootPath : CServerPath where
  data := some { segments := [], pathPrefix := none }
  type := .unix

def getFirstSegment (path : CServerPath) : WString :=
  if path.empty || !path.hasParent then [] else path.segments.headD []

def finish (op : Operation) (written : Written) : Sent :=
  { reply := written.1, written := written.2, op }

def ConnectOpData.send (self : ConnectOpData) (env : SendEnvironment) : Sent :=
  let op := Operation.connect self
  match self.opState with
  | .init =>
    if !env.bufferPool then
      { reply := .internalError ||| .disconnected, op }
    else if !env.spawned then
      { reply := .error ||| .disconnected, op }
    else if !env.threadStarted then
      { reply := .error ||| .disconnected, op }
    else
      { reply := .wouldBlock, op }
  | .host => finish op (sendCommand (wide "host " ++ self.host))
  | .user => finish op (sendCommand (wide "key " ++ self.user))
  | .pass =>
    if self.pass.isEmpty then
      { reply := .error ||| .disconnected, op }
    else
      finish op (sendCommand (wide "pass " ++ self.pass))

def ListOpData.send (self : ListOpData) (env : SendEnvironment) : Sent :=
  match self.opState with
  | .init =>
    let path := if self.path.empty then rootPath else self.path
    if env.lockWaiting then
      { reply := .wouldBlock, op := .list { path, opState := .waitlock } }
    else
      { reply := .continued, op := .list { path, opState := .list } }
  | .waitlock =>
    if !env.opLock then
      { reply := .internalError, op := .list self }
    else if env.listingCached then
      { reply := .ok, op := .list self }
    else
      { reply := .continued, op := .list { self with opState := .list } }
  | .list => finish (.list self) (sendCommand (wide "list " ++ quoteFilename self.path.getPath))

def DeleteOpData.send (self : DeleteOpData) : Sent :=
  match self.opState with
  | .init =>
    if self.files.isEmpty then
      { reply := .criticalError, op := .delete self }
    else
      { reply := .continued, op := .delete { self with opState := .delete } }
  | .delete =>
    match self.files.getLast? with
    | none => { reply := if self.deleteFailed then .error else .ok, op := .delete self }
    | some file =>
      finish (.delete self)
        (sendCommand (wide "rm " ++ quoteFilename (self.path.formatFilename file)))
  | .resolve => { reply := .internalError, op := .delete self }

def MkdirOpData.send (self : MkdirOpData) : Sent :=
  match self.opState with
  | .init =>
    if self.path.segments.length < 1 then
      { reply := .criticalError, op := .mkdir self }
    else
      { reply := .continued, op := .mkdir { self with opState := .mkbucket } }
  | .mkbucket =>
    finish (.mkdir self)
      (sendCommand (wide "mkbucket " ++ quoteFilename (getFirstSegment self.path)))
  | .put => finish (.mkdir self) (sendCommand (wide "mkd " ++ quoteFilename self.path.getPath))

def RemoveDirOpData.send (self : RemoveDirOpData) : Sent :=
  match self.opState with
  | .init =>
    if self.path.segments.length < 1 then
      { reply := .criticalError, op := .removeDir self }
    else if self.path.segments.length = 1 then
      { reply := .continued, op := .removeDir { self with opState := .rmbucket } }
    else
      { reply := .continued, op := .removeDir { self with opState := .rmdir } }
  | .rmbucket =>
    finish (.removeDir self)
      (sendCommand (wide "rmbucket " ++ quoteFilename (getFirstSegment self.path)))
  | .rmdir =>
    finish (.removeDir self) (sendCommand (wide "rmd " ++ quoteFilename self.path.getPath))

def FileTransferOpData.command (self : FileTransferOpData) : WString :=
  let remote := quoteFilename (self.remotePath.formatFilename self.remoteFile)
  if self.download then
    wide "get " ++ remote ++ wide " " ++ quoteFilename self.localName
  else
    wide "put " ++ quoteFilename self.localName ++ wide " " ++ remote

def memoryArguments (env : SendEnvironment) : Bytes :=
  asciiBytes (" " ++ toString env.memoryHandle ++ " " ++ toString env.memorySize ++ " " ++
    toString env.offset) ++ [10]

def FileTransferOpData.send (self : FileTransferOpData) (env : SendEnvironment) : Sent :=
  match self.opState with
  | .init =>
    if self.remotePath.segments.length = 0 then
      { reply := .criticalError ||| .notSupported, op := .transfer self }
    else if env.needsListing then
      { reply := .continued, op := .transfer self }
    else
      { reply := .continued, op := .transfer { self with opState := .checkfileexists } }
  | .checkfileexists =>
    if env.checkOverwriteFile ≠ .ok then
      { reply := env.checkOverwriteFile
        op := .transfer { self with opState := .waitfileexists } }
    else
      { reply := .continued, op := .transfer { self with opState := .transfer } }
  | .waitfileexists =>
    { reply := .continued, op := .transfer { self with opState := .transfer } }
  | .transfer =>
    if !env.opened then
      { reply := .criticalError, op := .transfer self }
    else
      -- the result of neither part is looked at
      { reply := .wouldBlock
        written := (addToStream self.command).2 ++ memoryArguments env
        op := .transfer self }
  | .delete => { reply := .internalError, op := .transfer self }

def Operation.send (self : Operation) (env : SendEnvironment) : Sent :=
  match self with
  | .connect data => data.send env
  | .list data => data.send env
  | .delete data => data.send
  | .mkdir data => data.send
  | .removeDir data => data.send
  | .transfer data => data.send env

def Operation.requests : Operation → Bool
  | .connect data => data.opState ≠ .init
  | .list data => data.opState = .list
  | .delete data => data.opState = .delete && !data.files.isEmpty
  | .mkdir data => data.opState ≠ .init
  | .removeDir data => data.opState ≠ .init
  | .transfer data => data.opState = .transfer

def Operation.names : Operation → Option (List WString)
  | .connect _ => none
  | .list data => some [data.path.getPath]
  | .delete data => data.files.getLast?.map fun file => [data.path.formatFilename file]
  | .mkdir data =>
    if data.opState = .mkbucket then some [getFirstSegment data.path]
    else some [data.path.getPath]
  | .removeDir data =>
    if data.opState = .rmbucket then some [getFirstSegment data.path]
    else some [data.path.getPath]
  | .transfer data =>
    let remote := data.remotePath.formatFilename data.remoteFile
    if data.download then some [remote, data.localName] else some [data.localName, remote]

def OneLine (written : Bytes) (names : Option (List WString)) : Prop :=
  ∃ line, written = line ++ [10] ∧ 10 ∉ line ∧ 13 ∉ line ∧
    ∀ expected, names = some expected →
      Quoting.quotedTexts (34 : UInt8) line = expected.map toUtf8Bytes

/-- Where a command is due one line is written, or the operation fails without writing. -/
def Operation.RequestIsOneLine (self : Operation) (env : SendEnvironment) : Prop :=
  let sent := self.send env
  if self.requests then
    OneLine sent.written self.names ∨ sent.written = [] ∧ sent.reply &&& .error ≠ 0
  else
    sent.written = []

structure CleanName (name : WString) : Prop where
  unicode : name.all isScalar = true
  newline : newline ∉ name
  carriageReturn : carriageReturn ∉ name

/-- A transfer that has its file open has names without line breaks, in Unicode. -/
def Operation.TransfersCleanNames (self : Operation) (env : SendEnvironment) : Prop :=
  ∀ data, self = .transfer data → data.opState = .transfer → env.opened = true →
    CleanName (data.remotePath.formatFilename data.remoteFile) ∧ CleanName data.localName

end FileZilla.Storj
