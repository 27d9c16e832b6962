import FileZilla.Engine.DirectoryListing
import FileZilla.Engine.EnginePrivate
import FileZilla.Engine.Ftp.Logon

namespace FileZilla

namespace FtpTransfer

open Ftp (Capability FtpCommand TransferEndReason)

inductive FileTransferState
  | init
  | waitcwd
  | waitlist
  | size
  | mdtm
  | resumetest
  | transfer
  | waittransfer
  | waitresumetest
  | mfmt
  deriving DecidableEq

def nosize : UInt64 := 18446744073709551615

inductive TransferMode
  | download
  | upload
  | resumetest
  deriving DecidableEq

/-- The transfer socket that is set up for the next raw transfer, with the offset at which its
reader or writer has been opened. -/
structure TransferSetup where
  mode : TransferMode
  binaryMode : Bool := true
  offset : Option Int64 := none
  deriving DecidableEq

structure TransferCapabilities where
  resume2GBbug : Capability := .unknown
  resume4GBbug : Capability := .unknown
  sizeCommand : Capability := .unknown
  mdtmCommand : Capability := .unknown
  mfmtCommand : Capability := .unknown
  restStream : Capability := .unknown
  deriving DecidableEq

variable {Time : Type}

/-- The operation, with `m_pTransferSocket` of its control socket -/
structure CFtpFileTransferOpData (Time : Type) where
  opState : FileTransferState := .init
  download : Bool
  binary : Bool := true
  resume : Bool := false
  tryAbsolutePath : Bool := false
  fileDidExist : Bool := false
  remotePath : CServerPath
  remoteFile : WString
  localFileSize : UInt64 := nosize
  localFileTime : Option Time := none
  remoteFileSize : Int64 := -1
  remoteFileTime : Option Time := none
  resumeOffset : Int64 := 0
  transferEndReason : TransferEndReason := .successful
  transferSocket : Option TransferSetup := none
  deriving DecidableEq

structure FileTransferEnv (Time : Type) where
  /-- `size()` of the writer factory for downloads, of the reader factory for uploads -/
  localSize : UInt64 := nosize
  localTime : Option Time := none
  opens : Bool := true
  preallocateSpace : Bool := false
  preallocates : Bool := true
  preserveTimestamps : Bool := false
  converts : Bool := true
  currentPath : CServerPath := ⟨none, .unix⟩
  dirDidExist : Bool := false
  /-- What `LookupFile` finds, and whether the case of the name is the same -/
  found : Option (CDirentry Time × Bool) := none
  hasTime : Time → Bool := fun _ => false
  parseTime : WString → Option Time := fun _ => none
  formatTime : Time → WString := fun _ => []
  earlierThan : Time → Time → Bool := fun _ _ => false
  laterThan : Time → Time → Bool := fun _ _ => false

inductive FileTransferSub
  | changeDir (path : CServerPath)
  | list
  | transfer (command : FtpCommand)

/-- What a call returns, with the command that it sent, the operation that it pushed, and
whether it asks the user what to do about an existing file. -/
structure Handled (Time : Type) where
  reply : Reply
  op : CFtpFileTransferOpData Time
  capabilities : TransferCapabilities
  command : Option FtpCommand := none
  pushed : Option FileTransferSub := none
  asks : Bool := false

/-- The answer to a `CFileExistsNotification`, with what comes with a new name -/
inductive FileExistsAction
  | overwrite
  | overwriteNewer
  | overwriteSize
  | overwriteSizeOrNewer
  | resume
  | rename (newName : WString) (newWriter : Bool)
  | skip

namespace CFtpFileTransferOpData

variable (env : FileTransferEnv Time) (capabilities : TransferCapabilities)

def sendCommand (command : FtpCommand) (self : CFtpFileTransferOpData Time) : Handled Time :=
  { reply := if env.converts then .wouldBlock else .error
    op := self, capabilities, command := if env.converts then some command else none }

def startTransfer (command : FtpCommand) (self : CFtpFileTransferOpData Time) : Handled Time :=
  { reply := .continued
    op := { self with transferEndReason := .successful }
    capabilities, pushed := some (.transfer command) }

/-- What one round of the loop in `TestResumeCapability` comes to -/
inductive ResumeDecision
  | passes
  | ends (code : Reply)
  | tests

def resumeDecision (limit : UInt64) (capability : Capability) (localSize : UInt64)
    (remoteSize : Int64) : ResumeDecision :=
  if limit ≤ localSize then
    match capability with
    | .yes => if remoteSize.toUInt64 = localSize then .ends .ok else .ends .criticalError
    | .unknown =>
      if remoteSize.toUInt64 < localSize then .passes
      else if remoteSize.toUInt64 = localSize then .ends .ok
      else .tests
    | .no => .passes
  else .passes

variable (self : CFtpFileTransferOpData Time)

def resumeRounds : ResumeDecision :=
  match resumeDecision 4294967296 capabilities.resume4GBbug self.localFileSize
    self.remoteFileSize with
  | .passes =>
    resumeDecision 2147483648 capabilities.resume2GBbug self.localFileSize self.remoteFileSize
  | decided => decided

def retr : FtpCommand :=
  .retr self.remotePath self.remoteFile (!self.tryAbsolutePath)

def testResumeCapability : Handled Time :=
  if !self.download then { reply := .continued, op := self, capabilities }
  else
    match self.resumeRounds capabilities with
    | .passes => { reply := .continued, op := self, capabilities }
    | .ends code => { reply := code, op := self, capabilities }
    | .tests =>
      { self with
        opState := .waitresumetest
        resumeOffset := self.remoteFileSize - 1
        transferSocket := some { mode := .resumetest } }.startTransfer capabilities self.retr

/-- The rest of `Send` for a download, after the resume test -/
def startDownload : Handled Time :=
  let setup : TransferSetup := { mode := .download, binaryMode := self.binary }
  let op := { self with transferSocket := some setup }
  if !env.opens then { reply := .criticalError, op, capabilities }
  else if env.preallocateSpace ∧ 0 ≤ self.remoteFileSize ∧
      self.resumeOffset < self.remoteFileSize ∧ env.preallocates = false then
    { reply := .error, op, capabilities }
  else
    { self with
      opState := .waittransfer
      transferSocket := some { setup with offset := some self.resumeOffset } }.startTransfer
      capabilities self.retr

/-- What `Send` finds out about the local file. Without resuming, its size does not matter. -/
def asked : CFtpFileTransferOpData Time :=
  { self with
    transferSocket := none
    localFileSize := if self.resume then env.localSize else 0
    fileDidExist := env.localSize ≠ nosize
    resumeOffset := if self.resume ∧ env.localSize ≠ nosize then env.localSize.toInt64 else 0 }

def sendDownload : Handled Time :=
  let op := self.asked env
  if self.resume ∧ self.opState = .resumetest then
    let tested := op.testResumeCapability capabilities
    if tested.reply ≠ .continued ∨ tested.op.opState ≠ .resumetest then tested
    else tested.op.startDownload env tested.capabilities
  else op.startDownload env capabilities

/-- The rest of `Send` for an upload -/
def startUpload : Handled Time :=
  let setup : TransferSetup := { mode := .upload, binaryMode := self.binary }
  if !env.opens then
    { reply := .criticalError
      op := { self with transferSocket := some setup }
      capabilities }
  else
    let command : FtpCommand :=
      if self.resume ∧ self.resumeOffset ≠ 0 ∧ capabilities.restStream ≠ .yes then
        .appe self.remotePath self.remoteFile (!self.tryAbsolutePath)
      else .stor self.remotePath self.remoteFile (!self.tryAbsolutePath)
    { self with
      opState := .waittransfer
      transferSocket := some { setup with offset := some self.resumeOffset } }.startTransfer
      capabilities command

def sendUpload : Handled Time :=
  let op := { self with transferSocket := none, resumeOffset := 0 }
  if self.resume ∧ 0 < self.remoteFileSize then
    let op := { op with resumeOffset := self.remoteFileSize }
    if self.localFileSize ≠ nosize ∧ self.localFileSize.toInt64 ≤ op.resumeOffset ∧
        self.binary then
      if env.preserveTimestamps ∧ capabilities.mfmtCommand = .yes then
        let op := { op with localFileTime := env.localTime }
        if env.localTime.isSome then
          { reply := .continued, op := { op with opState := .mfmt }, capabilities }
        else { reply := .ok, op, capabilities }
      else { reply := .ok, op, capabilities }
    else op.startUpload env capabilities
  else op.startUpload env capabilities

def send : Handled Time :=
  match self.opState with
  | .init =>
    { reply := .continued
      op := { self with opState := .waitcwd, localFileSize := env.localSize }
      capabilities, pushed := some (.changeDir self.remotePath) }
  | .size =>
    self.sendCommand env capabilities
      (.size self.remotePath self.remoteFile (!self.tryAbsolutePath))
  | .mdtm =>
    self.sendCommand env capabilities
      (.mdtm self.remotePath self.remoteFile (!self.tryAbsolutePath))
  | .resumetest | .transfer =>
    if self.download then self.sendDownload env capabilities
    else self.sendUpload env capabilities
  | .mfmt =>
    self.sendCommand env capabilities
      (.mfmt ((self.localFileTime.map env.formatTime).getD []) self.remotePath self.remoteFile
        (!self.tryAbsolutePath))
  | _ => { reply := .error, op := self, capabilities }

def checkOverwriteFile : Handled Time :=
  let op := { self with localFileSize := env.localSize, localFileTime := env.localTime }
  if op.download ∧ op.localFileSize = nosize ∧ op.localFileTime = none then
    { reply := .ok, op, capabilities }
  else
    let found := env.found.bind fun found => if found.2 then some found.1 else none
    let op := { op with remoteFileTime := op.remoteFileTime.or (found.bind CDirentry.time) }
    if !op.download ∧ found.isNone ∧ op.remoteFileSize < 0 ∧ op.remoteFileTime.isNone then
      { reply := .ok, op, capabilities }
    else { reply := .wouldBlock, op, capabilities, asks := true }

/-- `CheckOverwriteFile` where the operation goes on if it need not ask. -/
def checkOverwrite : Handled Time :=
  let checked := self.checkOverwriteFile env capabilities
  if checked.reply = .ok then { checked with reply := .continued } else checked

def outdated (localTime remoteTime : Time) (self : CFtpFileTransferOpData Time) : Bool :=
  if self.download then env.earlierThan localTime remoteTime
  else env.laterThan localTime remoteTime

def sizesDiffer : Bool :=
  self.localFileSize.toInt64 ≠ self.remoteFileSize ∨ self.localFileSize.toInt64 < 0

def renameTo (newName : WString) (newWriter : Bool) (self : CFtpFileTransferOpData Time) :
    Handled Time :=
  if self.download then
    if !newWriter then { reply := .internalError, op := self, capabilities }
    else self.checkOverwrite env capabilities
  else
    let op : CFtpFileTransferOpData Time :=
      { self with remoteFile := newName, remoteFileSize := -1, remoteFileTime := none }
    match env.found with
    | some (entry, true) =>
      { op with
        remoteFileSize := Int64.ofInt entry.size
        remoteFileTime := entry.time }.checkOverwrite env capabilities
    | _ => { reply := .continued, op, capabilities }

/-- `CControlSocket::SetFileExistsAction`, where skipping ends the operation -/
def setFileExistsAction (action : FileExistsAction) (self : CFtpFileTransferOpData Time) :
    Handled Time :=
  let next : Handled Time := { reply := .continued, op := self, capabilities }
  let skip : Handled Time := { reply := .ok, op := self, capabilities }
  match action with
  | .overwrite => next
  | .overwriteNewer =>
    match self.localFileTime, self.remoteFileTime with
    | some localTime, some remoteTime =>
      if self.outdated env localTime remoteTime then next else skip
    | _, _ => next
  | .overwriteSize => if self.sizesDiffer then next else skip
  | .overwriteSizeOrNewer =>
    match self.localFileTime, self.remoteFileTime with
    | some localTime, some remoteTime =>
      if self.sizesDiffer ∨ self.outdated env localTime remoteTime then next else skip
    | _, _ => next
  | .resume =>
    if self.download ∧ self.localFileSize ≠ nosize then
      { next with op := { self with resume := true } }
    else if !self.download ∧ 0 ≤ self.remoteFileSize then
      { next with op := { self with resume := true } }
    else next
  | .rename newName newWriter => self.renameTo env capabilities newName newWriter
  | .skip => skip

/-- The digits of the answer to `SIZE` -/
def parseSize (text : WString) : Int64 :=
  (text.takeWhile fun char => 48 ≤ char ∧ char ≤ 57).foldl
    (fun size char => size * 10 + Int64.ofNat (char - 48)) 0

def notFound : WString := wide "file not found"

def lowered (text : WString) : WString := text.map Ftp.LogonData.lowerAscii

/-- The server knows `SIZE`, but not the file. -/
def sizeFailed (response : WString) (self : CFtpFileTransferOpData Time) : Bool :=
  capabilities.sizeCommand = .yes ∨ lowered (response.drop 4) = notFound ∨
    (findText notFound (lowered (self.remotePath.formatFilename self.remoteFile)) = none ∧
      findText notFound (lowered response) ≠ none)

def parseResponse (code : Nat) (response : WString) (self : CFtpFileTransferOpData Time) :
    Handled Time :=
  match self.opState with
  | .size =>
    if !Ftp.RawTransfer.positive code then
      if self.sizeFailed capabilities response then
        { self with opState := .resumetest }.checkOverwrite env capabilities
      else { reply := .continued, op := { self with opState := .mdtm }, capabilities }
    else
      let op := { self with opState := .mdtm }
      if response.take 4 = wide "213 " ∧ 4 < response.length then
        { reply := .continued
          op := { op with remoteFileSize := parseSize (response.drop 4) }
          capabilities :=
            if capabilities.sizeCommand = .unknown then
              { capabilities with sizeCommand := .yes }
            else capabilities }
      else { reply := .continued, op, capabilities }
  | .mdtm =>
    let op := { self with opState := .resumetest }
    let op :=
      if response.take 4 = wide "213 " ∧ 16 < response.length then
        { op with remoteFileTime := env.parseTime (response.drop 4) }
      else op
    op.checkOverwrite env capabilities
  | .mfmt => { reply := .ok, op := self, capabilities }
  | _ => { reply := .internalError, op := self, capabilities }

/-- Whether the time of the remote file is asked for with `MDTM` -/
def wantsTime : Bool :=
  self.download ∧ env.preserveTimestamps ∧ capabilities.mdtmCommand = .yes

def toMdtmOrResumetest (wants : Bool) (self : CFtpFileTransferOpData Time) : Handled Time :=
  if wants then { reply := .continued, op := { self with opState := .mdtm }, capabilities }
  else { self with opState := .resumetest }.checkOverwrite env capabilities

def useEntry (entry : CDirentry Time) (self : CFtpFileTransferOpData Time) : Handled Time :=
  { self with
    remoteFileSize := Int64.ofInt entry.size
    remoteFileTime := entry.time.or self.remoteFileTime }.toMdtmOrResumetest env capabilities
    (!(entry.time.any env.hasTime) && self.wantsTime env capabilities)

variable (prevResult : Reply)

def onWaitcwd (self : CFtpFileTransferOpData Time) : Handled Time :=
  if prevResult = .ok then
    let op := { self with remotePath := env.currentPath }
    let list : Handled Time :=
      { reply := .continued, op := { op with opState := .waitlist }, capabilities
        pushed := some .list }
    match env.found with
    | none =>
      if !env.dirDidExist then list
      else op.toMdtmOrResumetest env capabilities (op.wantsTime env capabilities)
    | some (entry, matchedCase) =>
      if entry.isUnsure then list
      else if matchedCase then op.useEntry env capabilities entry
      else { reply := .continued, op := { op with opState := .size }, capabilities }
  else
    { reply := .continued
      op := { self with tryAbsolutePath := true, opState := .size }
      capabilities }

def onWaitlist (self : CFtpFileTransferOpData Time) : Handled Time :=
  let size : Handled Time :=
    { reply := .continued, op := { self with opState := .size }, capabilities }
  if prevResult = .ok then
    match env.found with
    | none =>
      if !env.dirDidExist then size
      else self.toMdtmOrResumetest env capabilities (self.wantsTime env capabilities)
    | some (entry, matchedCase) =>
      if matchedCase && !entry.isUnsure then self.useEntry env capabilities entry else size
  else size

def onWaittransfer (self : CFtpFileTransferOpData Time) : Handled Time :=
  if prevResult = .ok ∧ env.preserveTimestamps ∧ !self.download ∧
      capabilities.mfmtCommand = .yes then
    let op := { self with localFileTime := env.localTime }
    if env.localTime.isSome then
      { reply := .continued, op := { op with opState := .mfmt }, capabilities }
    else { reply := prevResult, op, capabilities }
  else { reply := prevResult, op := self, capabilities }

def setTested (capability : Capability) (self : CFtpFileTransferOpData Time) :
    TransferCapabilities :=
  if 4294967296 < self.localFileSize then { capabilities with resume4GBbug := capability }
  else { capabilities with resume2GBbug := capability }

def onWaitresumetest (self : CFtpFileTransferOpData Time) : Handled Time :=
  if prevResult ≠ .ok then
    if self.transferEndReason = .failedResumetest then
      { reply := prevResult ||| .criticalError, op := self
        capabilities := self.setTested capabilities .yes }
    else { reply := prevResult, op := self, capabilities }
  else
    { reply := .continued
      op := { self with opState := .transfer }
      capabilities := self.setTested capabilities .no }

/-- `SubcommandResult`, where a raw transfer has left its reason in the operation -/
def subcommandResult (self : CFtpFileTransferOpData Time) : Handled Time :=
  match self.opState with
  | .waitcwd => self.onWaitcwd env capabilities prevResult
  | .waitlist => self.onWaitlist env capabilities prevResult
  | .waittransfer => self.onWaittransfer env capabilities prevResult
  | .waitresumetest => self.onWaitresumetest capabilities prevResult
  | _ => { reply := .continued, op := self, capabilities }

end CFtpFileTransferOpData

inductive Awaited
  | nextCommand
  | reply
  | subcommand
  | request
  deriving DecidableEq

structure FileTransfer (Time : Type) where
  op : CFtpFileTransferOpData Time
  capabilities : TransferCapabilities := {}
  awaited : Awaited := .nextCommand
  ended : Option Reply := none
  deriving DecidableEq

/-- `learned` is what other connections find out about the server. -/
inductive FileTransferEvent (Time : Type)
  | send (env : FileTransferEnv Time)
  | reply (code : Nat) (response : WString) (env : FileTransferEnv Time)
  | subcommand (prevResult : Reply) (reason : TransferEndReason) (env : FileTransferEnv Time)
  | fileExists (action : FileExistsAction) (env : FileTransferEnv Time)
  | learned (capabilities : TransferCapabilities)

def FileTransferEvent.localSize : FileTransferEvent Time → UInt64
  | .send env | .reply _ _ env | .subcommand _ _ env | .fileExists _ env => env.localSize
  | .learned _ => nosize

namespace FileTransfer

open CFtpFileTransferOpData

def start (download binary : Bool) (remotePath : CServerPath) (remoteFile : WString)
    (env : FileTransferEnv Time) (capabilities : TransferCapabilities) : FileTransfer Time where
  op :=
    { download, binary, remotePath, remoteFile
      localFileSize := env.localSize, localFileTime := env.localTime }
  capabilities := capabilities

def call (self : FileTransfer Time) : FileTransferEvent Time → Option (Handled Time)
  | .send env =>
    if self.awaited = .nextCommand then some (self.op.send env self.capabilities) else none
  | .reply code response env =>
    if self.awaited = .reply then
      some (self.op.parseResponse env self.capabilities code response)
    else none
  | .subcommand prevResult reason env =>
    if self.awaited = .subcommand then
      some ({ self.op with transferEndReason := reason }.subcommandResult env
        self.capabilities prevResult)
    else none
  | .fileExists action env =>
    if self.awaited = .request then
      some (self.op.setFileExistsAction env self.capabilities action)
    else none
  | .learned _ => none

def settle (handled : Handled Time) (self : FileTransfer Time) : FileTransfer Time :=
  let next := { self with op := handled.op, capabilities := handled.capabilities }
  if handled.reply = .continued then
    { next with awaited := if handled.pushed.isSome then .subcommand else .nextCommand }
  else if handled.reply = .wouldBlock then
    { next with awaited := if handled.asks then .request else .reply }
  else { next with ended := some handled.reply }

def step (self : FileTransfer Time) (event : FileTransferEvent Time) :
    Option (FileTransfer Time) :=
  if self.ended.isSome then none
  else
    match event with
    | .learned capabilities => some { self with capabilities }
    | event => (self.call event).map fun handled => self.settle handled

end FileTransfer

end FtpTransfer

end FileZilla
