import FileZilla.Components
import FileZilla.DirectoryTree
import FileZilla.Engine.Ftp.Logon
import FileZilla.Engine.ServerPathCommonParent

namespace FileZilla

namespace FtpMkdir

open Ftp.LogonData (lowerAscii replyCode)

inductive MkdState
  | init
  | findparent
  | mkdsub
  | cwdsub
  | tryfull
  deriving DecidableEq

inductive Command
  | cwd (argument : WString)
  | mkd (argument : WString)
  deriving DecidableEq

/-- The `FZ_REPLY` codes of this operation -/
inductive Code
  | ok
  | wouldBlock
  | error
  | internalError
  | continued
  deriving DecidableEq

structure CFtpMkdirOpData where
  opState : MkdState := .init
  path_ : CServerPath
  currentMkdPath_ : CServerPath := .none
  commonParent_ : CServerPath := .none
  /-- As in the vector, the last one is at the back. -/
  segments_ : List WString := []

inductive Sent
  | result (code : Code)
  | command (command : Command)

namespace CFtpMkdirOpData

variable (self : CFtpMkdirOpData) (currentPath_ : CServerPath)

/-- What `mkd_init` does about a known current path that is not below the path. -/
def findCommonParent : CFtpMkdirOpData :=
  if currentPath_.empty then self
  else if currentPath_.isParentOf self.path_ then { self with commonParent_ := currentPath_ }
  else { self with commonParent_ := self.path_.getCommonParent currentPath_ }

def sendInit : Code × CFtpMkdirOpData :=
  if !currentPath_.empty && (currentPath_.equal self.path_ || currentPath_.isSubdirOf self.path_)
  then (.ok, self)
  else
    let self := self.findCommonParent currentPath_
    if !self.path_.hasParent then (.continued, { self with opState := .tryfull })
    else
      let currentMkdPath := self.path_.getParent
      (.continued,
        { self with
          currentMkdPath_ := currentMkdPath
          segments_ := self.segments_ ++ [self.path_.getLastSegment]
          opState := if currentMkdPath.equal currentPath_ then .mkdsub else .findparent })

/-- `Send`, with whether the lock is still waited for and with the current path -/
def send (waiting : Bool) (currentPath_ : CServerPath) :
    Sent × CFtpMkdirOpData × CServerPath :=
  if waiting then (.result .wouldBlock, self, currentPath_)
  else
    match self.opState with
    | .init =>
      let (code, self) := self.sendInit currentPath_
      (.result code, self, currentPath_)
    | .findparent | .cwdsub =>
      (.command (.cwd self.currentMkdPath_.getPath), self, currentPath_.clear)
    | .mkdsub => (.command (.mkd (self.segments_.getLastD [])), self, currentPath_)
    | .tryfull => (.command (.mkd self.path_.getPath), self, currentPath_)

/-- A substring that says so, and that the path does not contain -/
def saidBy (words : String) (response path : WString) : Bool :=
  !contains (wide words) path && contains (wide words) response

/-- `IsAlreadyExistsResponse`; a response has more than three characters. -/
def isAlreadyExistsResponse (rawResponse : WString) (rawPath : CServerPath) : Bool :=
  let response := (rawResponse.drop 4).map lowerAscii
  let path := rawPath.getPath.map lowerAscii
  response = wide "directory already exists" ||
  response = wide "file or directory already exists" ||
  saidBy "already exists" response path ||
  saidBy "file exists" response path ||
  saidBy "directory exists" response path

def positive (response : WString) : Bool :=
  replyCode response == 2 || replyCode response == 3

/-- The reply to `MKD` of the segment at the back, with whether the directory cache shows a file
of this name -/
def parseMkdsub (shownAsFile : Bool) (response : WString) :
    Code × CFtpMkdirOpData :=
  if self.segments_ = [] then (.internalError, self)
  else if !positive response && !isAlreadyExistsResponse response self.path_ then (.error, self)
  else if !positive response && shownAsFile then (.error, self)
  else
    let made := self.segments_.getLastD []
    let self :=
      { self with
        currentMkdPath_ := (self.currentMkdPath_.addSegment made).getD self.currentMkdPath_
        segments_ := self.segments_.dropLast }
    if self.segments_ = [] then (.ok, self) else (.continued, { self with opState := .cwdsub })

/-- The reply to `CWD` while a parent is searched that exists -/
def parseFindparent (response : WString) :
    CFtpMkdirOpData × CServerPath :=
  if positive response then ({ self with opState := .mkdsub }, self.currentMkdPath_)
  else if self.currentMkdPath_.equal self.commonParent_ then
    ({ self with opState := .tryfull }, currentPath_)
  else if self.currentMkdPath_.hasParent then
    ({ self with
        segments_ := self.segments_ ++ [self.currentMkdPath_.getLastSegment]
        currentMkdPath_ := self.currentMkdPath_.getParent }, currentPath_)
  else ({ self with opState := .tryfull }, currentPath_)

def parseResponse (shownAsFile : CServerPath → WString → Bool)
    (currentPath_ : CServerPath) (response : WString) : Code × CFtpMkdirOpData × CServerPath :=
  match self.opState with
  | .findparent => (.continued, self.parseFindparent currentPath_ response)
  | .mkdsub =>
    let shown := shownAsFile self.currentMkdPath_ (self.segments_.getLastD [])
    let (code, self) := self.parseMkdsub shown response
    (code, self, currentPath_)
  | .cwdsub =>
    if positive response then
      (.continued, { self with opState := .mkdsub }, self.currentMkdPath_)
    else (.continued, { self with opState := .tryfull }, currentPath_)
  | .tryfull => (if positive response then .ok else .error, self, currentPath_)
  | .init => (.internalError, self, currentPath_)

end CFtpMkdirOpData

structure ServerState where
  tree : DirectoryTree WString
  working : List WString
  inside : tree.IsDirectory working

namespace ServerState

def target (self : ServerState) (argument : WString) : List WString :=
  resolve (if argument.head? = some '/'.toNat then [] else self.working)
    (piecesBetween (· == '/'.toNat) argument)

def tellsExisting (response : WString) : Bool :=
  let words := (response.drop 4).map lowerAscii
  contains (wide "already exists") words || contains (wide "file exists") words ||
    contains (wide "directory exists") words

/-- The state after a command that was answered so, if the server answers so. Directories can be
made in those that are `allowed`. -/
def answered (self : ServerState) (allowed : List WString → Bool) (command : Command)
    (response : WString) : Option ServerState :=
  match command with
  | .cwd argument =>
    let target := self.target argument
    if inside : self.tree.IsDirectory target then
      if CFtpMkdirOpData.positive response then
        some { self with working := target, inside }
      else none
    else if CFtpMkdirOpData.positive response then none
    else some self
  | .mkd argument =>
    let target := self.target argument
    if free : self.tree.kind target = none then
      if makes : self.tree.IsDirectory target.dropLast ∧ allowed target.dropLast = true then
        if CFtpMkdirOpData.positive response then
          some
            { self with
              tree := self.tree.makeDirectory target makes.1 free
              inside := DirectoryTree.isDirectory_makeDirectory self.inside }
        else none
      else if CFtpMkdirOpData.positive response || tellsExisting response then none
      else some self
    else if CFtpMkdirOpData.positive response then none
    else if contains (wide "already exists") ((response.drop 4).map lowerAscii) then some self
    else none

end ServerState

inductive Phase
  | sending
  | awaiting (command : Command)
  | done (code : Code)
  deriving DecidableEq

structure Session where
  op : CFtpMkdirOpData
  currentPath_ : CServerPath
  server : ServerState
  phase : Phase := .sending
  /-- All commands that were sent so far -/
  commands : List Command := []

inductive Event
  | send
  | reply (response : WString)

/-- The control socket calls `Send` until there is a command or a result. -/
def Phase.next : Code → Phase
  | .continued => .sending
  | code => .done code

/-- A step, from when the lock is held. The directory cache shows as a file what
`shownAsFile` says. -/
def Session.step (allowed : List WString → Bool) (shownAsFile : CServerPath → WString → Bool)
    (self : Session) (event : Event) : Option Session :=
  match self.phase, event with
  | .sending, .send =>
    match self.op.send false self.currentPath_ with
    | (.result code, op, currentPath_) =>
      some { self with op, currentPath_, phase := Phase.next code }
    | (.command command, op, currentPath_) =>
      some
        { self with
          op, currentPath_, phase := .awaiting command
          commands := self.commands ++ [command] }
  | .awaiting command, .reply response =>
    (self.server.answered allowed command response).map fun server =>
      let (code, op, currentPath_) := self.op.parseResponse shownAsFile self.currentPath_ response
      { self with op, currentPath_, server, phase := Phase.next code }
  | _, _ => none

end FtpMkdir

end FileZilla
