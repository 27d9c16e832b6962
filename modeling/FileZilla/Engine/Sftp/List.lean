import FileZilla.Engine.DirectoryListingParser.AddLine
import FileZilla.Engine.Sftp.Client
import FileZilla.Runs

namespace FileZilla.Sftp.ListOperation

/-! `CSftpListOpData`: finding out the path, and reading the directory with four requests at a
time. -/

inductive ListState
  | init
  | realpath
  | waitlock
  | statAndOpen
  | open
  | list
  deriving DecidableEq

inductive ListReply
  | ok
  | error
  | linkNotDir
  | internalError
  | disconnected

inductive ListRequest
  | realpath
  | stat
  | opendir
  | readdir

variable {Time : Type}

/-- What the server answers, with the texts converted. An entry that the client cannot read is
not passed on. -/
inductive Reply (Time : Type)
  | status (code : StatusCode)
  | handle (handle : String)
  | realpath (target : CServerPath)
  | names (entries : List (Option (ReportedEntry Time)))
  | attributes (isDirectory : Bool)
  | failure

def ListRequest.allows : ListRequest → Reply Time → Bool
  | _, .status _ => true
  | _, .failure => true
  | .realpath, .realpath _ => true
  | .stat, .attributes _ => true
  | .opendir, .handle _ => true
  | .readdir, .names _ => true
  | _, _ => false

/-- `reported` are the entries that were read, `stored` the listing given to the cache. -/
structure CSftpListOpData (Time : Type) where
  path : CServerPath
  linkFlag : Bool := false
  opState : ListState := .init
  realpathFailed : Bool := false
  isDirectory : Bool := false
  locked : Bool := false
  handle : String := ""
  parser : Option (CDirectoryListingParser Time) := none
  sending : Bool := true
  pending : List ListRequest := []
  reported : List (ReportedEntry Time) := []
  stored : Option (CDirectoryListing Time) := none
  result : Option ListReply := none

/-- What `Send` is told by the caches, the lock and the conversion -/
structure SendInputs where
  connected : Bool := true
  cachedPath : CServerPath := CServerPath.none
  convertible : Bool := true
  cachedListing : Bool := false
  waiting : Bool := false

namespace CSftpListOpData

def request (kind : ListRequest) (self : CSftpListOpData Time) : CSftpListOpData Time :=
  { self with pending := self.pending ++ [kind] }

def triggerReset (result : ListReply) (self : CSftpListOpData Time) : CSftpListOpData Time :=
  { self with result := self.result.or (some result) }

/-- `FZ_REPLY_CONTINUE` leaves the operation to be sent again. -/
def send (inputs : SendInputs) (self : CSftpListOpData Time) : CSftpListOpData Time :=
  if !inputs.connected then
    self.triggerReset .disconnected
  else
    match self.opState with
    | .init =>
      if !self.path.empty && !inputs.cachedPath.empty && inputs.cachedPath ≠ self.path then
        { self with path := inputs.cachedPath, opState := .waitlock }
      else
        { self with opState := .realpath }
    | .realpath =>
      if !self.path.empty && !inputs.convertible then
        self.triggerReset .error
      else
        { self.request .realpath with sending := false }
    | .waitlock =>
      if self.path.empty then
        self.triggerReset .internalError
      else if inputs.cachedListing then
        self.triggerReset .ok
      else if inputs.waiting then
        { self with locked := true, sending := false }
      else
        { self with locked := true, opState := .statAndOpen }
    | .statAndOpen =>
      let self := { self with parser := some (.withEncoding .unknown) }
      if !inputs.convertible then
        self.triggerReset .error
      else
        { (self.request .stat).request .opendir with sending := false }
    | .open => self.triggerReset .internalError
    | .list => self.triggerReset .internalError

def processHandle (handle : String) (self : CSftpListOpData Time) : CSftpListOpData Time :=
  if self.opState = .open then
    { self with
      handle
      pending := self.pending ++ List.replicate 4 .readdir
      opState := .list }
  else
    self.triggerReset .internalError

/-- The end of the directory; the parser never had anything in its buffer. -/
def finish (handling : LineHandling Time) (self : CSftpListOpData Time) : CSftpListOpData Time :=
  match self.parser with
  | none => self.triggerReset .internalError
  | some parser =>
    { self with stored := some (parser.parse handling self.path) }.triggerReset .ok

def doProcessStatus (handling : LineHandling Time) (code : StatusCode)
    (self : CSftpListOpData Time) : CSftpListOpData Time :=
  match self.opState with
  | .realpath =>
    { self with
      path :=
        if self.path.empty then
          { self.path with data := some { segments := [], pathPrefix := none } }
        else
          self.path
      opState := .waitlock
      realpathFailed := true
      sending := true }
  | .statAndOpen => { self with opState := .open }
  | .open => self.triggerReset (if self.linkFlag then .linkNotDir else .error)
  | .list => if code = .eof then self.finish handling else self.triggerReset .error
  | _ => self.triggerReset .internalError

def processAttributes (isDirectory : Bool) (self : CSftpListOpData Time) :
    CSftpListOpData Time :=
  if self.opState = .statAndOpen then
    { self with isDirectory := self.isDirectory || isDirectory, opState := .open }
  else
    self.triggerReset .internalError

def processRealpath (target : CServerPath) (self : CSftpListOpData Time) :
    CSftpListOpData Time :=
  if self.opState ≠ .realpath then
    self.triggerReset .internalError
  else if target.empty then
    self.triggerReset .error
  else
    { self with path := target, opState := .waitlock, sending := true }

def processName (context : ListingContext Time) (entry : ReportedEntry Time) (more : Bool)
    (self : CSftpListOpData Time) : CSftpListOpData Time :=
  if self.opState ≠ .list then
    self.triggerReset .internalError
  else
    let self := if more then self else self.request .readdir
    match self.parser with
    | none => self.triggerReset .internalError
    | some parser =>
      { self with
        parser := some { parser with lineState := parser.lineState.addLine context entry }
        reported := self.reported ++ [entry] }

def processNames (context : ListingContext Time) (self : CSftpListOpData Time) :
    List (Option (ReportedEntry Time)) → CSftpListOpData Time
  | [] => self
  | none :: rest => self.processNames context rest
  | some entry :: rest =>
    let next := self.processName context entry (!rest.isEmpty)
    if next.result.isSome then next else next.processNames context rest

def process (context : ListingContext Time) (handling : LineHandling Time)
    (self : CSftpListOpData Time) : Reply Time → CSftpListOpData Time
  | .status code => self.doProcessStatus handling code
  | .handle handle => self.processHandle handle
  | .realpath target => self.processRealpath target
  | .names entries => self.processNames context entries
  | .attributes isDirectory => self.processAttributes isDirectory
  | .failure => self.triggerReset .error

end CSftpListOpData

inductive Event (Time : Type)
  | send (inputs : SendInputs)
  | lockObtained
  | reply (reply : Reply Time)
  | sftpDone

def step (context : ListingContext Time) (handling : LineHandling Time)
    (self : CSftpListOpData Time) (event : Event Time) : Option (CSftpListOpData Time) :=
  if self.result.isSome then
    none
  else
    match event with
    | .send inputs => if self.sending then some (self.send inputs) else none
    | .lockObtained =>
      if self.opState = .waitlock ∧ self.locked ∧ !self.sending then
        some { self with sending := true }
      else
        none
    | .reply reply =>
      match self.pending with
      | [] => none
      | request :: pending =>
        if request.allows reply then
          some ({ self with pending }.process context handling reply)
        else
          none
    | .sftpDone => some (self.triggerReset .disconnected)

def start (path : CServerPath) (linkFlag : Bool) : CSftpListOpData Time :=
  { path, linkFlag }

end FileZilla.Sftp.ListOperation
