import FileZilla.Engine.EnginePrivate
import FileZilla.Engine.ListingInclusion
import FileZilla.Engine.Ftp.Logon

namespace FileZilla

namespace FtpList

open Ftp (Capability)

universe u

/-! Retrieving a directory listing, and finding out whether the server shows hidden files with
`LIST -a`. -/

variable {Time : Type u}

section Responses

variable (towlower : WChar → WChar)

def stricmpEqual (left right : WString) : Bool :=
  left.map towlower = right.map towlower

def isMisleadingListResponse (response : WString) : Bool :=
  stricmpEqual towlower response (wide "550 No members found.") ||
  stricmpEqual towlower response (wide "550 No data sets found.") ||
  response.map Ftp.LogonData.lowerAscii = wide "550 no files found."

end Responses

inductive ListCommand
  | mlsd
  | list
  | listAll

inductive ListState
  | init
  | waitcwd
  | waitlock
  | waittransfer
  | mdtm
  deriving DecidableEq

structure ListCapabilities where
  mlsdCommand : Capability := .unknown
  listHiddenSupport : Capability := .unknown
  mdtmCommand : Capability := .unknown
  inferredTimezoneOffset : Capability := .unknown

structure ListSession (Time : Type u) where
  capabilities : ListCapabilities := {}
  cache : CServerPath → Option (CDirectoryListing Time) := fun _ => none
  /-- The directory listing notifications, and whether each one is of a failure -/
  notifications : List (CServerPath × Bool) := []

structure CFtpListOpData (Time : Type u) where
  opState : ListState := .init
  viewHiddenCheck : Bool := false
  viewHidden : Bool := false
  directoryListing : CDirectoryListing Time

structure TransferEnd (Time : Type u) where
  prevResult : Reply
  tranferCommandSent : Bool := true
  /-- `transferEndReason` is `transfer_command_failure_immediate` -/
  failedImmediately : Bool := false
  response : WString := []
  /-- What the parser made of the data -/
  entries : List (CDirentry Time) := []

structure Listed (Time : Type u) where
  reply : Reply
  op : CFtpListOpData Time
  session : ListSession Time
  transfer : Option ListCommand := none

namespace ListSession

variable (self : ListSession Time)

def store (listing : CDirectoryListing Time) : ListSession Time :=
  { self with cache := Function.update self.cache listing.path (some listing) }

def notify (path : CServerPath) (failed : Bool) : ListSession Time :=
  { self with notifications := self.notifications ++ [(path, failed)] }

def setHiddenSupport (capability : Capability) : ListSession Time :=
  { self with capabilities := { self.capabilities with listHiddenSupport := capability } }

def setTimezone (capability : Capability) : ListSession Time :=
  { self with capabilities := { self.capabilities with inferredTimezoneOffset := capability } }

end ListSession

structure ListEnv (Time : Type u) where
  viewHiddenFiles : Bool := true
  /-- The reply to changing the directory -/
  changed : Reply := .ok
  /-- The cached listing, if there is one, is recent enough. -/
  cacheUsable : Bool := false
  /-- An entry's time is exact enough to compare it with the answer to `MDTM`. -/
  hasTime : Time → Bool := fun _ => false
  /-- The offset by which the times are off, if `MDTM` tells it -/
  mdtm : Option (Time → Time) := none
  /-- `MDTM` gives a time that cannot be used. -/
  mdtmInvalid : Bool := false

namespace CFtpListOpData

section Steps

variable (towlower : WChar → WChar) (env : ListEnv Time) (currentPath : CServerPath)
  (self : CFtpListOpData Time)

/-- `Send` once the lock is held -/
def sendWaitlock (session : ListSession Time) : Listed Time :=
  if (session.cache currentPath).isSome && env.cacheUsable then
    { reply := .ok, op := self, session := session.notify currentPath false }
  else
    let op := { self with opState := .waittransfer }
    if session.capabilities.mlsdCommand = .yes then
      { reply := .continued, op, session, transfer := some .mlsd }
    else
      let op :=
        if env.viewHiddenFiles then
          match session.capabilities.listHiddenSupport with
          | .unknown => { op with viewHiddenCheck := true }
          | .yes => { op with viewHidden := true }
          | .no => op
        else op
      { reply := .continued, op, session
        transfer := some (if op.viewHidden then .listAll else .list) }

/-- The listing is kept for `MDTM` if the offset of the server's time is to be found out. -/
def checkTimezoneDetection (listing : CDirectoryListing Time)
    (session : ListSession Time) : Option (CFtpListOpData Time) × ListSession Time :=
  if session.capabilities.inferredTimezoneOffset = .unknown then
    if session.capabilities.mdtmCommand ≠ .yes then
      (none, session.setTimezone .no)
    else if listing.entries.any fun entry => !entry.isDir && entry.time.any env.hasTime then
      (some { self with opState := .mdtm, directoryListing := listing }, session)
    else (none, session)
  else (none, session)

/-- The listing is final, but for the times. -/
def complete (listing : CDirectoryListing Time)
    (session : ListSession Time) : Listed Time :=
  match self.checkTimezoneDetection env listing session with
  | (some op, session) => { reply := .continued, op, session }
  | (none, session) =>
    { reply := .ok, op := self, session := (session.store listing).notify currentPath false }

def subcommandResult (ended : TransferEnd Time)
    (session : ListSession Time) : Listed Time :=
  if ended.prevResult = .ok then
    let listing : CDirectoryListing Time := { path := currentPath, entries := ended.entries }
    if self.viewHiddenCheck then
      if !self.viewHidden then
        -- Repeat with LIST -a
        { reply := .continued
          op := { self with viewHidden := true, directoryListing := listing }
          session, transfer := some .listAll }
      else if checkInclusion listing self.directoryListing then
        self.complete env currentPath listing (session.setHiddenSupport .yes)
      else
        self.complete env currentPath self.directoryListing (session.setHiddenSupport .no)
    else
      self.complete env currentPath listing session
  else if ended.tranferCommandSent && isMisleadingListResponse towlower ended.response then
    let listing : CDirectoryListing Time := { path := currentPath }
    if self.viewHiddenCheck then
      if self.viewHidden then
        if self.directoryListing.size ≠ 0 then
          -- Less files with LIST -a
          self.complete env currentPath self.directoryListing (session.setHiddenSupport .no)
        else
          self.complete env currentPath listing (session.setHiddenSupport .yes)
      else
        { reply := .continued
          op := { self with viewHidden := true, directoryListing := listing }
          session, transfer := some .listAll }
    else
      self.complete env currentPath listing session
  else if self.viewHiddenCheck && self.viewHidden && ended.failedImmediately then
    self.complete env currentPath self.directoryListing (session.setHiddenSupport .no)
  else
    { reply := .error, op := self
      session :=
        if ended.prevResult &&& .error ≠ 0 then session.notify currentPath true else session }

def shiftTimes (shift : Time → Time) (listing : CDirectoryListing Time) :
    CDirectoryListing Time :=
  { listing with
    entries := listing.entries.map fun entry => { entry with time := entry.time.map shift } }

def parseResponse (session : ListSession Time) : Listed Time :=
  let (listing, session) :=
    if session.capabilities.inferredTimezoneOffset = .unknown then
      match env.mdtm with
      | some shift => (shiftTimes shift self.directoryListing, session.setTimezone .yes)
      | none =>
        if env.mdtmInvalid then
          (self.directoryListing,
            { session with
              capabilities :=
                { session.capabilities with
                  mdtmCommand := .no
                  inferredTimezoneOffset := .no } })
        else
          (self.directoryListing, session.setTimezone .no)
    else (self.directoryListing, session.setTimezone .no)
  { reply := .ok, op := { self with directoryListing := listing }
    session := (session.store listing).notify currentPath false }

end Steps

end CFtpListOpData

section Servers

variable (towlower : WChar → WChar)

/-- What `LIST -a` does, in the same way in each directory -/
inductive HiddenListing (shown : CServerPath → List (CDirentry Time))
  | superset (listed : CServerPath → List (CDirentry Time))
      (all : ∀ path, (shown path).Subperm (listed path))
  | same
  | empty
  | misleading (response : WString) (known : isMisleadingListResponse towlower response = true)
  | rejected (response : WString) (clear : isMisleadingListResponse towlower response = false)

/-- A server without `MLSD`, the `LIST` of which shows what there is -/
structure ListServer (Time : Type u) where
  shown : CServerPath → List (CDirentry Time)
  /-- The misleading response to `LIST` in an empty directory, if it does not list nothing -/
  emptyResponse : CServerPath → Option WString
  truthful : ∀ path response, emptyResponse path = some response →
    isMisleadingListResponse towlower response = true ∧ shown path = []
  hidden : HiddenListing towlower shown

structure TransferFailure (Time : Type u) where
  ended : TransferEnd Time
  failed : ended.prevResult ≠ .ok
  clear : (ended.tranferCommandSent && isMisleadingListResponse towlower ended.response) = false

structure Listing (Time : Type u) where
  path : CServerPath
  env : ListEnv Time := {}
  failures : Nat → Option (TransferFailure towlower Time) := fun _ => none

variable {towlower}

def ListServer.refuse (response : WString) : TransferEnd Time where
  prevResult := .error
  failedImmediately := true
  response := response

def ListServer.answer (self : ListServer towlower Time) (path : CServerPath) :
    ListCommand → TransferEnd Time
  | .mlsd => refuse (wide "500 Unknown command")
  | .list =>
    match self.emptyResponse path with
    | some response => refuse response
    | none => { prevResult := .ok, entries := self.shown path }
  | .listAll =>
    match self.hidden with
    | .superset listed _ => { prevResult := .ok, entries := listed path }
    | .same => { prevResult := .ok, entries := self.shown path }
    | .empty => { prevResult := .ok, entries := [] }
    | .misleading response _ => refuse response
    | .rejected response _ => refuse response

structure Performed (Time : Type u) where
  reply : Reply
  session : ListSession Time
  commands : List ListCommand := []

def finish (env : ListEnv Time) (currentPath : CServerPath) (listed : Listed Time)
    (commands : List ListCommand) : Performed Time :=
  if listed.reply = .continued && listed.op.opState = .mdtm then
    let parsed := listed.op.parseResponse env currentPath listed.session
    { reply := parsed.reply, session := parsed.session, commands }
  else
    { reply := listed.reply, session := listed.session, commands }

def Listing.ended (self : Listing towlower Time) (server : ListServer towlower Time)
    (command : ListCommand) (count : Nat) : TransferEnd Time :=
  match self.failures count with
  | some failure => failure.ended
  | none => server.answer self.path command

/-- The transfers, one after another; nothing if there are more than the bound -/
def transfers (server : ListServer towlower Time) (listing : Listing towlower Time) :
    Nat → Listed Time → List ListCommand → Option (Performed Time)
  | 0, _, _ => none
  | bound + 1, listed, commands =>
    match listed.transfer with
    | none => some (finish listing.env listing.path listed commands)
    | some command =>
      let ended := listing.ended server command commands.length
      transfers server listing bound
        (listed.op.subcommandResult towlower listing.env listing.path ended listed.session)
        (commands ++ [command])

def perform (server : ListServer towlower Time) (bound : Nat) (session : ListSession Time)
    (listing : Listing towlower Time) : Option (Performed Time) :=
  if listing.env.changed ≠ .ok then
    some { reply := listing.env.changed, session }
  else
    let op : CFtpListOpData Time :=
      { opState := .waitlock, directoryListing := { path := listing.path } }
    transfers server listing bound (op.sendWaitlock listing.env listing.path session) []

end Servers

end FtpList

end FileZilla
