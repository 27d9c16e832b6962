import FileZilla.Engine.Ftp.ReplyAttribution
import FileZilla.Engine.Ftp.SendCommand

namespace FileZilla

namespace Ftp

/-! The operations of a control connection. Raw transfers and raw commands do what the code
does; of logging on and of the other operations only the commands are fixed. -/

inductive TransferEndReason
  | none
  | successful
  | timeout
  | transferFailure
  | transferFailureCritical
  | preTransferCommandFailure
  | transferCommandFailureImmediate
  | transferCommandFailure
  | failure
  | failedResumetest
  | failedTlsResumption
  | wrongTlsAlpn
  deriving DecidableEq

inductive RawTransferState
  | init
  | type
  | portPasv
  | rest
  | transfer
  | waitfinish
  | waittransferpre
  | waittransfer
  | waitsocket
  deriving DecidableEq

/-- `CFtpRawTransferOpData`; the fields from `binary` to `tranferCommandSent` are those of
`pOldData`. -/
structure RawTransfer where
  opState : RawTransferState := .init
  cmd : FtpCommand
  binary : Bool
  resumeOffset : Int
  transferEndReason : TransferEndReason := .successful
  tranferCommandSent : Bool := false
  bPasv : Bool := true
  bTriedPasv : Bool := false
  bTriedActive : Bool := false
  deriving DecidableEq

inductive FtpOperation
  | logon
  | rawTransfer (data : RawTransfer)
  | rawCommand (command : WString)
  | other
  deriving DecidableEq

/-- What the operations share: `m_lastTypeBinary`, where none stands for -1, and
`m_sentRestartOffset`. -/
structure SharedState where
  lastTypeBinary : Option Bool := none
  sentRestartOffset : Bool := false

/-- The commands with which `Transfer` is called. -/
def FtpCommand.transfers : FtpCommand → Bool
  | list | listHidden | mlsd | retr _ _ _ | stor _ _ _ | appe _ _ _ => true
  | _ => false

/-- The commands of the operations that are neither logging on, raw transfers nor raw commands -/
def FtpCommand.plain : FtpCommand → Bool
  | pwd | cwd _ | cdup | cwdSubdir _ _ | mkdSegment _ | mkdPath _ | dele _ _ _ | rmdSubdir _
  | rmdPath _ | rnfr _ _ _ | rnto _ _ _ | siteChmod _ _ _ _ | size _ _ _ | mdtm _ _ _
  | mfmt _ _ _ _ => true
  | _ => false

def FtpCommand.logsOn : FtpCommand → Bool
  | authTls | authSsl | syst | user _ | pass _ | acct _ | loginSequence _ | feat | clnt
  | optsUtf8 | pbsz | prot | postLogin _ | optsMlst _ => true
  | _ => false

inductive Started
  | other
  | rawTransfer (cmd : { cmd : FtpCommand // cmd.transfers = true }) (binary : Bool)
      (resumeOffset : Int)

def Started.operation : Started → FtpOperation
  | other => .other
  | rawTransfer cmd binary resumeOffset => .rawTransfer { cmd, binary, resumeOffset }

/-- What an operation that is not modelled any further decides. -/
inductive Decision
  | wouldBlock (waiting : Waiting)
  | proceed (started : Option Started)
  | finish (code : EndCode)

def Decision.answer : Decision → Answer FtpOperation
  | wouldBlock waiting => .wouldBlock waiting
  | proceed started => .proceed (started.map Started.operation)
  | finish code => .finish code

def Decision.alone : Decision → Answer FtpOperation
  | wouldBlock waiting => .wouldBlock waiting
  | proceed _ => .proceed none
  | finish code => .finish code

/-- What `GetExternalIPAddress` returns, and what `SetupActiveTransfer` makes of the address. -/
inductive ActiveAddress
  | wouldBlock
  | failed
  | listening (portArgument : WString)

/-- All that is decided outside of the operations: the transfer socket is there, a command can
be converted, options, addresses, parsed passive replies, data connections and the user. -/
structure Input where
  converts : Bool := true
  transferSocket : Bool := true
  proxy : Bool := false
  passiveMode : Bool := true
  epsv : Bool := false
  address : ActiveAddress := .failed
  ipv6 : Bool := false
  allowFallback : Bool := true
  setupPassive : Bool := true
  parsed : Bool := true
  endReason : TransferEndReason := .successful
  allow : Bool := true
  keepAlive : Fin 3 := 0
  plain : Option { command : FtpCommand // command.plain = true } := none
  logsOn : Option { command : FtpCommand // command.logsOn = true } := none
  decision : Decision := .finish .ok

/-- `SendCommand` with a command that may fail to convert. -/
def Input.sendCommand (input : Input) (command : FtpCommand) :
    Sending FtpOperation FtpCommand :=
  if input.converts then .command command else .answer (.finish .error)

namespace RawTransfer

variable (input : Input)

def getPassiveCommand : FtpCommand :=
  if input.epsv then .epsv else .pasv

variable (self : RawTransfer)

def send (shared : SharedState) :
    Sending FtpOperation FtpCommand × RawTransfer × SharedState :=
  if !input.transferSocket then (.answer (.finish .failed), self, shared)
  else
    match self.opState with
    | .init =>
      let opState :=
        if shared.lastTypeBinary = some self.binary then .portPasv else .type
      (.answer (.proceed none),
        if input.proxy then { self with opState, bPasv := true, bTriedActive := true }
        else { self with opState, bPasv := input.passiveMode },
        shared)
    | .type =>
      (input.sendCommand (if self.binary then .typeBinary else .typeAscii), self,
        { shared with lastTypeBinary := none })
    | .portPasv =>
      let passive := { self with bTriedPasv := true }
      if self.bPasv then (input.sendCommand (getPassiveCommand input), passive, shared)
      else
        match input.address with
        | .wouldBlock => (.answer (.wouldBlock .event), self, shared)
        | .listening portArgument =>
          (input.sendCommand (if input.ipv6 then .eprt portArgument else .port portArgument),
            { self with bTriedActive := true }, shared)
        | .failed =>
          if !input.allowFallback || self.bTriedPasv then
            (.answer (.finish .error), self, shared)
          else
            (input.sendCommand (getPassiveCommand input),
              { passive with bTriedActive := true, bPasv := true }, shared)
    | .rest =>
      (input.sendCommand (.rest self.resumeOffset), self,
        if self.resumeOffset > 0 then { shared with sentRestartOffset := true } else shared)
    | .transfer =>
      if self.bPasv && !input.setupPassive then (.answer (.finish .error), self, shared)
      else (input.sendCommand self.cmd, { self with tranferCommandSent := true }, shared)
    | .waitfinish | .waittransferpre | .waittransfer | .waitsocket =>
      (.answer (.wouldBlock .reply), self, shared)

/-- The replies that `GetReplyCode` tells to be positive -/
def positive (code : Nat) : Bool :=
  code = 2 ∨ code = 3

def parsePortReply (code : Nat) (self : RawTransfer) (shared : SharedState) :
    Option RawTransfer :=
  if !positive code then
    if !input.allowFallback then none
    else if self.bTriedPasv then
      if self.bTriedActive then none else some { self with bPasv := false }
    else some { self with bPasv := true }
  else
    let unparsed : Bool := self.bPasv && !input.parsed
    -- ParseEpsvResponse is chosen by GetPassiveCommand, which notes that it was called
    let self := if self.bPasv then { self with bTriedPasv := true } else self
    if unparsed then
      if !input.allowFallback then none
      else if !self.bTriedActive then some { self with bPasv := false }
      else none
    else if self.resumeOffset > 0 ∨ shared.sentRestartOffset then
      some { self with opState := .rest }
    else some { self with opState := .transfer }

/-- The transfer command fails with this reason, unless there is another one already. -/
def failWith (reason : TransferEndReason) (self : RawTransfer) : RawTransfer :=
  if self.transferEndReason = .successful then { self with transferEndReason := reason }
  else self

def parseResponse (code : Nat) (self : RawTransfer) (shared : SharedState) :
    Answer FtpOperation × RawTransfer × SharedState :=
  let error : Answer FtpOperation := .finish .error
  match self.opState with
  | .init => (error, self, shared)
  | .type =>
    if !positive code then (error, self, shared)
    else
      (.proceed none, { self with opState := .portPasv },
        { shared with lastTypeBinary := some self.binary })
  | .portPasv =>
    match self.parsePortReply input code shared with
    | none => (error, self, shared)
    | some next => (.proceed none, next, shared)
  | .rest =>
    let shared :=
      if self.resumeOffset ≤ 0 then { shared with sentRestartOffset := false } else shared
    if self.resumeOffset > 0 ∧ !positive code then (error, self, shared)
    else (.proceed none, { self with opState := .transfer }, shared)
  | .transfer =>
    if code = 1 then (.proceed none, { self with opState := .waitfinish }, shared)
    else if positive code then (.proceed none, { self with opState := .waitsocket }, shared)
    else (error, self.failWith .transferCommandFailureImmediate, shared)
  | .waittransferpre =>
    if code = 1 then (.proceed none, { self with opState := .waittransfer }, shared)
    else if positive code then
      if self.transferEndReason ≠ .successful then (error, self, shared)
      else (.finish .ok, self, shared)
    else (error, self.failWith .transferCommandFailureImmediate, shared)
  | .waitfinish =>
    if !positive code then (error, self.failWith .transferCommandFailure, shared)
    else (.proceed none, { self with opState := .waitsocket }, shared)
  | .waittransfer =>
    if !positive code then (error, self.failWith .transferCommandFailure, shared)
    else if self.transferEndReason ≠ .successful then (error, self, shared)
    else (.finish .ok, self, shared)
  | .waitsocket => (error, self, shared)

/-- `TransferEnd`, with the reason of the transfer socket -/
def transferEnd : Option EndCode × RawTransfer :=
  if !input.transferSocket ∨ input.endReason = .none then (none, self)
  else
    let self := self.failWith input.endReason
    if input.endReason = .failedTlsResumption then (some .disconnected, self)
    else
      match self.opState with
      | .transfer => (none, { self with opState := .waittransferpre })
      | .waitfinish => (none, { self with opState := .waittransfer })
      | .waitsocket =>
        (some (if input.endReason = .successful then .ok else .error), self)
      | _ => (none, self)

def Transferring : Prop :=
  self.opState = .transfer ∨ self.opState = .waitfinish ∨ self.opState = .waittransferpre ∨
    self.opState = .waittransfer ∨ self.opState = .waitsocket

def Quiet : Prop :=
  self.opState = .waitfinish ∨ self.opState = .waittransferpre ∨
    self.opState = .waittransfer ∨ self.opState = .waitsocket

end RawTransfer

namespace FtpOperation

variable (input : Input)

def send (self : FtpOperation) (shared : SharedState) :
    Sending FtpOperation FtpCommand × FtpOperation × SharedState :=
  match self with
  | logon =>
    match input.logsOn with
    | some command => (input.sendCommand command, logon, shared)
    | none => (.answer input.decision.alone, logon, shared)
  | rawTransfer data =>
    let (sending, data, shared) := data.send input shared
    (sending, rawTransfer data, shared)
  | rawCommand command =>
    (input.sendCommand (.raw command), rawCommand command,
      { shared with lastTypeBinary := none })
  | other =>
    match input.plain with
    | some command => (input.sendCommand command, other, shared)
    | none => (.answer input.decision.answer, other, shared)

def parseResponse (code : Nat) (self : FtpOperation) (shared : SharedState) :
    Answer FtpOperation × FtpOperation × SharedState :=
  match self with
  | logon => (input.decision.alone, logon, shared)
  | rawTransfer data =>
    let (answer, data, shared) := data.parseResponse input code shared
    (answer, rawTransfer data, shared)
  | rawCommand command =>
    (.finish (if RawTransfer.positive code then .ok else .error), rawCommand command, shared)
  | other => (input.decision.answer, other, shared)

/-- Only the other operations start operations of their own. -/
def subcommandResult (code : EndCode) (_previous self : FtpOperation)
    (shared : SharedState) : Answer FtpOperation × FtpOperation × SharedState :=
  match self with
  | other => (input.decision.answer, other, shared)
  | self => (if code = .ok then .proceed none else .finish code, self, shared)

def setAsyncRequestReply (self : FtpOperation) (shared : SharedState) :
    Answer FtpOperation × FtpOperation × SharedState :=
  match self with
  | rawTransfer data =>
    (if input.allow then .wouldBlock .reply else .finish .failed, rawTransfer data, shared)
  | self => (input.decision.alone, self, shared)

def transferEnd (self : FtpOperation) (shared : SharedState) :
    Option EndCode × FtpOperation × SharedState :=
  match self with
  | rawTransfer data =>
    let (ended, data) := data.transferEnd input
    (ended, rawTransfer data, shared)
  | self => (none, self, shared)

/-- The command of `OnTimer` -/
def keepAlive (shared : SharedState) : FtpCommand :=
  match input.keepAlive with
  | 0 => .noop
  | 1 => if shared.lastTypeBinary = some false then .typeAscii else .typeBinary
  | 2 => .pwd

end FtpOperation

open FtpOperation in
def ftpOperations : Operations FtpOperation SharedState FtpCommand Nat Input where
  isConnect operation := operation = logon
  isRawTransfer operation := match operation with
    | rawTransfer _ => true
    | _ => false
  executable operation := match operation with
    | rawCommand _ | other => true
    | _ => false
  preliminary code := code = 1
  send := FtpOperation.send
  parseResponse := FtpOperation.parseResponse
  subcommandResult := FtpOperation.subcommandResult
  setAsyncRequestReply := FtpOperation.setAsyncRequestReply
  transferEnd := FtpOperation.transferEnd
  keepAlive := FtpOperation.keepAlive
  finalizeResetOperation shared := shared
  notify _ _ shared := shared
  onConnect _ := {}
  onClose shared := shared

end Ftp

end FileZilla
