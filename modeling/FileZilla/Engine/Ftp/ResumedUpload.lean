import FileZilla.Engine.Aio
import FileZilla.Engine.Ftp.FileTransfer
import FileZilla.Engine.Ftp.TransferChannels
import FileZilla.Engine.Ftp.TransferMode

namespace FileZilla

open List

namespace FtpTransfer

open Ftp (Capability Channels EndCode FtpCommand Input RawTransfer SharedState)

variable {Time : Type}

structure RawRun where
  raw : RawTransfer
  shared : SharedState
  sent : List FtpCommand := []
  ended : Option EndCode := none

namespace RawRun

/-- `Send`, and `ParseResponse` with the reply to the command if there is one -/
def exchange (input : Input) (code : Nat) (self : RawRun) : RawRun :=
  if self.ended.isSome then self
  else
    match self.raw.send input self.shared with
    | (.command command, raw, shared) =>
      let sent := self.sent ++ [command]
      match raw.parseResponse input code shared with
      | (.finish ended, raw, shared) => { raw, shared, sent, ended := some ended }
      | (_, raw, shared) => { raw, shared, sent }
    | (.answer (.finish ended), raw, shared) => { self with raw, shared, ended := some ended }
    | (.answer _, raw, shared) => { self with raw, shared }

def exchanges (steps : List (Input × Nat)) (self : RawRun) : RawRun :=
  steps.foldl (fun self step => self.exchange step.1 step.2) self

end RawRun

/-- The remote file and the restart marker of a server that may know `REST` -/
structure UploadServer where
  content : Bytes
  marker : Nat := 0
  acceptsRest : Bool

def UploadServer.respond (data : Bytes) (self : UploadServer) : FtpCommand → Nat × UploadServer
  | .rest offset =>
    if self.acceptsRest then (3, { self with marker := offset.toNat }) else (5, self)
  | .stor _ _ _ =>
    (1, { self with content := self.content.take self.marker ++ data, marker := 0 })
  | .appe _ _ _ => (1, { self with content := self.content ++ data, marker := 0 })
  | _ => (2, self)

structure ServedRun where
  run : RawRun
  server : UploadServer

namespace ServedRun

def exchange (data : Bytes) (input : Input) (self : ServedRun) : ServedRun :=
  if self.run.ended.isSome then self
  else
    match (self.run.raw.send input self.run.shared).1 with
    | .command command =>
      let (code, server) := self.server.respond data command
      { run := self.run.exchange input code, server }
    | .answer _ => { self with run := self.run.exchange input 0 }

def exchanges (data : Bytes) (inputs : List Input) (self : ServedRun) : ServedRun :=
  inputs.foldl (fun self input => self.exchange data input) self

end ServedRun

/-- Nothing outside of the commands and their replies keeps a transfer from starting. -/
structure Undisturbed (input : Input) : Prop where
  converts : input.converts = true
  transferSocket : input.transferSocket = true
  setupPassive : input.setupPassive = true
  parsed : input.parsed = true
  listens : ∃ portArgument, input.address = .listening portArgument

/-- `Send` of a binary upload of which the server has the first bytes -/
structure ResumedUpload (Time : Type) where
  op : CFtpFileTransferOpData Time
  env : FileTransferEnv Time
  localBytes : Bytes
  remoteBytes : Bytes
  upload : op.download = false
  resume : op.resume = true
  binary : op.binary = true
  opState : op.opState = .resumetest ∨ op.opState = .transfer
  opens : env.opens = true
  localSize : op.localFileSize.toNat = localBytes.length
  remoteSize : op.remoteFileSize.toInt = remoteBytes.length
  nonempty : 0 < remoteBytes.length
  shorter : remoteBytes.length < localBytes.length
  bounded : localBytes.length < 2 ^ 63

namespace ResumedUpload

variable (self : ResumedUpload Time) (capabilities : TransferCapabilities)

def handled : Handled Time :=
  self.op.send self.env capabilities

def start (command : FtpCommand) (shared : SharedState) : RawRun where
  raw :=
    { cmd := command
      binary := self.op.binary
      resumeOffset := (self.handled capabilities).op.resumeOffset.toInt }
  shared := shared

def stor : FtpCommand :=
  .stor self.op.remotePath self.op.remoteFile (!self.op.tryAbsolutePath)

def appe : FtpCommand :=
  .appe self.op.remotePath self.op.remoteFile (!self.op.tryAbsolutePath)

/-- The command is only sent right after `REST` with the size of the remote file. -/
def RestBefore (command : FtpCommand) : Prop :=
  ∀ shared steps before after, ((self.start capabilities command shared).exchanges steps).sent =
      before ++ command :: after →
    ∃ earlier, before = earlier ++ [.rest self.remoteBytes.length]

/-- No `REST` is sent, except to clear the restart marker. -/
def NoRest (command : FtpCommand) : Prop :=
  ∀ shared steps offset,
    .rest offset ∈ ((self.start capabilities command shared).exchanges steps).sent → offset = 0

def dataFrom (offset : Int64) : Bytes :=
  self.localBytes.drop offset.toInt.toNat

/-- The server takes the transfer command, the remote file gets the missing bytes, and the
transfer succeeds if nothing goes wrong after that. -/
structure GoesThrough (upload : ResumedUpload Time) (served : ServedRun) : Prop where
  accepted : served.run.raw.opState = .waitfinish
  running : served.run.ended = none
  content : served.server.content =
    upload.remoteBytes ++ upload.localBytes.drop upload.remoteBytes.length
  succeeds : ∀ trace channels, Run Channels.step (Channels.start served.run.raw) trace channels →
    channels.Accepted → channels.EndedWith .successful → channels.ended = some .ok

def Fits (server : UploadServer) : Prop :=
  server.content = self.remoteBytes ∧
    (capabilities.restStream = .yes → server.acceptsRest = true)

structure Appends (upload : ResumedUpload Time) (capabilities : TransferCapabilities)
    (command : FtpCommand) : Prop where
  pushed : (upload.handled capabilities).pushed = some (.transfer command)
  reads : (upload.handled capabilities).op.transferSocket =
    some { mode := .upload, binaryMode := true, offset := some upload.op.remoteFileSize }
  commands :
    (capabilities.restStream = .yes ∧ command = upload.stor ∧
      upload.RestBefore capabilities command) ∨
    (command = upload.appe ∧ upload.NoRest capabilities command)
  goesThrough : ∀ shared server, upload.Fits capabilities server →
    ∀ inputs : List Input, inputs.length = 5 → (∀ input ∈ inputs, Undisturbed input) →
    upload.GoesThrough (ServedRun.exchanges (upload.dataFrom upload.op.remoteFileSize) inputs
        ⟨upload.start capabilities command shared, server⟩)

end ResumedUpload

theorem parseResponse_request (input : Input) (code : Nat) (raw : RawTransfer)
    (shared : SharedState) : (raw.parseResponse input code shared).2.1.request = raw.request := by
  cases state : raw.opState with
  | init => simp [RawTransfer.parseResponse, state]
  | type =>
    simp only [RawTransfer.parseResponse, state]
    split <;> rfl
  | portPasv =>
    simp only [RawTransfer.parseResponse, state]
    split
    case h_1 => rfl
    case h_2 next parsed => exact (Ftp.FtpSocket.parsePortReply_next parsed).1
  | rest =>
    simp only [RawTransfer.parseResponse, state]
    split <;> rfl
  | transfer | waitfinish | waittransferpre | waittransfer | waitsocket =>
    apply Ftp.RawTransfer.parseResponse_request
    simp [RawTransfer.Transferring, state]

theorem parseResponse_quiet {raw : RawTransfer} (quiet : raw.Quiet) (input : Input) (code : Nat)
    (shared : SharedState) :
    (raw.parseResponse input code shared).2.1.opState ≠ .transfer := by
  have failed (reason : Ftp.TransferEndReason) : (raw.failWith reason).opState ≠ .transfer := by
    rw [RawTransfer.failWith_opState]
    rcases quiet with state | state | state | state <;> simp [state]
  rcases quiet with state | state | state | state <;>
    simp only [RawTransfer.parseResponse, state]
  · split
    · exact failed _
    · simp
  · split
    · simp
    · split
      · split <;> simp [state]
      · exact failed _
  · split
    · exact failed _
    · split <;> simp [state]
  · simp

/-- With an offset, the state of the transfer command is only reached from that of `REST`. -/
theorem parseResponse_transfer {input : Input} {code : Nat} {raw : RawTransfer}
    {shared : SharedState} (positive : 0 < raw.resumeOffset)
    (unfinished : ∀ ended, (raw.parseResponse input code shared).1 ≠ .finish ended)
    (transfers : (raw.parseResponse input code shared).2.1.opState = .transfer) :
    raw.opState = .rest := by
  cases state : raw.opState with
  | rest => rfl
  | init => simp [RawTransfer.parseResponse, state] at transfers
  | type =>
    simp only [RawTransfer.parseResponse, state] at transfers
    split at transfers <;> simp [state] at transfers
  | portPasv =>
    simp only [RawTransfer.parseResponse, state] at transfers
    split at transfers
    case h_1 => simp [state] at transfers
    case h_2 next parsed =>
      rcases (Ftp.FtpSocket.parsePortReply_next parsed).2 with same | rest | ⟨-, negative, -⟩
      · simp [same, state] at transfers
      · simp [rest] at transfers
      · omega
  | transfer =>
    simp only [RawTransfer.parseResponse, state] at transfers unfinished
    split at transfers
    case isTrue => simp at transfers
    case isFalse final =>
      rw [if_neg final] at unfinished
      split at transfers
      case isTrue => simp at transfers
      case isFalse negative =>
        rw [if_neg negative] at unfinished
        exact absurd rfl (unfinished .error)
  | waitfinish | waittransferpre | waittransfer | waitsocket =>
    exact absurd transfers (parseResponse_quiet (by simp [RawTransfer.Quiet, state]) _ _ _)

/-- `Send` itself does not lead to the state of the transfer command. -/
theorem send_transfer (input : Input) (raw : RawTransfer) (shared : SharedState)
    (transfers : (raw.send input shared).2.1.opState = .transfer) : raw.opState = .transfer := by
  rcases RawTransfer.send_opState input raw shared with same | init
  · exact same.symm.trans transfers
  · unfold RawTransfer.send at transfers
    split at transfers
    case isTrue => exact transfers
    case isFalse =>
      simp only [init] at transfers
      split at transfers <;> split at transfers <;> simp at transfers

namespace RawRun

/-- `REST` with the offset comes right before the transfer command. -/
structure Announced (command : FtpCommand) (offset : Int) (run : RawRun) : Prop where
  cmd : run.raw.cmd = command
  resumeOffset : run.raw.resumeOffset = offset
  preceded : ∀ before after, run.sent = before ++ command :: after →
    ∃ earlier, before = earlier ++ [.rest offset]
  ready : run.ended = none → run.raw.opState = .transfer →
    ∃ earlier, run.sent = earlier ++ [.rest offset]

variable {self : RawRun} {command : FtpCommand} {offset : Int}

theorem preceded_snoc {sent : List FtpCommand} {last : FtpCommand}
    (preceded : ∀ before after, sent = before ++ command :: after →
      ∃ earlier, before = earlier ++ [.rest offset])
    (announced : last = command → ∃ earlier, sent = earlier ++ [.rest offset]) :
    ∀ before after, sent ++ [last] = before ++ command :: after →
      ∃ earlier, before = earlier ++ [.rest offset] := by
  intro before after same
  rcases eq_nil_or_concat after with rfl | ⟨rest, final, rfl⟩
  · obtain ⟨rfl, single⟩ := append_inj' same rfl
    exact announced (singleton_inj.mp single)
  · rw [concat_eq_append, ← cons_append, ← append_assoc] at same
    exact preceded before rest (append_inj' same rfl).1

theorem Announced.sends (announced : Announced command offset self) (alive : self.ended = none)
    (transfers : command.transfers = true) {input : Input} {sent : FtpCommand}
    (sends : (self.raw.send input self.shared).1 = .command sent) :
    (sent = command → ∃ earlier, self.sent = earlier ++ [.rest offset]) ∧
      (self.raw.opState = .rest → sent = .rest offset) ∧ self.raw.opState ≠ .init := by
  have effect : command.effect (fun _ => .nothing) = .transfer :=
    FtpCommand.effect_transfers transfers
  rcases RawTransfer.send_command (fun _ => .nothing) sends with
    ⟨state, same⟩ | ⟨state, silent⟩ | ⟨state, same⟩ | ⟨state, -⟩
  · refine ⟨fun last => ?_, by simp [state], by simp [state]⟩
    rw [← last, same] at effect
    split at effect <;> simp [FtpCommand.effect] at effect
  · refine ⟨fun last => ?_, by simp [state], by simp [state]⟩
    rw [← last, silent] at effect
    simp at effect
  · refine ⟨fun last => ?_, fun _ => same.trans (congrArg _ announced.resumeOffset),
      by simp [state]⟩
    rw [← last, same] at effect
    simp [FtpCommand.effect] at effect
  · exact ⟨fun _ => announced.ready alive state, by simp [state], by simp [state]⟩

theorem Announced.exchange (announced : Announced command offset self)
    (transfers : command.transfers = true) (positive : 0 < offset) (input : Input) (code : Nat) :
    Announced command offset (self.exchange input code) := by
  have requested := RawTransfer.send_request input self.raw self.shared
  have state := RawTransfer.send_opState input self.raw self.shared
  unfold RawRun.exchange
  split
  case isTrue => exact announced
  case isFalse running =>
    have alive : self.ended = none := by simpa using running
    split
    case h_1 sent raw shared sends =>
      rw [sends] at requested state
      simp only [RawTransfer.request, Prod.mk.injEq] at requested
      obtain ⟨cmd, -, resumeOffset⟩ := requested
      obtain ⟨last, rest, begun⟩ := announced.sends alive transfers (congrArg Prod.fst sends)
      have parsed := parseResponse_request input code raw shared
      simp only [RawTransfer.request, Prod.mk.injEq] at parsed
      have preceded := preceded_snoc announced.preceded last
      dsimp only
      split
      case h_1 ended next later same =>
        rw [same] at parsed
        exact
          { cmd := parsed.1.trans (cmd.trans announced.cmd)
            resumeOffset := parsed.2.2.trans (resumeOffset.trans announced.resumeOffset)
            preceded
            ready := fun impossible => absurd impossible (by simp) }
      case h_2 answer next later unfinished same =>
        have reached := @parseResponse_transfer input code raw shared
        rw [same] at parsed reached
        refine
          { cmd := parsed.1.trans (cmd.trans announced.cmd)
            resumeOffset := parsed.2.2.trans (resumeOffset.trans announced.resumeOffset)
            preceded
            ready := fun _ transfer => ?_ }
        have before : raw.opState = .rest := by
          apply reached _ unfinished transfer
          rw [resumeOffset, announced.resumeOffset]
          exact positive
        have same := state.resolve_right begun
        exact ⟨self.sent, by rw [rest (same.symm.trans before)]⟩
    case h_2 ended raw shared sends =>
      rw [sends] at requested
      simp only [RawTransfer.request, Prod.mk.injEq] at requested
      exact
        { cmd := requested.1.trans announced.cmd
          resumeOffset := requested.2.2.trans announced.resumeOffset
          preceded := announced.preceded
          ready := fun impossible => absurd impossible (by simp) }
    case h_3 answer raw shared other sends =>
      have later := send_transfer input self.raw self.shared
      rw [sends] at requested later
      simp only [RawTransfer.request, Prod.mk.injEq] at requested
      exact
        { cmd := requested.1.trans announced.cmd
          resumeOffset := requested.2.2.trans announced.resumeOffset
          preceded := announced.preceded
          ready := fun _ transfer => announced.ready alive (later transfer) }

theorem Announced.exchanges (announced : Announced command offset self)
    (transfers : command.transfers = true) (positive : 0 < offset) (steps : List (Input × Nat)) :
    Announced command offset (self.exchanges steps) := by
  induction steps generalizing self with
  | nil => exact announced
  | cons step rest ih => exact ih (announced.exchange transfers positive step.1 step.2)

end RawRun

namespace ResumedUpload

variable {self : ResumedUpload Time} {capabilities : TransferCapabilities}

theorem toInt_toInt64 {size : UInt64} (small : size.toNat < 2 ^ 63) :
    size.toInt64.toInt = size.toNat := by
  have bit := BitVec.toInt_eq_toNat_cond size.toInt64.toBitVec
  change size.toInt64.toInt = if 2 * size.toNat < 2 ^ 64 then (size.toNat : Int) else _ at bit
  rw [bit, if_pos (by omega)]

theorem remoteFileSize_positive (self : ResumedUpload Time) : 0 < self.op.remoteFileSize := by
  have nonempty := self.nonempty
  have remoteSize := self.remoteSize
  rw [Int64.lt_iff_toInt_lt, remoteSize]
  simpa using nonempty

theorem handled_eq (self : ResumedUpload Time) (capabilities : TransferCapabilities) :
    self.handled capabilities =
      { self.op with
        transferSocket := none
        resumeOffset := self.op.remoteFileSize }.startUpload self.env capabilities := by
  have positive := self.remoteFileSize_positive
  have small : self.op.localFileSize.toNat < 2 ^ 63 := self.localSize ▸ self.bounded
  have less : ¬ self.op.localFileSize.toInt64 ≤ self.op.remoteFileSize := by
    have shorter := self.shorter
    rw [Int64.le_iff_toInt_le, toInt_toInt64 small, self.localSize, self.remoteSize]
    omega
  have sends : self.handled capabilities = self.op.sendUpload self.env capabilities := by
    rcases self.opState with state | state
    · simp [handled, CFtpFileTransferOpData.send, state, self.upload]
    · simp [handled, CFtpFileTransferOpData.send, state, self.upload]
  rw [sends]
  simp [CFtpFileTransferOpData.sendUpload, self.resume, positive, less]

theorem handled_cases (self : ResumedUpload Time) (capabilities : TransferCapabilities) :
    (self.handled capabilities).op.resumeOffset.toInt = self.remoteBytes.length ∧
      (self.handled capabilities).op.transferSocket =
        some { mode := .upload, binaryMode := true, offset := some self.op.remoteFileSize } ∧
      (self.handled capabilities).pushed =
        some (.transfer (if capabilities.restStream = .yes then self.stor else self.appe)) := by
  have nonzero : self.op.remoteFileSize ≠ 0 := fun zero =>
    absurd self.remoteFileSize_positive (by simp [zero])
  rw [handled_eq]
  simp only [CFtpFileTransferOpData.startUpload, self.opens, self.resume, self.binary,
    Bool.not_true, Bool.false_eq_true, if_false, CFtpFileTransferOpData.startTransfer]
  refine ⟨self.remoteSize, trivial, ?_⟩
  by_cases known : capabilities.restStream = .yes
  · simp [known, stor]
  · simp [known, nonzero, appe]

theorem start_announced (command : FtpCommand) (shared : SharedState) :
    RawRun.Announced command self.remoteBytes.length (self.start capabilities command shared) where
  cmd := rfl
  resumeOffset := (self.handled_cases capabilities).1
  preceded _ _ same := absurd same (by simp [start])
  ready _ transfer := absurd transfer (by simp [start])

theorem restBefore (command : FtpCommand) (transfers : command.transfers = true) :
    self.RestBefore capabilities command := by
  intro shared steps before after sent
  have positive : (0 : Int) < self.remoteBytes.length := by
    have nonempty := self.nonempty
    omega
  have announced : RawRun.Announced command self.remoteBytes.length
      (self.start capabilities command shared) := start_announced command shared
  exact (announced.exchanges transfers positive steps).preceded before after sent

theorem sends_rest (command : FtpCommand) : ¬ self.NoRest capabilities command := by
  intro restless
  have nonempty := self.nonempty
  have offset := (self.handled_cases capabilities).1
  have sent := restless { lastTypeBinary := some true } [({}, 0), ({}, 2), ({}, 3)]
    self.remoteBytes.length
  have zero := sent (by
    simp [RawRun.exchanges, RawRun.exchange, start, self.binary, RawTransfer.send,
      Input.sendCommand, RawTransfer.parseResponse, RawTransfer.parsePortReply,
      RawTransfer.positive, RawTransfer.getPassiveCommand, offset, nonempty])
  omega

end ResumedUpload

namespace ServedRun

structure Asked (command : FtpCommand) (old : Bytes) (served : ServedRun) : Prop where
  running : served.run.ended = none
  cmd : served.run.raw.cmd = command
  resumeOffset : served.run.raw.resumeOffset = old.length
  accepts : served.server.acceptsRest = true
  content : served.server.content = old

inductive Stage (served : ServedRun) (old : Bytes) : Nat → Prop
  | init (state : served.run.raw.opState = .init) : Stage served old 5
  | type (state : served.run.raw.opState = .type) : Stage served old 4
  | portPasv (state : served.run.raw.opState = .portPasv) : Stage served old 3
  | rest (state : served.run.raw.opState = .rest) : Stage served old 2
  | transfer (state : served.run.raw.opState = .transfer)
      (marker : served.server.marker = old.length) : Stage served old 1

structure Stored (old data : Bytes) (served : ServedRun) : Prop where
  running : served.run.ended = none
  state : served.run.raw.opState = .waitfinish
  content : served.server.content = old ++ data

variable {self : ServedRun} {command : FtpCommand} {old data : Bytes} {input : Input} {left : Nat}

variable {raw : RawTransfer}

theorem exchange_proceed (running : self.run.ended = none)
    {shared : SharedState} (sends : self.run.raw.send input self.run.shared =
      (.answer (.proceed none), raw, shared)) :
    self.exchange data input = { self with run := { self.run with raw, shared } } := by
  simp [exchange, RawRun.exchange, running, sends]

theorem exchange_command (running : self.run.ended = none) {sent : FtpCommand}
    {next : RawTransfer} {shared later : SharedState} {code : Nat} {server : UploadServer}
    (sends : self.run.raw.send input self.run.shared = (.command sent, raw, shared))
    (responds : self.server.respond data sent = (code, server))
    (parses : raw.parseResponse input code shared = (.proceed none, next, later)) :
    self.exchange data input =
      { run := { raw := next, shared := later, sent := self.run.sent ++ [sent] }, server } := by
  simp [exchange, RawRun.exchange, running, sends, responds, parses]

theorem send_init (undisturbed : Undisturbed input) (shared : SharedState)
    (state : raw.opState = .init) :
    ∃ next, raw.send input shared = (.answer (.proceed none), next, shared) ∧
      next.request = raw.request ∧ (next.opState = .type ∨ next.opState = .portPasv) := by
  have opState : ((if shared.lastTypeBinary = some raw.binary then .portPasv else .type) :
        Ftp.RawTransferState) = .type ∨
      ((if shared.lastTypeBinary = some raw.binary then .portPasv else .type) :
        Ftp.RawTransferState) = .portPasv := by
    split
    · exact .inr rfl
    · exact .inl rfl
  simp only [RawTransfer.send, undisturbed.transferSocket, state, Bool.not_true,
    Bool.false_eq_true, if_false]
  refine ⟨_, rfl, ?_⟩
  split
  · exact ⟨rfl, opState⟩
  · exact ⟨rfl, opState⟩

theorem exchange_init (asked : Asked command old self) (undisturbed : Undisturbed input)
    (state : self.run.raw.opState = .init) :
    Asked command old (self.exchange data input) ∧
      (Stage (self.exchange data input) old 4 ∨ Stage (self.exchange data input) old 3) := by
  obtain ⟨next, sends, request, later⟩ := send_init undisturbed self.run.shared state
  simp only [RawTransfer.request, Prod.mk.injEq] at request
  rw [exchange_proceed asked.running sends]
  refine ⟨⟨asked.running, request.1.trans asked.cmd, request.2.2.trans asked.resumeOffset,
    asked.accepts, asked.content⟩, ?_⟩
  rcases later with type | portPasv
  · exact .inl (.type type)
  · exact .inr (.portPasv portPasv)

theorem exchange_type (asked : Asked command old self) (undisturbed : Undisturbed input)
    (state : self.run.raw.opState = .type) :
    Asked command old (self.exchange data input) ∧ Stage (self.exchange data input) old 3 := by
  have sends : self.run.raw.send input self.run.shared =
      (.command (if self.run.raw.binary then .typeBinary else .typeAscii), self.run.raw,
        { self.run.shared with lastTypeBinary := none }) := by
    simp [RawTransfer.send, undisturbed.transferSocket, state, Input.sendCommand,
      undisturbed.converts]
  have responds : self.server.respond data
      (if self.run.raw.binary then .typeBinary else .typeAscii) = (2, self.server) := by
    split <;> rfl
  have parses (shared : SharedState) : self.run.raw.parseResponse input 2 shared =
      (.proceed none, { self.run.raw with opState := .portPasv },
        { shared with lastTypeBinary := some self.run.raw.binary }) := by
    simp [RawTransfer.parseResponse, state, RawTransfer.positive]
  rw [exchange_command asked.running sends responds (parses _)]
  exact ⟨⟨rfl, asked.cmd, asked.resumeOffset, asked.accepts, asked.content⟩, .portPasv rfl⟩

theorem send_portPasv (undisturbed : Undisturbed input) {raw : RawTransfer}
    (shared : SharedState) (state : raw.opState = .portPasv) :
    ∃ sent next, raw.send input shared = (.command sent, next, shared) ∧
      (∀ server : UploadServer, server.respond data sent = (2, server)) ∧
      next.request = raw.request ∧ next.opState = .portPasv := by
  obtain ⟨portArgument, listens⟩ := undisturbed.listens
  simp only [RawTransfer.send, undisturbed.transferSocket, state, Bool.not_true,
    Bool.false_eq_true, if_false, Input.sendCommand, undisturbed.converts, if_true, listens]
  split
  · refine ⟨_, _, rfl, fun server => ?_, rfl, rfl⟩
    unfold RawTransfer.getPassiveCommand
    split <;> rfl
  · refine ⟨_, _, rfl, fun server => ?_, rfl, rfl⟩
    split <;> rfl

theorem parsePortReply_rest (undisturbed : Undisturbed input)
    (shared : SharedState) (positive : 0 < raw.resumeOffset) :
    ∃ next, raw.parsePortReply input 2 shared = some next ∧ next.request = raw.request ∧
      next.opState = .rest := by
  have resumes : 0 < (if raw.bPasv then { raw with bTriedPasv := true } else raw).resumeOffset := by
    split <;> exact positive
  have request : (if raw.bPasv then { raw with bTriedPasv := true } else raw).request =
      raw.request := by
    split <;> rfl
  simp only [RawTransfer.parsePortReply, RawTransfer.positive, undisturbed.parsed, Bool.not_true,
    Bool.and_false, Bool.false_eq_true, if_false, decide_true, true_or]
  rw [if_pos (.inl resumes)]
  exact ⟨_, rfl, request, rfl⟩

theorem exchange_portPasv (asked : Asked command old self) (undisturbed : Undisturbed input)
    (some : old ≠ []) (state : self.run.raw.opState = .portPasv) :
    Asked command old (self.exchange data input) ∧ Stage (self.exchange data input) old 2 := by
  obtain ⟨sent, raw, sends, responds, sentRequest, waits⟩ :=
    @send_portPasv data input undisturbed _ self.run.shared state
  simp only [RawTransfer.request, Prod.mk.injEq] at sentRequest
  have positive : 0 < raw.resumeOffset := by
    rw [sentRequest.2.2, asked.resumeOffset]
    exact Int.natCast_pos.mpr (length_pos_iff.mpr some)
  obtain ⟨next, parsed, request, rest⟩ := parsePortReply_rest undisturbed self.run.shared positive
  simp only [RawTransfer.request, Prod.mk.injEq] at request
  have parses : raw.parseResponse input 2 self.run.shared =
      (.proceed none, next, self.run.shared) := by
    simp [RawTransfer.parseResponse, waits, parsed]
  rw [exchange_command asked.running sends (responds _) parses]
  exact ⟨⟨rfl, request.1.trans (sentRequest.1.trans asked.cmd),
    request.2.2.trans (sentRequest.2.2.trans asked.resumeOffset), asked.accepts, asked.content⟩,
    .rest rest⟩

theorem exchange_rest (asked : Asked command old self) (undisturbed : Undisturbed input)
    (some : old ≠ []) (state : self.run.raw.opState = .rest) :
    Asked command old (self.exchange data input) ∧ Stage (self.exchange data input) old 1 := by
  have length : 0 < old.length := length_pos_iff.mpr some
  have positive : 0 < self.run.raw.resumeOffset := by
    rw [asked.resumeOffset]
    exact Int.natCast_pos.mpr length
  have sends : self.run.raw.send input self.run.shared =
      (.command (.rest self.run.raw.resumeOffset), self.run.raw,
        { self.run.shared with sentRestartOffset := true }) := by
    simp [RawTransfer.send, undisturbed.transferSocket, state, Input.sendCommand,
      undisturbed.converts, positive]
  have responds : self.server.respond data (.rest self.run.raw.resumeOffset) =
      (3, { self.server with marker := old.length }) := by
    simp [UploadServer.respond, asked.accepts, asked.resumeOffset]
  have parses (shared : SharedState) : self.run.raw.parseResponse input 3 shared =
      (.proceed none, { self.run.raw with opState := .transfer }, shared) := by
    simp [RawTransfer.parseResponse, state, RawTransfer.positive, Int.not_le.mpr positive]
  rw [exchange_command asked.running sends responds (parses _)]
  exact ⟨⟨rfl, asked.cmd, asked.resumeOffset, asked.accepts, asked.content⟩, .transfer rfl rfl⟩

theorem exchange_transfer (asked : Asked command old self) (undisturbed : Undisturbed input)
    (stores : ∀ server : UploadServer, server.marker = old.length →
      (server.respond data command).1 = 1 ∧
        (server.respond data command).2.content = server.content.take old.length ++ data)
    (state : self.run.raw.opState = .transfer) (marker : self.server.marker = old.length) :
    Stored old data (self.exchange data input) := by
  have sends : self.run.raw.send input self.run.shared =
      (.command command, { self.run.raw with tranferCommandSent := true }, self.run.shared) := by
    simp [RawTransfer.send, undisturbed.transferSocket, state, Input.sendCommand,
      undisturbed.converts, undisturbed.setupPassive, asked.cmd]
  obtain ⟨code, content⟩ := stores self.server marker
  have responds : self.server.respond data command = (1, (self.server.respond data command).2) :=
    Prod.ext code rfl
  have parses (raw : RawTransfer) (same : raw.opState = .transfer) :
      raw.parseResponse input 1 self.run.shared =
        (.proceed none, { raw with opState := .waitfinish }, self.run.shared) := by
    simp [RawTransfer.parseResponse, same]
  rw [exchange_command asked.running sends responds (parses _ state)]
  refine ⟨rfl, rfl, ?_⟩
  rw [content, asked.content, take_length]

theorem exchange_stored (stored : Stored old data self) (undisturbed : Undisturbed input) :
    Stored old data (self.exchange data input) := by
  have sends : self.run.raw.send input self.run.shared =
      (.answer (.wouldBlock .reply), self.run.raw, self.run.shared) := by
    simp [RawTransfer.send, undisturbed.transferSocket, stored.state]
  obtain ⟨⟨raw, shared, sent, ended⟩, server⟩ := self
  obtain rfl : ended = none := stored.running
  have same : exchange data input ⟨⟨raw, shared, sent, none⟩, server⟩ =
      ⟨⟨raw, shared, sent, none⟩, server⟩ := by
    simp [exchange, RawRun.exchange, sends]
  rw [same]
  exact stored

theorem exchanges_stored (stored : Stored old data self) {inputs : List Input}
    (undisturbed : ∀ input ∈ inputs, Undisturbed input) :
    Stored old data (self.exchanges data inputs) := by
  induction inputs generalizing self with
  | nil => exact stored
  | cons input rest ih =>
    apply ih (exchange_stored stored (undisturbed input mem_cons_self))
    intro other member
    exact undisturbed other (mem_cons_of_mem _ member)

theorem exchanges_asked (asked : Asked command old self) (some : old ≠ [])
    (stores : ∀ server : UploadServer, server.marker = old.length →
      (server.respond data command).1 = 1 ∧
        (server.respond data command).2.content = server.content.take old.length ++ data)
    (stage : Stage self old left) {inputs : List Input} (enough : left ≤ inputs.length)
    (undisturbed : ∀ input ∈ inputs, Undisturbed input) :
    Stored old data (self.exchanges data inputs) := by
  induction inputs generalizing self left with
  | nil => cases stage <;> simp at enough
  | cons input rest ih =>
    have first := undisturbed input mem_cons_self
    have later : ∀ other ∈ rest, Undisturbed other := fun other member =>
      undisturbed other (mem_cons_of_mem _ member)
    rw [length_cons] at enough
    cases stage with
    | init state =>
      obtain ⟨next, stage⟩ := @exchange_init self command old data input asked first state
      rcases stage with type | portPasv
      · exact ih next type (by omega) later
      · exact ih next portPasv (by omega) later
    | type state =>
      obtain ⟨next, stage⟩ := @exchange_type self command old data input asked first state
      exact ih next stage (by omega) later
    | portPasv state =>
      obtain ⟨next, stage⟩ :=
        @exchange_portPasv self command old data input asked first some state
      exact ih next stage (by omega) later
    | rest state =>
      obtain ⟨next, stage⟩ := @exchange_rest self command old data input asked first some state
      exact ih next stage (by omega) later
    | transfer state marker =>
      exact exchanges_stored (exchange_transfer asked first stores state marker) later

end ServedRun

namespace ResumedUpload

variable {self : ResumedUpload Time} {capabilities : TransferCapabilities}

theorem stor_goesThrough (known : capabilities.restStream = .yes) (shared : SharedState)
    {server : UploadServer} (fits : self.Fits capabilities server) {inputs : List Input}
    (five : inputs.length = 5) (undisturbed : ∀ input ∈ inputs, Undisturbed input) :
    self.GoesThrough (ServedRun.exchanges (self.dataFrom self.op.remoteFileSize) inputs
        ⟨self.start capabilities self.stor shared, server⟩) := by
  have asked : ServedRun.Asked self.stor self.remoteBytes
      ⟨self.start capabilities self.stor shared, server⟩ :=
    ⟨rfl, rfl, (self.handled_cases capabilities).1, fits.2 known, fits.1⟩
  have some : self.remoteBytes ≠ [] := length_pos_iff.mp self.nonempty
  have stored := @ServedRun.exchanges_asked _ self.stor self.remoteBytes
    (self.dataFrom self.op.remoteFileSize) 5 asked some (fun server marker => by
      simp [UploadServer.respond, stor, marker]) (.init rfl) inputs (by omega) undisturbed
  refine ⟨stored.state, stored.running, ?_, ?_⟩
  · rw [stored.content, dataFrom, self.remoteSize, Int.toNat_natCast]
  · intro trace channels run accepted successful
    have coherent := Channels.run_coherent run
    have final : channels.replies.final ≠ none := by
      obtain ⟨code, final, -⟩ := accepted
      simp [final]
    obtain ⟨ended, same⟩ := Option.ne_none_iff_exists'.mp (coherent.settled final successful.1)
    have ok := (coherent.ends ended same).ok.mpr ⟨accepted, successful⟩
    exact same.trans (congrArg _ ok)

/-- A resumed upload is right where the server is known to accept `REST` for uploads. Otherwise
`APPE` follows a `REST` too. -/
theorem upload_appends_iff (self : ResumedUpload Time) (capabilities : TransferCapabilities) :
    (∃ command, self.Appends capabilities command) ↔ capabilities.restStream = .yes := by
  constructor
  · rintro ⟨command, appends⟩
    rcases appends.commands with ⟨known, -⟩ | ⟨-, restless⟩
    · exact known
    · exact absurd restless (sends_rest command)
  · intro known
    obtain ⟨offset, reads, pushed⟩ := self.handled_cases capabilities
    rw [if_pos known] at pushed
    exact ⟨self.stor, pushed, reads, .inl ⟨known, rfl, restBefore self.stor rfl⟩,
      fun shared server fits inputs five undisturbed =>
        stor_goesThrough known shared fits five undisturbed⟩

def oneOfThree : ResumedUpload Unit where
  op :=
    { opState := .resumetest
      download := false
      resume := true
      remotePath := ⟨none, .unix⟩
      remoteFile := wide "a"
      localFileSize := 3
      remoteFileSize := 1 }
  env := {}
  localBytes := [1, 2, 3]
  remoteBytes := [1]
  upload := rfl
  resume := rfl
  binary := rfl
  opState := .inl rfl
  opens := rfl
  localSize := by decide
  remoteSize := by decide
  nonempty := by decide
  shorter := by decide
  bounded := by decide

/-- The upload to a server that only knows `APPE` -/
def appendedTo (input : Input) : ServedRun :=
  ServedRun.exchanges [2, 3] (List.replicate 5 input)
    ⟨oneOfThree.start {} oneOfThree.appe {}, { content := [1], acceptsRest := false }⟩

theorem upload_sends_rest :
    (¬ ∃ command, oneOfThree.Appends {} command) ∧
      (appendedTo {}).run.sent = [.typeBinary, .pasv, .rest 1] ∧
      (appendedTo {}).run.ended = some .error ∧ (appendedTo {}).server.content = [1] := by
  refine ⟨?_, by decide, by decide, by decide⟩
  rintro ⟨command, appends⟩
  rcases appends.commands with ⟨known, -⟩ | ⟨-, restless⟩
  · cases known
  · exact sends_rest command restless

end ResumedUpload

end FtpTransfer

end FileZilla
