import FileZilla.Engine.Ftp.Operations

namespace FileZilla

namespace Ftp

inductive Effect
  | type (binary : Bool)
  | rest (offset : Int)
  | transfer
  | nothing
  deriving DecidableEq

/-- `reads` is what the server reads from the texts that the user has put in. -/
def FtpCommand.effect (reads : WString → Effect) : FtpCommand → Effect
  | typeBinary => .type true
  | typeAscii => .type false
  | rest resumeOffset => .rest resumeOffset
  | list | listHidden | mlsd | retr _ _ _ | stor _ _ _ | appe _ _ _ => .transfer
  | loginSequence command | postLogin command | raw command => reads command
  | _ => .nothing

/-- The server sends a preliminary reply for transfer commands only. -/
def PreliminaryForTransfers {σ : Type} (reads : WString → Effect)
    (server : Server FtpCommand Nat σ) : Prop :=
  ∀ state command next, server state command 1 = some next →
    ∃ text, command = some text ∧ text.effect reads = .transfer

variable {reads : WString → Effect}

theorem FtpCommand.effect_transfers {command : FtpCommand} (transfers : command.transfers = true) :
    command.effect reads = .transfer := by
  cases command <;> first | rfl | exact absurd transfers (by simp [FtpCommand.transfers])

theorem FtpCommand.effect_plain {command : FtpCommand} (plain : command.plain = true) :
    command.effect reads = .nothing := by
  cases command <;> first | rfl | exact absurd plain (by simp [FtpCommand.plain])

inductive RawTransfer.Sends (reads : WString → Effect) (self : RawTransfer)
    (command : FtpCommand) : Prop
  | type (state : self.opState = .type)
      (same : command = if self.binary then .typeBinary else .typeAscii)
  | portPasv (state : self.opState = .portPasv) (silent : command.effect reads = .nothing)
  | rest (state : self.opState = .rest) (same : command = .rest self.resumeOffset)
  | transfer (transferring : self.Transferring) (same : command = self.cmd)

def FtpOperation.sends (reads : WString → Effect) : FtpOperation → FtpCommand → Prop
  | logon, command => command.logsOn = true
  | rawTransfer data, command => data.Sends reads command
  | rawCommand _, _ => True
  | other, command => command.plain = true

def FtpOperation.Prepared : FtpOperation → Prop
  | rawTransfer data => data.Transferring
  | rawCommand _ => True
  | _ => False

def FtpOperation.Quiet : FtpOperation → Prop
  | rawTransfer data => data.Quiet
  | _ => False

namespace RawTransfer

/-- The command of each state, where `send` sends one. -/
theorem send_command (reads : WString → Effect) {input : Input} {self : RawTransfer}
    {shared : SharedState} {command : FtpCommand}
    (sent : (self.send input shared).1 = .command command) :
    (self.opState = .type ∧ command = if self.binary then .typeBinary else .typeAscii) ∨
    (self.opState = .portPasv ∧ command.effect reads = .nothing) ∨
    (self.opState = .rest ∧ command = .rest self.resumeOffset) ∨
    (self.opState = .transfer ∧ command = self.cmd) := by
  have converted {text : FtpCommand} (same : input.sendCommand text = .command command) :
      command = text := by
    unfold Input.sendCommand at same
    split at same
    case isTrue => exact (Sending.command.inj same).symm
    case isFalse => cases same
  have passive : (getPassiveCommand input).effect reads = .nothing := by
    unfold getPassiveCommand
    split <;> rfl
  unfold send at sent
  split at sent
  case isTrue => cases sent
  case isFalse =>
    split at sent
    case h_1 => cases sent
    case h_2 state => exact .inl ⟨state, converted sent⟩
    case h_3 state =>
      refine .inr (.inl ⟨state, ?_⟩)
      dsimp only at sent
      split at sent
      case isTrue =>
        rw [converted sent]
        exact passive
      case isFalse =>
        split at sent
        case h_1 => cases sent
        case h_2 =>
          rw [converted sent]
          split <;> rfl
        case h_3 =>
          split at sent
          case isTrue => cases sent
          case isFalse =>
            rw [converted sent]
            exact passive
    case h_4 state => exact .inr (.inr (.inl ⟨state, converted sent⟩))
    case h_5 state =>
      split at sent
      case isTrue => cases sent
      case isFalse => exact .inr (.inr (.inr ⟨state, converted sent⟩))
    case h_6 | h_7 | h_8 | h_9 => cases sent

variable (input : Input) (self : RawTransfer)

theorem send_opState (shared : SharedState) :
    (self.send input shared).2.1.opState = self.opState ∨ self.opState = .init := by
  unfold send
  split
  · exact .inl rfl
  · split
    case h_1 state => exact .inr state
    case h_3 =>
      left
      dsimp only
      split
      · rfl
      · split
        · rfl
        · rfl
        · split <;> rfl
    case h_5 =>
      left
      split <;> rfl
    all_goals exact .inl rfl

theorem failWith_opState (reason : TransferEndReason) (self : RawTransfer) :
    (self.failWith reason).opState = self.opState := by
  unfold failWith
  split <;> rfl

def request (self : RawTransfer) : FtpCommand × Bool × Int :=
  (self.cmd, self.binary, self.resumeOffset)

theorem send_request (shared : SharedState) :
    (self.send input shared).2.1.request = self.request := by
  unfold send
  split
  · rfl
  · split
    case h_1 =>
      dsimp only
      split <;> rfl
    case h_3 =>
      dsimp only
      split
      · rfl
      · split
        · rfl
        · rfl
        · split <;> rfl
    case h_5 => split <;> rfl
    all_goals rfl

theorem failWith_request (reason : TransferEndReason) (self : RawTransfer) :
    (self.failWith reason).request = self.request := by
  unfold failWith
  split <;> rfl

theorem transferEnd_request :
    (self.transferEnd input).2.request = self.request := by
  unfold transferEnd
  split
  · rfl
  · dsimp only
    split
    · exact failWith_request _ self
    · split <;> exact failWith_request _ self

theorem transferEnd_opState :
    (self.transferEnd input).2.opState = self.opState ∨
    ((self.transferEnd input).2.Quiet ∧ self.Transferring) := by
  unfold transferEnd
  split
  · exact .inl rfl
  · dsimp only
    split
    · exact .inl (failWith_opState _ self)
    · split
      case h_1 state =>
        rw [failWith_opState] at state
        exact .inr ⟨.inr (.inl rfl), .inl state⟩
      case h_2 state =>
        rw [failWith_opState] at state
        exact .inr ⟨.inr (.inr (.inl rfl)), .inr (.inl state)⟩
      case h_3 => exact .inl (failWith_opState _ self)
      case h_4 => exact .inl (failWith_opState _ self)

theorem Transferring.parseResponse {self : RawTransfer} (transferring : self.Transferring)
    (input : Input) (code : Nat) (shared : SharedState) :
    (self.parseResponse input code shared).2.1.Transferring := by
  have failed (reason : TransferEndReason) : (self.failWith reason).Transferring := by
    rw [Transferring, failWith_opState]
    exact transferring
  unfold RawTransfer.parseResponse
  dsimp only
  rcases transferring with state | state | state | state | state <;> rw [state] <;> dsimp only
  · split
    · exact .inr (.inl rfl)
    · split
      · exact .inr (.inr (.inr (.inr rfl)))
      · exact failed _
  · split
    · exact failed _
    · exact .inr (.inr (.inr (.inr rfl)))
  · split
    · exact .inr (.inr (.inr (.inl rfl)))
    · split
      · split <;> exact .inr (.inr (.inl state))
      · exact failed _
  · split
    · exact failed _
    · split <;> exact .inr (.inr (.inr (.inl state)))
  · exact .inr (.inr (.inr (.inr state)))

theorem parseResponse_request {self : RawTransfer} (transferring : self.Transferring)
    (input : Input) (code : Nat) (shared : SharedState) :
    (self.parseResponse input code shared).2.1.request = self.request := by
  unfold RawTransfer.parseResponse
  dsimp only
  rcases transferring with state | state | state | state | state <;> rw [state] <;> dsimp only
  · split
    · rfl
    · split
      · rfl
      · exact failWith_request _ self
  · split
    · exact failWith_request _ self
    · rfl
  · split
    · rfl
    · split
      · split <;> rfl
      · exact failWith_request _ self
  · split
    · exact failWith_request _ self
    · split <;> rfl

theorem Sends.of_same {self next : RawTransfer} {command : FtpCommand}
    (sends : self.Sends reads command) (request : next.request = self.request)
    (state : next.opState = self.opState ∨ (self.Transferring ∧ next.Transferring)) :
    next.Sends reads command := by
  simp only [RawTransfer.request, Prod.mk.injEq] at request
  obtain ⟨cmd, binary, offset⟩ := request
  rcases state with same | ⟨transferring, later⟩
  · cases sends with
    | type state text => exact .type (same.trans state) (binary ▸ text)
    | portPasv state silent => exact .portPasv (same.trans state) silent
    | rest state text => exact .rest (same.trans state) (offset ▸ text)
    | transfer transferring text =>
      refine .transfer ?_ (cmd ▸ text)
      rw [Transferring, same]
      exact transferring
  · rcases transferring with started | started | started | started | started <;>
    · cases sends with
      | type state => cases started.symm.trans state
      | portPasv state => cases started.symm.trans state
      | rest state => cases started.symm.trans state
      | transfer _ text => exact .transfer later (cmd ▸ text)

theorem Sends.transferring {self : RawTransfer} {command : FtpCommand}
    (sends : self.Sends reads command) (transfer : command.effect reads = .transfer) :
    self.Transferring := by
  cases sends with
  | type _ text =>
    rw [text] at transfer
    split at transfer <;> exact absurd transfer (by simp [FtpCommand.effect])
  | portPasv _ silent => cases silent.symm.trans transfer
  | rest _ text =>
    rw [text] at transfer
    exact absurd transfer (by simp [FtpCommand.effect])
  | transfer transferring => exact transferring

theorem Quiet.transferring {self : RawTransfer} (quiet : self.Quiet) : self.Transferring :=
  .inr quiet

theorem Quiet.send {self : RawTransfer} (quiet : self.Quiet) (input : Input)
    (shared : SharedState) :
    (∃ answer, (self.send input shared).1 = .answer answer ∧ answer.Holds) ∧
    (self.send input shared).2.1 = self := by
  unfold RawTransfer.send
  split
  · exact ⟨⟨_, rfl, .inr ⟨_, rfl⟩⟩, rfl⟩
  · rcases quiet with state | state | state | state <;> rw [state] <;>
      exact ⟨⟨_, rfl, .inl rfl⟩, rfl⟩

theorem parseResponse_preliminary {self : RawTransfer} (transferring : self.Transferring)
    (input : Input) (shared : SharedState) :
    (self.parseResponse input 1 shared).1.Holds ∨
    ((self.parseResponse input 1 shared).1 = .proceed none ∧
      (self.parseResponse input 1 shared).2.1.Quiet) := by
  unfold RawTransfer.parseResponse
  dsimp only
  rcases transferring with state | state | state | state | state <;> rw [state] <;> dsimp only
  · exact .inr ⟨rfl, .inl rfl⟩
  · exact .inl (.inr ⟨_, rfl⟩)
  · exact .inr ⟨rfl, .inr (.inr (.inl rfl))⟩
  · exact .inl (.inr ⟨_, rfl⟩)
  · exact .inl (.inr ⟨_, rfl⟩)

end RawTransfer

open FtpOperation

namespace FtpOperation

theorem sends_send {input : Input} {operation : FtpOperation} {shared : SharedState}
    {command : FtpCommand} (sent : (operation.send input shared).1 = .command command) :
    (operation.send input shared).2.1.sends reads command := by
  have converted {text : FtpCommand} (same : input.sendCommand text = .command command) :
      command = text := by
    unfold Input.sendCommand at same
    split at same
    case isTrue => exact (Sending.command.inj same).symm
    case isFalse => cases same
  cases operation with
  | logon =>
    unfold send at sent ⊢
    dsimp only at sent ⊢
    split at sent
    case h_1 text _ =>
      rw [converted sent]
      exact text.property
    case h_2 => cases sent
  | rawTransfer data =>
    change RawTransfer.Sends reads (data.send input shared).2.1 command
    have request := data.send_request input shared
    simp only [RawTransfer.request, Prod.mk.injEq] at request
    obtain ⟨cmd, binary, offset⟩ := request
    have kept (begun : data.opState ≠ .init) :
        (data.send input shared).2.1.opState = data.opState :=
      (RawTransfer.send_opState input data shared).resolve_right begun
    rcases RawTransfer.send_command reads sent with
      ⟨state, text⟩ | ⟨state, none⟩ | ⟨state, text⟩ | ⟨state, text⟩
    · refine .type ((kept (by simp [state])).trans state) ?_
      rw [binary]
      exact text
    · exact .portPasv ((kept (by simp [state])).trans state) none
    · refine .rest ((kept (by simp [state])).trans state) ?_
      rw [offset]
      exact text
    · refine .transfer (.inl ((kept (by simp [state])).trans state)) ?_
      rw [cmd]
      exact text
  | rawCommand text => trivial
  | other =>
    unfold send at sent ⊢
    dsimp only at sent ⊢
    split at sent
    case h_1 text _ =>
      rw [converted sent]
      exact text.property
    case h_2 => cases sent

theorem successor {before after : FtpOperation} (later : Successor ftpOperations before after) :
    after = before ∨ ∃ data next, before = rawTransfer data ∧ after = rawTransfer next := by
  cases later with
  | send input operation shared =>
    cases before with
    | rawTransfer data => exact .inr ⟨data, _, rfl, rfl⟩
    | logon | other =>
      left
      change (send input _ shared).2.1 = _
      unfold send
      dsimp only
      split <;> rfl
    | rawCommand => exact .inl rfl
  | parseResponse input code operation shared =>
    cases before with
    | rawTransfer data => exact .inr ⟨data, _, rfl, rfl⟩
    | logon | rawCommand | other => exact .inl rfl
  | subcommandResult input code previous operation shared =>
    cases before <;> exact .inl rfl
  | setAsyncRequestReply input operation shared =>
    cases before <;> exact .inl rfl
  | transferEnd input operation shared =>
    cases before with
    | rawTransfer data => exact .inr ⟨data, _, rfl, rfl⟩
    | logon | rawCommand | other => exact .inl rfl

theorem continues_sends {before after : FtpOperation} {command : FtpCommand}
    (later : Continues ftpOperations Prepared Quiet before after)
    (sends : before.sends reads command) : after.sends reads command := by
  cases later with
  | send input operation shared calm =>
    cases before with
    | rawTransfer data =>
      change RawTransfer.Sends reads (data.send input shared).2.1 command
      rw [(RawTransfer.Quiet.send calm input shared).2]
      exact sends
    | logon | rawCommand | other => exact absurd calm id
  | parseResponse input code operation shared ready early =>
    cases before with
    | rawTransfer data =>
      exact RawTransfer.Sends.of_same sends
        (RawTransfer.parseResponse_request ready input code shared)
        (.inr ⟨ready, RawTransfer.Transferring.parseResponse ready input code shared⟩)
    | logon | rawCommand | other => exact sends
  | setAsyncRequestReply input operation shared =>
    cases before <;> exact sends
  | transferEnd input operation shared =>
    cases before with
    | rawTransfer data =>
      refine RawTransfer.Sends.of_same sends (data.transferEnd_request input) ?_
      rcases data.transferEnd_opState input with same | ⟨quiet, transferring⟩
      · exact .inl same
      · exact .inr ⟨transferring, quiet.transferring⟩
    | logon | rawCommand | other => exact sends

end FtpOperation

theorem Decision.alone_alone (decision : Decision) : decision.alone.Alone := by
  intro operation same
  cases decision <;> exact absurd same (by simp [Decision.alone])

theorem ftpOperations_disciplined {exempt : FtpOperation → Prop}
    (logon : ∀ operation, exempt operation → operation = .logon) :
    Disciplined ftpOperations (sends reads) Prepared
      Quiet exempt where
  sends_send _ _ _ _ sent := sends_send sent
  sends_kept later sends := continues_sends later sends
  rawTransfer_kept later raw := by
    rcases successor later with rfl | ⟨data, next, rfl, rfl⟩
    · exact raw
    · rfl
  quiet_send input operation shared quiet := by
    cases operation with
    | rawTransfer data => exact (RawTransfer.Quiet.send quiet input shared).1
    | logon | rawCommand | other => exact absurd quiet id
  preliminary_response input reply operation shared prepared early := by
    obtain rfl : reply = 1 := of_decide_eq_true early
    cases operation with
    | rawTransfer data => exact RawTransfer.parseResponse_preliminary prepared input shared
    | rawCommand command => exact .inl (.inr ⟨_, rfl⟩)
    | logon | other => exact absurd prepared id
  request_reply input operation shared raw := by
    cases operation with
    | rawTransfer data =>
      change Answer.Holds (if input.allow then .wouldBlock .reply else .finish .failed)
      split
      · exact .inl rfl
      · exact .inr ⟨_, rfl⟩
    | logon | rawCommand | other => exact absurd raw (by simp [ftpOperations])
  exempt_kept later lenient := by
    rcases successor later with rfl | ⟨data, next, rfl, _⟩
    · exact lenient
    · cases logon _ lenient
  exempt_send input operation shared answer lenient answered := by
    obtain rfl := logon operation lenient
    change (send input .logon shared).1 = _ at answered
    unfold send at answered
    dsimp only at answered
    split at answered
    case h_1 =>
      unfold Input.sendCommand at answered
      split at answered
      case isTrue => cases answered
      case isFalse =>
        obtain rfl := Sending.answer.inj answered
        exact fun operation => by simp
    case h_2 =>
      obtain rfl := Sending.answer.inj answered
      exact input.decision.alone_alone
  exempt_response input reply operation shared lenient := by
    obtain rfl := logon operation lenient
    exact input.decision.alone_alone
  exempt_request input operation shared lenient := by
    obtain rfl := logon operation lenient
    exact input.decision.alone_alone

abbrev FtpSocket (σ : Type) := ControlSocket FtpOperation SharedState FtpCommand σ

abbrev FtpEvent := Event FtpOperation Nat Input

namespace FtpSocket

open ControlSocket

variable {σ : Type} {server : Server FtpCommand Nat σ}

/-- No preliminary reply arrives for a command of logging on. -/
def LogonUninterrupted (self : FtpSocket σ) (event : FtpEvent) : Prop :=
  ∀ input, event = .reply 1 input → self.repliesToSkip = 0 →
    ∀ top below, self.operations = top :: below → top.data ≠ .logon

structure RepliesAttributed (socket : FtpSocket σ) : Prop where
  counted : socket.pendingReplies = socket.outstanding.length
  skipped : socket.repliesToSkip ≤ socket.pendingReplies
  sent : ∀ record ∈ socket.sent, record.repliesToSkip = 0
  delivered : ∀ record ∈ socket.delivered, record.answered.sender = some record.serial ∧
    record.lastSent = some record.answered.number

abbrev Paired (reads : WString → Effect) (exempt : FtpOperation → Prop)
    (socket : FtpSocket σ) : Prop :=
  Attributed ftpOperations (sends reads) Quiet exempt socket

variable {exempt : FtpOperation → Prop}

open ControlSocket

theorem start_paired (shared : SharedState) (state : σ) :
    Paired reads exempt (start shared state : FtpSocket σ) where
  counted := rfl
  skipped := .inl rfl
  sent _ member := absurd member (by simp [start])
  delivered _ member := absurd member (by simp [start])
  subcommand _ _ impossible := absurd impossible (by simp [start])
  owned := .inl (.inl rfl)

theorem step_paired (logon : ∀ operation, exempt operation → operation = .logon)
    (preliminary : PreliminaryForTransfers reads server)
    {self next : FtpSocket σ} {event : FtpEvent} (paired : Paired reads exempt self)
    (uninterrupted : ¬ exempt .logon → LogonUninterrupted self event)
    (taken : self.step ftpOperations server event = some next) : Paired reads exempt next := by
  refine step_attributed (ftpOperations_disciplined logon) paired ?_ taken
  intro reply input same early zero top below operations
  subst same
  obtain rfl : reply = 1 := of_decide_eq_true early
  cases step_cases taken with
  | reply _ _ _ answered later state outstanding answers =>
    obtain ⟨text, command, transfer⟩ := preliminary _ _ _ answers
    rcases paired.awaits operations with free | lenient | ⟨awaited, same, awaits⟩
    · rw [Free, outstanding] at free
      exact absurd free (by simp [zero])
    · exact .inr lenient
    · rw [outstanding] at same
      obtain ⟨rfl, _⟩ := List.cons.inj same
      have issued := awaits.issued text command
      cases operation : top.data with
      | logon =>
        refine .inr (Classical.not_not.mp fun strict => ?_)
        exact uninterrupted strict input rfl zero top below operations operation
      | rawTransfer data =>
        rw [operation] at issued
        exact .inl (RawTransfer.Sends.transferring issued transfer)
      | rawCommand => exact .inl trivial
      | other =>
        rw [operation] at issued
        rw [FtpCommand.effect_plain issued] at transfer
        cases transfer

/-- In every run in which logging on gets no preliminary reply, every reply is attributed to
the operation that sent the command it answers. -/
theorem replies_attributed (preliminary : PreliminaryForTransfers reads server)
    {shared : SharedState} {state : σ} {trace : List (FtpSocket σ × FtpEvent)}
    {final : FtpSocket σ}
    (run : Run (step ftpOperations server) (start shared state)
      trace final)
    (uninterrupted : ∀ taken ∈ trace, LogonUninterrupted taken.1 taken.2) :
    RepliesAttributed final := by
  have paired : Paired reads (fun _ => False) final :=
    run.invariant_of_forall (start_paired shared state) (fun _ _ _ paired allowed taken =>
        step_paired (fun _ impossible => absurd impossible id) preliminary paired
          (fun _ => allowed) taken)
      uninterrupted
  exact
    { counted := paired.counted
      skipped := by
        rcases paired.skipped with zero | all
        · rw [zero]
          exact Nat.zero_le _
        · exact all.le
      sent := paired.sent
      delivered := fun record member => paired.delivered record member id }

/-- The server reads LIST as a transfer, and nothing into any other text. -/
def readsList (text : WString) : Effect :=
  if text = wide "LIST" then .transfer else .nothing

/-- A server that may answer with any reply, and with preliminary ones to transfers only. -/
def anyReply : Server FtpCommand Nat Unit := fun _ command code =>
  if code = 1 ∧ command.all (fun text => text.effect readsList ≠ .transfer) then none
  else some ()

theorem anyReply_preliminary : PreliminaryForTransfers readsList anyReply := by
  intro state command next answers
  cases command with
  | none => exact absurd answers (by simp [anyReply])
  | some text =>
    simp only [anyReply, Option.all_some, true_and, decide_eq_true_eq] at answers
    obtain ⟨transfer, answers⟩ := of_refusal answers
    exact ⟨text, rfl, not_not.mp transfer⟩

theorem replies_attributed_welcome :
    ∃ final : FtpSocket Unit, final.delivered ≠ [] ∧ RepliesAttributed final := by
  obtain ⟨trace, final, run, checked⟩ :=
    @exists_run_of_execute _ _ (step ftpOperations anyReply)
      (start {} ()) [.connect .logon none, .reply 2 { decision := .proceed none }]
      (fun trace final => !final.delivered.isEmpty && trace.all fun taken =>
        match taken.2 with
        | .reply 1 _ => false
        | _ => true) (by decide +kernel)
  simp only [Bool.and_eq_true, Bool.not_eq_true', List.all_eq_true] at checked
  refine ⟨final, List.isEmpty_eq_false_iff.mp checked.1,
    replies_attributed anyReply_preliminary run ?_⟩
  rintro ⟨state, event⟩ member input same
  have positive := checked.2 _ member
  dsimp only at same positive
  rw [same] at positive
  cases positive

/-- Logging on takes the preliminary reply to a LIST among the commands after the login for its
final one, sends the next command, and takes the final reply for the answer to that. -/
theorem customCommand_misattributed :
    ¬ ∀ (trace : List (FtpSocket Unit × FtpEvent)) (final : FtpSocket Unit),
      Run (step ftpOperations anyReply) (start {} ()) trace final →
      RepliesAttributed final := by
  intro attributed
  let go : Input := { decision := .proceed none }
  obtain ⟨trace, final, run, wrong⟩ :=
    @exists_run_of_execute _ _ (step ftpOperations anyReply)
      (start {} ()) [.connect .logon none, .reply 2 go,
        .proceed { decision := .wouldBlock .request }, .requestReply go,
        .proceed { logsOn := some ⟨.user (wide "alice"), rfl⟩ }, .reply 3 go,
        .proceed { logsOn := some ⟨.pass (wide "secret"), rfl⟩ }, .reply 2 go,
        .proceed { logsOn := some ⟨.postLogin (wide "LIST"), rfl⟩ }, .reply 1 go,
        .proceed { logsOn := some ⟨.postLogin (wide "NOOP"), rfl⟩ }, .reply 4 go]
      (fun _ final => final.delivered.any fun record =>
        decide (record.lastSent ≠ some record.answered.number)) (by decide +kernel)
  obtain ⟨record, member, differs⟩ := List.any_eq_true.mp wrong
  exact of_decide_eq_true differs ((attributed trace final run).delivered record member).2

end FtpSocket

end Ftp

end FileZilla
