import FileZilla.Engine.Ftp.TransferMode

namespace FileZilla

open List

namespace Ftp

namespace FtpSocket

open ControlSocket

variable {reads : WString → Effect} {shared : SharedState} {server : TransferServer}
  {outstanding : List (Outstanding FtpCommand)} {repliesToSkip : Nat} {live : Prop}
  {operation : FtpOperation}

def Current (shared : SharedState) (server : TransferServer)
    (outstanding : List (Outstanding FtpCommand)) (repliesToSkip : Nat) (live : Prop) :
    FtpOperation → Prop
  | .logon => shared.lastTypeBinary = none
  | .rawTransfer data => Advanced shared server outstanding repliesToSkip live data
  | .rawCommand _ | .other => True

def Fresh (operation : FtpOperation) : Prop :=
  ∀ shared server outstanding repliesToSkip live,
    Current shared server outstanding repliesToSkip live operation

theorem Current.mono (current : Current shared server outstanding repliesToSkip live operation)
    {lives : Prop} (weaker : lives → live) :
    Current shared server outstanding repliesToSkip lives operation := by
  cases operation with
  | logon => exact current
  | rawTransfer data => exact Advanced.mono current weaker
  | rawCommand | other => trivial

theorem fresh_of_executable (executable : ftpOperations.executable operation = true) :
    Fresh operation := by
  intro _ _ _ _ _
  cases operation with
  | logon | rawTransfer => exact absurd executable (by simp [ftpOperations])
  | rawCommand | other => trivial

theorem Current.skipping
    (current : Current shared server outstanding repliesToSkip live operation)
    (skipping : repliesToSkip ≠ 0) (state : TransferServer)
    (commands : List (Outstanding FtpCommand)) (skipped : Nat) (lives : Prop) :
    Current shared state commands skipped lives operation := by
  cases operation with
  | logon => exact current
  | rawCommand | other => trivial
  | rawTransfer data =>
    have waits : data.opState = .init := not_not.mp fun begun =>
      skipping (current.begun begun)
    exact
      { offset := current.offset
        cmd := current.cmd
        begun := absurd waits
        typed := absurd waits
        named := absurd waits
        marked := fun impossible => absurd (waits.symm.trans impossible) (by simp) }

open Decision

theorem decision_fresh {decision : Decision} (forward : Forward decision)
    (started : decision.answer = .proceed (some operation)) : Fresh operation := by
  cases decision with
  | wouldBlock | finish => exact absurd started (by simp [Decision.answer])
  | proceed pushed =>
    cases pushed with
    | none => exact absurd started (by simp [Decision.answer])
    | some pushed =>
      simp only [Decision.answer, Option.map_some, Answer.proceed.injEq,
        Option.some.injEq] at started
      subst started
      intro _ _ _ _ _
      cases pushed with
      | other => trivial
      | rawTransfer cmd binary resumeOffset =>
        exact
          { offset := forward
            cmd := cmd.property
            begun := absurd rfl
            typed := absurd rfl
            named := absurd rfl
            marked := fun impossible => absurd impossible (by simp) }

structure Ready (reads : WString → Effect) (socket : FtpSocket TransferServer) : Prop where
  mirror : Mirror reads socket.shared socket.server socket.outstanding
  current : ∀ top below, socket.operations = top :: below →
    Current socket.shared socket.server socket.outstanding socket.repliesToSkip
      (∀ code, socket.control ≠ .resetOperation code) top.data
  below : ∀ top below, socket.operations = top :: below →
    ∀ entry ∈ below, ftpOperations.executable entry.data = true
  requested : TransfersAsRequested socket

structure AnswerReady (reads : WString → Effect) (server : TransferServer)
    (outstanding : List (Outstanding FtpCommand)) (repliesToSkip : Nat)
    (result : Answer FtpOperation × FtpOperation × SharedState) : Prop where
  mirror : Mirror reads result.2.2 server outstanding
  current : Current result.2.2 server outstanding repliesToSkip
    (∀ code, result.1 ≠ .finish code) result.2.1
  pushes : ∀ operation, result.1 = .proceed (some operation) →
    ftpOperations.executable result.2.1 = true ∧ Fresh operation

variable {answer : Answer FtpOperation}

theorem AnswerReady.of_alone (mirror : Mirror reads shared server outstanding)
    (current : Current shared server outstanding repliesToSkip True operation)
    (alone : answer.Alone) :
    AnswerReady reads server outstanding repliesToSkip (answer, operation, shared) where
  mirror := mirror
  current := current.mono fun _ => trivial
  pushes pushed impossible := absurd impossible (alone pushed)

theorem AnswerReady.of_decision {decision : Decision}
    (mirror : Mirror reads shared server outstanding) (forward : Forward decision) :
    AnswerReady reads server outstanding repliesToSkip (decision.answer, .other, shared) where
  mirror := mirror
  current := trivial
  pushes _ started := ⟨rfl, decision_fresh forward started⟩

theorem ResponseReady.answerReady {result : Answer FtpOperation × RawTransfer × SharedState}
    (ready : ResponseReady reads server outstanding result) :
    AnswerReady reads server outstanding 0 (result.1, .rawTransfer result.2.1, result.2.2) where
  mirror := ready.mirror
  current := ready.advanced
  pushes pushed impossible := absurd impossible (ready.alone pushed)

variable {self : FtpSocket TransferServer}

theorem executable_of_empty (empty : self.operations = []) :
    ∀ entry ∈ self.operations, ftpOperations.executable entry.data = true := by
  intro entry member
  rw [empty] at member
  cases member

theorem ready_of_executable (mirror : Mirror reads self.shared self.server self.outstanding)
    (executable : ∀ entry ∈ self.operations, ftpOperations.executable entry.data = true)
    (requested : TransfersAsRequested self) : Ready reads self := by
  refine ⟨mirror, ?_, ?_, requested⟩
  · intro top below same
    have started : Fresh top.data := by
      apply fresh_of_executable
      apply executable top
      rw [same]
      exact mem_cons_self
    exact started _ _ _ _ _
  · intro top below same entry member
    apply executable entry
    rw [same]
    exact mem_cons_of_mem top member

theorem doClose_ready (mirror : Mirror reads self.shared self.server self.outstanding)
    (requested : TransfersAsRequested self) : Ready reads (self.doClose ftpOperations) := by
  apply ready_of_executable
  · exact mirror.nil
  · exact executable_of_empty rfl
  · exact requested

theorem settle_ready {top : Entry FtpOperation} {below : List (Entry FtpOperation)}
    (operations : self.operations = top :: below)
    (ready : AnswerReady reads self.server self.outstanding self.repliesToSkip
      (answer, top.data, self.shared))
    (under : ∀ entry ∈ below, ftpOperations.executable entry.data = true)
    (requested : TransfersAsRequested self) (closes : EndCode → Bool) :
    Ready reads (self.settle ftpOperations closes answer) := by
  have stays {first : Entry FtpOperation} {control : Control FtpOperation}
      (same : first.data = top.data) (lives : (∀ code, control ≠ .resetOperation code) →
        ∀ code, answer ≠ .finish code) :
      Ready reads { self with operations := first :: below, control } :=
    { mirror := ready.mirror
      current := fun other rest current => by
        obtain ⟨rfl, rfl⟩ := cons.inj current
        rw [same]
        exact ready.current.mono lives
      below := fun other rest current => by
        obtain ⟨rfl, rfl⟩ := cons.inj current
        exact under
      requested := requested }
  cases answer with
  | wouldBlock waiting =>
    simp only [settle, operations, modifyHead_cons]
    split
    · exact stays rfl fun _ _ => by simp
    · exact stays rfl fun _ _ => by simp
  | proceed pushed =>
    cases pushed with
    | none =>
      simp only [settle]
      rw [operations]
      exact stays rfl fun _ _ => by simp
    | some operation =>
      obtain ⟨executable, fresh⟩ := ready.pushes operation rfl
      exact
        { mirror := ready.mirror
          current := fun other rest current => by
            obtain ⟨rfl, rfl⟩ := cons.inj current
            exact fresh _ _ _ _ _
          below := fun other rest current => by
            obtain ⟨rfl, rfl⟩ := cons.inj current
            intro entry member
            rw [operations] at member
            rcases mem_cons.mp member with rfl | lower
            · exact executable
            · exact under entry lower
          requested := requested }
  | finish code =>
    unfold settle
    dsimp only
    split
    · exact doClose_ready ready.mirror requested
    · rw [operations]
      exact stays rfl fun impossible => absurd rfl (impossible code)

structure CommandReady (reads : WString → Effect) (server : TransferServer)
    (outstanding : List (Outstanding FtpCommand))
    (result : Sending FtpOperation FtpCommand × FtpOperation × SharedState) : Prop where
  command : ∀ text, result.1 = .command text → ∀ command : Outstanding FtpCommand,
    command.command = some text → Mirror reads result.2.2 server (outstanding ++ [command]) ∧
    Current result.2.2 server (outstanding ++ [command]) 0 True result.2.1
  requested : ∀ text, result.1 = .command text → ∀ data, result.2.1 = .rawTransfer data →
    text.transfers = true → server.binary = data.binary ∧ server.marker = data.resumeOffset
  answer : ∀ answer, result.1 = .answer answer →
    AnswerReady reads server outstanding 0 (answer, result.2)

variable {input : Input} {text : FtpCommand}

theorem sendCommand_cases {sending : Sending FtpOperation FtpCommand}
    (same : input.sendCommand text = sending) :
    sending = .command text ∨ sending = .answer (.finish .error) := by
  subst same
  unfold Input.sendCommand
  split
  · exact .inl rfl
  · exact .inr rfl

theorem finish_alone (code : EndCode) : (Answer.finish code : Answer FtpOperation).Alone :=
  fun _ => by simp

theorem CommandReady.of_command (mirror : Mirror reads shared server outstanding)
    (current : ∀ commands live, Current shared server commands 0 live operation)
    (transferless : ∀ data, operation ≠ .rawTransfer data)
    (type : ∀ binary known, text.effect reads = .type binary →
      shared.lastTypeBinary = some known → binary = known)
    (rest : ∀ offset, text.custom = false → text.effect reads = .rest offset → offset ≠ 0 →
      shared.sentRestartOffset = true) (input : Input) :
    CommandReady reads server outstanding (input.sendCommand text, operation, shared) where
  command other same command sent := by
    rcases sendCommand_cases same with text | failed
    · obtain rfl := Sending.command.inj text
      exact ⟨mirror.send sent type rest, current _ _⟩
    · cases failed
  requested _ _ data impossible := absurd impossible (transferless data)
  answer other same := by
    rcases sendCommand_cases same with text | failed
    · cases text
    · obtain rfl := Sending.answer.inj failed
      exact .of_alone mirror (current _ _) (finish_alone _)

theorem CommandReady.of_answer
    (ready : AnswerReady reads server outstanding 0 (answer, operation, shared)) :
    CommandReady reads server outstanding (.answer answer, operation, shared) where
  command _ impossible := absurd impossible (by simp)
  requested _ impossible := absurd impossible (by simp)
  answer other same := by
    obtain rfl := Sending.answer.inj same
    exact ready

theorem FtpCommand.logsOn_effect (logsOn : text.logsOn = true) (chosen : text.custom = false) :
    text.effect reads = .nothing := by
  cases text <;> first | rfl | (cases logsOn; done) | cases chosen

open FtpOperation (keepAlive rawTransfer send setAsyncRequestReply subcommandResult)

theorem operation_send_ready (mirror : Mirror reads shared server outstanding)
    (current : Current shared server outstanding 0 True operation)
    (silent : ∀ data, operation = .rawTransfer data → outstanding = [] ∨ data.Quiet)
    (forward : Forward input.decision) :
    CommandReady reads server outstanding (operation.send input shared) := by
  cases operation with
  | logon =>
    have unknown : shared.lastTypeBinary = none := current
    unfold send
    dsimp only
    split
    case h_1 text _ =>
      refine .of_command mirror (fun _ _ => ?_) (fun _ => by simp) ?_ ?_ input
      · exact unknown
      · intro binary known _ impossible
        cases unknown.symm.trans impossible
      · intro offset chosen impossible
        rw [FtpCommand.logsOn_effect text.property chosen] at impossible
        cases impossible
    case h_2 => exact .of_answer (.of_alone mirror unknown input.decision.alone_alone)
  | rawTransfer data =>
    have sends := rawTransfer_send_ready mirror current (silent data rfl) input
    exact
      { command := fun text same => sends.command text same
        requested := fun text same other result transfers => by
          obtain rfl := rawTransfer.inj result
          exact sends.requested text same transfers
        answer := fun answer same => by
          obtain ⟨alone, advanced⟩ := sends.answer answer same
          exact
            { mirror := sends.mirror
              current := advanced
              pushes := fun pushed impossible => absurd impossible (alone pushed) } }
  | rawCommand text =>
    unfold send
    dsimp only
    refine .of_command mirror.forget (fun _ _ => ?_) (fun _ => by simp) ?_ ?_ input
    · trivial
    · intro _ _ _ impossible
      cases impossible
    · intro _ impossible
      exact absurd impossible (by simp [FtpCommand.custom])
  | other =>
    unfold send
    dsimp only
    split
    case h_1 text _ =>
      have nothing : text.val.effect reads = .nothing := FtpCommand.effect_plain text.property
      refine .of_command mirror (fun _ _ => ?_) (fun _ => by simp) ?_ ?_ input
      · trivial
      · intro _ _ impossible
        cases nothing.symm.trans impossible
      · intro _ _ impossible
        cases nothing.symm.trans impossible
    case h_2 => exact .of_answer (.of_decision mirror forward)

/-- The operation of which the replies need not be attributed -/
abbrev Logging (operation : FtpOperation) : Prop :=
  operation = .logon

theorem sendNextCommand_ready (paired : Paired reads Logging self) (ready : Ready reads self)
    (sending : self.control = .sendNextCommand) (forward : Forward input.decision) :
    Ready reads (self.sendNextCommand ftpOperations input) := by
  unfold sendNextCommand
  split
  case h_1 empty =>
    apply ready_of_executable
    · exact ready.mirror
    · exact executable_of_empty empty
    · exact ready.requested
  case h_2 top below operations =>
    have lives : ∀ code, self.control ≠ .resetOperation code := by
      intro code
      rw [sending]
      simp
    have stopped : Ready reads { self with control := .idle } :=
      { ready with
        current := fun other rest same => (ready.current other rest same).mono fun _ => lives }
    split
    case isTrue => exact stopped
    case isFalse =>
      split
      case isTrue => exact stopped
      case isFalse noSkip =>
        have zero : self.repliesToSkip = 0 := not_not.mp noSkip
        have current := (ready.current top below operations).mono fun (_ : True) => lives
        rw [zero] at current
        have silent : ∀ data, top.data = .rawTransfer data →
            self.outstanding = [] ∨ data.Quiet := by
          intro data raw
          rcases paired.awaits operations with free | logon | ⟨_, _, awaits⟩
          · exact .inl (free.resolve_right (not_not.mpr zero))
          · cases raw.symm.trans logon
          · have quiet := awaits.quiet sending
            rw [raw] at quiet
            exact .inr quiet
        have sends := operation_send_ready ready.mirror current silent forward
        have result : ftpOperations.send input top.data self.shared =
          top.data.send input self.shared := rfl
        rw [result]
        rcases outcome : top.data.send input self.shared with ⟨sending, data, shared⟩
        rw [outcome] at sends
        dsimp only
        cases sending with
        | command text =>
          have sent := sends.command text rfl ⟨self.numbers, some top.serial, some text⟩ rfl
          have later := sent.2
          rw [← zero] at later
          exact
            { mirror := sent.1
              current := fun other rest same => by
                obtain ⟨rfl, rfl⟩ := cons.inj same
                exact later.mono fun _ => trivial
              below := fun other rest same => by
                obtain ⟨rfl, rfl⟩ := cons.inj same
                exact ready.below top below operations
              requested := fun record member => by
                rcases mem_append.mp member with old | new
                · exact ready.requested record old
                · obtain rfl := mem_singleton.mp new
                  intro data same transfers
                  exact sends.requested text rfl data same transfers }
        | answer answer =>
          have answers := sends.answer answer rfl
          rw [← zero] at answers
          apply settle_ready
          · rfl
          · exact answers
          · exact ready.below top below operations
          · exact ready.requested

theorem resetOperation_ready (ready : Ready reads self) (code : EndCode) :
    Ready reads (self.resetOperation ftpOperations code) := by
  unfold resetOperation
  dsimp only
  split
  case h_1 empty =>
    apply ready_of_executable
    · exact ready.mirror
    · exact executable_of_empty empty
    · exact ready.requested
  case h_2 =>
    apply ready_of_executable
    · exact ready.mirror
    · exact executable_of_empty rfl
    · exact ready.requested
  case h_3 old below _ operations =>
    have executable := ready.below old below operations
    have popped {control : Control FtpOperation} : Ready reads
        { self with
          repliesToSkip := self.pendingReplies, operations := below, control } := by
      apply ready_of_executable
      · exact ready.mirror
      · exact executable
      · exact ready.requested
    split
    · exact popped
    · split
      · exact popped
      · exact popped

theorem parseSubcommandResult_ready (ready : Ready reads self) {code : EndCode}
    {previous : FtpOperation} (ended : self.control = .subcommandResult code previous)
    (forward : Forward input.decision) :
    Ready reads (self.parseSubcommandResult ftpOperations input code previous) := by
  unfold parseSubcommandResult
  split
  case h_1 empty =>
    apply ready_of_executable
    · exact ready.mirror
    · exact executable_of_empty empty
    · exact ready.requested
  case h_2 top below operations =>
    have current := (ready.current top below operations).mono fun (_ : True) => by
      rw [ended]
      simp
    have answers : AnswerReady reads self.server self.outstanding self.repliesToSkip
        (ftpOperations.subcommandResult input code previous top.data self.shared) := by
      change AnswerReady _ _ _ _
        (subcommandResult input code previous top.data self.shared)
      unfold subcommandResult
      split
      case h_1 => exact .of_decision ready.mirror forward
      case h_2 =>
        refine .of_alone ready.mirror current fun operation => ?_
        split <;> simp
    apply settle_ready
    · rfl
    · exact answers
    · exact ready.below top below operations
    · exact ready.requested

theorem operation_response_ready {operation : FtpOperation} {code : Nat}
    (mirror : Mirror reads shared server outstanding)
    (unknown : operation = .logon → shared.lastTypeBinary = none)
    (transfer : ∀ data, operation = .rawTransfer data →
      ResponseReady reads server outstanding (data.parseResponse input code shared))
    (forward : Forward input.decision) :
    AnswerReady reads server outstanding 0 (operation.parseResponse input code shared) := by
  cases operation with
  | logon => exact .of_alone mirror (unknown rfl) input.decision.alone_alone
  | rawTransfer data => exact (transfer data rfl).answerReady
  | rawCommand text => exact .of_alone mirror trivial (finish_alone _)
  | other => exact .of_decision mirror forward

theorem preliminaryForTransfers : PreliminaryForTransfers reads (transferServer reads) := by
  intro state command next answers
  cases command with
  | none => exact absurd answers (by simp [transferServer])
  | some text =>
    refine ⟨text, rfl, ?_⟩
    cases effect : text.effect reads with
    | transfer => rfl
    | type | rest | nothing =>
      exact absurd answers (by simp [transferServer, effect])

theorem Mirror.later {answered : Outstanding FtpCommand}
    (mirror : Mirror reads shared server (answered :: outstanding)) :
    Mirror reads shared server outstanding :=
  { mirror with
    typePending := fun command member =>
      mirror.typePending command (mem_cons_of_mem answered member)
    restPending := fun command member =>
      mirror.restPending command (mem_cons_of_mem answered member) }

theorem reply_ready (paired : Paired reads Logging self) (ready : Ready reads self)
    (idle : self.control = .idle) {answered : Outstanding FtpCommand}
    {later : List (Outstanding FtpCommand)} (same : self.outstanding = answered :: later)
    {code : Nat} {state : TransferServer}
    (answers : transferServer reads self.server answered.command code = some state)
    (tracked : ∀ text offset, answered.command = some text → text.custom = true →
      text.effect reads = .rest offset → offset ≠ 0 → RawTransfer.positive code = true →
      self.shared.sentRestartOffset = true) (forward : Forward input.decision) :
    Ready reads
      ({ self with
        server := state
        outstanding :=
          if ftpOperations.preliminary code then self.outstanding else later }.parseResponse
        ftpOperations input code answered) := by
  have mirror := ready.mirror
  rw [same] at mirror
  have whole := mirror.answer answers tracked
  obtain ⟨commands, left⟩ : ∃ commands, commands =
      if ftpOperations.preliminary code then self.outstanding else later := ⟨_, rfl⟩
  have remaining : Mirror reads self.shared state commands := by
    rw [left]
    split
    · rw [same]
      exact whole
    · exact whole.later
  have live : ∀ code, self.control ≠ .resetOperation code := by
    intro code
    rw [idle]
    simp
  rw [← left]
  unfold parseResponse
  dsimp only
  generalize (if ftpOperations.preliminary code then 0 else 1) = final
  split
  case isTrue none =>
    have counted := paired.counted
    rw [none.2, same] at counted
    cases counted
  case isFalse =>
    split
    case isTrue skipping =>
      have stays {pending skipped : Nat} {control : Control FtpOperation} : Ready reads
          { self with
            server := state, outstanding := commands
            pendingReplies := pending, repliesToSkip := skipped, control } :=
        { mirror := remaining
          current := fun top below operations =>
            (ready.current top below operations).skipping skipping _ _ _ _
          __ := ready }
      split
      · exact stays
      · exact stays
    case isFalse noSkip =>
      have zero : self.repliesToSkip = 0 := not_not.mp noSkip
      split
      case h_1 empty =>
        apply ready_of_executable
        · exact remaining
        · exact executable_of_empty empty
        · exact ready.requested
      case h_2 top below operations =>
        have current := (ready.current top below operations).mono fun (_ : True) => live
        rw [zero, same] at current
        have responds : AnswerReady reads state commands 0
            (top.data.parseResponse input code self.shared) := by
          refine operation_response_ready remaining ?_ ?_ forward
          · intro logon
            rw [logon] at current
            exact current
          · intro data raw
            rw [raw] at current
            rcases paired.awaits operations with free | logon | ⟨command, alone, awaits⟩
            · rw [Free, same] at free
              exact absurd free (by simp [zero])
            · cases raw.symm.trans logon
            · rw [same] at alone
              obtain ⟨rfl, rfl⟩ := cons.inj alone
              have issued : ∀ text, answered.command = some text →
                  data.Sends reads text := by
                intro text sent
                have sends := awaits.issued text sent
                rw [raw] at sends
                exact sends
              by_cases early : code = 1
              case pos =>
                subst early
                obtain ⟨text, sent, transfer⟩ := preliminaryForTransfers _ _ _ answers
                have transferring := (issued text sent).transferring transfer
                refine rawTransfer_transferring_ready current transferring remaining ?_ input 1
                rw [left, same]
                refine current.named ?_
                rcases transferring with same | same | same | same | same <;>
                  simp [same]
              case neg =>
                have final : ftpOperations.preliminary code = false := decide_eq_false early
                simp only [final, Bool.false_eq_true, if_false] at left
                subst left
                exact rawTransfer_response_ready mirror current issued answers remaining input
        rw [← zero] at responds
        apply settle_ready
        · rfl
        · exact responds
        · exact ready.below top below operations
        · exact ready.requested

theorem rawTransfer_transferEnd_ready {data : RawTransfer}
    (advanced : Advanced shared server outstanding repliesToSkip live data) (input : Input) :
    Advanced shared server outstanding repliesToSkip live (data.transferEnd input).2 := by
  have request := data.transferEnd_request input
  rcases data.transferEnd_opState input with same | ⟨quiet, transferring⟩
  · apply advanced.next request
    all_goals rw [same]
    · exact advanced.begun
    · exact advanced.typed
    · exact advanced.named
    · exact advanced.marked
  · have begun : data.opState ≠ .init := by
      rcases transferring with state | state | state | state | state <;> simp [state]
    have typed : data.opState ≠ .type := by
      rcases transferring with state | state | state | state | state <;> simp [state]
    refine advanced.next request (fun _ => advanced.begun begun)
      (fun _ _ => advanced.typed begun typed) (fun _ => advanced.named begun) ?_
    intro impossible
    rw [RawTransfer.Quiet, impossible] at quiet
    exact absurd quiet (by simp)

theorem transferEnd_ready (ready : Ready reads self) (idle : self.control = .idle)
    (input : Input) : Ready reads (self.transferEnd ftpOperations input) := by
  unfold transferEnd
  split
  case h_1 => exact ready
  case h_2 top below operations =>
    split
    case isTrue => exact ready
    case isFalse raw =>
      have current := (ready.current top below operations).mono fun (_ : True) code => by
        rw [idle]
        simp
      have under := ready.below top below operations
      cases transfer : top.data with
      | logon | rawCommand | other => exact absurd raw (by simp [transfer, ftpOperations])
      | rawTransfer data =>
        rw [transfer] at current
        have ended : Current self.shared self.server self.outstanding self.repliesToSkip
            True (.rawTransfer (data.transferEnd input).2) :=
          rawTransfer_transferEnd_ready current input
        have stays {control : Control FtpOperation} : Ready reads
            { self with
              control
              operations :=
                { top with data := .rawTransfer (data.transferEnd input).2 } :: below } :=
          { mirror := ready.mirror
            current := fun other rest same => by
              obtain ⟨rfl, rfl⟩ := cons.inj same
              exact ended.mono fun _ => trivial
            below := fun other rest same => by
              obtain ⟨rfl, rfl⟩ := cons.inj same
              exact under
            requested := ready.requested }
        have ending : ftpOperations.transferEnd input (.rawTransfer data) self.shared =
            ((data.transferEnd input).1, .rawTransfer (data.transferEnd input).2,
              self.shared) := rfl
        rw [ending]
        dsimp only
        split
        case h_1 => exact stays
        case h_2 => exact doClose_ready ready.mirror ready.requested
        case h_3 => exact stays

variable {next : FtpSocket TransferServer}

theorem requestReply_ready (ready : Ready reads self) (idle : self.control = .idle)
    (taken : self.callSetAsyncRequestReply ftpOperations input = some next) :
    Ready reads next := by
  unfold callSetAsyncRequestReply at taken
  split at taken
  case h_1 => cases taken
  case h_2 top below operations =>
    obtain ⟨-, rfl⟩ := some_of_guard taken
    have current := (ready.current top below operations).mono fun (_ : True) code => by
      rw [idle]
      simp
    have answers : AnswerReady reads self.server self.outstanding self.repliesToSkip
        (top.data.setAsyncRequestReply input self.shared) := by
      unfold setAsyncRequestReply
      split
      case h_1 data raw =>
        rw [raw] at current
        refine .of_alone ready.mirror current fun operation => ?_
        split <;> simp
      case h_2 => exact .of_alone ready.mirror current input.decision.alone_alone
    apply settle_ready
    · rfl
    · exact answers
    · exact ready.below top below operations
    · exact ready.requested

theorem waiting_ready (ready : Ready reads self) (idle : self.control = .idle)
    {top : Entry FtpOperation} {below : List (Entry FtpOperation)}
    (operations : self.operations = top :: below) (waiting : Waiting)
    (control : Control FtpOperation) :
    Ready reads
      { self with control, operations := { top with waiting } :: below } where
  __ := ready
  current other rest same := by
    obtain ⟨rfl, rfl⟩ := cons.inj same
    refine (ready.current top below operations).mono fun _ code => ?_
    rw [idle]
    simp
  below other rest same := by
    obtain ⟨rfl, rfl⟩ := cons.inj same
    exact ready.below top below operations

theorem cancel_ready (ready : Ready reads self) (idle : self.control = .idle)
    (taken : self.cancel ftpOperations = some next) :
    Ready reads next := by
  unfold cancel at taken
  split at taken
  case h_1 => cases taken
  case h_2 top below operations =>
    cases taken
    split
    case isTrue => exact doClose_ready ready.mirror ready.requested
    case isFalse =>
      exact
        { mirror := ready.mirror
          current := fun other rest same => by
            refine (ready.current other rest same).mono fun _ code => ?_
            rw [idle]
            simp
          __ := ready }

theorem keepAlive_effect (reads : WString → Effect) (shared : SharedState) (input : Input) :
    (keepAlive input shared).effect reads = .nothing ∨
    ∃ binary, (keepAlive input shared).effect reads = .type binary ∧
      ∀ known, shared.lastTypeBinary = some known → binary = known := by
  unfold keepAlive
  split
  case h_1 => exact .inl rfl
  case h_2 =>
    right
    split
    case isTrue ascii => exact ⟨false, rfl, fun known same => by simp_all⟩
    case isFalse other =>
      refine ⟨true, rfl, fun known same => ?_⟩
      cases known with
      | true => rfl
      | false => exact absurd same other
  case h_3 => exact .inl rfl

theorem onTimer_ready (ready : Ready reads self) (input : Input) :
    Ready reads (self.onTimer ftpOperations input) := by
  unfold onTimer
  split
  case isTrue => exact ready
  case isFalse busy =>
    split
    case isTrue => exact ready
    case isFalse =>
      apply ready_of_executable
      · refine ready.mirror.send rfl ?_ ?_
        · intro binary known type
          rcases keepAlive_effect reads self.shared input with
            nothing | ⟨other, same, agrees⟩
          · cases nothing.symm.trans type
          · obtain rfl := Effect.type.inj (same.symm.trans type)
            exact agrees known
        · intro offset _ rest
          rcases keepAlive_effect reads self.shared input with
            nothing | ⟨other, same, _⟩
          · cases nothing.symm.trans rest
          · cases same.symm.trans rest
      · exact executable_of_empty (not_not.mp busy)
      · exact ready.requested

theorem step_ready (paired : Paired reads Logging self) (ready : Ready reads self)
    {event : FtpEvent} (tracked : Tracked reads self event) {next : FtpSocket TransferServer}
    (taken : self.step ftpOperations (transferServer reads) event = some next) :
    Ready reads next := by
  obtain ⟨connected, forward, rests⟩ := tracked
  cases step_cases taken with
  | sendNextCommand input sending => exact sendNextCommand_ready paired ready sending forward
  | resetOperation input code => exact resetOperation_ready ready code
  | subcommandResult input code previous ended =>
    exact parseSubcommandResult_ready ready ended forward
  | connect logon queued => exact absurd rfl (connected logon queued)
  | execute operation idle empty executable =>
    apply ready_of_executable
    · exact ready.mirror
    · intro entry member
      rcases mem_cons.mp member with rfl | lower
      · exact executable
      · exact executable_of_empty empty entry lower
    · exact ready.requested
  | reply code input idle answered later state outstanding answers =>
    refine reply_ready paired ready idle outstanding answers ?_ forward
    intro text offset sent custom rest some positive
    exact rests code input rfl answered later text offset outstanding sent custom rest some
      positive
  | transferEnd input idle => exact transferEnd_ready ready idle input
  | obtained idle top below operations => exact waiting_ready ready idle operations _ _
  | transferRequest idle top below operations =>
    exact waiting_ready ready idle operations _ self.control
  | requestReply input idle next taken => exact requestReply_ready ready idle taken
  | cancel idle next taken => exact cancel_ready ready idle taken
  | keepAlive input idle => exact onTimer_ready ready input
  | notify input idle => exact { ready with }
  | close idle => exact doClose_ready ready.mirror ready.requested

theorem established_ready {binary : Bool} {queued : Option FtpOperation}
    (executable : queued.all ftpOperations.executable = true) :
    Ready reads (established binary queued) where
  mirror :=
    { type := fun _ impossible => absurd impossible (by simp [established, onConnect,
        ftpOperations])
      typePending := fun _ _ _ _ _ _ _ impossible => absurd impossible (by simp [established,
        onConnect, ftpOperations])
      marker := fun impossible => absurd rfl impossible
      restPending := fun command member => by
        obtain rfl := mem_singleton.mp member
        exact fun _ _ impossible => absurd impossible (by simp) }
  current top below same := by
    obtain ⟨rfl, rfl⟩ := cons.inj same
    rfl
  below top below same entry member := by
    obtain ⟨rfl, rfl⟩ := cons.inj same
    obtain ⟨operation, started, rfl⟩ := mem_map.mp member
    rw [Option.mem_toList] at started
    rw [started] at executable
    exact executable
  requested _ member := absurd member (by simp [established, onConnect, start])

/-- In every run of one connection in which the restart marker is tracked and no transfer has a
negative offset, every transfer is started with the type and the offset that it asks for. -/
theorem transfers_as_requested {binary : Bool} {queued : Option FtpOperation}
    (executable : queued.all ftpOperations.executable = true)
    {trace : List (FtpSocket TransferServer × FtpEvent)} {final : FtpSocket TransferServer}
    (run : Run (ControlSocket.step ftpOperations (transferServer reads))
      (established binary queued) trace final)
    (tracked : ∀ taken ∈ trace, Tracked reads taken.1 taken.2) :
    TransfersAsRequested final := by
  have closed :
      Paired reads Logging (ControlSocket.start {} { binary } : FtpSocket TransferServer) :=
    start_paired _ _
  have initial : Paired reads Logging (established binary queued) :=
    onConnect_attributed closed rfl .logon queued
  have preserved : ∀ (socket : FtpSocket TransferServer) (event : FtpEvent)
      (next : FtpSocket TransferServer),
      Paired reads Logging socket ∧ Ready reads socket → Tracked reads socket event →
      socket.step ftpOperations (transferServer reads) event = some next →
      Paired reads Logging next ∧ Ready reads next := by
    rintro socket event next ⟨paired, ready⟩ allowed taken
    constructor
    · exact step_paired (fun _ logon => logon) preliminaryForTransfers paired
        (fun strict => absurd rfl strict) taken
    · exact step_ready paired ready allowed taken
  have start : Paired reads Logging (established binary queued) ∧
      Ready reads (established binary queued) := ⟨initial, established_ready executable⟩
  have invariant : Paired reads Logging final ∧ Ready reads final := by
    revert tracked
    exact @Run.invariant_of_forall _ _ _ _ _ _
      (fun socket => Paired reads Logging socket ∧ Ready reads socket) (Tracked reads) start
      preserved run
  exact invariant.2.requested

theorem tracked_of_own {event : FtpEvent}
    (connected : ∀ operation queued, event ≠ .connect operation queued)
    (forward : InputForward event)
    (own : ∀ command ∈ self.outstanding, ∀ text, command.command = some text →
      text.custom = false) : Tracked reads self event := by
  refine ⟨connected, forward, ?_⟩
  intro code input _ answered later text offset outstanding sent custom
  have chosen := own answered (by simp [outstanding]) text sent
  cases chosen.symm.trans custom

/-- The commands of the connection after the login, up to a download from an offset. -/
def downloadFrom (resumeOffset : Int) : List FtpEvent :=
  [.execute .other,
    .proceed { decision := .proceed (some (.rawTransfer
      ⟨.retr .none (wide "file") true, rfl⟩ true resumeOffset)) },
    .proceed {}, .proceed {}, .reply 2 {}, .proceed {}, .reply 2 {}, .proceed {}]

instance forwardDecidable : DecidablePred Forward
  | .wouldBlock _ => inferInstanceAs (Decidable True)
  | .proceed none => inferInstanceAs (Decidable True)
  | .proceed (some (.rawTransfer _ _ resumeOffset)) =>
    inferInstanceAs (Decidable (0 ≤ resumeOffset))
  | .proceed (some .other) => inferInstanceAs (Decidable True)
  | .finish _ => inferInstanceAs (Decidable True)

instance inputForwardDecidable : DecidablePred InputForward
  | .proceed input => inferInstanceAs (Decidable (Forward input.decision))
  | .reply _ input => inferInstanceAs (Decidable (Forward input.decision))
  | .requestReply input => inferInstanceAs (Decidable (Forward input.decision))
  | .execute _ | .transferEnd _ | .obtained | .transferRequest | .cancel | .keepAlive _
  | .notify _ | .close | .connect _ _ => inferInstanceAs (Decidable True)

/-- The connection is not made anew. -/
def keepsConnection : FtpEvent → Bool
  | .connect _ _ => false
  | _ => true

theorem transfers_as_requested_resume :
    ∃ final : FtpSocket TransferServer,
      (∃ record ∈ final.sent, record.command.transfers = true ∧ record.server.marker = 100) ∧
      TransfersAsRequested final := by
  obtain ⟨trace, final, run, checked⟩ := @exists_run_of_execute _ _
      (ControlSocket.step ftpOperations (transferServer fun _ => .nothing))
      (established true none)
      ([.reply 2 {}, .proceed {}] ++ downloadFrom 100 ++ [.reply 3 {}, .proceed {}])
      (fun trace final =>
        (final.sent.any fun record =>
          record.command.transfers && decide (record.server.marker = 100)) &&
        trace.all fun taken =>
          keepsConnection taken.2 && decide (InputForward taken.2) &&
          taken.1.outstanding.all fun command =>
            command.command.all fun text => !text.custom) (by decide +kernel)
  simp only [Bool.and_eq_true, any_eq_true, all_eq_true, decide_eq_true_eq] at checked
  obtain ⟨⟨record, member, transfers, marked⟩, allowed⟩ := checked
  refine ⟨final, ⟨record, member, transfers, marked⟩,
    @transfers_as_requested _ true none rfl _ _ run ?_⟩
  rintro ⟨state, event⟩ taken
  obtain ⟨⟨kept, forward⟩, own⟩ := allowed _ taken
  apply tracked_of_own
  · rintro operation queued rfl
    exact absurd kept (by simp [keepsConnection])
  · exact forward
  · intro command outstanding text sent
    have chosen := own command outstanding
    rw [sent] at chosen
    simpa using chosen

/-- What the server of `restBehind` reads from the texts of the user -/
def readsRest (text : WString) : Effect :=
  if text = wide "REST 100" then .rest 100 else .nothing

/-- The transfer of `record` starts elsewhere than its operation asks. -/
def Sent.misplaced (record : Sent FtpOperation FtpCommand TransferServer) : Bool :=
  match record.operation with
  | .rawTransfer data =>
    record.command.transfers && decide (record.server.marker ≠ data.resumeOffset)
  | _ => false

/-- The user sends REST 100, and the next download is taken from there. -/
theorem restBehind :
    ¬ ∀ (reads : WString → Effect) (binary : Bool)
      (trace : List (FtpSocket TransferServer × FtpEvent)) (final : FtpSocket TransferServer),
      Run (ControlSocket.step ftpOperations (transferServer reads)) (established binary none)
        trace final → TransfersAsRequested final := by
  intro requested
  obtain ⟨trace, final, run, wrong⟩ :=
    @exists_run_of_execute _ _ (ControlSocket.step ftpOperations (transferServer readsRest))
      (established true none)
      ([.reply 2 {}, .proceed {}, .execute (.rawCommand (wide "REST 100")), .proceed {},
        .reply 3 {}, .proceed {}] ++ downloadFrom 0)
      (fun _ final => final.sent.any Sent.misplaced) (by decide +kernel)
  obtain ⟨record, member, differs⟩ := any_eq_true.mp wrong
  cases operation : record.operation with
  | logon | rawCommand | other =>
    exact absurd differs (by simp [Sent.misplaced, operation])
  | rawTransfer data =>
    simp only [Sent.misplaced, operation, Bool.and_eq_true, decide_eq_true_eq] at differs
    have asked := requested readsRest true trace final run record member data operation differs.1
    exact differs.2 asked.2

end FtpSocket

end Ftp

end FileZilla
