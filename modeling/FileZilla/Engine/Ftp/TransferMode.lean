import FileZilla.Engine.Ftp.OperationReplies

namespace FileZilla

open List Option

namespace Ftp

/-- The representation type, the restart marker, and whether a REST with an offset has been
accepted before. -/
structure TransferServer where
  binary : Bool
  marker : Int := 0
  resumes : Bool := false

open FtpCommand

/-- Accepted TYPE and REST commands set the type and the marker, transfer commands clear the
marker. A server that accepts a REST accepts a REST 0. -/
def transferServer (reads : WString → Effect) : Server FtpCommand Nat TransferServer :=
  fun state command code =>
    match command.map (effect reads) with
    | some (.type binary) =>
      if code = 1 then none
      else some (if RawTransfer.positive code then { state with binary } else state)
    | some (.rest offset) =>
      if code = 1 then none
      else if RawTransfer.positive code then
        some { state with
          marker := offset
          resumes := state.resumes || decide (offset ≠ 0) }
      else if offset = 0 ∧ state.resumes then none
      else some state
    | some .transfer => some { state with marker := 0 }
    | _ => if code = 1 then none else some state

def FtpCommand.custom : FtpCommand → Bool
  | loginSequence _ | postLogin _ | raw _ => true
  | _ => false

namespace FtpSocket

open ControlSocket

variable {reads : WString → Effect}

/-- A connection of which the welcome message has not arrived yet. -/
def established (binary : Bool) (queued : Option FtpOperation) : FtpSocket TransferServer :=
  (ControlSocket.start {} { binary }).onConnect ftpOperations .logon queued

/-- When a raw transfer sends the transfer command, the server has the type and the marker that
the transfer asks for. -/
def TransfersAsRequested (socket : FtpSocket TransferServer) : Prop :=
  ∀ record ∈ socket.sent, ∀ data, record.operation = .rawTransfer data →
    record.command.transfers = true →
    record.server.binary = data.binary ∧ record.server.marker = data.resumeOffset

/-- What is decided starts no transfer at a negative offset. -/
def Decision.Forward : Decision → Prop
  | .proceed (some (.rawTransfer _ _ resumeOffset)) => 0 ≤ resumeOffset
  | _ => True

def InputForward : FtpEvent → Prop
  | .proceed input | .reply _ input | .requestReply input => Decision.Forward input.decision
  | _ => True

/-- The server accepts no REST with an offset among the texts of the user, unless the control
socket will send REST 0 in any case. -/
def RestTracked (reads : WString → Effect) (self : FtpSocket TransferServer)
    (event : FtpEvent) : Prop :=
  ∀ code input, event = .reply code input → ∀ answered later text offset,
    self.outstanding = answered :: later → answered.command = some text →
    text.custom = true → text.effect reads = .rest offset → offset ≠ 0 →
    RawTransfer.positive code = true → self.shared.sentRestartOffset = true

/-- The connection is the same, no transfer has a negative offset, and the restart marker is
tracked. -/
def Tracked (reads : WString → Effect) (self : FtpSocket TransferServer) (event : FtpEvent) :
    Prop :=
  (∀ operation queued, event ≠ .connect operation queued) ∧ InputForward event ∧
    RestTracked reads self event

/-- `m_lastTypeBinary` and `m_sentRestartOffset` against the server, whatever it makes of the
commands that are outstanding. -/
structure Mirror (reads : WString → Effect) (shared : SharedState) (server : TransferServer)
    (outstanding : List (Outstanding FtpCommand)) : Prop where
  type : ∀ binary, shared.lastTypeBinary = some binary → server.binary = binary
  typePending : ∀ command ∈ outstanding, ∀ text binary known,
    command.command = some text → text.effect reads = .type binary →
    shared.lastTypeBinary = some known → binary = known
  marker : server.marker ≠ 0 → shared.sentRestartOffset = true ∧ server.resumes = true
  restPending : ∀ command ∈ outstanding, ∀ text offset,
    command.command = some text → text.custom = false → text.effect reads = .rest offset →
    offset ≠ 0 → shared.sentRestartOffset = true

variable {shared : SharedState} {server : TransferServer}
  {outstanding : List (Outstanding FtpCommand)}

theorem Mirror.forget (mirror : Mirror reads shared server outstanding) :
    Mirror reads { shared with lastTypeBinary := none } server outstanding where
  type _ impossible := absurd impossible (by simp)
  typePending _ _ _ _ _ _ _ impossible := absurd impossible (by simp)
  __ := mirror

theorem Mirror.note (mirror : Mirror reads shared server outstanding) :
    Mirror reads { shared with sentRestartOffset := true } server outstanding where
  __ := mirror
  marker some := ⟨rfl, (mirror.marker some).2⟩
  restPending _ _ _ _ _ _ _ _ := rfl

theorem Mirror.nil (mirror : Mirror reads shared server outstanding) :
    Mirror reads shared server [] where
  __ := mirror
  typePending _ member := absurd member (by simp)
  restPending _ member := absurd member (by simp)

theorem Mirror.send (mirror : Mirror reads shared server outstanding)
    {command : Outstanding FtpCommand} {text : FtpCommand} (same : command.command = some text)
    (type : ∀ binary known, text.effect reads = .type binary →
      shared.lastTypeBinary = some known → binary = known)
    (rest : ∀ offset, text.custom = false → text.effect reads = .rest offset → offset ≠ 0 →
      shared.sentRestartOffset = true) :
    Mirror reads shared server (outstanding ++ [command]) where
  __ := mirror
  typePending other member := by
    rcases mem_append.mp member with old | new
    · exact mirror.typePending other old
    · obtain rfl := mem_singleton.mp new
      intro other binary known sent
      rw [same] at sent
      cases sent
      exact type binary known
  restPending other member := by
    rcases mem_append.mp member with old | new
    · exact mirror.restPending other old
    · obtain rfl := mem_singleton.mp new
      intro other offset sent
      rw [same] at sent
      cases sent
      exact rest offset

variable {code : Nat}

theorem Mirror.answer {answered : Outstanding FtpCommand} {later : List (Outstanding FtpCommand)}
    (mirror : Mirror reads shared server (answered :: later)) {next : TransferServer}
    (answers : transferServer reads server answered.command code = some next)
    (tracked : ∀ text offset, answered.command = some text → text.custom = true →
      text.effect reads = .rest offset → offset ≠ 0 → RawTransfer.positive code = true →
      shared.sentRestartOffset = true) :
    Mirror reads shared next (answered :: later) := by
  have unchanged : Mirror reads shared server (answered :: later) := mirror
  unfold transferServer at answers
  split at answers
  case h_1 binary effect =>
    obtain ⟨text, sent, reading⟩ := map_eq_some_iff.mp effect
    obtain ⟨-, rfl⟩ := some_of_refusal answers
    split
    case isTrue =>
      exact
        { unchanged with
          type := fun known same => mirror.typePending answered (by simp) text binary
            known sent reading same }
    case isFalse => exact unchanged
  case h_2 offset effect =>
    obtain ⟨text, sent, reading⟩ := map_eq_some_iff.mp effect
    obtain ⟨-, answers⟩ := of_refusal answers
    split at answers
    case isTrue positive =>
      cases answers
      refine { unchanged with marker := fun some => ?_ }
      have noted : shared.sentRestartOffset = true := by
        cases custom : text.custom with
        | true => exact tracked text offset sent custom reading some positive
        | false =>
          exact mirror.restPending answered (by simp) text offset sent custom reading some
      refine ⟨noted, ?_⟩
      simp only [ne_eq] at some
      simp [some]
    case isFalse =>
      obtain ⟨-, rfl⟩ := some_of_refusal answers
      exact unchanged
  case h_3 =>
    cases answers
    exact { unchanged with marker := fun some => absurd rfl some }
  case h_4 =>
    obtain ⟨-, rfl⟩ := some_of_refusal answers
    exact unchanged

/-- A raw transfer that is the current operation, which is still to be asked if `live`. -/
structure Advanced (shared : SharedState) (server : TransferServer)
    (outstanding : List (Outstanding FtpCommand)) (repliesToSkip : Nat) (live : Prop)
    (data : RawTransfer) : Prop where
  offset : 0 ≤ data.resumeOffset
  cmd : data.cmd.transfers = true
  begun : data.opState ≠ .init → repliesToSkip = 0
  typed : data.opState ≠ .init → data.opState ≠ .type → shared.lastTypeBinary = some data.binary
  named : data.opState ≠ .init → ∀ command ∈ outstanding, command.command ≠ none
  marked : data.opState = .transfer → outstanding = [] → live → server.marker = data.resumeOffset

variable {repliesToSkip : Nat} {live : Prop} {data : RawTransfer}

theorem Advanced.next (advanced : Advanced shared server outstanding repliesToSkip live data)
    {next : RawTransfer} (request : next.request = data.request) {after : SharedState}
    {state : TransferServer} {commands : List (Outstanding FtpCommand)} {skipped : Nat}
    {lives : Prop} (begun : next.opState ≠ .init → skipped = 0)
    (typed : next.opState ≠ .init → next.opState ≠ .type →
      after.lastTypeBinary = some data.binary)
    (named : next.opState ≠ .init → ∀ command ∈ commands, command.command ≠ none)
    (marked : next.opState = .transfer → commands = [] → lives →
      state.marker = data.resumeOffset) :
    Advanced after state commands skipped lives next := by
  simp only [RawTransfer.request, Prod.mk.injEq] at request
  obtain ⟨cmd, binary, offset⟩ := request
  exact
    { offset := offset ▸ advanced.offset
      cmd := cmd ▸ advanced.cmd
      begun := begun
      typed := binary ▸ typed
      named := named
      marked := offset ▸ marked }

theorem Advanced.mono (advanced : Advanced shared server outstanding repliesToSkip live data)
    {lives : Prop} (weaker : lives → live) :
    Advanced shared server outstanding repliesToSkip lives data :=
  { advanced with marked := fun state none lasts => advanced.marked state none (weaker lasts) }

structure SendReady (reads : WString → Effect) (server : TransferServer)
    (outstanding : List (Outstanding FtpCommand))
    (result : Sending FtpOperation FtpCommand × RawTransfer × SharedState) : Prop where
  mirror : Mirror reads result.2.2 server outstanding
  command : ∀ text, result.1 = .command text → ∀ command : Outstanding FtpCommand,
    command.command = some text → Mirror reads result.2.2 server (outstanding ++ [command]) ∧
    Advanced result.2.2 server (outstanding ++ [command]) 0 True result.2.1
  requested : ∀ text, result.1 = .command text → text.transfers = true →
    server.binary = result.2.1.binary ∧ server.marker = result.2.1.resumeOffset
  answer : ∀ answer, result.1 = .answer answer → answer.Alone ∧
    Advanced result.2.2 server outstanding 0 (∀ code, answer ≠ .finish code) result.2.1

theorem SendReady.of_answer {next : RawTransfer} {answer : Answer FtpOperation}
    (mirror : Mirror reads shared server outstanding) (alone : answer.Alone)
    (advanced : Advanced shared server outstanding 0 (∀ code, answer ≠ .finish code) next) :
    SendReady reads server outstanding (.answer answer, next, shared) where
  mirror := mirror
  command _ impossible := absurd impossible (by simp)
  requested _ impossible := absurd impossible (by simp)
  answer _ same := by
    obtain rfl := Sending.answer.inj same
    exact ⟨alone, advanced⟩

theorem SendReady.of_command {next : RawTransfer} {input : Input} {text : FtpCommand}
    (mirror : Mirror reads shared server outstanding)
    (named : ∀ command ∈ outstanding, command.command ≠ none)
    (advanced : ∀ commands : List (Outstanding FtpCommand),
      (∀ command ∈ commands, command.command ≠ none) →
      Advanced shared server commands 0 False next)
    (type : ∀ binary known, text.effect reads = .type binary →
      shared.lastTypeBinary = some known → binary = known)
    (rest : ∀ offset, text.custom = false → text.effect reads = .rest offset → offset ≠ 0 →
      shared.sentRestartOffset = true)
    (requested : text.transfers = true →
      server.binary = next.binary ∧ server.marker = next.resumeOffset) :
    SendReady reads server outstanding (input.sendCommand text, next, shared) := by
  unfold Input.sendCommand
  split
  case isTrue =>
    exact
      { mirror := mirror
        command := fun other same command sent => by
          obtain rfl := Sending.command.inj same
          have sends := mirror.send sent type rest
          have goes := advanced (outstanding ++ [command]) fun other member => by
            rcases mem_append.mp member with old | new
            · exact named other old
            · rw [mem_singleton.mp new, sent]
              simp
          exact ⟨sends, { goes with marked := fun _ impossible => absurd impossible (by simp) }⟩
        requested := fun other same => by
          obtain rfl := Sending.command.inj same
          exact requested
        answer := fun _ impossible => absurd impossible (by simp) }
  case isFalse =>
    refine .of_answer mirror (fun operation => by simp) ?_
    exact (advanced outstanding named).mono fun lasts => lasts _ rfl

theorem rawTransfer_send_ready (mirror : Mirror reads shared server outstanding)
    (advanced : Advanced shared server outstanding 0 True data)
    (silent : outstanding = [] ∨ data.Quiet) (input : Input) :
    SendReady reads server outstanding (data.send input shared) := by
  have dead (begun : data.opState ≠ .init) (typed : data.opState ≠ .type)
      {next : RawTransfer} (request : next.request = data.request)
      (commands : List (Outstanding FtpCommand))
      (named : ∀ command ∈ commands, command.command ≠ none) :
      Advanced shared server commands 0 False next :=
    advanced.next request (fun _ => rfl) (fun _ _ => advanced.typed begun typed)
      (fun _ => named) (fun _ _ impossible => absurd impossible id)
  have passive : (RawTransfer.getPassiveCommand input).effect reads = .nothing ∧
      (RawTransfer.getPassiveCommand input).transfers = false := by
    unfold RawTransfer.getPassiveCommand
    split <;> exact ⟨rfl, rfl⟩
  unfold RawTransfer.send
  split
  case isTrue =>
    exact .of_answer mirror (fun operation => by simp) (advanced.mono fun _ => trivial)
  case isFalse =>
    split
    case h_1 state =>
      refine .of_answer mirror (fun operation => by simp) ?_
      have empty : outstanding = [] := by
        refine silent.resolve_right fun quiet => ?_
        rw [RawTransfer.Quiet, state] at quiet
        exact absurd quiet (by simp)
      have next (passive active : Bool) : Advanced shared server outstanding 0
          (∀ code, (Answer.proceed none : Answer FtpOperation) ≠ .finish code)
          { data with
            opState := if shared.lastTypeBinary = some data.binary then .portPasv else .type
            bPasv := passive
            bTriedActive := active } := by
        refine advanced.next ?_ (fun _ => rfl) (fun _ other => ?_) (fun _ => ?_)
          (fun impossible => ?_)
        · rfl
        · dsimp only at other
          split at other
          case isTrue same => exact same
          case isFalse => exact absurd rfl other
        · rw [empty]
          exact forall_mem_nil _
        · dsimp only at impossible
          split at impossible <;> cases impossible
      split
      · exact next true true
      · exact next input.passiveMode data.bTriedActive
    case h_2 state =>
      refine .of_command mirror.forget (advanced.named (by simp [state])) ?_ ?_ ?_ ?_
      · intro commands named
        exact advanced.next rfl (fun _ => rfl) (fun _ other => absurd state other)
          (fun _ => named) (fun _ _ impossible => absurd impossible id)
      · intro _ _ _ impossible
        cases impossible
      · intro offset _ impossible
        split at impossible <;> exact absurd impossible (by simp [effect])
      · intro impossible
        split at impossible <;> exact absurd impossible (by simp [transfers])
    case h_3 state =>
      have begun : data.opState ≠ .init := by simp [state]
      have typed : data.opState ≠ .type := by simp [state]
      have asks {text : FtpCommand} {next : RawTransfer}
          (silence : text.effect reads = .nothing ∧ text.transfers = false)
          (request : next.request = data.request) :
          SendReady reads server outstanding (input.sendCommand text, next, shared) := by
        refine .of_command mirror (advanced.named begun) (dead begun typed request) ?_ ?_ ?_
        · intro binary known impossible
          cases silence.1.symm.trans impossible
        · intro offset _ impossible
          cases silence.1.symm.trans impossible
        · intro impossible
          cases silence.2.symm.trans impossible
      dsimp only
      split
      case isTrue => exact asks passive rfl
      case isFalse =>
        split
        case h_1 =>
          exact .of_answer mirror (fun operation => by simp) (advanced.mono fun _ => trivial)
        case h_2 =>
          refine asks ?_ rfl
          split <;> exact ⟨rfl, rfl⟩
        case h_3 =>
          split
          case isTrue =>
            exact .of_answer mirror (fun operation => by simp)
              ((dead begun typed rfl outstanding (advanced.named begun)).mono fun lasts =>
                lasts _ rfl)
          case isFalse => exact asks passive rfl
    case h_4 state =>
      have begun : data.opState ≠ .init := by simp [state]
      have typed : data.opState ≠ .type := by simp [state]
      have noted : Mirror reads
          (if data.resumeOffset > 0 then { shared with sentRestartOffset := true }
            else shared) server outstanding := by
        split
        · exact mirror.note
        · exact mirror
      refine .of_command noted (advanced.named begun) ?_ ?_ ?_ ?_
      · intro commands named
        have goes := dead begun typed rfl commands named
        exact
          { goes with
            typed := fun started other => by
              have known := goes.typed started other
              split
              · exact known
              · exact known }
      · intro _ _ impossible
        exact absurd impossible (by simp [effect])
      · intro offset _ sent some
        obtain rfl := Effect.rest.inj sent
        have positive : data.resumeOffset > 0 := by
          have := advanced.offset
          omega
        rw [if_pos positive]
      · intro impossible
        exact absurd impossible (by simp [transfers])
    case h_5 state =>
      have begun : data.opState ≠ .init := by simp [state]
      have typed : data.opState ≠ .type := by simp [state]
      split
      case isTrue =>
        exact .of_answer mirror (fun operation => by simp)
          ((dead begun typed rfl outstanding (advanced.named begun)).mono fun lasts =>
            lasts _ rfl)
      case isFalse =>
        have transfer : data.cmd.effect reads = .transfer :=
          effect_transfers advanced.cmd
        refine .of_command mirror (advanced.named begun) (dead begun typed rfl) ?_ ?_ ?_
        · intro _ _ impossible
          cases transfer.symm.trans impossible
        · intro _ _ impossible
          cases transfer.symm.trans impossible
        · intro _
          refine ⟨mirror.type _ (advanced.typed begun typed), ?_⟩
          rcases silent with none | quiet
          · exact advanced.marked state none trivial
          · rw [RawTransfer.Quiet, state] at quiet
            exact absurd quiet (by simp)
    case h_6 | h_7 | h_8 | h_9 =>
      exact .of_answer mirror (fun operation => by simp) (advanced.mono fun _ => trivial)

theorem parsePortReply_next {next : RawTransfer} {input : Input}
    (parsed : data.parsePortReply input code shared = some next) :
    next.request = data.request ∧
    (next.opState = data.opState ∨ next.opState = .rest ∨
      (next.opState = .transfer ∧ data.resumeOffset ≤ 0 ∧ shared.sentRestartOffset = false)) := by
  unfold RawTransfer.parsePortReply at parsed
  split at parsed
  case isTrue =>
    obtain ⟨-, parsed⟩ := of_refusal parsed
    split at parsed
    case isTrue =>
      obtain ⟨-, rfl⟩ := some_of_refusal parsed
      exact ⟨rfl, .inl rfl⟩
    case isFalse =>
      cases parsed
      exact ⟨rfl, .inl rfl⟩
  case isFalse =>
    have noted : (if data.bPasv then { data with bTriedPasv := true } else data).request =
          data.request ∧
        (if data.bPasv then { data with bTriedPasv := true } else data).opState =
          data.opState ∧
        (if data.bPasv then { data with bTriedPasv := true } else data).resumeOffset =
          data.resumeOffset := by
      split <;> exact ⟨rfl, rfl, rfl⟩
    dsimp only at parsed
    generalize (if data.bPasv then { data with bTriedPasv := true } else data) = tried at *
    obtain ⟨request, state, offset⟩ := noted
    split at parsed
    case isTrue =>
      obtain ⟨-, parsed⟩ := of_refusal parsed
      obtain ⟨-, rfl⟩ := some_of_guard parsed
      exact ⟨request, .inl state⟩
    case isFalse =>
      split at parsed
      case isTrue =>
        cases parsed
        exact ⟨request, .inr (.inl rfl)⟩
      case isFalse fresh =>
        cases parsed
        rw [offset, not_or] at fresh
        refine ⟨request, .inr (.inr ⟨rfl, ?_, ?_⟩)⟩
        · exact Int.not_lt.mp fresh.1
        · exact Bool.eq_false_iff.mpr fresh.2

structure ResponseReady (reads : WString → Effect) (server : TransferServer)
    (outstanding : List (Outstanding FtpCommand))
    (result : Answer FtpOperation × RawTransfer × SharedState) : Prop where
  mirror : Mirror reads result.2.2 server outstanding
  alone : result.1.Alone
  advanced : Advanced result.2.2 server outstanding 0 (∀ code, result.1 ≠ .finish code) result.2.1

theorem ResponseReady.of_finish {next : RawTransfer} (code : EndCode)
    (mirror : Mirror reads shared server outstanding)
    (advanced : Advanced shared server outstanding 0 False next) :
    ResponseReady reads server outstanding (.finish code, next, shared) where
  mirror := mirror
  alone _ := by simp
  advanced := advanced.mono fun lasts => lasts _ rfl

theorem ResponseReady.of_proceed {next : RawTransfer}
    (mirror : Mirror reads shared server outstanding)
    (advanced : Advanced shared server outstanding 0 True next) :
    ResponseReady reads server outstanding (.proceed none, next, shared) where
  mirror := mirror
  alone _ := by simp
  advanced := advanced.mono fun _ => trivial

theorem rawTransfer_transferring_ready {before : TransferServer}
    {commands : List (Outstanding FtpCommand)}
    (advanced : Advanced shared before commands 0 True data) (transferring : data.Transferring)
    (mirror : Mirror reads shared server outstanding)
    (named : ∀ command ∈ outstanding, command.command ≠ none) (input : Input) (code : Nat) :
    ResponseReady reads server outstanding (data.parseResponse input code shared) := by
  have typed : shared.lastTypeBinary = some data.binary := by
    apply advanced.typed
    all_goals
      rcases transferring with state | state | state | state | state <;> simp [state]
  have moves {next : RawTransfer} (request : next.request = data.request) {live : Prop}
      (state : live → next.opState ≠ .transfer) :
      Advanced shared server outstanding 0 live next :=
    advanced.next request (fun _ => rfl) (fun _ _ => typed) (fun _ => named)
      (fun same _ lasts => absurd same (state lasts))
  have fails (reason : TransferEndReason) : ResponseReady reads server outstanding
      (.finish .error, data.failWith reason, shared) :=
    .of_finish .error mirror (moves (RawTransfer.failWith_request reason data) (absurd · id))
  have ends (code : EndCode) :
      ResponseReady reads server outstanding (.finish code, data, shared) :=
    .of_finish code mirror (moves rfl (absurd · id))
  unfold RawTransfer.parseResponse
  dsimp only
  rcases transferring with state | state | state | state | state <;> rw [state] <;> dsimp only
  · split
    · refine .of_proceed mirror (moves ?_ fun _ => by simp)
      rfl
    · split
      · refine .of_proceed mirror (moves ?_ fun _ => by simp)
        rfl
      · exact fails _
  · split
    · exact fails _
    · refine .of_proceed mirror (moves ?_ fun _ => by simp)
      rfl
  · split
    · refine .of_proceed mirror (moves ?_ fun _ => by simp)
      rfl
    · split
      · split
        · exact ends _
        · exact ends _
      · exact fails _
  · split
    · exact fails _
    · split
      · exact ends _
      · exact ends _
  · exact ends _

theorem rawTransfer_response_ready {before : TransferServer} {answered : Outstanding FtpCommand}
    (mirror : Mirror reads shared before [answered])
    (advanced : Advanced shared before [answered] 0 True data)
    (issued : ∀ text, answered.command = some text → data.Sends reads text)
    (answers : transferServer reads before answered.command code = some server)
    (after : Mirror reads shared server []) (input : Input) :
    ResponseReady reads server [] (data.parseResponse input code shared) := by
  have nothing : ∀ command ∈ ([] : List (Outstanding FtpCommand)), command.command ≠ none :=
    forall_mem_nil _
  have named (begun : data.opState ≠ .init) : ∃ text, answered.command = some text :=
    ne_none_iff_exists'.mp (advanced.named begun answered (by simp))
  have ends (code : EndCode) (same : data.opState ≠ .init → data.opState ≠ .type →
      shared.lastTypeBinary = some data.binary) :
      ResponseReady reads server [] (.finish code, data, shared) :=
    .of_finish code after (advanced.next rfl (fun _ => rfl) same (fun _ => nothing)
      (fun _ _ impossible => absurd impossible id))
  by_cases transferring : data.Transferring
  case pos => exact rawTransfer_transferring_ready advanced transferring after nothing input code
  case neg =>
    unfold RawTransfer.parseResponse
    dsimp only
    split
    case h_1 state => exact ends _ advanced.typed
    case h_2 state =>
      split
      case isTrue => exact ends _ advanced.typed
      case isFalse accepted =>
        simp only [Bool.not_eq_true', Bool.not_eq_false] at accepted
        have begun : data.opState ≠ .init := by simp [state]
        obtain ⟨text, sent⟩ := named begun
        have reading : text.effect reads = .type data.binary := by
          cases issued text sent with
          | type _ same =>
            rw [same]
            cases data.binary <;> rfl
          | portPasv other => cases state.symm.trans other
          | rest other => cases state.symm.trans other
          | transfer other => exact absurd other transferring
        have typed : server.binary = data.binary := by
          simp only [transferServer, sent, map_some, reading, accepted, if_true] at answers
          obtain ⟨-, rfl⟩ := some_of_refusal answers
          rfl
        refine .of_proceed ?_ (advanced.next ?_ (fun _ => rfl) (fun _ _ => rfl)
          (fun _ => nothing) (fun impossible => absurd impossible (by simp)))
        · exact
            { type := fun binary known => by
                rw [← some.inj known]
                exact typed
              typePending := forall_mem_nil _
              marker := after.marker
              restPending := forall_mem_nil _ }
        · rfl
    case h_3 state =>
      have begun : data.opState ≠ .init := by simp [state]
      have typed := advanced.typed begun (by simp [state])
      split
      case h_1 => exact ends _ advanced.typed
      case h_2 next parsed =>
        obtain ⟨request, moved⟩ := parsePortReply_next parsed
        refine .of_proceed after (advanced.next request (fun _ => rfl) (fun _ _ => typed)
          (fun _ => nothing) (fun same _ _ => ?_))
        rcases moved with stays | rest | ⟨_, offset, unmarked⟩
        · rw [same, state] at stays
          cases stays
        · cases same.symm.trans rest
        · have clear : server.marker = 0 := by
            refine not_not.mp fun some => ?_
            exact absurd ((after.marker some).1.symm.trans unmarked) (by simp)
          rw [clear]
          exact Int.le_antisymm advanced.offset offset
    case h_4 state =>
      have begun : data.opState ≠ .init := by simp [state]
      have typed := advanced.typed begun (by simp [state])
      obtain ⟨text, sent⟩ := named begun
      have reading : text.effect reads = .rest data.resumeOffset := by
        cases issued text sent with
        | type other => cases state.symm.trans other
        | portPasv other => cases state.symm.trans other
        | rest _ same =>
          rw [same]
          rfl
        | transfer other => exact absurd other transferring
      have marked (went : RawTransfer.positive code = true ∨ data.resumeOffset = 0) :
          server.marker = data.resumeOffset := by
        simp only [transferServer, sent, map_some, reading] at answers
        obtain ⟨-, answers⟩ := of_refusal answers
        split at answers
        case isTrue =>
          cases answers
          rfl
        case isFalse refused =>
          have zero := went.resolve_left refused
          obtain ⟨fresh, rfl⟩ := some_of_refusal answers
          refine not_not.mp fun other => fresh ⟨zero, ?_⟩
          rw [zero] at other
          exact (mirror.marker other).2
      split
      case isTrue refused =>
        rw [if_neg (Int.not_le.mpr refused.1)]
        exact ends _ advanced.typed
      case isFalse accepted =>
        have went : RawTransfer.positive code = true ∨ data.resumeOffset = 0 := by
          rcases Int.lt_or_eq_of_le advanced.offset with positive | zero
          · left
            cases outcome : RawTransfer.positive code with
            | true => rfl
            | false => exact absurd ⟨positive, by rw [outcome]; rfl⟩ accepted
          · exact .inr zero.symm
        refine .of_proceed ?_ ?_
        · split
          case isTrue backward =>
            refine { after with marker := fun some => ?_, restPending := forall_mem_nil _ }
            exact absurd ((marked went).trans (Int.le_antisymm backward advanced.offset)) some
          case isFalse => exact after
        · refine advanced.next ?_ (fun _ => rfl) (fun _ _ => ?_) (fun _ => nothing)
            (fun _ _ _ => marked went)
          · rfl
          · split
            · exact typed
            · exact typed
    case h_5 state => exact absurd (.inl state) transferring
    case h_6 state => exact absurd (.inr (.inr (.inl state))) transferring
    case h_7 state => exact absurd (.inr (.inl state)) transferring
    case h_8 state => exact absurd (.inr (.inr (.inr (.inl state)))) transferring
    case h_9 state => exact absurd (.inr (.inr (.inr (.inr state)))) transferring

end FtpSocket

end Ftp

end FileZilla
