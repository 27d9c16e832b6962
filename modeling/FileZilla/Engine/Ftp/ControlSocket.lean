import FileZilla.Runs

namespace FileZilla

namespace Ftp

/-! The control socket: a stack of operations, the commands they send and the replies to them. -/

inductive EndCode
  | ok
  | error
  | criticalError
  | notFound
  | failed
  | disconnected
  deriving DecidableEq

/-- The codes that `ResetOperation` passes to the operation below. -/
def EndCode.reported : EndCode → Bool
  | ok | error | criticalError | notFound => true
  | failed | disconnected => false

inductive Waiting
  | reply
  | event
  | request
  deriving DecidableEq

section

variable (ω ς κ ρ ι σ : Type)

inductive Answer
  | wouldBlock (waiting : Waiting)
  | proceed (pushed : Option ω)
  | finish (code : EndCode)

inductive Sending
  | command (command : κ)
  | answer (answer : Answer ω)

/-- The functions of the operations `ω` over what they share `ς`, with commands `κ` and
replies `ρ`. All that is decided elsewhere comes as an input `ι`. -/
structure Operations where
  isConnect : ω → Bool
  isRawTransfer : ω → Bool
  executable : ω → Bool
  preliminary : ρ → Bool
  send : ι → ω → ς → Sending ω κ × ω × ς
  parseResponse : ι → ρ → ω → ς → Answer ω × ω × ς
  subcommandResult : ι → EndCode → ω → ω → ς → Answer ω × ω × ς
  setAsyncRequestReply : ι → ω → ς → Answer ω × ω × ς
  transferEnd : ι → ω → ς → Option EndCode × ω × ς
  keepAlive : ι → ς → κ
  finalizeResetOperation : ς → ς
  notify : ι → Bool → ς → ς
  onConnect : ς → ς
  onClose : ς → ς

/-- What the server becomes when it answers a command, or the connection itself, with a reply.
It does not give a reply where this is none. -/
abbrev Server := σ → Option κ → ρ → Option σ

/-- An operation of the stack. `lastSent` is the number of the last command it sent. -/
structure Entry where
  serial : Nat
  data : ω
  topLevel : Bool := false
  waiting : Waiting := .reply
  lastSent : Option Nat := none

/-- A command without its final reply, which is the welcome message where there is none. The
sender is missing for a keep-alive command. -/
structure Outstanding where
  number : Nat
  sender : Option Nat
  command : Option κ

structure Sent where
  operation : ω
  command : κ
  repliesToSkip : Nat
  server : σ

/-- A reply that was passed to `ParseResponse` of an operation. -/
structure Delivered where
  operation : ω
  serial : Nat
  lastSent : Option Nat
  answered : Outstanding κ

inductive Control
  | idle
  | sendNextCommand
  | resetOperation (code : EndCode)
  | subcommandResult (code : EndCode) (previous : ω)

/-- The control socket with its server. The fields from `outstanding` on only record what
happened. -/
structure ControlSocket where
  operations : List (Entry ω)
  shared : ς
  pendingReplies : Nat
  repliesToSkip : Nat
  control : Control ω
  connected : Bool
  server : σ
  outstanding : List (Outstanding κ)
  serials : Nat
  numbers : Nat
  sent : List (Sent ω κ σ)
  delivered : List (Delivered ω κ)

inductive Event
  | proceed (input : ι)
  | execute (operation : ω)
  | reply (reply : ρ) (input : ι)
  | transferEnd (input : ι)
  | obtained
  | transferRequest
  | requestReply (input : ι)
  | cancel
  | keepAlive (input : ι)
  | notify (input : ι)
  | close
  | connect (logon : ω) (queued : Option ω)

end

variable {ω ς κ ρ ι σ : Type}

namespace ControlSocket

def push (operation : ω) (topLevel : Bool) (self : ControlSocket ω ς κ σ) :
    ControlSocket ω ς κ σ :=
  { self with
    operations := { serial := self.serials, data := operation, topLevel } :: self.operations
    serials := self.serials + 1 }

def sendCommand (sender : Option Nat) (command : κ) (self : ControlSocket ω ς κ σ) :
    ControlSocket ω ς κ σ :=
  { self with
    pendingReplies := self.pendingReplies + 1
    outstanding :=
      self.outstanding ++ [{ number := self.numbers, sender, command := some command }]
    numbers := self.numbers + 1 }

variable (ops : Operations ω ς κ ρ ι)

/-- `DoClose`; resetting the operations with this code ends all of them. -/
def doClose (self : ControlSocket ω ς κ σ) :
    ControlSocket ω ς κ σ :=
  { self with
    operations := []
    shared := ops.onClose self.shared
    pendingReplies := 0
    repliesToSkip := 0
    control := .idle
    connected := false
    outstanding := [] }

/-- Does what the current operation has answered; `closes` are the codes for which the caller
closes the connection. -/
def settle (closes : EndCode → Bool) (answer : Answer ω)
    (self : ControlSocket ω ς κ σ) : ControlSocket ω ς κ σ :=
  match answer with
  | .wouldBlock waiting =>
    { self with
      control := .idle
      operations :=
        if waiting = .reply then self.operations
        else self.operations.modifyHead fun top => { top with waiting } }
  | .proceed pushed =>
    match pushed with
    | none => { self with control := .sendNextCommand }
    | some operation => { self.push operation false with control := .sendNextCommand }
  | .finish code =>
    if closes code then self.doClose ops else { self with control := .resetOperation code }

variable (input : ι)

def sendNextCommand (self : ControlSocket ω ς κ σ) :
    ControlSocket ω ς κ σ :=
  match self.operations with
  | [] => { self with control := .resetOperation .error }
  | top :: below =>
    -- Waiting for async request
    if top.waiting = .request then { self with control := .idle }
    -- CanSendNextCommand
    else if self.repliesToSkip ≠ 0 then { self with control := .idle }
    else
      let (sending, data, shared) := ops.send input top.data self.shared
      let sender := { top with data, waiting := .reply }
      match sending with
      | .command command =>
        let record : Sent ω κ σ :=
          { operation := data, command, repliesToSkip := self.repliesToSkip
            server := self.server }
        { self.sendCommand (some top.serial) command with
          shared
          control := .idle
          operations := { sender with lastSent := some self.numbers } :: below
          sent := self.sent ++ [record] }
      | .answer answer =>
        let self := { self with shared, operations := sender :: below }
        self.settle ops (fun code => code = .disconnected) answer

def resetOperation (code : EndCode) (self : ControlSocket ω ς κ σ) :
    ControlSocket ω ς κ σ :=
  let self := { self with repliesToSkip := self.pendingReplies }
  let finalized := { self with shared := ops.finalizeResetOperation self.shared }
  match self.operations with
  | [] => { finalized with control := .idle }
  | [_] => { finalized with operations := [], control := .idle }
  | old :: below =>
    if !code.reported then
      { self with operations := below, control := .resetOperation code }
    else if old.topLevel then
      { finalized with operations := below, control := .sendNextCommand }
    else { self with operations := below, control := .subcommandResult code old.data }

def parseSubcommandResult (code : EndCode)
    (previous : ω) (self : ControlSocket ω ς κ σ) : ControlSocket ω ς κ σ :=
  match self.operations with
  | [] => { self with control := .resetOperation .error }
  | top :: below =>
    let (answer, data, shared) := ops.subcommandResult input code previous top.data self.shared
    let self := { self with shared, operations := { top with data } :: below }
    self.settle ops (fun _ => false) answer

/-- `ParseResponse` with a reply, which answers the given command. -/
def parseResponse (reply : ρ)
    (answered : Outstanding κ) (self : ControlSocket ω ς κ σ) : ControlSocket ω ς κ σ :=
  if !ops.preliminary reply ∧ self.pendingReplies = 0 then self
  else
    let final := if ops.preliminary reply then 0 else 1
    let self := { self with pendingReplies := self.pendingReplies - final }
    if self.repliesToSkip ≠ 0 then
      let self := { self with repliesToSkip := self.repliesToSkip - final }
      if self.repliesToSkip = 0 ∧ self.operations ≠ [] ∧ self.pendingReplies = 0 then
        { self with control := .sendNextCommand }
      else self
    else
      match self.operations with
      | [] => self
      | top :: below =>
        let (answer, data, shared) := ops.parseResponse input reply top.data self.shared
        let record : Delivered ω κ :=
          { operation := top.data, serial := top.serial, lastSent := top.lastSent, answered }
        let self :=
          { self with
            shared
            operations := { top with data } :: below
            delivered := self.delivered ++ [record] }
        self.settle ops
          (fun code => code = .disconnected ∨ (code ≠ .ok ∧ ops.isConnect data)) answer

/-- `TransferEnd`, which only concerns a raw transfer. -/
def transferEnd (self : ControlSocket ω ς κ σ) :
    ControlSocket ω ς κ σ :=
  match self.operations with
  | [] => self
  | top :: below =>
    if !ops.isRawTransfer top.data then self
    else
      let (ended, data, shared) := ops.transferEnd input top.data self.shared
      let self := { self with shared, operations := { top with data } :: below }
      match ended with
      | none => self
      | some .disconnected => self.doClose ops
      | some code => { self with control := .resetOperation code }

def callSetAsyncRequestReply
    (self : ControlSocket ω ς κ σ) : Option (ControlSocket ω ς κ σ) :=
  match self.operations with
  | [] => none
  | top :: below =>
    if top.waiting = .request then
      let (answer, data, shared) := ops.setAsyncRequestReply input top.data self.shared
      let self :=
        { self with shared, operations := { top with data, waiting := .reply } :: below }
      some (self.settle ops (fun code => code = .disconnected) answer)
    else none

def cancel (self : ControlSocket ω ς κ σ) :
    Option (ControlSocket ω ς κ σ) :=
  match self.operations with
  | [] => none
  | top :: _ =>
    some (if ops.isConnect top.data then self.doClose ops
      else { self with control := .resetOperation .failed })

/-- `OnTimer` for the idle timer -/
def onTimer (self : ControlSocket ω ς κ σ) :
    ControlSocket ω ς κ σ :=
  if self.operations ≠ [] then self
  else if self.pendingReplies ≠ 0 ∨ self.repliesToSkip ≠ 0 then self
  else
    let self := self.sendCommand none (ops.keepAlive input self.shared)
    { self with repliesToSkip := self.repliesToSkip + 1 }

/-- `CreateSocket`, which resets the counters, and `OnConnect`: the first reply of a connection
is its welcome message. -/
def onConnect (logon : ω) (queued : Option ω)
    (self : ControlSocket ω ς κ σ) : ControlSocket ω ς κ σ :=
  let below : List (Entry ω) :=
    queued.toList.map fun operation => { serial := self.serials, data := operation }
  { self with
    shared := ops.onConnect self.shared
    connected := true
    operations :=
      { serial := self.serials + 1, data := logon, topLevel := true
        lastSent := some self.numbers } :: below
    serials := self.serials + 2
    pendingReplies := 1
    repliesToSkip := 0
    outstanding :=
      [{ number := self.numbers, sender := some (self.serials + 1), command := none }]
    numbers := self.numbers + 1 }

/-- One event. While the control socket has something to do by itself, nothing else happens. -/
def step (server : Server κ ρ σ) (self : ControlSocket ω ς κ σ)
    (event : Event ω ρ ι) : Option (ControlSocket ω ς κ σ) :=
  match self.control, event with
  | .sendNextCommand, .proceed input => some (self.sendNextCommand ops input)
  | .resetOperation code, .proceed _ => some (self.resetOperation ops code)
  | .subcommandResult code previous, .proceed input =>
    some (self.parseSubcommandResult ops input code previous)
  | .idle, .connect logon queued =>
    if !self.connected ∧ ops.isConnect logon ∧ queued.all ops.executable then
      some (self.onConnect ops logon queued)
    else none
  | .idle, event =>
    if !self.connected then none
    else
      match event with
      | .execute operation =>
        if self.operations = [] ∧ ops.executable operation then
          some { self.push operation false with control := .sendNextCommand }
        else none
      | .reply reply input =>
        match self.outstanding with
        | [] => none
        | answered :: later =>
          (server self.server answered.command reply).map fun state =>
            let self :=
              { self with
                server := state
                outstanding :=
                  if ops.preliminary reply then self.outstanding else later }
            self.parseResponse ops input reply answered
      | .transferEnd input => some (self.transferEnd ops input)
      | .obtained =>
        if self.operations.head?.any (fun top => top.waiting = .event) then
          some { self with
            control := .sendNextCommand
            operations := self.operations.modifyHead fun top =>
              { top with waiting := .reply } }
        else none
      | .transferRequest =>
        if self.operations.head?.any (fun top => ops.isRawTransfer top.data) then
          some { self with
            operations := self.operations.modifyHead fun top =>
              { top with waiting := .request } }
        else none
      | .requestReply input => self.callSetAsyncRequestReply ops input
      | .cancel => self.cancel ops
      | .keepAlive input => some (self.onTimer ops input)
      | .notify input =>
        some { self with shared := ops.notify input self.operations.isEmpty self.shared }
      | .close => some (self.doClose ops)
      | _ => none
  | _, _ => none

inductive StepCase (ops : Operations ω ς κ ρ ι) (server : Server κ ρ σ)
    (self : ControlSocket ω ς κ σ) : Event ω ρ ι → ControlSocket ω ς κ σ → Prop
  | sendNextCommand (input : ι) (control : self.control = .sendNextCommand) :
      StepCase ops server self (.proceed input) (self.sendNextCommand ops input)
  | resetOperation (input : ι) (code : EndCode) (control : self.control = .resetOperation code) :
      StepCase ops server self (.proceed input) (self.resetOperation ops code)
  | subcommandResult (input : ι) (code : EndCode) (previous : ω)
      (control : self.control = .subcommandResult code previous) :
      StepCase ops server self (.proceed input)
        (self.parseSubcommandResult ops input code previous)
  | connect (logon : ω) (queued : Option ω) (idle : self.control = .idle)
      (closed : self.connected = false) (connects : ops.isConnect logon = true)
      (executable : queued.all ops.executable = true) :
      StepCase ops server self (.connect logon queued) (self.onConnect ops logon queued)
  | execute (operation : ω) (idle : self.control = .idle) (empty : self.operations = [])
      (executable : ops.executable operation = true) :
      StepCase ops server self (.execute operation)
        { self.push operation false with control := .sendNextCommand }
  | reply (reply : ρ) (input : ι) (idle : self.control = .idle)
      (answered : Outstanding κ) (later : List (Outstanding κ)) (state : σ)
      (outstanding : self.outstanding = answered :: later)
      (answers : server self.server answered.command reply = some state) :
      StepCase ops server self (.reply reply input)
        ({ self with
          server := state
          outstanding :=
            if ops.preliminary reply then self.outstanding else later }.parseResponse ops input
          reply answered)
  | transferEnd (input : ι) (idle : self.control = .idle) :
      StepCase ops server self (.transferEnd input) (self.transferEnd ops input)
  | obtained (idle : self.control = .idle) (top : Entry ω) (below : List (Entry ω))
      (operations : self.operations = top :: below) (waiting : top.waiting = .event) :
      StepCase ops server self .obtained
        { self with
          control := .sendNextCommand
          operations := { top with waiting := .reply } :: below }
  | transferRequest (idle : self.control = .idle) (top : Entry ω) (below : List (Entry ω))
      (operations : self.operations = top :: below) (raw : ops.isRawTransfer top.data = true) :
      StepCase ops server self .transferRequest
        { self with operations := { top with waiting := .request } :: below }
  | requestReply (input : ι) (idle : self.control = .idle) (next : ControlSocket ω ς κ σ)
      (taken : self.callSetAsyncRequestReply ops input = some next) :
      StepCase ops server self (.requestReply input) next
  | cancel (idle : self.control = .idle) (next : ControlSocket ω ς κ σ)
      (taken : self.cancel ops = some next) : StepCase ops server self .cancel next
  | keepAlive (input : ι) (idle : self.control = .idle) :
      StepCase ops server self (.keepAlive input) (self.onTimer ops input)
  | notify (input : ι) (idle : self.control = .idle) :
      StepCase ops server self (.notify input)
        { self with shared := ops.notify input self.operations.isEmpty self.shared }
  | close (idle : self.control = .idle) : StepCase ops server self .close (self.doClose ops)

theorem step_cases {ops : Operations ω ς κ ρ ι} {server : Server κ ρ σ}
    {self next : ControlSocket ω ς κ σ} {event : Event ω ρ ι}
    (taken : self.step ops server event = some next) :
    StepCase ops server self event next := by
  unfold step at taken
  split at taken
  case h_1 input sending =>
    cases taken
    exact .sendNextCommand input sending
  case h_2 code input resetting =>
    cases taken
    exact .resetOperation input code resetting
  case h_3 code previous input ended =>
    cases taken
    exact .subcommandResult input code previous ended
  case h_4 logon queued idle =>
    obtain ⟨allowed, rfl⟩ := some_of_guard taken
    simp only [Bool.not_eq_true'] at allowed
    exact .connect logon queued idle allowed.1 allowed.2.1 allowed.2.2
  case h_6 => cases taken
  case h_5 idle _ =>
    split at taken
    case isTrue => cases taken
    case isFalse =>
      split at taken
      case h_1 operation _ =>
        obtain ⟨fresh, rfl⟩ := some_of_guard taken
        exact .execute operation idle fresh.1 fresh.2
      case h_2 reply input _ =>
        split at taken
        case h_1 => cases taken
        case h_2 answered later outstanding =>
          obtain ⟨state, answers, rfl⟩ := Option.map_eq_some_iff.mp taken
          exact .reply reply input idle answered later state outstanding answers
      case h_3 input _ =>
        cases taken
        exact .transferEnd input idle
      case h_4 =>
        cases operations : self.operations with
        | nil => simp [operations] at taken
        | cons top below =>
          simp only [operations, List.head?_cons, Option.any_some, decide_eq_true_eq,
            List.modifyHead_cons] at taken
          obtain ⟨waiting, rfl⟩ := some_of_guard taken
          exact .obtained idle top below operations waiting
      case h_5 =>
        cases operations : self.operations with
        | nil => simp [operations] at taken
        | cons top below =>
          simp only [operations, List.head?_cons, Option.any_some, List.modifyHead_cons] at taken
          obtain ⟨raw, rfl⟩ := some_of_guard taken
          exact .transferRequest idle top below operations raw
      case h_6 input _ => exact .requestReply input idle next taken
      case h_7 => exact .cancel idle next taken
      case h_8 input _ =>
        cases taken
        exact .keepAlive input idle
      case h_9 input _ =>
        cases taken
        exact .notify input idle
      case h_10 =>
        cases taken
        exact .close idle
      case h_11 => cases taken

def start (shared : ς) (server : σ) : ControlSocket ω ς κ σ where
  operations := []
  shared
  pendingReplies := 0
  repliesToSkip := 0
  control := .idle
  connected := false
  server
  outstanding := []
  serials := 0
  numbers := 0
  sent := []
  delivered := []

end ControlSocket

end Ftp

end FileZilla
