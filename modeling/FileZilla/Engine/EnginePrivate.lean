import FileZilla.Runs
import Mathlib.Data.Nat.Bitwise

namespace FileZilla

/-! One command at a time: `CFileZillaEnginePrivate` with its queued events, its retry timer and
a control socket that ends and resets operations. -/

/-- The `FZ_REPLY` codes -/
abbrev Reply := Nat

namespace Reply

def ok : Reply := 0x0000

def wouldBlock : Reply := 0x0001

def error : Reply := 0x0002

def criticalError : Reply := 0x0004 ||| error

def canceled : Reply := 0x0008 ||| error

def syntaxError : Reply := 0x0010 ||| error

def notConnected : Reply := 0x0020 ||| error

def disconnected : Reply := 0x0040

def internalError : Reply := 0x0080 ||| error

def busy : Reply := 0x0100 ||| error

def alreadyConnected : Reply := 0x0200 ||| error

def passwordFailed : Reply := 0x0400

def timeout : Reply := 0x0800 ||| error

def notSupported : Reply := 0x1000 ||| error

def continued : Reply := 0x8000

/-- A failure to connect that nothing but the connection is to blame for -/
def connectionLost (code : Reply) : Bool :=
  let allowed := error ||| disconnected ||| timeout ||| criticalError ||| passwordFailed
  code ||| allowed = allowed && code &&& (error ||| disconnected) ≠ 0

def critical (code : Reply) : Bool :=
  code &&& criticalError = criticalError

end Reply

inductive CommandId
  | connect
  | disconnect
  | list
  | transfer
  | del
  | removedir
  | mkdir
  | rename
  | chmod
  | raw
  | httprequest
  deriving DecidableEq

/-- What the engine reads of a `CCommand`: whether it is valid and, of a `CConnectCommand`,
whether it may be retried and which kind of control socket its protocol has. -/
structure Command where
  id : CommandId
  valid : Bool := true
  retryConnecting : Bool := true
  supported : Bool := true
  http : Bool := false

/-- A command that `Execute` accepted, with its place among these -/
structure CurrentCommand where
  serial : Nat
  command : Command

structure AsyncRequest where
  number : Nat
  serial : Option Nat

/-- `controlSocket_`: whether `operations_` has elements, the request that its last operation
waits for and the one that belongs to the connection. -/
structure ControlSocketState where
  operations : Bool := false
  operationRequest : Option AsyncRequest := none
  globalRequest : Option Nat := none
  http : Bool := false

/-- The events sent to the engine. A command event and a cancel event carry nothing; the place of
the command they were sent for is kept to speak about them. -/
inductive QueuedEvent
  | command (serial : Nat)
  | cancel (serial : Nat)
  | asyncReply (number : Nat)

namespace QueuedEvent

def owner : QueuedEvent → Option Nat
  | command serial | cancel serial => some serial
  | asyncReply _ => none

def starts : QueuedEvent → Option Nat
  | command serial => some serial
  | cancel _ | asyncReply _ => none

end QueuedEvent

/-- `COperationNotification`, with the place of the command it answers -/
structure OperationNotification where
  serial : Nat
  replyCode : Reply
  commandId : CommandId
  deriving DecidableEq

/-- The records kept beside the state of the source: the commands accepted so far, those started
on the control socket by a command event, and for each event handled the command it was sent for
with the command it acted on. -/
structure EnginePrivate where
  controlSocket : Option ControlSocketState := none
  currentCommand : Option CurrentCommand := none
  retryTimer : Option Nat := none
  retryCount : Nat := 0
  asyncRequestCounter : Nat := 0
  events : List QueuedEvent := []
  notifications : List OperationNotification := []
  received : Nat := 0
  accepted : List Command := []
  started : List Nat := []
  actions : List (Nat × Nat) := []

/-- What a control socket does in one handler: the codes it calls `ResetOperation` of the engine
with, each time after its operations are gone, and whether it makes a request then, which may
belong to the connection. -/
structure SocketActivity where
  codes : List Reply := []
  request : Option Bool := none

inductive ListResult
  | cached
  | wrongType
  | proceed

/-- What a handler depends on besides the engine: how the directory cache answers, whether there
is a reconnect delay, what closing a control socket calls, and what the control socket does when
told to go on. -/
structure HandlerInput where
  listed : ListResult := .proceed
  delayed : Bool := false
  closing : List Reply := []
  activity : SocketActivity := {}

namespace EnginePrivate

variable (reconnectCount : Nat) (self : EnginePrivate)

def answer (serial : Nat) (code : Reply) (commandId : CommandId) :
    EnginePrivate :=
  { self with
    currentCommand := none
    notifications := self.notifications ++
      [{ serial := serial, replyCode := code, commandId := commandId }] }

def resetOperation (code : Reply) : Reply × EnginePrivate :=
  match self.currentCommand with
  | none => (code, self)
  | some current =>
    if current.command.id = .connect then
      if self.retryTimer.isSome then (.wouldBlock, self)
      else if code.connectionLost && !code.critical then
        let counted := { self with retryCount := self.retryCount + 1 }
        if counted.retryCount < reconnectCount && current.command.retryConnecting then
          (.wouldBlock, { counted with retryTimer := some current.serial })
        else (code, counted.answer current.serial code current.command.id)
      else (code, self.answer current.serial code current.command.id)
    else (code, self.answer current.serial code current.command.id)

def resetOperations (codes : List Reply) : EnginePrivate :=
  codes.foldl (fun engine code => (engine.resetOperation reconnectCount code).2) self

def dropOperations : EnginePrivate :=
  { self with
    controlSocket := self.controlSocket.map fun socket =>
      { socket with operations := false, operationRequest := none } }

def sendAsyncRequest (isGlobal : Bool) : EnginePrivate :=
  match self.controlSocket with
  | none => self
  | some socket =>
    if isGlobal then
      { self with
        asyncRequestCounter := self.asyncRequestCounter + 1
        controlSocket := some { socket with globalRequest := some (self.asyncRequestCounter + 1) } }
    else if socket.operations then
      { self with
        asyncRequestCounter := self.asyncRequestCounter + 1
        controlSocket := some { socket with
          operationRequest := some
            { number := self.asyncRequestCounter + 1
              serial := self.currentCommand.map CurrentCommand.serial } } }
    else self

def socketActivity (activity : SocketActivity) : EnginePrivate :=
  let settled := match activity.codes with
    | [] => self
    | codes => self.dropOperations.resetOperations reconnectCount codes
  match activity.request with
  | none => settled
  | some isGlobal => settled.sendAsyncRequest isGlobal

def resetControlSocket (closing : List Reply) : EnginePrivate :=
  { self with controlSocket := none }.resetOperations reconnectCount closing

def checkCommandPreconditions (command : Command) (checkBusy : Bool) :
    Reply :=
  if checkBusy && self.currentCommand.isSome then .busy
  else if command.id ≠ .connect && command.id ≠ .disconnect && self.controlSocket.isNone then
    .notConnected
  else if command.id = .connect && self.controlSocket.isSome then .alreadyConnected
  else .ok

variable (input : HandlerInput)

def continueConnect : Reply × EnginePrivate :=
  match self.currentCommand with
  | none => self.resetOperation reconnectCount .internalError
  | some current =>
    if current.command.id ≠ .connect then self.resetOperation reconnectCount .internalError
    else if input.delayed then
      (.wouldBlock, { self with retryTimer := some current.serial })
    else if current.command.supported then
      (.continued,
        { self with
          controlSocket := some { operations := true, http := current.command.http } })
    else (.syntaxError ||| .disconnected, self)

def connect : Reply × EnginePrivate :=
  if self.controlSocket.isSome then (.alreadyConnected, self)
  else { self with retryCount := 0 }.continueConnect reconnectCount input

def disconnect : Reply × EnginePrivate :=
  if self.controlSocket.isSome then (.ok, self.resetControlSocket reconnectCount input.closing)
  else (.ok, self)

def push : Reply × EnginePrivate :=
  (.continued,
    { self with
      controlSocket := self.controlSocket.map fun socket => { socket with operations := true } })

def list : Reply × EnginePrivate :=
  match input.listed with
  | .cached => (.ok, self)
  | .wrongType => (.syntaxError, self)
  | .proceed => self.push

/-- The switch of `OnCommandEvent` -/
def start (command : Command) (input : HandlerInput) :
    Reply × EnginePrivate :=
  match command.id with
  | .connect => self.connect reconnectCount input
  | .disconnect => self.disconnect reconnectCount input
  | .list => self.list input
  | .transfer | .raw | .del | .removedir | .mkdir | .rename | .chmod => self.push
  | .httprequest =>
    if self.controlSocket.any ControlSocketState.http then self.push
    else (.notSupported, self)

def finishStart (result : Reply) (input : HandlerInput) : EnginePrivate :=
  if result = .continued then
    if self.controlSocket.isSome then self.socketActivity reconnectCount input.activity
    else (self.resetOperation reconnectCount .internalError).2
  else if result ≠ .wouldBlock then (self.resetOperation reconnectCount result).2
  else self

def act (serial : Nat) (current : CurrentCommand) : EnginePrivate :=
  { self with actions := self.actions ++ [(serial, current.serial)] }

def markStarted (current : CurrentCommand) : EnginePrivate :=
  { self with started := self.started ++ [current.serial] }

def onCommandEvent (serial : Nat) (input : HandlerInput) :
    EnginePrivate :=
  match self.currentCommand with
  | none => self
  | some current =>
    let acting := self.act serial current
    let result := acting.checkCommandPreconditions current.command false
    let taken :=
      if result = .ok then
        (acting.markStarted current).start reconnectCount current.command input
      else (result, acting)
    let code :=
      if current.command.id = .disconnect && taken.1 &&& .disconnected ≠ 0 then .ok
      else taken.1
    taken.2.finishStart reconnectCount code input

def doCancel (serial : Nat) (input : HandlerInput) : EnginePrivate :=
  match self.currentCommand with
  | none => self
  | some current =>
    let acting := self.act serial current
    if acting.retryTimer.isSome then
      { acting.resetControlSocket reconnectCount input.closing with retryTimer := none }.answer
        current.serial (Reply.disconnected ||| Reply.canceled) .connect
    else
      match acting.controlSocket with
      | none => (acting.resetOperation reconnectCount .canceled).2
      | some socket =>
        if socket.operations then acting.socketActivity reconnectCount input.activity
        else acting

def onTimer : EnginePrivate :=
  match self.retryTimer with
  | none => self
  | some serial =>
    match self.currentCommand with
    | none => { self with retryTimer := none }
    | some current =>
      if current.command.id ≠ .connect then { self with retryTimer := none }
      else
        let acting := (self.act serial current).resetControlSocket reconnectCount input.closing
        let taken := { acting with retryTimer := none }.continueConnect reconnectCount input
        taken.2.finishStart reconnectCount taken.1 input

def onSetAsyncRequestReplyEvent (number : Nat) (input : HandlerInput) :
    EnginePrivate :=
  match self.controlSocket with
  | none => self
  | some socket =>
    if socket.globalRequest = some number then
      { self with controlSocket := some { socket with globalRequest := none } }.socketActivity
        reconnectCount input.activity
    else
      match socket.operationRequest with
      | none => self
      | some request =>
        if request.number ≠ number then self
        else
          let acting := match request.serial, self.currentCommand with
            | some serial, some current => self.act serial current
            | _, _ => self
          { acting with
            controlSocket := some { socket with operationRequest := none } }.socketActivity
            reconnectCount input.activity

def handle : QueuedEvent → EnginePrivate
  | .command serial => self.onCommandEvent reconnectCount serial input
  | .cancel serial => self.doCancel reconnectCount serial input
  | .asyncReply number => self.onSetAsyncRequestReplyEvent reconnectCount number input

def execute (command : Command) : Reply × EnginePrivate :=
  if !command.valid then (.syntaxError, self)
  else
    let result := self.checkCommandPreconditions command true
    if result ≠ .ok then (result, self)
    else
      (.wouldBlock,
        { self with
          currentCommand := some { serial := self.accepted.length, command := command }
          accepted := self.accepted ++ [command]
          events := self.events ++ [.command self.accepted.length] })

def cancel : Reply × EnginePrivate :=
  match self.currentCommand with
  | none => (.ok, self)
  | some current =>
    (.wouldBlock, { self with events := self.events ++ [.cancel current.serial] })

/-- What can happen: calls of the client, which receives notifications and executes a command once
it has received the answer to the one before, the next queued event, the retry timer, and events
of the control socket. -/
inductive Event
  | execute (command : Command)
  | cancel
  | receive
  | reply (number : Nat)
  | handle (input : HandlerInput)
  | timer (input : HandlerInput)
  | socketEvent (activity : SocketActivity)

def step : Event → Option EnginePrivate
  | .execute command =>
    if self.received = self.accepted.length then some (self.execute command).2 else none
  | .cancel => some self.cancel.2
  | .receive =>
    if self.received < self.notifications.length then
      some { self with received := self.received + 1 }
    else none
  | .reply number => some { self with events := self.events ++ [.asyncReply number] }
  | .handle input =>
    match self.events with
    | [] => none
    | event :: rest => some ({ self with events := rest }.handle reconnectCount input event)
  | .timer input =>
    if self.retryTimer.isSome then some (self.onTimer reconnectCount input) else none
  | .socketEvent activity =>
    if self.controlSocket.isSome then some (self.socketActivity reconnectCount activity)
    else none

end EnginePrivate

end FileZilla
