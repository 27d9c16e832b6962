import FileZilla.Engine.Ftp.Logon

namespace FileZilla

namespace Ftp

/-- A command that was passed to `SendCommand`, whether there was a TLS layer, and whether the
user had allowed the insecure connection. -/
structure Handed where
  command : FtpCommand
  tls : Bool
  consented : Bool

/-- What the control socket and the operation keep. The fields from `consented` on only record
what happened: the replies that were given to the operation, and the commands. -/
structure LogonSocket where
  logon : Option LogonData
  pendingRequest : Option RequestKind := none
  session : LogonSession := {}
  pendingReplies : Nat := 0
  repliesToSkip : Nat := 0
  consented : Bool := false
  given : List WString := []
  handed : List Handed := []

namespace LogonSocket

variable (environment : LogonEnvironment) (self : LogonSocket)

/-- `ResetOperation` of the operation, which keeps the connection. -/
def resetOperation : LogonSocket :=
  { self with logon := none, pendingRequest := none, repliesToSkip := self.pendingReplies }

/-- `SendCommand`; the operation fails where the command cannot be converted. -/
def sendCommand (command : FtpCommand) (self : LogonSocket) : LogonSocket :=
  let record : Handed := { command, tls := self.session.tls.isSome, consented := self.consented }
  let self := { self with handed := self.handed ++ [record] }
  if environment.convToServer command.text = [] then self.resetOperation
  else { self with pendingReplies := self.pendingReplies + 1 }

/-- The loop of `SendNextCommand`, with the number of turns that it may take; none if the
connection gets closed. -/
def sendTurns : Nat → LogonSocket → Option LogonSocket
  | 0, self => some self
  | turns + 1, self =>
    match self.logon with
    | none => some self
    | some data =>
      if self.pendingRequest.isSome ∨ self.repliesToSkip ≠ 0 then some self
      else
        let (sending, data) := data.send environment self.session
        let self := { self with logon := some data }
        match sending with
        | .doConnect =>
          -- CreateSocket resets the socket
          if environment.connects then
            some { self with
              session := { self.session with tls := none, protectDataChannel := false }
              pendingReplies := 0
              repliesToSkip := 0 }
          else none
        | .command command => some (self.sendCommand environment command)
        | .request kind => some { self with pendingRequest := some kind }
        | .result .proceed => self.sendTurns turns
        | .result .wouldBlock => some self
        | .result .disconnected => none
        | .result .ok | .result .error => some self.resetOperation

/-- `SendNextCommand`; there is no need for a third turn. -/
def sendNextCommand : Option LogonSocket :=
  self.sendTurns environment 2

def parseLine (line : WString) (self : LogonSocket) : Option LogonSocket :=
  match self.logon with
  | none => some self
  | some data =>
    (data.parseLine line self.session).map fun (data, session) =>
      { self with logon := some data, session }

def parseResponse (reply : Reply) (self : LogonSocket) : Option LogonSocket :=
  let final : Nat := if reply.response.head? = some '1'.toNat then 0 else 1
  if final = 1 ∧ self.pendingReplies = 0 then some self
  else
    let self := { self with pendingReplies := self.pendingReplies - final }
    if self.repliesToSkip ≠ 0 then
      let self := { self with repliesToSkip := self.repliesToSkip - final }
      if self.repliesToSkip = 0 ∧ self.logon.isSome ∧ self.pendingReplies = 0 then
        self.sendNextCommand environment
      else some self
    else
      match self.logon with
      | none => some self
      | some data =>
        let (result, data, session) := data.parseResponse environment reply.response self.session
        let self :=
          { self with
            logon := some data, session, given := self.given ++ [reply.response] }
        match result with
        | .ok => some self.resetOperation
        | .proceed => self.sendNextCommand environment
        | .wouldBlock => some self
        | .error | .disconnected => none

/-- What the control socket does with the lines and the replies that it receives. -/
def handling : ReplyHandling LogonSocket where
  convToLocal := environment.convToLocal
  parseLine := parseLine
  parseResponse := parseResponse environment

/-- `OnConnect`, for the connection and for the TLS layer -/
def onConnect : Option LogonSocket :=
  let protocol := environment.settings.server.protocol
  match self.session.tls with
  | none =>
    if protocol = .ftps then
      if environment.handshakes then
        some { self with session := { self.session with tls := some {} } }
      else none
    else some { self with pendingReplies := 1 }
  | some tls =>
    let tls := { tls with connecting := false }
    let self := { self with session := { self.session with tls := some tls } }
    if protocol = .ftpes ∨ protocol = .ftp then self.sendNextCommand environment
    else some { self with pendingReplies := 1 }

/-- `OnVerifyCert`, when the protocols have been negotiated -/
def onVerifyCert (alpn : WString) (self : LogonSocket) : LogonSocket :=
  match self.session.tls with
  | none => self
  | some tls =>
    { self with
      session := { self.session with tls := some { tls with alpn } }
      pendingRequest := if self.logon.isSome then some .certificate else none }

inductive RequestReply
  | insecureConnection (allow : Bool)
  | interactiveLogin (response : Option WString)
  | otp (code : WString)
  | certificate (trusted : Bool)

def RequestReply.kind : RequestReply → RequestKind
  | insecureConnection _ => .insecureConnection
  | interactiveLogin _ => .interactiveLogin
  | otp _ => .otp
  | certificate _ => .certificate

def setAsyncRequestReply (reply : RequestReply) (self : LogonSocket) : Option LogonSocket :=
  match reply with
  | .insecureConnection allow =>
    if allow then { self with consented := true }.sendNextCommand environment
    else some self.resetOperation
  | .interactiveLogin response =>
    match response with
    | none => some self.resetOperation
    | some pass =>
      { self with session := { self.session with pass } }.sendNextCommand environment
  | .otp code =>
    if code = [] then some self.resetOperation
    else
      { self with
        session := { self.session with otpCode := some code } }.sendNextCommand environment
  | .certificate trusted =>
    if !self.session.tls.any TlsLayer.connecting then some self
    else if !trusted then none
    else
      match self.logon with
      | none => some self
      | some data =>
        let (data, session) := data.tlsHandshakeFinished self.session
        some { self with logon := some data, session }

/-- What happens to the connection: the connection of a layer is there, bytes have been read from
the active layer, the certificate has to be verified, the user replies, the connection is
closed for another reason, or a connection to the same server changes the capabilities. -/
inductive LogonEvent
  | begin
  | connection
  | read (bytes : List UInt8)
  | verifyCert (alpn : WString)
  | requestReply (reply : RequestReply)
  | close
  | capabilities (capabilities : Capabilities)

def act (action : LogonSocket → Option LogonSocket) (self : Receiver LogonSocket) :
    Receiver LogonSocket :=
  match action self.operations with
  | none => self.doClose .byOperation
  | some operations => { self with operations }

/-- The operation has not created the socket yet. -/
def unconnected : Bool :=
  self.logon.any fun data => data.opState = .connect

def readable : Bool :=
  !self.unconnected && !self.session.tls.any TlsLayer.connecting

def step (self : Receiver LogonSocket) (event : LogonEvent) : Option (Receiver LogonSocket) :=
  if self.closed.isSome then none
  else
    match event with
    | .begin =>
      if self.operations.unconnected then some (act (sendNextCommand environment) self)
      else none
    | .connection =>
      if self.operations.unconnected then none else some (act (onConnect environment) self)
    | .read bytes =>
      if self.operations.readable ∧ bytes ≠ [] ∧
          self.receiveBuffer.length + bytes.length ≤ Receiver.maxLength then
        some (self.onRead (handling environment) bytes)
      else none
    | .verifyCert alpn => some (act (fun socket => some (socket.onVerifyCert alpn)) self)
    | .requestReply reply =>
      if self.operations.pendingRequest = some reply.kind then
        some (act (fun socket =>
          { socket with pendingRequest := none }.setAsyncRequestReply environment reply) self)
      else none
    | .close => some (self.doClose .byOperation)
    | .capabilities capabilities =>
      some (act (fun socket =>
        some { socket with session := { socket.session with capabilities } }) self)

def start (session : LogonSession) : Receiver LogonSocket :=
  { operations :=
      { logon := some (LogonData.create environment.settings.server)
        session := { session with tls := none } } }

end LogonSocket

end Ftp

end FileZilla
