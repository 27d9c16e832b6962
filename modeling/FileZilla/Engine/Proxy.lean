import FileZilla.Runs
import FileZilla.Text

namespace FileZilla

inductive ProxyType
  | http
  | socks5
  | socks4
  deriving DecidableEq

inductive HandshakeState
  | httpWait
  | socks5Method
  | socks5Auth
  | socks5Request
  | socks4Handshake
  deriving DecidableEq

inductive AddressType
  | unknown
  | ipv4
  | ipv6
  deriving DecidableEq

/-- What the proxy has been set up with and where `connect` shall lead to, together with the
functions of the library that take part. -/
structure ProxySettings where
  type : ProxyType
  user : List UInt8 := []
  pass : List UInt8 := []
  host : List UInt8
  port : Nat
  addressType : List UInt8 → AddressType
  ipv6LongForm : List UInt8 → List UInt8
  base64Encode : List UInt8 → List UInt8
  toWide : List UInt8 → WString

/-- `hex_char_to_int`, where 255 stands for -1. -/
def hexCharToInt (char : UInt8) : UInt8 :=
  if 97 ≤ char ∧ char ≤ 102 then char - 97 + 10
  else if 65 ≤ char ∧ char ≤ 70 then char - 65 + 10
  else if 48 ≤ char ∧ char ≤ 57 then char - 48
  else 255

def ipv4Bytes (address : List UInt8) : List UInt8 :=
  let digit (parsed : Nat × List UInt8) (char : UInt8) : Nat × List UInt8 :=
    if 4 ≤ parsed.1 then parsed
    else if char = 46 then (parsed.1 + 1, parsed.2)
    else (parsed.1, parsed.2.modify parsed.1 fun byte => byte * 10 + (char - 48))
  ((address.takeWhile (· != 0)).foldl digit (0, [0, 0, 0, 0])).2

def ipv6Bytes (longForm : List UInt8) : List UInt8 :=
  (List.range 16).map fun i =>
    hexCharToInt (longForm.getD (i * 2 + i / 2) 0) * 16 +
      hexCharToInt (longForm.getD (i * 2 + 1 + i / 2) 0)

namespace ProxySettings

variable (self : ProxySettings)

def portBytes : List UInt8 :=
  [UInt8.ofNat (self.port / 256 % 256), UInt8.ofNat (self.port % 256)]

def message : HandshakeState → List UInt8
  | .httpWait =>
    let target := self.host ++ asciiBytes ":" ++ asciiBytes (toString self.port)
    let auth :=
      if self.user = [] then []
      else asciiBytes "Proxy-Authorization: Basic " ++
        self.base64Encode (self.user ++ asciiBytes ":" ++ self.pass) ++ asciiBytes "\r\n"
    asciiBytes "CONNECT " ++ target ++ asciiBytes " HTTP/1.1\r\nHost: " ++ target ++
      asciiBytes "\r\n" ++ auth ++ asciiBytes "User-Agent: FileZilla/\r\n\r\n"
  | .socks4Handshake => [4, 1] ++ self.portBytes ++ ipv4Bytes self.host ++ [0]
  | .socks5Method => if self.user = [] then [5, 1, 0] else [5, 2, 0, 2]
  | .socks5Auth =>
    let user := self.user.take 255
    let pass := self.pass.take 255
    [1, UInt8.ofNat user.length] ++ user ++ [UInt8.ofNat pass.length] ++ pass
  | .socks5Request =>
    let address := match self.addressType self.host with
      | .ipv6 => 4 :: ipv6Bytes (self.ipv6LongForm self.host)
      | .ipv4 => 1 :: ipv4Bytes self.host
      | .unknown => [3, UInt8.ofNat (self.host.take 255).length] ++ self.host.take 255
    [5, 1, 0] ++ address ++ self.portBytes

def initialState : HandshakeState :=
  match self.type with
  | .http => .httpWait
  | .socks4 => .socks4Handshake
  | .socks5 => .socks5Method

def accepted : Bool :=
  decide (self.host ≠ [] ∧ 1 ≤ self.port ∧ self.port ≤ 65535) &&
  match self.type with
  | .http => true
  | .socks4 => self.addressType self.host = .ipv4
  | .socks5 => self.user.length ≤ 255 ∧ self.pass.length ≤ 255

end ProxySettings

inductive ProxyError
  | connectionAborted
  | connectionReset
  | noMemory
  | layer (error : Nat)
  deriving DecidableEq

/-- What the bytes received so far tell in a state of the handshake: nothing yet, that it fails,
or that a message of the given length leads on. -/
inductive ProxyReply
  | more
  | fails (error : ProxyError)
  | next (state : HandshakeState) (length : Nat)
  | connects (length : Nat)
  deriving DecidableEq

def headerEnd : List UInt8 → Option Nat
  | [] => none
  | char :: rest =>
    if [13, 10, 13, 10].isPrefixOf (char :: rest) then some 0
    else (headerEnd rest).map (· + 1)

namespace ProxyReply

variable (buffer : List UInt8)

def statusLine : List UInt8 :=
  buffer.takeWhile fun char => char != 13 && char != 0

def parseHttp (settings : ProxySettings) (buffer : List UInt8) : ProxyReply :=
  match headerEnd buffer with
  | none => if 2048 ≤ buffer.length then .fails .noMemory else .more
  | some i =>
    let reply := settings.toWide (statusLine buffer)
    if reply.take 10 ≠ wide "HTTP/1.1 2" ∧ reply.take 10 ≠ wide "HTTP/1.0 2" then
      .fails .connectionReset
    else .connects (i + 4)

def parseSocks4 : ProxyReply :=
  if buffer.length < 8 then .more
  else if buffer.getD 1 0 ≠ 0x5A then .fails .connectionAborted
  else .connects 8

def parseMethod : ProxyReply :=
  if buffer.length < 2 then .more
  else if buffer.getD 1 0 = 0 then .next .socks5Request 2
  else if buffer.getD 1 0 = 2 then .next .socks5Auth 2
  else .fails .connectionAborted

def parseAuth : ProxyReply :=
  if buffer.length < 2 then .more
  else if buffer.getD 1 0 ≠ 0 then .fails .connectionAborted
  else .next .socks5Request 2

def parseRequest : ProxyReply :=
  if buffer.length < 2 then .more
  else if buffer.getD 1 0 ≠ 0 then .fails .connectionAborted
  else if buffer.length < 4 then .more
  else if buffer.getD 3 0 = 1 then
    if buffer.length < 10 then .more else .connects 10
  else if buffer.getD 3 0 = 3 then
    if buffer.length < 5 then .more
    else if buffer.length < (buffer.getD 4 0).toNat + 7 then .more
    else .connects ((buffer.getD 4 0).toNat + 7)
  else if buffer.getD 3 0 = 4 then
    if buffer.length < 22 then .more else .connects 22
  else .fails .connectionAborted

/-- What `OnReceive` makes of its buffer, which is never empty there. -/
def parse (settings : ProxySettings) (state : HandshakeState) (buffer : List UInt8) :
    ProxyReply :=
  match buffer with
  | [] => .more
  | version :: _ =>
    match state with
    | .httpWait => parseHttp settings buffer
    | .socks4Handshake => parseSocks4 buffer
    | .socks5Method =>
      if version ≠ 5 then .fails .connectionAborted else parseMethod buffer
    | .socks5Auth => if version ≠ 1 then .fails .connectionAborted else parseAuth buffer
    | .socks5Request =>
      if version ≠ 5 then .fails .connectionAborted else parseRequest buffer

end ProxyReply

inductive ProxyState
  | connecting
  | connected
  | failed
  deriving DecidableEq

inductive ProxyCall
  | onReceive
  | onSend
  deriving DecidableEq

/-- The fields of `SimpleProxy`, the calls that are in progress with the innermost first, and the
connection events that have been sent, with their errors. -/
structure SimpleProxy where
  state : ProxyState := .connecting
  handshakeState : HandshakeState
  sendBuffer : List UInt8
  receiveBuffer : List UInt8 := []
  canRead : Bool := false
  canWrite : Bool := false
  calls : List ProxyCall := []
  notified : List (Option ProxyError) := []
  deriving DecidableEq

inductive ReadAnswer
  | bytes (bytes : List UInt8)
  | again
  | error (error : Nat)

inductive WriteAnswer
  | written (count : Nat)
  | again
  | error (error : Nat)

inductive SocketFlag
  | connection
  | read
  | write

open ProxyReply

namespace SimpleProxy

variable (settings : ProxySettings)

/-- `connect`, where the next layer gets connected. -/
def connect : Option SimpleProxy :=
  if settings.accepted then
    some
      { handshakeState := settings.initialState
        sendBuffer := settings.message settings.initialState }
  else none

def fail (error : ProxyError) (self : SimpleProxy) : SimpleProxy :=
  { self with state := .failed, notified := self.notified ++ [some error] }

/-- A function returns to its callers: `OnSend` returns, too, and the loop of `OnReceive` goes on
as long as there may be something to read. -/
def leave (self : SimpleProxy) : List ProxyCall → SimpleProxy
  | [] => { self with calls := [] }
  | .onSend :: calls => self.leave calls
  | .onReceive :: calls =>
    if self.canRead then { self with calls := .onReceive :: calls } else self.leave calls

/-- `OnReceive` up to its first read -/
def onReceive (calls : List ProxyCall) (self : SimpleProxy) : SimpleProxy :=
  let self := { self with canRead := true }
  if self.state ≠ .connecting then self.leave calls
  else { self with calls := .onReceive :: calls }

/-- `OnSend` up to its first write -/
def onSend (calls : List ProxyCall) (self : SimpleProxy) : SimpleProxy :=
  let self := { self with canWrite := true }
  if self.state ≠ .connecting ∨ self.sendBuffer = [] then self.leave calls
  else { self with calls := .onSend :: calls }

def socks5 (self : SimpleProxy) : Bool :=
  self.handshakeState = .socks5Method ∨ self.handshakeState = .socks5Auth ∨
    self.handshakeState = .socks5Request

/-- The part of the loop of `OnReceive` after bytes have been read -/
def received (bytes : List UInt8) (calls : List ProxyCall)
    (self : SimpleProxy) : SimpleProxy :=
  let self := { self with receiveBuffer := self.receiveBuffer ++ bytes }
  if self.socks5 ∧ self.sendBuffer ≠ [] then (self.fail .connectionAborted).leave calls
  else
    match parse settings self.handshakeState self.receiveBuffer with
    | .more => { self with calls := .onReceive :: calls }
    | .fails error => (self.fail error).leave calls
    | .connects length =>
      let self :=
        { self with
          state := .connected
          notified := self.notified ++ [none]
          receiveBuffer := self.receiveBuffer.drop length }
      self.leave calls
    | .next state length =>
      let self :=
        { self with
          handshakeState := state
          receiveBuffer := self.receiveBuffer.drop length
          sendBuffer := self.sendBuffer ++ settings.message state }
      if self.canWrite then self.onSend (.onReceive :: calls)
      else { self with calls := .onReceive :: calls }

/-- What the next layer has read for `OnReceive` -/
def answerRead (answer : ReadAnswer) (calls : List ProxyCall)
    (self : SimpleProxy) : SimpleProxy :=
  match answer with
  | .again => { self with canRead := false }.leave calls
  | .error error => (self.fail (.layer error)).leave calls
  | .bytes [] => (self.fail .connectionAborted).leave calls
  | .bytes bytes => self.received settings bytes calls

/-- What the next layer has written for `OnSend` -/
def answerWrite (answer : WriteAnswer) (calls : List ProxyCall) (self : SimpleProxy) :
    SimpleProxy :=
  match answer with
  | .again => { self with canWrite := false }.leave calls
  | .error error => (self.fail (.layer error)).leave calls
  | .written count =>
    let self := { self with sendBuffer := self.sendBuffer.drop count }
    if self.sendBuffer = [] then
      if self.canRead then self.onReceive (.onSend :: calls) else self.leave calls
    else { self with calls := .onSend :: calls }

def onSocketEvent (flag : SocketFlag) (error : Option Nat) (self : SimpleProxy) : SimpleProxy :=
  if self.state ≠ .connecting then self
  else
    match error with
    | some error => self.fail (.layer error)
    | none =>
      match flag with
      | .connection | .write => self.onSend []
      | .read => self.onReceive []

end SimpleProxy

theorem ProxyReply.parse_next {settings : ProxySettings} {state later : HandshakeState}
    {buffer : List UInt8} {length : Nat}
    (goesOn : parse settings state buffer = .next later length) :
    length = 2 ∧ 2 ≤ buffer.length ∧
      (state = .socks5Method ∧ later = .socks5Auth ∨
        (state = .socks5Method ∨ state = .socks5Auth) ∧ later = .socks5Request) := by
  unfold parse at goesOn
  split at goesOn
  case h_1 => cases goesOn
  case h_2 version rest =>
    split at goesOn
    case h_1 =>
      unfold parseHttp at goesOn
      dsimp only at goesOn
      split at goesOn
      · split at goesOn <;> cases goesOn
      · split at goesOn <;> cases goesOn
    case h_2 =>
      unfold parseSocks4 at goesOn
      split at goesOn
      · cases goesOn
      · split at goesOn <;> cases goesOn
    case h_3 =>
      split at goesOn
      · cases goesOn
      · unfold parseMethod at goesOn
        split at goesOn
        · cases goesOn
        case isFalse.isFalse long =>
          split at goesOn
          · cases goesOn
            exact ⟨rfl, Nat.not_lt.mp long, .inr ⟨.inl rfl, rfl⟩⟩
          · split at goesOn
            · cases goesOn
              exact ⟨rfl, Nat.not_lt.mp long, .inl ⟨rfl, rfl⟩⟩
            · cases goesOn
    case h_4 =>
      split at goesOn
      · cases goesOn
      · unfold parseAuth at goesOn
        split at goesOn
        · cases goesOn
        case isFalse.isFalse long =>
          split at goesOn
          · cases goesOn
          · cases goesOn
            exact ⟨rfl, Nat.not_lt.mp long, .inr ⟨.inr rfl, rfl⟩⟩
    case h_5 =>
      split at goesOn
      · cases goesOn
      · unfold parseRequest at goesOn
        repeat' split at goesOn
        all_goals cases goesOn

def HandshakeState.remaining : HandshakeState → Nat
  | socks5Method => 2
  | socks5Auth => 1
  | _ => 0

theorem ProxyReply.remaining_lt {settings : ProxySettings} {state later : HandshakeState}
    {buffer : List UInt8} {length : Nat}
    (goesOn : parse settings state buffer = .next later length) :
    later.remaining < state.remaining := by
  obtain ⟨_, _, ⟨rfl, rfl⟩ | ⟨rfl | rfl, rfl⟩⟩ := parse_next goesOn <;> decide

inductive HandshakeOutcome
  | waiting
  | failed
  | connected (payload : List UInt8)
  deriving DecidableEq

/-- What the client sends, and what becomes of the handshake, when all bytes of the proxy are
there at once. -/
def handshakeReference (settings : ProxySettings) (state : HandshakeState)
    (stream : List UInt8) : List UInt8 × HandshakeOutcome :=
  match _reply : parse settings state stream with
  | .more => (settings.message state, .waiting)
  | .fails _ => (settings.message state, .failed)
  | .connects length => (settings.message state, .connected (stream.drop length))
  | .next later length =>
    let (sent, outcome) := handshakeReference settings later (stream.drop length)
    (settings.message state ++ sent, outcome)
termination_by state.remaining
decreasing_by exact remaining_lt _reply

/-- How many bytes the proxy may have sent after it has received so many: it sends each of its
messages only after it has received the client's message before it completely. -/
def releasable (settings : ProxySettings) (state : HandshakeState) (stream : List UInt8)
    (received : Nat) : Nat :=
  if received < (settings.message state).length then 0
  else
    match _reply : parse settings state stream with
    | .next later length =>
      length + releasable settings later (stream.drop length)
        (received - (settings.message state).length)
    | _ => stream.length
termination_by state.remaining
decreasing_by exact remaining_lt _reply

/-- The client with what the next layer holds for it, what the proxy has yet to send, the bytes
that have been written to the layer, and those that were read after the handshake. -/
structure ProxyConnection where
  proxy : SimpleProxy
  unread : List UInt8 := []
  unsent : List UInt8
  sent : List UInt8 := []
  taken : List UInt8 := []

/-- A socket event, the answer of the next layer to a call, bytes that the proxy sends, and a
read after the handshake. -/
inductive ProxyEvent
  | socketEvent (flag : SocketFlag)
  | reads (count : Nat)
  | readAgain
  | writes (count : Nat)
  | writeAgain
  | sends (count : Nat)
  | takes (count : Nat)

namespace ProxyConnection

def delivered (stream : List UInt8) (self : ProxyConnection) : Nat :=
  stream.length - self.unsent.length

def step (settings : ProxySettings) (stream : List UInt8) (self : ProxyConnection)
    (event : ProxyEvent) : Option ProxyConnection :=
  match event with
  | .socketEvent flag =>
    if self.proxy.calls = [] then
      some { self with proxy := self.proxy.onSocketEvent flag none }
    else none
  | .reads count =>
    match self.proxy.calls with
    | .onReceive :: calls =>
      if 0 < count ∧ count ≤ 1024 ∧ count ≤ self.unread.length then
        some { self with
          proxy := self.proxy.answerRead settings (.bytes (self.unread.take count)) calls
          unread := self.unread.drop count }
      else none
    | _ => none
  | .readAgain =>
    match self.proxy.calls with
    | .onReceive :: calls =>
      some { self with proxy := self.proxy.answerRead settings .again calls }
    | _ => none
  | .writes count =>
    match self.proxy.calls with
    | .onSend :: calls =>
      if 0 < count ∧ count ≤ self.proxy.sendBuffer.length then
        some { self with
          proxy := self.proxy.answerWrite (.written count) calls
          sent := self.sent ++ self.proxy.sendBuffer.take count }
      else none
    | _ => none
  | .writeAgain =>
    match self.proxy.calls with
    | .onSend :: calls => some { self with proxy := self.proxy.answerWrite .again calls }
    | _ => none
  | .sends count =>
    if count ≤ self.unsent.length ∧ self.delivered stream + count ≤
        releasable settings settings.initialState stream self.sent.length then
      some { self with
        unread := self.unread ++ self.unsent.take count
        unsent := self.unsent.drop count }
    else none
  | .takes count =>
    -- `read`
    if self.proxy.calls = [] ∧ self.proxy.state = .connected then
      if self.proxy.receiveBuffer ≠ [] then
        some { self with
          proxy :=
            { self.proxy with receiveBuffer := self.proxy.receiveBuffer.drop count }
          taken := self.taken ++ self.proxy.receiveBuffer.take count }
      else
        some { self with
          unread := self.unread.drop count
          taken := self.taken ++ self.unread.take count }
    else none

end ProxyConnection

end FileZilla
