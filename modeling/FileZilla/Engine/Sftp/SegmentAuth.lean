import FileZilla.Engine.Aio
import FileZilla.Runs
import FileZilla.Text
import Mathlib.Algebra.Order.Ring.Int

namespace FileZilla.Sftp.SegmentAuth

/-! How an additional connection of a segmented download logs on: `segment_connection`, together
with the SSH client that it uses. -/

structure PublicKey where
  blob : Bytes
  valid : Bool := true
  deriving DecidableEq

structure PrivateKeyInfo where
  publicKey : Option PublicKey
  unlocked : Bool

structure AgentKey where
  publicKey : PublicKey
  /-- Whether `pubkey` returns a key -/
  recognised : Bool := true
  deriving DecidableEq

def AgentKey.info (key : AgentKey) : PrivateKeyInfo where
  publicKey := if key.recognised then some key.publicKey else none
  unlocked := true

structure Settings where
  verifiedHostkey : Bytes
  password : Bytes
  anonymous : Bool
  user : Bytes
  host : Bytes
  keyFiles : List String
  readKeyInfos : String → Option (List PrivateKeyInfo)
  agentKeys : List AgentKey

/-- The keys of the files that can be read, each file only once -/
def Settings.fileKeys (settings : Settings) : List PrivateKeyInfo :=
  settings.keyFiles.eraseDups.flatMap fun name => (settings.readKeyInfos name).getD []

inductive AuthMethod
  | none
  | password
  | publickey
  | keyboardInteractive
  deriving DecidableEq

structure PendingAuth where
  method : AuthMethod
  requestOnly : Bool
  answeredEmpty : Bool := false

inductive Service
  | none
  | userauthRequested
  | userauth
  | connection
  deriving DecidableEq

structure SshClient where
  /-- Whether the decision about the host key is awaited -/
  keying : Bool := false
  initialKex : Bool := true
  previousHostkey : Bytes := []
  service : Service := .none
  pendingAuths : List PendingAuth := []
  signing : Bool := false
  disconnecting : Bool := false
  stopped : Bool := false

inductive Notification
  | hostkeyVerification (key : Option Bytes)
  | authRequested (methods : Bytes) (isContinuation : Bool)
  | authDone
  | publicKeyOkay
  | signatureFailure
  | interactivePrompt (prompts : List Bytes)
  | passwordChangeRequest
  | sftpReady
  | sftpDone
  | sessionDone
  | availableKeys (keys : List AgentKey)
  deriving DecidableEq

/-- What the server sends. A message the client cannot read is a disconnect. -/
inductive ServerMessage
  | dhReply (key : Bytes) (sameAlgorithms : Bool)
  | serviceAccept
  | authFailure (methods : Bytes) (continues : Bool)
  | authSuccess
  | passwordChangeRequest
  | publicKeyOkay
  | infoRequest (name instruction : Bytes) (prompts : List Bytes)
  | disconnect

namespace SshClient

def request (method : AuthMethod) (requestOnly : Bool) (client : SshClient) : SshClient :=
  { client with pendingAuths := client.pendingAuths ++ [{ method, requestOnly }] }

def sendDisconnect (client : SshClient) : SshClient :=
  { client with disconnecting := true, keying := false }

def hostkeyDecision (accept : Bool) (client : SshClient) : SshClient :=
  if !client.keying || client.disconnecting then
    client
  else if !accept then
    client.sendDisconnect
  else if client.initialKex then
    { client with keying := false, initialKex := false, service := .userauthRequested }
  else
    { client with keying := false }

def respond (client : SshClient) : SshClient :=
  match client.pendingAuths with
  | auth :: rest =>
    if auth.method = .keyboardInteractive then
      { client with pendingAuths := { auth with requestOnly := false } :: rest }
    else
      client.sendDisconnect
  | [] => client.sendDisconnect

def processUserauth (message : ServerMessage) (client : SshClient) :
    SshClient × Option Notification :=
  match client.pendingAuths, message with
  | _ :: rest, .authFailure methods continues =>
    if continues && methods.isEmpty then
      ({ client with pendingAuths := rest }.sendDisconnect, none)
    else
      ({ client with pendingAuths := rest }, some (.authRequested methods continues))
  | auth :: rest, .authSuccess =>
    if auth.requestOnly then
      (client.sendDisconnect, none)
    else
      ({ client with pendingAuths := rest, service := .connection }, some .authDone)
  | auth :: rest, .passwordChangeRequest =>
    if auth.method = .password ∧ auth.requestOnly then
      ({ client with pendingAuths := rest }, some .passwordChangeRequest)
    else
      (client.sendDisconnect, none)
  | auth :: rest, .publicKeyOkay =>
    if auth.method = .publickey ∧ auth.requestOnly then
      ({ client with pendingAuths := rest }, some .publicKeyOkay)
    else
      (client.sendDisconnect, none)
  | auth :: rest, .infoRequest name instruction prompts =>
    if auth.method ≠ .keyboardInteractive ∨ 10 < prompts.length then
      (client.sendDisconnect, none)
    else if prompts = [] ∧ name = [] ∧ instruction = [] then
      if auth.answeredEmpty then
        (client.sendDisconnect, none)
      else
        ({ client with
            pendingAuths := { auth with requestOnly := false, answeredEmpty := true } :: rest },
          none)
    else
      (client, some (.interactivePrompt prompts))
  | _, _ => (client.sendDisconnect, none)

def receive (message : ServerMessage) (client : SshClient) : SshClient × Option Notification :=
  match message with
  | .dhReply key sameAlgorithms =>
    if !client.initialKex && sameAlgorithms && client.previousHostkey = key then
      (client, none)
    else
      ({ client with keying := true, previousHostkey := key },
        some (.hostkeyVerification (some key)))
  | .serviceAccept =>
    if client.service = .userauthRequested then
      ({ client with service := .userauth }.request .none false, none)
    else
      (client.sendDisconnect, none)
  | .disconnect => (client.sendDisconnect, none)
  | message =>
    if client.service = .connection then
      (client, none)
    else if client.service = .userauth then
      client.processUserauth message
    else
      (client.sendDisconnect, none)

end SshClient

/-- What the connection has the client do. Only the primary connection ever asks the user. -/
inductive Call
  | acceptHostkey (key : Bytes)
  | offerKey (blob : Bytes)
  | sign (blob : Option Bytes)
  | sendPassword
  | sendResponse
  | askUser
  deriving DecidableEq

inductive Notice
  | ready
  | failed
  | dropped
  | hostkeyMismatch

/-- The back of `keys_` comes first. `handled` counts the events other than host keys. -/
structure SegmentConnection where
  ssh : Option SshClient := none
  sftp : Bool := false
  keys : List PrivateKeyInfo := []
  agent : Bool := false
  agentPending : Bool := false
  usedKeys : List Bytes := []
  connectTimer : Bool := true
  methods : Bytes := []
  keysLoaded : Bool := false
  triedPw : Bool := false
  triedInteractive : Bool := false
  triedKey : Bool := false
  failed : Bool := false
  ready : Bool := false
  agentAsked : Bool := false
  events : List Notification := []
  calls : List Call := []
  handled : Nat := 0
  notice : Option Notice := none

def methodAvailable (methods method : Bytes) : Bool :=
  method ∈ (methods.splitOn (UInt8.ofNat ','.toNat)).filter fun token => token ≠ []

def lowerAscii (byte : UInt8) : UInt8 :=
  if 65 ≤ byte ∧ byte ≤ 90 then byte + 32 else byte

def equalInsensitiveAscii (left right : Bytes) : Bool :=
  left.map lowerAscii = right.map lowerAscii

def rtrim (text chars : Bytes) : Bytes :=
  (text.reverse.dropWhile chars.contains).reverse

def interactivePromptAsksForPassword (settings : Settings) (prompt : Bytes) : Bool :=
  let prompt := rtrim prompt (asciiBytes "\r\n :")
  equalInsensitiveAscii prompt (asciiBytes "password") || equalInsensitiveAscii prompt
      (asciiBytes "password for " ++ settings.user ++ asciiBytes ":" ++ settings.host)

def addKeyInfo (loaded : List PrivateKeyInfo × List Bytes) (info : PrivateKeyInfo) :
    List PrivateKeyInfo × List Bytes :=
  match info.publicKey with
  | none => loaded
  | some key =>
    if key.blob ∈ loaded.2 then loaded else (info :: loaded.1, key.blob :: loaded.2)

def addAgentKey (loaded : List PrivateKeyInfo × List Bytes) (key : AgentKey) :
    List PrivateKeyInfo × List Bytes :=
  if key.publicKey.blob ∈ loaded.2 then loaded
  else (key.info :: loaded.1, key.publicKey.blob :: loaded.2)

namespace SegmentConnection

def call (made : Call) (self : SegmentConnection) : SegmentConnection :=
  { self with calls := self.calls ++ [made] }

def send (event : Notification) (self : SegmentConnection) : SegmentConnection :=
  { self with events := self.events ++ [event] }

def updateSsh (update : SshClient → SshClient) (self : SegmentConnection) : SegmentConnection :=
  { self with ssh := self.ssh.map update }

/-- Without the client and the agent nothing is left in the queue. -/
def teardown (self : SegmentConnection) : SegmentConnection :=
  { self with
    connectTimer := false
    agentPending := false
    agent := false
    agentAsked := false
    sftp := false
    ssh := none
    events := [] }

def fail (self : SegmentConnection) : SegmentConnection :=
  if self.failed then self
  else { self.teardown with failed := true, notice := some .failed }

def offerKey (key : PublicKey) (self : SegmentConnection) : SegmentConnection :=
  let self := self.call (.offerKey key.blob)
  if key.valid then self.updateSsh (·.request .publickey true) else self.send .signatureFailure

variable (settings : Settings)

/-- `load_keys`, with whether the keys have to be waited for -/
def loadKeys (self : SegmentConnection) : Bool × SegmentConnection :=
  if self.keysLoaded then
    (false, self)
  else if self.agent then
    (true, self)
  else
    let loaded := settings.fileKeys.foldl addKeyInfo (self.keys, self.usedKeys)
    (true, { self with
      keys := loaded.1
      usedKeys := loaded.2
      agent := true
      agentPending := true
      agentAsked := true })

def offerBackKey (self : SegmentConnection) :
    List PrivateKeyInfo → Bool × SegmentConnection
  | [] => (false, { self with keys := [] })
  | info :: rest =>
    match info.publicKey with
    | none => self.offerBackKey rest
    | some key =>
      (true, { self with
        keys := info :: rest
        triedKey := true
        usedKeys := key.blob :: self.usedKeys }.offerKey key)

def authWithKey (self : SegmentConnection) : Bool × SegmentConnection :=
  match self.loadKeys settings with
  | (true, self) => (true, self)
  | (false, self) => self.offerBackKey self.keys

def nextOtherAuth (self : SegmentConnection) : SegmentConnection :=
  if methodAvailable self.methods (asciiBytes "password") && !self.triedPw &&
      !settings.password.isEmpty then
    ({ self with triedPw := true }.call .sendPassword).updateSsh (·.request .password false)
  else if !settings.anonymous &&
      methodAvailable self.methods (asciiBytes "keyboard-interactive") &&
      !self.triedInteractive && !settings.password.isEmpty then
    { self with triedInteractive := true }.updateSsh (·.request .keyboardInteractive true)
  else
    self.fail

def nextAuth (self : SegmentConnection) : SegmentConnection :=
  if methodAvailable self.methods (asciiBytes "publickey") && !self.triedKey then
    match self.authWithKey settings with
    | (true, self) => self
    | (false, self) => self.nextOtherAuth settings
  else
    self.nextOtherAuth settings

def popKey (self : SegmentConnection) : SegmentConnection :=
  { self with keys := self.keys.tail, triedKey := false }

def setKeysLoaded (self : SegmentConnection) : SegmentConnection :=
  if self.keysLoaded then self
  else { self with keysLoaded := true, usedKeys := [], keys := self.keys.reverse }

def onHostkeyVerification (key : Option Bytes)
    (self : SegmentConnection) : SegmentConnection :=
  if settings.verifiedHostkey ≠ [] ∧ key = some settings.verifiedHostkey then
    (self.call (.acceptHostkey settings.verifiedHostkey)).updateSsh (·.hostkeyDecision true)
  else
    { self.teardown with failed := true, notice := some .hostkeyMismatch }

def onAuthRequested (methods : Bytes) (isContinuation : Bool)
    (self : SegmentConnection) : SegmentConnection :=
  let self := { self with methods }
  if !isContinuation && self.triedKey && !self.keys.isEmpty then
    self.popKey.nextAuth settings
  else
    self.nextAuth settings

def onAuthPubkeyOk (self : SegmentConnection) : SegmentConnection :=
  match self.keys with
  | [] => self.fail
  | key :: _ =>
    if !key.unlocked then
      self.popKey.nextAuth settings
    else
      (self.call (.sign (key.publicKey.map (·.blob)))).updateSsh
        fun client => { client with signing := true }

def onAuthSignatureFailed (self : SegmentConnection) : SegmentConnection :=
  self.popKey.nextAuth settings

def answersPrompts (prompts : List Bytes) (self : SegmentConnection) :
    Bool :=
  match prompts with
  | [prompt] =>
    self.triedInteractive && !settings.password.isEmpty &&
      interactivePromptAsksForPassword settings prompt
  | _ => false

def onAuthKeyboardInteractivePrompt (prompts : List Bytes)
    (self : SegmentConnection) : SegmentConnection :=
  if self.answersPrompts settings prompts then
    (self.call .sendResponse).updateSsh (·.respond)
  else
    self.fail

def onAuthDone (channelOpens : Bool) (self : SegmentConnection) : SegmentConnection :=
  if channelOpens then { self with sftp := true } else self.fail

def onSftpReady (self : SegmentConnection) : SegmentConnection :=
  { self with connectTimer := false, ready := true, notice := some .ready }

def onDone (self : SegmentConnection) : SegmentConnection :=
  if self.failed then self
  else if self.ready then { self with failed := true, notice := some .dropped }
  else self.fail

def onAgentKeys (keys : List AgentKey) (self : SegmentConnection) :
    SegmentConnection :=
  if !self.agent then
    self
  else
    let loaded := keys.foldl addAgentKey (self.keys, self.usedKeys)
    { self with agentPending := false, keys := loaded.1, usedKeys := loaded.2 }.setKeysLoaded.nextAuth
      settings

def handle (channelOpens : Bool) (self : SegmentConnection) :
    Notification → SegmentConnection
  | .hostkeyVerification key => self.onHostkeyVerification settings key
  | .authRequested methods isContinuation => self.onAuthRequested settings methods isContinuation
  | .authDone => self.onAuthDone channelOpens
  | .publicKeyOkay => self.onAuthPubkeyOk settings
  | .signatureFailure => self.onAuthSignatureFailed settings
  | .interactivePrompt prompts => self.onAuthKeyboardInteractivePrompt settings prompts
  | .passwordChangeRequest => self.fail
  | .sftpReady => self.onSftpReady
  | .sftpDone => self.onDone
  | .sessionDone => self.onDone
  | .availableKeys keys => self.onAgentKeys settings keys

end SegmentConnection

def Notification.cost : Notification → Nat
  | .hostkeyVerification _ => 0
  | _ => 1

inductive Event
  | connection (error : Bool)
  | server (message : ServerMessage)
  | signature (made : Bool)
  | agentAnswer
  | sessionEnds
  | sftpReady
  | sftpDone
  | dispatch (channelOpens : Bool)
  | timeout

namespace SegmentConnection

/-- The signature of the key that was found acceptable is there, or could not be made. -/
def onSignature (made : Bool) (self : SegmentConnection) : SegmentConnection :=
  let self := self.updateSsh fun client => { client with signing := false }
  if made then self.updateSsh (·.request .publickey false) else self.send .signatureFailure

def receive (message : ServerMessage) (client : SshClient) (self : SegmentConnection) :
    SegmentConnection :=
  let received := client.receive message
  { self with ssh := some received.1, events := self.events ++ received.2.toList }

def onEstablishTimeout (self : SegmentConnection) : SegmentConnection :=
  let self := { self with connectTimer := false }
  if self.ready || self.failed then self else self.fail

def step (settings : Settings) (self : SegmentConnection) (event : Event) :
    Option SegmentConnection :=
  let self := { self with notice := none }
  match event with
  | .connection error =>
    if self.ssh.isNone && !self.failed then
      some (if error then self.fail else { self with ssh := some {} })
    else
      none
  | .server message =>
    match self.ssh with
    | none => none
    | some client =>
      if client.keying || client.disconnecting || client.stopped then none
      else some (self.receive message client)
  | .signature made =>
    if self.ssh.any (·.signing) then some (self.onSignature made) else none
  | .agentAnswer =>
    if self.agentAsked then
      some ({ self with agentAsked := false }.send (.availableKeys settings.agentKeys))
    else
      none
  | .sessionEnds =>
    if self.ssh.any (!·.stopped) then
      some ((self.updateSsh fun client => { client with stopped := true }).send .sessionDone)
    else
      none
  | .sftpReady =>
    if self.sftp && !self.ready && .sftpReady ∉ self.events then some (self.send .sftpReady)
    else none
  | .sftpDone => if self.sftp then some (self.send .sftpDone) else none
  | .dispatch channelOpens =>
    match self.events with
    | [] => none
    | event :: events =>
      some ({ self with events, handled := self.handled + event.cost }.handle settings
        channelOpens event)
  | .timeout => if self.connectTimer then some self.onEstablishTimeout else none

end SegmentConnection

end FileZilla.Sftp.SegmentAuth
