import FileZilla.Engine.Ftp.LoginSequence
import FileZilla.Engine.Ftp.Operations
import FileZilla.Engine.Ftp.Replies

namespace FileZilla

namespace Ftp

inductive LogonState
  | connect
  | welcome
  | authTls
  | authSsl
  | authWait
  | security
  | logon
  | syst
  | feat
  | clnt
  | optsUtf8
  | pbsz
  | prot
  | optsMlst
  | customCommands
  | done
  deriving DecidableEq

namespace LogonState

def all : List LogonState :=
  [connect, welcome, authTls, authSsl, authWait, security, logon, syst, feat, clnt, optsUtf8,
    pbsz, prot, optsMlst, customCommands, done]

def following (state : LogonState) : List LogonState :=
  all.drop (state.ctorIdx + 1)

end LogonState

inductive ChallengeMode
  | none
  | mfa
  | always
  deriving DecidableEq

inductive Capability
  | unknown
  | yes
  | no
  deriving DecidableEq

inductive CapabilityName
  | systCommand
  | featCommand
  | clntCommand
  | utf8Command
  | mlsdCommand
  | opstMlstCommand
  | mfmtCommand
  | mdtmCommand
  | sizeCommand
  | modeZSupport
  | tvfsSupport
  | restStream
  | epsvCommand
  | inferredTimezoneOffset
  | authTlsCommand
  | authSslCommand
  deriving DecidableEq

abbrev Capabilities := CapabilityName → Capability × WString

namespace Capabilities

/-- The option is only there for a capability that the server has. -/
def option (self : Capabilities) (name : CapabilityName) (unchanged : WString) : WString :=
  if (self name).1 = .yes then (self name).2 else unchanged

def set (self : Capabilities) (name : CapabilityName) (capability : Capability)
    (option : WString := []) : Capabilities :=
  Function.update self name (capability, option)

end Capabilities

/-- The kinds of `CAsyncRequestNotification` that are sent while logging on -/
inductive RequestKind
  | insecureConnection
  | interactiveLogin
  | otp
  | certificate
  deriving DecidableEq

structure TlsLayer where
  connecting : Bool := true
  alpn : WString := []

/-- What the operation shares with the control socket: the password, the one-time password, the
capabilities, `tls_layer_` and `m_protectDataChannel`. -/
structure LogonSession where
  pass : WString := []
  otpCode : Option WString := none
  capabilities : Capabilities := fun _ => (.unknown, [])
  tls : Option TlsLayer := none
  protectDataChannel : Bool := false

/-- `get_alpn` of a TLS layer tells the protocol of newer FileZilla servers. -/
def LogonSession.filezillaAlpn (self : LogonSession) : Bool :=
  self.tls.any fun tls => tls.alpn = wide "x-filezilla-ftp"

/-- What the source leaves to the environment: the buffer pool, the connection, the TLS layer and
the conversions from and to the charset of the server. -/
structure LogonEnvironment where
  settings : LogonSettings
  bufferPool : Bool := true
  connects : Bool := true
  handshakes : Bool := true
  convToLocal : List UInt8 → WString := fun bytes => bytes.map UInt8.toNat
  convToServer : WString → List UInt8 := fun text => text.map UInt8.ofNat

/-- The return codes; `error` keeps the connection. -/
inductive LogonResult
  | ok
  | wouldBlock
  | proceed
  | error
  | disconnected
  deriving DecidableEq

inductive LogonSending
  | doConnect
  | command (command : FtpCommand)
  | request (kind : RequestKind)
  | result (result : LogonResult)
  deriving DecidableEq

structure LogonData where
  opState : LogonState := .connect
  neededCommands : LogonState → Bool
  loginSequence : List LoginCommand := []
  ftpProxyType : Int := 0
  challenge : WString := []
  challengeMode : ChallengeMode := .none
  gotFirstWelcomeLine : Bool := false
  customCommandIndex : Nat := 0
  otp : Bool := false

namespace LogonData

def clear (self : LogonData) (states : List LogonState) : LogonData :=
  { self with neededCommands := fun state => self.neededCommands state && !states.contains state }

def create (server : CServer) : LogonData :=
  let data : LogonData := { neededCommands := fun _ => true }
  let data :=
    if server.protocol ≠ .ftpes ∧ server.protocol ≠ .ftp then
      let data := data.clear [.authTls, .authSsl, .authWait]
      if server.protocol ≠ .ftps then data.clear [.pbsz, .prot] else data
    else data
  if server.postLoginCommands = [] then data.clear [.customCommands] else data

variable (environment : LogonEnvironment)

def useUtf8 : Bool :=
  environment.settings.server.encodingType = .utf8

def fullPassword (session : LogonSession) : WString :=
  if environment.settings.logonType = .anonymous then wide "anonymous@example.com"
  else
    match session.otpCode with
    | some code => code ++ wide ";" ++ session.pass
    | none => session.pass

/-- The branch LOGON_LOGON of `Send`. There always is a first command. -/
def sendLogin (session : LogonSession) (self : LogonData) : LogonSending × LogonData :=
  match self.loginSequence with
  | [] => (.result .error, self)
  | command :: _ =>
    let custom : FtpCommand := .loginSequence command.command
    match command.type with
    | .user =>
      let self :=
        if environment.settings.logonType = .interactive then
          { self with challengeMode := .always }
        else if session.filezillaAlpn then { self with challengeMode := .mfa }
        else self
      let self := if self.challengeMode ≠ .none then { self with challenge := [] } else self
      (.command (if command.command = [] then .user environment.settings.user else custom),
        self)
    | .pass =>
      if self.otp ∧ session.otpCode = none then (.request .otp, self)
      else if self.challenge ≠ [] then
        (.request .interactiveLogin, { self with challenge := [] })
      else
        let pass := fullPassword environment session
        if command.command = [] then (.command (.pass pass), self)
        else
          let escaped := replaceSubstrings pass (wide "%") (wide "%%")
          let text := replaceSubstrings command.command (wide "%p") escaped
          (.command (.loginSequence (replaceSubstrings text (wide "%%") (wide "%"))), self)
    | .account =>
      (.command (if command.command = [] then .acct environment.settings.account else custom),
        self)
    | .other =>
      if command.command = [] then (.result .error, self) else (.command custom, self)

def send (session : LogonSession) (self : LogonData) : LogonSending × LogonData :=
  match self.opState with
  | .connect =>
    if !environment.bufferPool then (.result .disconnected, self)
    else
      let settings := environment.settings
      let self :=
        if !settings.genericProxy ∧ !settings.server.bypassProxy then
          { self with ftpProxyType := settings.ftpProxyType }
        else self
      match settings.prepareLoginSequence self.ftpProxyType with
      | none => (.result .error, { self with loginSequence := [] })
      | some commands =>
        let self := { self with loginSequence := commands }
        match settings.endpoint self.ftpProxyType with
        | none => (.result .disconnected, self)
        | some _ => (.doConnect, { self with opState := .welcome })
  | .authWait => (.result .wouldBlock, self)
  | .authTls => (.command .authTls, self)
  | .authSsl => (.command .authSsl, self)
  | .security =>
    let self := { self with opState := .logon }
    if session.tls.isSome then (.result .proceed, self)
    else (.request .insecureConnection, self)
  | .syst => (.command .syst, self)
  | .logon => self.sendLogin environment session
  | .feat => (.command .feat, self)
  | .clnt => (.command .clnt, self)
  | .optsUtf8 => (.command .optsUtf8, self)
  | .pbsz => (.command .pbsz, self)
  | .prot => (.command .prot, self)
  | .customCommands =>
    match environment.settings.server.postLoginCommands[self.customCommandIndex]? with
    | none => (.result .disconnected, self)
    | some command => (.command (.postLogin command), self)
  | .optsMlst => (.command (.optsMlst (session.capabilities.option .opstMlstCommand [])), self)
  | .welcome | .done => (.result .error, self)

variable (response : WString)

def replyCode : Nat :=
  match response with
  | [] => 0
  | char :: _ => if char < 48 ∨ 57 < char then 0 else char - 48

def lastIndex (char : WChar) (text : WString) : Option Nat :=
  (text.reverse.idxOf? char).map fun index => text.length - 1 - index

def asksForTotp (challenge : WString) : Bool :=
  match lastIndex '['.toNat challenge, lastIndex ']'.toNat challenge with
  | some first, some last =>
    decide (first < last) &&
      decide (strtok ((challenge.drop (first + 1)).take (last - first - 1)) (wide ",") =
        [wide "alg:totp"])
  | _, _ => false

/-- What the reply to a user name does to the challenge -/
def noteChallenge (session : LogonSession) (self : LogonData) :
    LogonData :=
  if replyCode response = 3 ∧ response.take 3 = wide "336" then
    if session.filezillaAlpn then
      if asksForTotp self.challenge then { self with otp := true, challenge := [] } else self
    else if self.challengeMode ≠ .always then { self with challenge := [] }
    else self
  else if self.challengeMode ≠ .always then { self with challenge := [] }
  else self

def knownFacts : List WString :=
  ["type", "size", "modify", "perm", "unix.mode", "unix.owner", "unix.ownername", "unix.group",
    "unix.groupname", "unix.user", "unix.uid", "unix.gid", "x.hidden"].map wide

/-- A character of `fz::str_tolower_ascii`, which knows the Turkish letters, too. -/
def lowerAscii (char : WChar) : WChar :=
  if 65 ≤ char ∧ char ≤ 90 then char + 32
  else if char = 304 ∨ char = 305 then 'i'.toNat
  else char

def upperAscii (char : WChar) : WChar :=
  if 97 ≤ char ∧ char ≤ 122 then char - 32
  else if char = 304 ∨ char = 305 then 'I'.toNat
  else char

/-- The arguments of OPTS MLST, and whether there is a known fact that is not enabled. What
follows the last semicolon does not count. -/
def optsFacts (facts : WString) : Bool × WString :=
  (((facts.map lowerAscii).splitOn ';'.toNat).dropLast).foldl (fun (hadUnset, optsFacts) part =>
      let enabled : Bool := part.getLast? = some '*'.toNat
      let fact := if enabled then part.dropLast else part
      if fact ∈ knownFacts then (hadUnset || !enabled, optsFacts ++ fact ++ wide ";")
      else (hadUnset, optsFacts))
    (false, [])

/-- The loop at the end of `ParseResponse`, over the states that are still to come. -/
def advance (session : LogonSession) (self : LogonData) :
    List LogonState → LogonResult × LogonData × LogonSession
  | [] => (.error, self, session)
  | state :: later =>
    let self := { self with opState := state }
    if state = .done then (.ok, self, session)
    else if !self.neededCommands state then self.advance session later
    else
      let stop := (LogonResult.proceed, self, session)
      let capability (name : CapabilityName) : Capability := (session.capabilities name).1
      match state with
      | .syst =>
        if capability .systCommand = .unknown then stop
        else if contains (wide "FileZilla") (session.capabilities.option .systCommand []) then
          (self.clear [.clnt, .optsUtf8]).advance session later
        else self.advance session later
      | .feat =>
        if capability .featCommand = .unknown then stop else self.advance session later
      | .clnt =>
        if useUtf8 environment ∧ capability .clntCommand = .yes then stop
        else self.advance session later
      | .optsUtf8 =>
        if useUtf8 environment ∧ capability .utf8Command = .yes then stop
        else self.advance session later
      | .optsMlst =>
        if capability .mlsdCommand ≠ .yes then self.advance session later
        else
          match capability .opstMlstCommand with
          | .yes => stop
          | .no => self.advance session later
          | .unknown =>
            let (hadUnset, facts) := optsFacts (session.capabilities .mlsdCommand).2
            if hadUnset then
              (.proceed, self,
                { session with
                  capabilities := session.capabilities.set .opstMlstCommand .yes facts })
            else
              self.advance
                { session with
                  capabilities := session.capabilities.set .opstMlstCommand .no }
                later
      | _ => stop

/-- The replies that `GetReplyCode` tells to be positive -/
abbrev positive := RawTransfer.positive

/-- The branch LOGON_LOGON of `ParseResponse`; none where it goes on with the next state. -/
def parseLogin (session : LogonSession) (self : LogonData) :
    Option LogonResult × LogonData :=
  match self.loginSequence with
  | [] => (some .error, self)
  | command :: later =>
    let code := replyCode response
    let self := if command.type = .user then self.noteChallenge response session else self
    if !positive code then (some .disconnected, self)
    else
      let left := if code = 2 then later.dropWhile LoginCommand.optional else later
      let self := { self with loginSequence := left }
      if code = 3 ∧ left = [] then (some .disconnected, self)
      else if left ≠ [] then (some .proceed, { self with challengeMode := .none })
      else (none, self)

/-- The branch LOGON_AUTH_TLS and LOGON_AUTH_SSL of `ParseResponse` -/
def parseAuth (code : Nat) (session : LogonSession) (self : LogonData) :
    Option LogonResult × LogonData × LogonSession :=
  let name : CapabilityName :=
    if self.opState = .authTls then .authTlsCommand else .authSslCommand
  if !positive code then
    let session := { session with capabilities := session.capabilities.set name .no }
    if self.opState = .authSsl then
      if environment.settings.server.protocol = .ftp then
        (some .proceed, { self.clear [.pbsz, .prot] with opState := .security }, session)
      else (some .disconnected, self, session)
    else (none, self, session)
  else
    let session :=
      { session with capabilities := session.capabilities.set name .yes, tls := some {} }
    if !environment.handshakes then (some .disconnected, self, session)
    else (some .wouldBlock, { self.clear [.authSsl] with opState := .authWait }, session)

/-- The branch LOGON_FEAT of `ParseResponse` -/
def parseFeatReply (code : Nat) (session : LogonSession) : Option LogonResult × LogonSession :=
  let default (capabilities : Capabilities) (name : CapabilityName) : Capabilities :=
    if (capabilities name).1 = .yes then capabilities else capabilities.set name .no
  let capabilities :=
    if code = 2 then
      default (default (session.capabilities.set .featCommand .yes) .utf8Command) .clntCommand
    else session.capabilities.set .featCommand .no
  let capabilities := default capabilities .tvfsSupport
  (if (capabilities .tvfsSupport).1 = .yes ∧ environment.settings.server.type ≠ .unix then
      some .error
    else none,
    { session with capabilities })

/-- What a reply does in each state; none where the operation goes on with the next state. -/
def parseState (session : LogonSession) (self : LogonData) :
    Option LogonResult × LogonData × LogonSession :=
  let code := replyCode response
  match self.opState with
  | .welcome => (if positive code then none else some .disconnected, self, session)
  | .authTls | .authSsl => self.parseAuth environment code session
  | .logon =>
    let (result, self) := self.parseLogin response session
    (result, self, session)
  | .syst =>
    let capabilities :=
      if code = 2 then session.capabilities.set .systCommand .yes (response.drop 4)
      else session.capabilities.set .systCommand .no
    let self :=
      if contains (wide "FileZilla") response then self.clear [.clnt, .optsUtf8] else self
    (none, self, { session with capabilities })
  | .feat =>
    let (result, session) := parseFeatReply environment code session
    (result, self, session)
  | .prot =>
    (none, self, if positive code then { session with protectDataChannel := true } else session)
  | .customCommands =>
    let self := { self with customCommandIndex := self.customCommandIndex + 1 }
    (if self.customCommandIndex < environment.settings.server.postLoginCommands.length then
        some .proceed
      else none,
      self, session)
  | _ => (none, self, session)

def parseResponse (session : LogonSession) (self : LogonData) :
    LogonResult × LogonData × LogonSession :=
  let (result, self, session) := self.parseState environment response session
  match result with
  | some result => (result, self, session)
  | none => self.advance environment session self.opState.following

def hasFeature (line : WString) (feature : String) : Bool :=
  line == wide feature || (wide feature ++ [32]).isPrefixOf line

def trim (text : WString) : WString :=
  let blank (char : WChar) : Bool := (wide " \r\n\t").contains char
  ((text.dropWhile blank).reverse.dropWhile blank).reverse

def parseFeat (line : WString) (capabilities : Capabilities) : Capabilities :=
  let line := trim line
  let up := line.map upperAscii
  let known := capabilities.option .mlsdCommand []
  -- MLST/MLSD specs require use of UTC
  let listed (facts : WString) : Capabilities :=
    (capabilities.set .mlsdCommand .yes facts).set .inferredTimezoneOffset .no
  if hasFeature up "UTF8" then capabilities.set .utf8Command .yes
  else if hasFeature up "CLNT" then capabilities.set .clntCommand .yes
  else if hasFeature up "MLSD" then listed (if known = [] then line.drop 5 else known)
  else if hasFeature up "MLST" then
    listed (if line.drop 5 = [] then known else line.drop 5)
  else if hasFeature up "MODE Z" then capabilities.set .modeZSupport .yes
  else if hasFeature up "MFMT" then capabilities.set .mfmtCommand .yes
  else if hasFeature up "MDTM" then capabilities.set .mdtmCommand .yes
  else if hasFeature up "SIZE" then capabilities.set .sizeCommand .yes
  else if hasFeature up "TVFS" then capabilities.set .tvfsSupport .yes
  else if hasFeature up "REST STREAM" then capabilities.set .restStream .yes
  else if hasFeature up "EPSV" then capabilities.set .epsvCommand .yes
  else capabilities

/-- The part of `ParseLine` that concerns logging on; none if the connection gets closed. -/
def parseLine (line : WString) (session : LogonSession) (self : LogonData) :
    Option (LogonData × LogonSession) :=
  if self.challengeMode ≠ .none then
    let challenge := if self.challenge = [] then line else self.challenge ++ wide "\n" ++ line
    some ({ self with challenge }, session)
  else if self.opState = .feat then
    some (self, { session with capabilities := parseFeat line session.capabilities })
  else if self.opState = .welcome ∧ !self.gotFirstWelcomeLine then
    if (line.map lowerAscii).take 3 = wide "ssh" then none
    else some ({ self with gotFirstWelcomeLine := true }, session)
  else some (self, session)

def tlsHandshakeFinished (session : LogonSession) (self : LogonData) :
    LogonData × LogonSession :=
  if self.opState = .authWait then
    if session.filezillaAlpn then
      ({ self.clear [.syst, .pbsz, .prot, .clnt, .optsUtf8] with opState := .logon },
        { session with protectDataChannel := true })
    else ({ self with opState := .logon }, session)
  else (self, session)

end LogonData

end Ftp

end FileZilla
