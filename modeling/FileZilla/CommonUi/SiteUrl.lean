import FileZilla.CommonUi.SavedSites
import FileZilla.Engine.Ftp.Logon

namespace FileZilla

namespace ServerProtocol

structure Prefixes where
  primary : String
  parseFromPrefix : Bool := true
  alternative : String := ""

/-- The prefixes in `protocolInfos` -/
def prefixes : ServerProtocol → Prefixes
  | .unknown => { primary := "", parseFromPrefix := false }
  | .ftp => { primary := "ftp" }
  | .sftp => { primary := "sftp" }
  | .http => { primary := "http" }
  | .https => { primary := "https" }
  | .ftps => { primary := "ftps" }
  | .ftpes => { primary := "ftpes" }
  | .insecureFtp => { primary := "ftp", parseFromPrefix := false }
  | .s3 => { primary := "s3" }
  | .storj => { primary := "storj", parseFromPrefix := false }
  | .webdav => { primary := "webdav", alternative := "https" }
  | .azureFile => { primary := "azfile", alternative := "https" }
  | .azureBlob => { primary := "azblob", alternative := "https" }
  | .swift => { primary := "swift", alternative := "https" }
  | .googleCloud => { primary := "google", alternative := "https" }
  | .googleDrive => { primary := "gdrive", alternative := "https" }
  | .dropbox => { primary := "dropbox", alternative := "https" }
  | .onedrive => { primary := "onedrive", alternative := "https" }
  | .b2 => { primary := "b2", alternative := "https" }
  | .box => { primary := "box", alternative := "https" }
  | .insecureWebdav => { primary := "webdav", alternative := "http" }
  | .rackspace => { primary := "rackspace", alternative := "https" }
  | .storjGrant => { primary := "storj" }
  | .s3Sso => { primary := "s3sso" }
  | .googleCloudSvcAcc => { primary := "googleacc", alternative := "https" }
  | .cloudflareR2 => { primary := "r2", alternative := "https" }

def fromPrefix (text : WString) (hint : ServerProtocol) : ServerProtocol :=
  let lower := text.map Ftp.LogonData.lowerAscii
  if hint ≠ .unknown ∧ lower ≠ [] ∧
      (wide hint.prefixes.primary = lower ∨ wide hint.prefixes.alternative = lower) then hint
  else
    ((protocolInfos.find? fun info =>
      wide info.1.prefixes.primary == lower && info.1.prefixes.parseFromPrefix).map Prod.fst).getD
        .unknown

def defaultPort (protocol : ServerProtocol) : Nat :=
  ((protocolInfos.find? fun info => info.1 == protocol).map Prod.snd).getD 21

/-- `GetSupportedLogonTypes`, the first of them apart -/
def supportedLogonTypes : ServerProtocol → LogonType × List LogonType
  | .ftp | .http | .ftps | .ftpes | .insecureFtp =>
    (.anonymous, [.normal, .ask, .interactive, .account])
  | .sftp => (.anonymous, [.normal, .ask, .interactive, .key])
  | .s3 => (.anonymous, [.normal, .ask, .profile])
  | .s3Sso => (.interactive, [.profile])
  | .storj | .storjGrant | .azureFile | .azureBlob | .swift | .b2 | .rackspace =>
    (.normal, [.ask])
  | .webdav | .insecureWebdav => (.anonymous, [.normal, .ask])
  | .googleCloud | .googleDrive | .dropbox | .onedrive | .box => (.interactive, [])
  | .https | .unknown => (.anonymous, [])
  | .googleCloudSvcAcc => (.key, [.adc])
  | .cloudflareR2 => (.normal, [.interactive])

def supports (protocol : ServerProtocol) (logonType : LogonType) : Bool :=
  logonType = protocol.supportedLogonTypes.1 || logonType ∈ protocol.supportedLogonTypes.2

theorem fromPort_ne_unknown (port : Nat) : fromPort port ≠ .unknown := by
  have known : ∀ info ∈ protocolInfos, info.1 ≠ .unknown := by decide
  unfold fromPort
  cases found : protocolInfos.find? fun info => info.2 == port with
  | none => decide
  | some info => exact known info (List.mem_of_find?_eq_some found)

end ServerProtocol

namespace SiteUrl

variable {Key : Type}

inductive UrlError
  | noHost
  | invalidProtocol
  | invalidUsername
  | noClosingBracket
  | invalidHost
  | invalidPort
  | noUsernames

def UrlError.text : UrlError → String
  | .noHost => "No host given, please enter a host."
  | .invalidProtocol =>
    "Invalid protocol specified. Valid protocols are:\nftp:// for normal FTP with optional " ++
    "encryption,\nsftp:// for SSH file transfer protocol,\nftps:// for FTP over TLS " ++
    "(implicit) and\nftpes:// for FTP over TLS (explicit)."
  | .invalidUsername => "Invalid username given."
  | .noClosingBracket => "Host starts with '[' but no closing bracket found."
  | .invalidHost => "Invalid host, after closing bracket only colon and port may follow."
  | .invalidPort => "Invalid port given. The port has to be a value from 1 to 65535."
  | .noUsernames => "Selected protocol has no concept of usernames."

/-- The scheme of an address, where one that is only meant for FileZilla is known by its prefix -/
def schemeName (text : WString) : WString :=
  let lower := text.map Ftp.LogonData.lowerAscii
  if lower.take 3 = wide "fz_" then lower.drop 3 else lower

def parseProtocol (server : CServer) (host : WString) (hint : ServerProtocol) :
    Except UrlError (CServer × WString) :=
  if host = [] then .error .noHost
  else
    match findText (wide "://") host with
    | some pos =>
      let protocol := ServerProtocol.fromPrefix (schemeName (host.take pos)) hint
      if protocol = .unknown then .error .invalidProtocol
      else .ok (server.setProtocol protocol, host.drop (pos + 3))
    | none => .ok (if hint ≠ .unknown then server.setProtocol hint else server, host)

def splitUser (host : WString) : Option (WString × WString) :=
  (host.findIdx? (· == 64)).map fun first =>
    let slash := (host.drop (first + 1)).findIdx? (· == 47)
    let authority := host.take ((slash.map (first + 1 + ·)).getD host.length)
    let user := (authority.rdropWhile (· != 64)).dropLast
    (user, host.drop (user.length + 1))

def parseUser (host user pass : WString) : Except UrlError (WString × WString × WString) :=
  match splitUser host with
  | some (name, host) =>
    let (user, pass) := match name.findIdx? (· == 58) with
      | some pos => (name.take pos, name.drop (pos + 1))
      | none => (name, pass)
    if trimmed user = [] then .error .invalidUsername
    else .ok (host, trimmed user, pass)
  | none => .ok (host, trimmed user, pass)

def splitPath (host : WString) : WString × Option WString :=
  match host.findIdx? (· == 47) with
  | some pos => (host.take pos, some (host.drop pos))
  | none => (host, none)

def findPort (host : WString) : Except UrlError (Option Nat) :=
  if host.head? = some '['.toNat then
    match host.findIdx? (· == ']'.toNat) with
    | none => .error .noClosingBracket
    | some pos =>
      if pos < host.length - 1 then
        if host[pos + 1]? ≠ some ':'.toNat then .error .invalidHost else .ok (some (pos + 1))
      else .ok none
  else
    .ok (host.findIdx? (· == ':'.toNat))

variable (protocol : ServerProtocol)

def splitPort (host : WString) (port : Nat) :
    Except UrlError (WString × Nat) := do
  match ← findPort host with
  | some 0 => .error .noHost
  | some pos => .ok (host.take pos, toUnsigned (host.drop (pos + 1)))
  | none => .ok (host, if port = 0 then protocol.defaultPort else port)

/-- Nothing checks that something is left between the brackets. -/
def parseHost (server : CServer) (host : WString) (port : Nat) : Except UrlError CServer := do
  let (host, port) ← splitPort server.protocol host port
  if port < 1 ∨ 65535 < port then .error .invalidPort
  else if trimmed host = [] then .error .noHost
  else
    let host := trimmed host
    let host := if host.head? = some '['.toNat then host.tail.take (host.length - 2) else host
    let server := (server.setHost host port).getD server
    .ok (if server.protocol = .unknown then
        server.setProtocol (ServerProtocol.fromPort port) else server)

def chooseLogonType (logonType : LogonType) (user pass : WString) :
    Except UrlError LogonType :=
  let logonType :=
    if protocol.supports logonType then logonType else protocol.supportedLogonTypes.1
  if logonType ≠ .ask ∧ logonType ≠ .interactive then
    if protocol.hasUser then
      if user = [] then .ok .anonymous
      else if user = wide "anonymous" then
        if pass = [] ∨ pass = wide "anonymous@example.com" then .ok .anonymous else .ok .normal
      else if logonType = .anonymous then
        .ok (if pass = [] then .ask else .normal)
      else .ok logonType
    else if user ≠ [] then .error .noUsernames
    else .ok logonType
  else .ok logonType

def enterUser (site : Site Key) (server : CServer) (logonType : LogonType)
    (user pass : WString) : Site Key :=
  let credentials := { site.credentials with account := [], logonType }
  let (user, pass) := if logonType = .anonymous then ([], []) else (user, pass)
  { site with server := { server with user }, credentials := credentials.setPass pass }

/-- `Site::ParseUrl`, with the text of the path -/
def parseUrl (site : Site Key) (host : WString) (port : Nat) (user pass : WString)
    (hint : ServerProtocol) : Except UrlError (Site Key × Option WString) := do
  let (server, host) ← parseProtocol (site.server.setType .unix) host hint
  let (host, user, pass) ← parseUser host user pass
  let (host, path) := splitPath host
  let server ← parseHost server host port
  let logonType ← chooseLogonType server.protocol site.credentials.logonType user pass
  .ok (enterUser site server logonType user pass, path)

open XmlSite (freshServer setProtocol_fresh)

variable {host : WString}

theorem parseProtocol_fresh {server : CServer} {rest : WString} {hint : ServerProtocol}
    (parsed : parseProtocol .empty host hint = .ok (server, rest)) :
    ∃ protocol, server = freshServer [] 21 protocol .unix := by
  have set (protocol : ServerProtocol) :
      CServer.empty.setProtocol protocol = freshServer [] 21 protocol .unix :=
    setProtocol_fresh [] 21 .unknown protocol
  unfold parseProtocol at parsed
  split at parsed
  case isTrue => cases parsed
  case isFalse =>
    split at parsed
    case h_1 =>
      dsimp only at parsed
      split at parsed
      case isTrue => cases parsed
      case isFalse =>
        cases parsed
        exact ⟨_, set _⟩
    case h_2 =>
      cases parsed
      split
      case isTrue => exact ⟨hint, set hint⟩
      case isFalse => exact ⟨.unknown, rfl⟩

theorem setHost_fresh (entered : WString) {number : Nat}
    (valid : 1 ≤ number ∧ number ≤ 65535) :
    ∃ host port set, (1 ≤ port ∧ port ≤ 65535) ∧
      ((freshServer [] 21 protocol .unix).setHost entered number).getD
        (freshServer [] 21 protocol .unix) = freshServer host port set .unix := by
  unfold CServer.setHost
  split
  case isTrue => exact ⟨[], 21, protocol, by decide, rfl⟩
  case isFalse => exact ⟨entered, number, _, valid, rfl⟩

theorem bind_eq_ok {Failure Value Result : Type} {attempt : Except Failure Value}
    {next : Value → Except Failure Result} {result : Result}
    (succeeded : attempt >>= next = .ok result) :
    ∃ value, attempt = .ok value ∧ next value = .ok result := by
  cases attempt with
  | error failure => cases succeeded
  | ok value => exact ⟨value, rfl, succeeded⟩

theorem parseHost_fresh {server : CServer} {protocol : ServerProtocol} {port : Nat}
    (parsed : parseHost (freshServer [] 21 protocol .unix) host port = .ok server) :
    ∃ host port protocol, server = freshServer host port protocol .unix ∧
      (1 ≤ port ∧ port ≤ 65535) ∧ protocol ≠ .unknown := by
  obtain ⟨⟨name, number⟩, -, parsed⟩ := bind_eq_ok parsed
  dsimp only at parsed
  split at parsed
  case isTrue => cases parsed
  case isFalse range =>
    split at parsed
    case isTrue => cases parsed
    case isFalse =>
      obtain ⟨host, port, set, valid, same⟩ := @setHost_fresh protocol _ number (by omega)
      rw [same] at parsed
      obtain rfl := Except.ok.inj parsed
      split
      case isTrue =>
        rw [setProtocol_fresh]
        exact ⟨_, _, _, rfl, valid, ServerProtocol.fromPort_ne_unknown _⟩
      case isFalse known => exact ⟨host, port, set, rfl, valid, known⟩

theorem enterUser_fresh (before logonType : LogonType) (server : CServer) (user pass : WString) :
    ∃ entered password,
      enterUser (({} : Site Key).setLogonType before) server logonType user pass =
        { server := { server with user := entered }, credentials := { logonType, password } } ∧
      (logonType = .anonymous → entered = [] ∧ password = []) := by
  by_cases anonymous : logonType = .anonymous
  · subst anonymous
    exact ⟨[], [], rfl, fun _ => ⟨rfl, rfl⟩⟩
  · refine ⟨user, pass, ?_, fun same => absurd same anonymous⟩
    simp [enterUser, Credentials.setPass, Site.setLogonType, anonymous]

theorem parseUrl_fresh {logonType : LogonType} {user pass : WString} {port : Nat}
    {hint : ServerProtocol} {site : Site Key} {path : Option WString}
    (parsed : parseUrl (({} : Site Key).setLogonType logonType) host port user pass hint =
      .ok (site, path)) :
    ∃ host port protocol user logonType password,
      site = { server := { freshServer host port protocol .unix with user }
               credentials := { logonType, password } } ∧
      (1 ≤ port ∧ port ≤ 65535) ∧ protocol ≠ .unknown ∧
      (logonType = .anonymous → user = [] ∧ password = []) := by
  have start : (({} : Site Key).setLogonType logonType).server.setType .unix = .empty := by
    cases logonType <;> rfl
  unfold parseUrl at parsed
  rw [start] at parsed
  obtain ⟨⟨server, rest⟩, first, parsed⟩ := bind_eq_ok parsed
  obtain ⟨protocol, rfl⟩ := parseProtocol_fresh first
  obtain ⟨⟨rest, user, pass⟩, -, parsed⟩ := bind_eq_ok parsed
  obtain ⟨server, second, parsed⟩ := bind_eq_ok parsed
  obtain ⟨host, port, protocol, rfl, valid, known⟩ := parseHost_fresh second
  obtain ⟨chosen, -, parsed⟩ := bind_eq_ok parsed
  obtain ⟨entered, password, same, anonymous⟩ :=
    @enterUser_fresh Key logonType chosen (freshServer host port protocol .unix) user pass
  cases parsed
  exact ⟨host, port, protocol, entered, chosen, password, same, valid, known, anonymous⟩

end SiteUrl

end FileZilla
