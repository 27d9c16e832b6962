import FileZilla.CommonUi.SiteUrl

namespace FileZilla

namespace ServerStorage

open XmlSite (protect IsUnicode)

variable {Key : Type}

structure KeyText (Key : Type) extends KeyFormat Key where
  toBase64_clean : ∀ key, ' ' ∉ (toBase64 key).toList

/-- What is relied on of `fz::query_string`, with the values converted to UTF-8 and back -/
structure QueryString where
  toText : Parameters → WString
  pairs : WString → Parameters
  pairs_empty : pairs [] = []
  pairs_toText : ∀ protocol parameters, Parameters.Valid protocol parameters →
    (∀ parameter ∈ parameters, IsUnicode parameter.2) → pairs (toText parameters) = parameters

structure ServerRow where
  host : Option WString := none
  port : Option Int := none
  user : Option WString := none
  password : Option WString := none
  account : Option WString := none
  keyFile : Option WString := none
  protocol : Option Int := none
  type : Option Int := none
  logonType : Option Int := none
  timezoneOffset : Option Int := none
  transferMode : Option WString := none
  maxConnections : Option Int := none
  encoding : Option WString := none
  bypassProxy : Option Int := none
  postLoginCommands : Option WString := none
  name : Option WString := none
  parameters : Option WString := none
  sitePath : Option WString := none

section Saving

def textOrNull (text : WString) : Option WString :=
  if text = [] then none else some text

def encryptedBit : BitVec 64 :=
  1#64 <<< 62

def logonTypeValue (logonType : LogonType) (encrypted : Bool) : Int :=
  let value := BitVec.ofNat 64 logonType.ctorIdx
  (if encrypted then value ||| encryptedBit else value).toInt

def LogonStored (logonType : LogonType) : Prop :=
  logonType = .normal ∨ logonType = .account ∨ logonType = .profile

instance (logonType : LogonType) : Decidable (LogonStored logonType) :=
  inferInstanceAs (Decidable (_ ∨ _))

def passwordText (keys : KeyText Key) (credentials : Credentials Key) : WString :=
  match credentials.encrypted with
  | some key => wide (keys.toBase64 key) ++ wide " " ++ credentials.getPass
  | none => credentials.getPass

def bindAddress (server : CServer) (bound : ServerRow) : ServerRow :=
  { bound with
    host := some server.host
    port := some server.port
    protocol := some server.protocol.value
    type := some ((server.type.value : Int) + 1) }

def bindLogon (keys : KeyText Key) (kioskMode : Bool) (user : WString)
    (credentials : Credentials Key) (bound : ServerRow) : ServerRow :=
  let encrypted := credentials.encrypted.isSome
  if credentials.logonType ≠ .anonymous then
    let bound := { bound with user := some user, keyFile := textOrNull credentials.keyFile }
    if LogonStored credentials.logonType then
      if kioskMode then
        { bound with
          password := none
          account := none
          logonType := some (logonTypeValue .ask encrypted) }
      else
        { bound with
          password := some (passwordText keys credentials)
          account := textOrNull credentials.account
          logonType := some (logonTypeValue credentials.logonType encrypted) }
    else
      { bound with
        password := none
        account := none
        logonType := some (logonTypeValue credentials.logonType encrypted) }
  else
    { bound with
      user := none
      password := none
      account := none
      keyFile := none
      logonType := some (logonTypeValue credentials.logonType encrypted) }

def transferModeText : PasvMode → WString
  | .passive => wide "passive"
  | .active => wide "active"
  | .default => wide "default"

def encodingText (server : CServer) : WString :=
  match server.encodingType with
  | .utf8 => wide "UTF-8"
  | .custom => server.customEncoding

def commandsText (postLoginCommands : List WString) : Option WString :=
  if postLoginCommands ≠ [] then
    let commands : WString := []
    some (commands.foldl
      (fun text command => (if text ≠ [] then text ++ wide "\n" else text) ++ [command]) commands)
  else
    none

def bindSettings (site : Site Key) (bound : ServerRow) : ServerRow :=
  { bound with
    timezoneOffset := some site.server.timezoneOffset
    transferMode := some (transferModeText site.server.pasvMode)
    maxConnections := some site.connectionLimit
    encoding := some (encodingText site.server)
    postLoginCommands :=
      if site.server.protocol.hasFeature .postLoginCommands then
        commandsText site.server.postLoginCommands
      else none
    bypassProxy := some (if site.server.bypassProxy then 1 else 0)
    name := textOrNull site.name
    sitePath := textOrNull site.sitePath }

/-- Without parameters, those from before stay bound. -/
def bindParameters (queries : QueryString) (parameters : Parameters) (bound : ServerRow) :
    ServerRow :=
  if parameters ≠ [] then { bound with parameters := some (queries.toText parameters) }
  else bound

variable [DecidableEq Key]

def saveServer (queries : QueryString) (keys : KeyText Key) (protection : Protection Key)
    (bound : ServerRow) (site : Site Key) : ServerRow :=
  bindParameters queries site.server.extraParameters <|
  bindSettings site <|
  bindLogon keys protection.kioskMode site.server.user (protect protection site.credentials) <|
  bindAddress site.server bound

def saveServers (queries : QueryString) (keys : KeyText Key) (protection : Protection Key) :
    ServerRow → List (Site Key) → List ServerRow
  | _, [] => []
  | bound, site :: sites =>
    let row := saveServer queries keys protection bound site
    row :: saveServers queries keys protection row sites

def saveQueue (queries : QueryString) (keys : KeyText Key) (protection : Protection Key)
    (sites : List (Site Key)) : List ServerRow :=
  saveServers queries keys protection {} sites

end Saving

section Reading

def getColumnText (column : Option WString) : WString :=
  column.getD []

def getColumnInt64 (column : Option Int) : Int :=
  column.getD 0

def getColumnInt (column : Option Int) : Int :=
  (column.map intOfInt64).getD 0

def parseAddress (row : ServerRow) : Option CServer := do
  let host := getColumnText row.host
  if host = [] then none
  let port := getColumnInt row.port
  if port < 1 ∨ 65535 < port then none
  let server ← CServer.empty.setHost host port.toNat
  let protocol := getColumnInt row.protocol
  if protocol < 0 ∨ ServerProtocol.maxValue < protocol then none
  let server := server.setProtocol (ServerProtocol.ofValue protocol)
  if server.protocol.hasFeature .serverType then
    let type := getColumnInt row.type
    if type < 0 ∨ 10 < type then none
    else some (server.setType (ServerType.ofNat (type.toNat - 1)))
  else
    some server

def parsePassword (keys : KeyText Key) (encrypted : Bool) (pass : WString) :
    Option (WString × Option Key) :=
  if encrypted then
    (pass.findIdx? (· == ' '.toNat)).map fun pos =>
      (pass.drop (pos + 1), keys.fromBase64 (toUtf8 (pass.take pos)))
  else
    some (pass, none)

def parseCredentials (keys : KeyText Key) (row : ServerRow) (encrypted : Bool)
    (site : Site Key) : Option (Site Key) := do
  if site.credentials.logonType = .anonymous then some site
  else
    let site := site.setUser (getColumnText row.user)
    let (pass, key) ← parsePassword keys encrypted (getColumnText row.password)
    let account := getColumnText row.account
    if account = [] ∧ site.credentials.logonType = .account then none
    let keyFile := getColumnText row.keyFile
    if keyFile = [] ∧ site.credentials.logonType = .key then none
    some { site with
      credentials := { site.credentials.setPass pass with encrypted := key, account, keyFile } }

def parseLogon (keys : KeyText Key) (row : ServerRow) (site : Site Key) : Option (Site Key) :=
  let value := BitVec.ofInt 64 (getColumnInt64 row.logonType)
  let encrypted : Bool := value &&& encryptedBit ≠ 0
  let logonType := (value &&& ~~~encryptedBit).toInt
  if logonType < 0 ∨ 8 ≤ logonType then none
  else
    parseCredentials keys row encrypted (site.setLogonType (LogonType.ofNat logonType.toNat))

def parsePasvMode (transferMode : WString) : PasvMode :=
  if transferMode = wide "passive" then .passive
  else if transferMode = wide "active" then .active
  else .default

def parseEncoding (encodingType : WString) (server : CServer) : Option CServer :=
  if encodingType = [] ∨ encodingType = wide "Auto" ∨ encodingType = wide "UTF-8" then
    server.setEncodingType .utf8
  else
    server.setEncodingType .custom encodingType

def parseCommands (commands : WString) (server : CServer) : Option CServer :=
  if server.protocol.hasFeature .postLoginCommands then
    server.setPostLoginCommands (strtok commands (wide "\n"))
  else
    some server

/-- `INVALID_DATA` is none. -/
def parseServerFromRow (queries : QueryString) (keys : KeyText Key) (row : ServerRow) :
    Option (Site Key) := do
  let server ← parseAddress row
  let site ← parseLogon keys row { server }
  let server ← site.server.setTimezoneOffset (getColumnInt row.timezoneOffset)
  let server := { server with pasvMode := parsePasvMode (getColumnText row.transferMode) }
  let maximumMultipleConnections := getColumnInt64 row.maxConnections
  if maximumMultipleConnections < 0 then none
  let connectionLimit := (maximumMultipleConnections % 2 ^ 32).toNat
  let server ← parseEncoding (getColumnText row.encoding) server
  let server ← parseCommands (getColumnText row.postLoginCommands) server
  let server := { server with bypassProxy := decide (getColumnInt row.bypassProxy = 1) }
  let server := (queries.pairs (getColumnText row.parameters)).foldl
    (fun changed parameter => changed.setExtraParameter parameter.1 parameter.2) server
  some { site with
    server, connectionLimit
    name := (getColumnText row.name).take 255
    sitePath := getColumnText row.sitePath }

def getServer (queries : QueryString) (keys : KeyText Key) :
    List ServerRow → Option (Site Key × List ServerRow)
  | [] => none
  | row :: rows =>
    match parseServerFromRow queries keys row with
    | some site => some (site, rows)
    | none => getServer queries keys rows

theorem getServer_shorter {queries : QueryString} {keys : KeyText Key}
    {rows rest : List ServerRow} {site : Site Key}
    (read : getServer queries keys rows = some (site, rest)) : rest.length < rows.length := by
  induction rows with
  | nil => cases read
  | cons row rows induction =>
    unfold getServer at read
    split at read
    case h_1 =>
      cases read
      exact Nat.lt_succ_self _
    case h_2 => exact Nat.lt_succ_of_lt (induction read)

def getServers (queries : QueryString) (keys : KeyText Key) (rows : List ServerRow) :
    List (Site Key) :=
  match read : getServer queries keys rows with
  | none => []
  | some (site, rest) => site :: getServers queries keys rest
termination_by rows.length
decreasing_by exact getServer_shorter read

theorem getServers_eq (queries : QueryString) (keys : KeyText Key) (rows : List ServerRow) :
    getServers queries keys rows = rows.filterMap (parseServerFromRow queries keys) := by
  induction rows with
  | nil =>
    unfold getServers
    rfl
  | cons row rows induction =>
    cases parsed : parseServerFromRow queries keys row with
    | some site =>
      have read : getServer queries keys (row :: rows) = some (site, rows) := by
        rw [getServer, parsed]
      rw [List.filterMap_cons_some parsed, getServers, ← induction]
      split
      case h_1 failed =>
        rw [read] at failed
        cases failed
      case h_2 same =>
        rw [read] at same
        cases same
        rfl
    | none =>
      have skipped : getServer queries keys (row :: rows) = getServer queries keys rows := by
        rw [getServer, parsed]
      rw [List.filterMap_cons_none parsed, ← induction]
      conv => lhs; unfold getServers
      conv => rhs; unfold getServers
      rw [skipped]

end Reading

end ServerStorage

end FileZilla
