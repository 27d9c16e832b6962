import Mathlib.Data.List.DropRight
import FileZilla.CommonUi.Site

namespace FileZilla

inductive XmlNode
  | mk (name : String) (text : String) (attributes : List (String × String))
      (children : List XmlNode)

namespace XmlNode

def name : XmlNode → String
  | .mk name _ _ _ => name

def text : XmlNode → String
  | .mk _ text _ _ => text

def attributes : XmlNode → List (String × String)
  | .mk _ _ attributes _ => attributes

def children : XmlNode → List XmlNode
  | .mk _ _ _ children => children

def child (node : XmlNode) (name : String) : Option XmlNode :=
  node.children.find? fun child => child.name == name

/-- All children of a name, from `child` on with `next_sibling` -/
def childrenNamed (node : XmlNode) (name : String) : List XmlNode :=
  node.children.filter fun child => child.name == name

/-- The text of a child that is not there is empty. -/
def childText (node : XmlNode) (name : String) : String :=
  ((node.child name).map text).getD ""

def attributeValue (node : XmlNode) (name : String) : String :=
  ((node.attributes.find? fun entry => entry.1 == name).map Prod.snd).getD ""

end XmlNode

def blankText (text : String) : Bool :=
  text.toList.all fun char => char == ' ' || char == '\t' || char == '\r' || char == '\n'

/-- What is relied on of pugixml: the text it returns of an element, and its
conversions of texts to numbers -/
structure Pugixml where
  value : String → String
  asLlong : String → Int
  asInt : String → Int
  asUint : String → Nat
  value_of_not_blank : ∀ text, blankText text = false → value text = text
  value_empty : value "" = ""
  value_value : ∀ text, value (value text) = value text
  asLlong_empty : asLlong "" = 0
  asLlong_toString : ∀ number : Int, -2 ^ 63 ≤ number → number < 2 ^ 63 →
    asLlong (toString number) = number
  asInt_toString : ∀ number : Int, -2 ^ 31 ≤ number → number < 2 ^ 31 →
    asInt (toString number) = number
  asUint_toString : ∀ number : Nat, number < 2 ^ 32 → asUint (toString number) = number

/-- What is relied on of `fz::base64_encode` and its inverse, on texts in UTF-8 -/
structure Base64 where
  encode : String → String
  decode : String → String
  decode_encode : ∀ text, decode (encode text) = text
  encode_clean : ∀ text, ∀ char ∈ (encode text).toList, blankText (String.singleton char) = false

/-- What is relied on of `fz::public_key` -/
structure KeyFormat (Key : Type) where
  fromBase64 : String → Option Key
  toBase64 : Key → String
  fromBase64_toBase64 : ∀ key, fromBase64 (toBase64 key) = some key

/-- What is relied on of `fz::public_key`, `fz::encrypt` and `fz::decrypt`, with the passwords
that are known to the login manager -/
structure Protection (Key : Type) where
  kioskMode : Bool
  masterKey : Option Key
  encrypt : Key → WString → Option WString
  decryptor : Key → Option (WString → Option WString)

/-- `fz::to_utf8` of a text in Unicode -/
def toUtf8 (text : WString) : String :=
  String.ofList (text.map Char.ofNat)

def utf8Bytes (text : String) : List UInt8 :=
  text.toList.flatMap String.utf8EncodeChar

/-- `fz::to_utf8` of a parameter's name, which is in ASCII -/
def nameText (name : List UInt8) : String :=
  String.ofList (name.map fun byte => Char.ofNat byte.toNat)

/-- Conversion of an `int64_t` to `int` -/
def intOfInt64 (number : Int) : Int :=
  Int.bmod number (2 ^ 32)

def isTrimmed (char : WChar) : Bool :=
  char == 32 || char == 13 || char == 10 || char == 9

def trimmed (text : WString) : WString :=
  (text.dropWhile isTrimmed).rdropWhile isTrimmed

namespace XmlSite

variable {Key : Type}

section Writing

variable [DecidableEq Key]

def encryptPassword (protection : Protection Key) (credentials : Credentials Key) (key : Key) :
    Credentials Key :=
  match protection.encrypt key credentials.getPass with
  | some cipher => { credentials with password := cipher, encrypted := some key }
  | none => { credentials with logonType := .ask, password := [], encrypted := none }

def protect (protection : Protection Key) (credentials : Credentials Key) : Credentials Key :=
  if credentials.logonType ≠ .normal ∧ credentials.logonType ≠ .account then
    credentials.setPass []
  else if protection.kioskMode then
    { credentials with password := [], logonType := .ask }
  else
    match protection.masterKey, credentials.encrypted with
    | none, _ => credentials
    | some key, none => encryptPassword protection credentials key
    | some key, some own =>
      if own = key then credentials
      else
        match protection.decryptor own with
        | none => credentials
        | some decrypt =>
          match decrypt credentials.getPass with
          | none => { credentials with encrypted := none, password := [], logonType := .ask }
          | some password =>
            encryptPassword protection { credentials with password, encrypted := none } key

def element (name text : String) : XmlNode :=
  .mk name text [] []

variable (base64 : Base64) (keys : KeyFormat Key)

def passElement (credentials : Credentials Key) :
    XmlNode :=
  match credentials.encrypted with
  | some key =>
    .mk "Pass" (toUtf8 credentials.getPass)
      [("encoding", "crypt"), ("pubkey", keys.toBase64 key)] []
  | none =>
    .mk "Pass" (base64.encode (toUtf8 credentials.getPass)) [("encoding", "base64")] []

variable (server : CServer)

def serverElements : List XmlNode :=
  [element "Host" (toUtf8 server.host), element "Port" (toString server.port),
    element "Protocol" (toString server.protocol.value)] ++
  if server.protocol.hasFeature .serverType then
    [element "Type" (toString ((server.type.value : Int) + 1))]
  else []

def credentialElements (user : WString)
    (credentials : Credentials Key) : List XmlNode :=
  element "User" (toUtf8 user) ::
    if credentials.logonType = .normal ∨ credentials.logonType = .account then
      passElement base64 keys credentials ::
        if credentials.logonType = .account then
          [element "Account" (toUtf8 credentials.account)]
        else []
    else if credentials.keyFile ≠ [] then
      [element "Keyfile" (toUtf8 credentials.keyFile)]
    else []

def logonElements (protection : Protection Key)
    (site : Site Key) : List XmlNode :=
  if site.credentials.logonType ≠ .anonymous then
    let credentials := protect protection site.credentials
    credentialElements base64 keys site.server.user credentials ++
      [element "Logontype" (toString (credentials.logonType.ctorIdx : Int))]
  else
    [element "Logontype" (toString (site.credentials.logonType.ctorIdx : Int))]

def pasvModeText : PasvMode → String
  | .passive => "MODE_PASSIVE"
  | .active => "MODE_ACTIVE"
  | .default => "MODE_DEFAULT"

def connectionElements (site : Site Key) : List XmlNode :=
  (if site.server.timezoneOffset ≠ 0 then
    [element "TimezoneOffset" (toString site.server.timezoneOffset)]
  else []) ++
  (if site.server.protocol.hasFeature .transferMode then
    [element "PasvMode" (pasvModeText site.server.pasvMode)]
  else []) ++
  if site.connectionLimit ≠ 0 then
    [element "MaximumMultipleConnections" (toString (site.connectionLimit : Int))]
  else []

def encodingElements : List XmlNode :=
  if server.protocol.hasFeature .charset then
    match server.encodingType with
    | .custom =>
      [element "EncodingType" "Custom", element "CustomEncoding" (toUtf8 server.customEncoding)]
    | .utf8 => [element "EncodingType" "UTF-8"]
  else []

def commandElements : List XmlNode :=
  if server.protocol.hasFeature .postLoginCommands ∧ server.postLoginCommands ≠ [] then
    [.mk "PostLoginCommands" "" []
      (server.postLoginCommands.map fun command => element "Command" (toUtf8 command))]
  else []

def nameElements (site : Site Key) : List XmlNode :=
  element "BypassProxy" (if site.server.bypassProxy then "1" else "0") ::
    if site.name ≠ [] then [element "Name" (toUtf8 site.name)] else []

def parameterElements : List XmlNode :=
  server.extraParameters.map fun parameter =>
    .mk "Parameter" (toUtf8 parameter.2) [("Name", nameText parameter.1)] []

def setServer (protection : Protection Key)
    (node : XmlNode) (site : Site Key) : XmlNode :=
  .mk node.name "" node.attributes
    (serverElements site.server ++ logonElements base64 keys protection site ++
      connectionElements site ++ encodingElements site.server ++ commandElements site.server ++
      nameElements site ++ parameterElements site.server)

end Writing

section Reading

variable (pugi : Pugixml) (base64 : Base64) (keys : KeyFormat Key) (node : XmlNode)

def getTextElement (name : String) : WString :=
  wide (pugi.value (node.childText name))

def getTextElementInt (name : String) : Int :=
  pugi.asLlong (node.childText name)

def recoveredType : Nat :=
  let dir := getTextElement pugi node "RemoteDir"
  let path := if dir = [] then getTextElement pugi node "RemotePath" else dir
  match path.findIdx? (· == 32) with
  | some pos =>
    let type := toUnsigned (path.take pos)
    if 0 < type ∧ type ≤ 10 then type - 1 else 0
  | none => 0

variable (server : CServer)

def readType : Option CServer :=
  if server.protocol.hasFeature .serverType then
    let type := intOfInt64 (getTextElementInt pugi node "Type")
    if type < 0 ∨ 10 < type then none
    else if type ≠ 0 then some (server.setType (ServerType.ofNat (type.toNat - 1)))
    else some (server.setType (ServerType.ofNat (recoveredType pugi node)))
  else
    some server

def readServer : Option CServer := do
  let host := getTextElement pugi node "Host"
  if host = [] then none
  let server ← server.setHost host (pugi.asUint (node.childText "Port"))
  let protocol := pugi.asInt (node.childText "Protocol")
  if protocol < 0 ∨ ServerProtocol.maxValue < protocol then none
  readType pugi node (server.setProtocol (ServerProtocol.ofValue protocol))

variable (site : Site Key)

/-- A password that cannot be read has to be asked for. -/
def readPass : WString × Site Key :=
  match node.child "Pass" with
  | none => ([], site)
  | some passElement =>
    let encoding := passElement.attributeValue "encoding"
    if encoding = "base64" then
      (wide (base64.decode (pugi.value passElement.text)), site)
    else if encoding = "crypt" then
      match keys.fromBase64 (passElement.attributeValue "pubkey") with
      | some key =>
        (wide (pugi.value passElement.text),
          { site with credentials := { site.credentials with encrypted := some key } })
      | none =>
        ([], { site with
          credentials := { site.credentials with encrypted := none } }.setLogonType .ask)
    else if encoding ≠ "" then
      ([], site.setLogonType .ask)
    else
      (wide (pugi.value passElement.text), site)

def enterCredentials (user pass : WString) (site : Site Key) : Site Key :=
  let site := site.setUser user
  { site with
    credentials := { site.credentials.setPass pass with
      account := getTextElement pugi node "Account" } }

def readCredentials : Option (Site Key) :=
  let logonType := site.credentials.logonType
  if logonType = .anonymous then some site
  else
    let hasUser := site.server.protocol.hasUser
    let user := if hasUser then getTextElement pugi node "User" else []
    if hasUser ∧ user = [] ∧ logonType ≠ .interactive ∧ logonType ≠ .ask then none
    else if logonType = .normal ∨ logonType = .account then
      let (pass, site) := readPass pugi base64 keys node site
      if pass = [] ∧ !hasUser then none
      else some (enterCredentials pugi node user pass site)
    else if logonType = .key then
      if site.server.protocol = .sftp ∧ user = [] then none
      else
        let keyFile := getTextElement pugi node "Keyfile"
        some (enterCredentials pugi node user []
          { site with credentials := { site.credentials with keyFile } })
    else some (enterCredentials pugi node user [] site)

def readLogon : Option (Site Key) :=
  let logonType := intOfInt64 (getTextElementInt pugi node "Logontype")
  if logonType < 0 ∨ 8 ≤ logonType then none
  else readCredentials pugi base64 keys node (site.setLogonType (LogonType.ofNat logonType.toNat))

def readPasvMode : PasvMode :=
  let pasvMode := pugi.value (node.childText "PasvMode")
  if pasvMode = "MODE_PASSIVE" then .passive
  else if pasvMode = "MODE_ACTIVE" then .active
  else .default

def readEncoding : Option CServer :=
  if pugi.value (node.childText "EncodingType") = "Custom" then
    let customEncoding := getTextElement pugi node "CustomEncoding"
    if customEncoding = [] then none else server.setEncodingType .custom customEncoding
  else
    server.setEncodingType .utf8

def readCommands : Option CServer :=
  if server.protocol.hasFeature .postLoginCommands then
    let commands := match node.child "PostLoginCommands" with
      | some commandsElement =>
        (commandsElement.childrenNamed "Command").map fun command : XmlNode =>
          wide (pugi.value command.text)
      | none => []
    server.setPostLoginCommands (commands.filter fun command => command ≠ [])
  else
    some server

def readName : WString :=
  let name := trimmed (getTextElement pugi node "Name")
  if name = [] then trimmed (wide (pugi.value node.text)) else name

def readParameters : CServer :=
  (node.childrenNamed "Parameter").foldl (fun changed parameter => changed.setExtraParameter
      (utf8Bytes (parameter.attributeValue "Name")) (wide (pugi.value parameter.text)))
    server

def getServer : Option (Site Key) := do
  let server ← readServer pugi node site.server
  let site ← readLogon pugi base64 keys node { site with server }
  let server ← site.server.setTimezoneOffset
    (intOfInt64 (getTextElementInt pugi node "TimezoneOffset"))
  let server := { server with pasvMode := readPasvMode pugi node }
  let connectionLimit := (getTextElementInt pugi node "MaximumMultipleConnections" % 2 ^ 32).toNat
  let server ← readEncoding pugi node server
  let server ← readCommands pugi node server
  let server := { server with
    bypassProxy := decide (getTextElementInt pugi node "BypassProxy" = 1) }
  let server := readParameters pugi node server
  some { site with server, connectionLimit, name := readName pugi node }

end Reading

end XmlSite

end FileZilla
