import FileZilla.Guards
import FileZilla.CommonUi.XmlSite

namespace FileZilla.XmlSite

open List

variable {Key : Type}

theorem toUtf8_wide (text : String) : toUtf8 (wide text) = text := by
  unfold toUtf8 wide
  rw [map_map]
  have same : Char.ofNat ∘ Char.toNat = id := funext Char.ofNat_toNat
  rw [same, map_id, String.ofList_toList]

theorem wide_injective {first second : String} (same : wide first = wide second) :
    first = second := by
  rw [← toUtf8_wide first, same, toUtf8_wide]

theorem wide_eq_nil {text : String} : wide text = [] ↔ text = "" :=
  ⟨fun nil => @wide_injective text "" nil, fun empty => empty ▸ rfl⟩

def IsUnicode (text : WString) : Prop :=
  ∃ source, text = wide source

theorem IsUnicode.wide_toUtf8 {text : WString} (unicode : IsUnicode text) :
    wide (toUtf8 text) = text := by
  obtain ⟨source, rfl⟩ := unicode
  rw [toUtf8_wide]

def IsElementText (pugi : Pugixml) (text : WString) : Prop :=
  ∃ source, text = wide (pugi.value source)

variable {pugi : Pugixml}

theorem IsElementText.nil : IsElementText pugi [] :=
  ⟨"", by rw [pugi.value_empty]; rfl⟩

theorem IsElementText.unicode {text : WString} (element : IsElementText pugi text) :
    IsUnicode text := by
  obtain ⟨source, rfl⟩ := element
  exact ⟨_, rfl⟩

theorem IsElementText.read {text : WString} (element : IsElementText pugi text) :
    wide (pugi.value (toUtf8 text)) = text := by
  obtain ⟨source, rfl⟩ := element
  rw [toUtf8_wide, pugi.value_value]

theorem value_encode (base64 : Base64) (text : String) :
    pugi.value (base64.encode text) = base64.encode text := by
  cases chars : (base64.encode text).toList with
  | nil =>
    rw [String.toList_eq_nil_iff.mp chars]
    exact pugi.value_empty
  | cons char rest =>
    refine pugi.value_of_not_blank _ (Bool.eq_false_iff.mpr fun blank => ?_)
    have clean := base64.encode_clean text char (chars ▸ .head _)
    rw [blankText, chars, all_cons, Bool.and_eq_true] at blank
    simp [blankText, blank.1] at clean

def lookup (children : List XmlNode) (name : String) : Option XmlNode :=
  children.find? fun child => child.name == name

variable (name : String)

@[simp] theorem lookup_nil : lookup [] name = none :=
  rfl

@[simp] theorem lookup_cons (child : XmlNode) (children : List XmlNode) (name : String) :
    lookup (child :: children) name =
      if child.name = name then some child else lookup children name := by
  unfold lookup
  split
  case isTrue same => exact find?_cons_of_pos (beq_iff_eq.mpr same)
  case isFalse other => exact find?_cons_of_neg fun same => other (beq_iff_eq.mp same)

@[simp] theorem lookup_append (first second : List XmlNode) (name : String) :
    lookup (first ++ second) name = (lookup first name).or (lookup second name) :=
  find?_append

@[simp] theorem lookup_ite (condition : Prop) [Decidable condition]
    (first second : List XmlNode) (name : String) :
    lookup (if condition then first else second) name =
      if condition then lookup first name else lookup second name := by
  split <;> rfl

@[simp] theorem name_mk (text : String) (attributes : List (String × String))
    (children : List XmlNode) : (XmlNode.mk name text attributes children).name = name :=
  rfl

@[simp] theorem name_element (text : String) : (element name text).name = name :=
  rfl

@[simp] theorem text_element (text : String) : (element name text).text = text :=
  rfl

theorem filter_eq_nil {children : List XmlNode} {name : String}
    (absent : lookup children name = none) :
    children.filter (fun child => child.name == name) = [] :=
  filter_eq_nil_iff.mpr (find?_eq_none.mp absent)

theorem lookup_parameterElements (server : CServer) {name : String} (other : name ≠ "Parameter") :
    lookup (parameterElements server) name = none := by
  refine find?_eq_none.mpr fun child member => ?_
  obtain ⟨parameter, -, rfl⟩ := mem_map.mp member
  exact fun same => other (eq_of_beq same).symm

def encodingText : CharsetEncoding → String
  | .custom => "Custom"
  | .utf8 => "UTF-8"

theorem lookup_encodingElements (server : CServer) (name : String) :
    lookup (encodingElements server) name =
      if server.protocol.hasFeature .charset then
        if "EncodingType" = name then
          some (element "EncodingType" (encodingText server.encodingType))
        else if "CustomEncoding" = name ∧ server.encodingType = .custom then
          some (element "CustomEncoding" (toUtf8 server.customEncoding))
        else none
      else none := by
  unfold encodingElements
  rw [lookup_ite]
  cases server.encodingType with
  | utf8 =>
    rw [lookup_cons, lookup_nil]
    simp only [reduceCtorEq, and_false, if_false]
    rfl
  | custom =>
    rw [lookup_cons, lookup_cons, lookup_nil]
    simp only [and_true]
    rfl

section Written

variable (base64 : Base64) (keys : KeyFormat Key)

@[simp] theorem name_passElement (credentials : Credentials Key) :
    (passElement base64 keys credentials).name = "Pass" := by
  unfold passElement
  split <;> rfl

variable [DecidableEq Key] (protection : Protection Key) (node : XmlNode) (site : Site Key)

variable {name : String}

theorem child_setServer (other : name ≠ "Parameter") :
    (setServer base64 keys protection node site).child name =
      (lookup (serverElements site.server) name).or
        ((lookup (logonElements base64 keys protection site) name).or
          ((lookup (connectionElements site) name).or
            ((lookup (encodingElements site.server) name).or
              ((lookup (commandElements site.server) name).or
                (lookup (nameElements site) name))))) := by
  change lookup (_ ++ _ ++ _ ++ _ ++ _ ++ _ ++ _) name = _
  simp only [lookup_append, lookup_parameterElements site.server other, Option.or_none,
    Option.or_assoc]

theorem lookup_logonElements (name : String) :
    lookup (logonElements base64 keys protection site) name =
      if site.credentials.logonType ≠ .anonymous then
        (lookup (credentialElements base64 keys site.server.user
          (protect protection site.credentials)) name).or
        (if "Logontype" = name then
          some (element "Logontype"
            (toString ((protect protection site.credentials).logonType.ctorIdx : Int)))
        else none)
      else if "Logontype" = name then
        some (element "Logontype" (toString (site.credentials.logonType.ctorIdx : Int)))
      else none := by
  unfold logonElements
  split
  · rw [lookup_append, lookup_cons]
    rfl
  · rw [lookup_cons]
    rfl

attribute [local simp] child_setServer serverElements lookup_logonElements credentialElements
  connectionElements lookup_encodingElements commandElements nameElements

theorem child_host : (setServer base64 keys protection node site).child "Host" =
    some (element "Host" (toUtf8 site.server.host)) := by
  simp

theorem child_port : (setServer base64 keys protection node site).child "Port" =
    some (element "Port" (toString site.server.port)) := by
  simp

theorem child_protocol : (setServer base64 keys protection node site).child "Protocol" =
    some (element "Protocol" (toString site.server.protocol.value)) := by
  simp

theorem child_type : (setServer base64 keys protection node site).child "Type" =
    if site.server.protocol.hasFeature .serverType then
      some (element "Type" (toString ((site.server.type.value : Int) + 1)))
    else none := by
  simp

theorem child_logon (logon : name ∈ ["User", "Pass", "Account", "Keyfile"]) :
    (setServer base64 keys protection node site).child name =
      if site.credentials.logonType ≠ .anonymous then
        lookup (credentialElements base64 keys site.server.user
          (protect protection site.credentials)) name
      else none := by
  simp only [mem_cons, not_mem_nil, or_false] at logon
  rcases logon with rfl | rfl | rfl | rfl <;>
    simp

theorem child_logontype : (setServer base64 keys protection node site).child "Logontype" =
    some (element "Logontype"
      (toString (((if site.credentials.logonType = .anonymous then site.credentials
        else protect protection site.credentials).logonType.ctorIdx : Int)))) := by
  by_cases anonymous : site.credentials.logonType = .anonymous <;>
    simp [anonymous]

theorem child_timezoneOffset :
    (setServer base64 keys protection node site).child "TimezoneOffset" =
      if site.server.timezoneOffset ≠ 0 then
        some (element "TimezoneOffset" (toString site.server.timezoneOffset))
      else none := by
  simp

theorem child_pasvMode :
    (setServer base64 keys protection node site).child "PasvMode" =
      if site.server.protocol.hasFeature .transferMode then
        some (element "PasvMode" (pasvModeText site.server.pasvMode))
      else none := by
  simp

theorem child_connectionLimit :
    (setServer base64 keys protection node site).child "MaximumMultipleConnections" =
      if site.connectionLimit ≠ 0 then
        some (element "MaximumMultipleConnections" (toString (site.connectionLimit : Int)))
      else none := by
  simp

theorem child_encoding (encoding : name ∈ ["EncodingType", "CustomEncoding"]) :
    (setServer base64 keys protection node site).child name =
      lookup (encodingElements site.server) name := by
  simp only [mem_cons, not_mem_nil, or_false] at encoding
  rcases encoding with rfl | rfl <;>
    simp

theorem child_commands :
    (setServer base64 keys protection node site).child "PostLoginCommands" =
      (commandElements site.server).head? := by
  by_cases commands : site.server.protocol.hasFeature .postLoginCommands = true ∧
      site.server.postLoginCommands ≠ [] <;>
    simp [commands]

theorem child_bypassProxy :
    (setServer base64 keys protection node site).child "BypassProxy" =
      some (element "BypassProxy" (if site.server.bypassProxy then "1" else "0")) := by
  simp

theorem child_name : (setServer base64 keys protection node site).child "Name" =
    if site.name ≠ [] then some (element "Name" (toUtf8 site.name)) else none := by
  simp

theorem childrenNamed_parameter :
    (setServer base64 keys protection node site).childrenNamed "Parameter" =
      parameterElements site.server := by
  have parameters : (parameterElements site.server).filter (fun child => child.name == "Parameter") =
      parameterElements site.server := by
    refine filter_eq_self.mpr fun child member => ?_
    obtain ⟨parameter, -, rfl⟩ := mem_map.mp member
    rfl
  have server : lookup (serverElements site.server) "Parameter" = none := by
    simp [serverElements]
  have logon : lookup (logonElements base64 keys protection site) "Parameter" = none := by
    simp [lookup_logonElements, credentialElements]
  have connection : lookup (connectionElements site) "Parameter" = none := by
    simp [connectionElements]
  have encoding : lookup (encodingElements site.server) "Parameter" = none := by
    simp [lookup_encodingElements]
  have commands : lookup (commandElements site.server) "Parameter" = none := by
    simp [commandElements]
  have name : lookup (nameElements site) "Parameter" = none := by
    simp [nameElements]
  change filter _ (_ ++ _ ++ _ ++ _ ++ _ ++ _ ++ _) = _
  simp only [filter_append, filter_eq_nil server, filter_eq_nil logon,
    filter_eq_nil connection, filter_eq_nil encoding, filter_eq_nil commands,
    filter_eq_nil name, nil_append]
  exact parameters

end Written

structure LogonRead (pugi : Pugixml) (server : CServer) (credentials : Credentials Key) : Prop where
  user : IsElementText pugi server.user
  anonymousUser : credentials.logonType = .anonymous → server.user = []
  noUser : server.protocol.hasUser = false → server.user = []
  userNeeded : credentials.logonType ≠ .anonymous → server.protocol.hasUser = true →
    server.user = [] → credentials.logonType = .interactive ∨ credentials.logonType = .ask
  plain : credentials.encrypted = none → IsUnicode credentials.password
  cipher : credentials.encrypted ≠ none → IsElementText pugi credentials.password
  passwordNeeded : server.protocol.hasUser = false →
    credentials.logonType = .normal ∨ credentials.logonType = .account → credentials.password ≠ []
  noPassword : credentials.logonType ≠ .normal → credentials.logonType ≠ .account →
    credentials.password = [] ∧ credentials.encrypted = none
  account : IsElementText pugi credentials.account
  keyFile : IsElementText pugi credentials.keyFile
  noKeyFile : credentials.logonType ≠ .key → credentials.keyFile = []

structure SiteRead (pugi : Pugixml) (site : Site Key) : Prop extends site.Valid where
  host_text : IsElementText pugi site.server.host
  logon : LogonRead pugi site.server site.credentials
  encoding_text : IsElementText pugi site.server.customEncoding
  command_texts : ∀ command ∈ site.server.postLoginCommands, IsElementText pugi command
  name_text : IsUnicode site.name
  name_trimmed : trimmed site.name = site.name
  parameter_texts : ∀ parameter ∈ site.server.extraParameters, IsElementText pugi parameter.2

section Reading

variable (base64 : Base64) (keys : KeyFormat Key) (node : XmlNode)

variable {server result : CServer} {credentials : Credentials Key}

theorem readType_eq (read : readType pugi node server = some result) :
    ∃ type, result = server.setType type := by
  unfold readType at read
  split at read
  case isTrue =>
    dsimp only at read
    obtain ⟨-, read⟩ := of_refusal read
    split at read <;> exact ⟨_, (Option.some.inj read).symm⟩
  case isFalse noFeature =>
    refine ⟨.unix, ?_⟩
    rw [CServer.setType, if_neg noFeature]
    exact (Option.some.inj read).symm

/-- A server of which only the address, the protocol and the type are known -/
def freshServer (host : WString) (port : Nat) (protocol : ServerProtocol) (type : ServerType) :
    CServer where
  protocol := protocol
  type := type
  host := host
  user := []
  port := port
  timezoneOffset := 0
  pasvMode := .default
  bypassProxy := false
  encodingType := .utf8
  customEncoding := []
  postLoginCommands := []
  extraParameters := []

theorem setHost_empty {host : WString} {port : Nat}
    (set : CServer.empty.setHost host port = some server) :
    server = freshServer host port (.fromPort port) .unix ∧ host ≠ [] ∧ 1 ≤ port ∧
      port ≤ 65535 := by
  obtain ⟨valid, rfl⟩ := some_of_refusal set
  push Not at valid
  exact ⟨rfl, valid.1, valid.2⟩

open Parameters

theorem setProtocol_fresh (host : WString) (port : Nat) (guessed protocol : ServerProtocol) :
    (freshServer host port guessed .unix).setProtocol protocol =
      freshServer host port protocol .unix := by
  simp [CServer.setProtocol, freshServer, setAll]

theorem setType_fresh (host : WString) (port : Nat) (protocol : ServerProtocol)
    (type : ServerType) :
    (freshServer host port protocol .unix).setType type = freshServer host port protocol
        (if protocol.hasFeature .serverType then type else .unix) := by
  unfold CServer.setType
  cases feature : protocol.hasFeature .serverType <;> simp [freshServer, feature]

theorem readServer_eq (read : readServer pugi node .empty = some server) :
    ∃ host port protocol type, server = freshServer host port protocol type ∧
      IsElementText pugi host ∧ host ≠ [] ∧ 1 ≤ port ∧ port ≤ 65535 ∧
      protocol ≠ .unknown ∧ (protocol.hasFeature .serverType = false → type = .unix) := by
  unfold readServer at read
  dsimp only [Bind.bind] at read
  obtain ⟨-, read⟩ := of_refusal read
  obtain ⟨named, setHost, read⟩ := Option.bind_eq_some_iff.mp read
  obtain ⟨rfl, nonempty, port⟩ := setHost_empty setHost
  obtain ⟨range, read⟩ := of_refusal read
  obtain ⟨type, rfl⟩ := readType_eq node read
  have known : ServerProtocol.ofValue (pugi.asInt (node.childText "Protocol")) ≠
      .unknown :=
    ServerProtocol.ofValue_ne_unknown (by omega) (by omega)
  rw [setProtocol_fresh, setType_fresh]
  refine ⟨_, _, _, _, rfl, ⟨_, rfl⟩, nonempty, port.1, port.2, known, ?_⟩
  intro noFeature
  rw [noFeature]
  rfl

theorem readPass_cases {logonType : LogonType} {pass : WString} {site : Site Key}
    (read : readPass pugi base64 keys node { server, credentials := { logonType } } =
      (pass, site)) :
    (IsUnicode pass ∧ site = { server, credentials := { logonType } }) ∨
    (∃ key, IsElementText pugi pass ∧
      site = { server, credentials := { logonType, encrypted := some key } }) ∨
    (pass = [] ∧ site = { server, credentials := { logonType := .ask } }) := by
  unfold readPass at read
  split at read
  case h_1 =>
    cases read
    exact .inl ⟨(IsElementText.nil : IsElementText pugi []).unicode, rfl⟩
  case h_2 passElement _ =>
    dsimp only at read
    split at read
    case isTrue =>
      cases read
      exact .inl ⟨⟨_, rfl⟩, rfl⟩
    case isFalse =>
      split at read
      case isTrue =>
        split at read
        case h_1 key _ =>
          cases read
          exact .inr (.inl ⟨key, ⟨_, rfl⟩, rfl⟩)
        case h_2 =>
          cases read
          exact .inr (.inr ⟨rfl, rfl⟩)
      case isFalse =>
        split at read
        case isTrue =>
          cases read
          exact .inr (.inr ⟨rfl, rfl⟩)
        case isFalse =>
          cases read
          exact .inl ⟨⟨_, rfl⟩, rfl⟩

theorem setLogonType_fresh (noUser : server.user = []) (logonType : LogonType) :
    Site.setLogonType ({ server } : Site Key) logonType =
      { server, credentials := { logonType } } := by
  have cleared : { server with user := [] } = server := by rw [← noUser]
  unfold Site.setLogonType
  rw [cleared, ite_self]

theorem enterCredentials_fresh
    (user pass : WString) (named : credentials.logonType ≠ .anonymous) :
    enterCredentials pugi node user pass { server, credentials } =
      { server := { server with user },
        credentials := { credentials with
          password := pass, account := getTextElement pugi node "Account" } } := by
  simp [enterCredentials, Site.setUser, Credentials.setPass, named]

theorem logonRead_without_password (user : IsElementText pugi server.user)
    (noUser : server.protocol.hasUser = false → server.user = [])
    (anonymousUser : credentials.logonType = .anonymous → server.user = [])
    (userNeeded : credentials.logonType ≠ .anonymous → server.protocol.hasUser = true →
      server.user = [] → credentials.logonType = .interactive ∨ credentials.logonType = .ask)
    (password : credentials.password = [] ∧ credentials.encrypted = none)
    (unstored : credentials.logonType ≠ .normal ∧ credentials.logonType ≠ .account)
    (account : IsElementText pugi credentials.account)
    (keyFile : IsElementText pugi credentials.keyFile)
    (noKeyFile : credentials.logonType ≠ .key → credentials.keyFile = []) :
    LogonRead pugi server credentials where
  user := user
  anonymousUser := anonymousUser
  noUser := noUser
  userNeeded := userNeeded
  plain _ := password.1 ▸ (IsElementText.nil : IsElementText pugi []).unicode
  cipher encrypted := absurd password.2 encrypted
  passwordNeeded _ stored := stored.elim (absurd · unstored.1) (absurd · unstored.2)
  noPassword _ _ := password
  account := account
  keyFile := keyFile
  noKeyFile := noKeyFile

theorem logonRead_with_password
    (stored : credentials.logonType = .normal ∨ credentials.logonType = .account)
    (user : IsElementText pugi server.user)
    (noUser : server.protocol.hasUser = false → server.user = [])
    (userGiven : server.protocol.hasUser = true → server.user ≠ [])
    (plain : credentials.encrypted = none → IsUnicode credentials.password)
    (cipher : credentials.encrypted ≠ none → IsElementText pugi credentials.password)
    (passwordGiven : server.protocol.hasUser = false → credentials.password ≠ [])
    (account : IsElementText pugi credentials.account) (keyFile : credentials.keyFile = []) :
    LogonRead pugi server credentials where
  user := user
  anonymousUser anonymous := by
    rw [anonymous] at stored
    exact stored.elim nofun nofun
  noUser := noUser
  userNeeded _ hasUser missing := absurd missing (userGiven hasUser)
  plain := plain
  cipher := cipher
  passwordNeeded noUser _ := passwordGiven noUser
  noPassword other another := stored.elim (absurd · other) (absurd · another)
  account := account
  keyFile := keyFile ▸ .nil
  noKeyFile _ := keyFile

theorem readCredentials_eq (noUser : server.user = []) {logonType : LogonType} {site : Site Key}
    (read : readCredentials pugi base64 keys node { server, credentials := { logonType } } =
      some site) :
    ∃ user credentials,
      site = { server := { server with user }, credentials } ∧
      LogonRead pugi { server with user } credentials ∧
      (credentials.logonType = .anonymous → credentials.password = []) := by
  have userText : IsElementText pugi
      (if server.protocol.hasUser then getTextElement pugi node "User" else []) := by
    split
    · exact ⟨_, rfl⟩
    · exact .nil
  have userAbsent : server.protocol.hasUser = false →
      (if server.protocol.hasUser then getTextElement pugi node "User" else []) = [] :=
    fun absent => by rw [absent]; rfl
  unfold readCredentials at read
  dsimp only at read
  generalize (if server.protocol.hasUser then getTextElement pugi node "User" else []) = user
    at read userText userAbsent
  split at read
  case isTrue anonymous =>
    cases read
    have cleared : { server with user := [] } = server := by rw [← noUser]
    refine ⟨[], { logonType }, by rw [cleared], ?_, fun _ => rfl⟩
    exact logonRead_without_password .nil (fun _ => rfl) (fun _ => rfl)
      (fun named => absurd anonymous named) ⟨rfl, rfl⟩
      (by rw [anonymous]; exact ⟨nofun, nofun⟩) .nil .nil fun _ => rfl
  case isFalse named =>
    obtain ⟨userGiven, read⟩ := of_refusal read
    split at read
    case isTrue stored =>
      have givenUser : server.protocol.hasUser = true → user ≠ [] := by
        intro hasUser missing
        refine userGiven ⟨hasUser, missing, ?_, ?_⟩ <;>
          · intro same
            rw [same] at stored
            exact stored.elim nofun nofun
      cases result : readPass pugi base64 keys node
          { server, credentials := { logonType } } with
      | mk pass passSite =>
        rw [result] at read
        dsimp only at read
        obtain ⟨missingPass, read⟩ := of_refusal read
        have givenPass : server.protocol.hasUser = false → pass ≠ [] :=
          fun absent missing => missingPass ⟨missing, by rw [absent]; rfl⟩
        rcases readPass_cases base64 keys node result with
          ⟨plain, rfl⟩ | ⟨key, cipher, rfl⟩ | ⟨rfl, rfl⟩
        · rw [enterCredentials_fresh node user pass named] at read
          cases read
          exact ⟨user, _, rfl, logonRead_with_password stored userText userAbsent givenUser
              (fun _ => plain) (absurd rfl ·) givenPass ⟨_, rfl⟩ rfl,
            fun anonymous => absurd anonymous named⟩
        · rw [enterCredentials_fresh node user pass named] at read
          cases read
          exact ⟨user, _, rfl, logonRead_with_password stored userText userAbsent givenUser
              nofun (fun _ => cipher) givenPass ⟨_, rfl⟩ rfl,
            fun anonymous => absurd anonymous named⟩
        · have asked : LogonType.ask ≠ .anonymous := nofun
          rw [enterCredentials_fresh node user [] asked] at read
          cases read
          exact ⟨user, _, rfl, logonRead_without_password userText userAbsent nofun
              (fun _ _ _ => .inr rfl) ⟨rfl, rfl⟩ ⟨nofun, nofun⟩ ⟨_, rfl⟩ .nil (fun _ => rfl),
            fun _ => rfl⟩
    case isFalse unstored =>
      have needed : server.protocol.hasUser = true → user = [] →
          logonType = .interactive ∨ logonType = .ask := by
        intro hasUser missing
        refine Decidable.byContradiction fun neither => userGiven ?_
        exact ⟨hasUser, missing, fun same => neither (.inl same),
          fun same => neither (.inr same)⟩
      have others : logonType ≠ .normal ∧ logonType ≠ .account :=
        ⟨fun same => unstored (.inl same), fun same => unstored (.inr same)⟩
      split at read
      case isTrue key =>
        obtain ⟨-, read⟩ := of_refusal read
        rw [enterCredentials_fresh node user [] named] at read
        cases read
        exact ⟨user, _, rfl, logonRead_without_password userText userAbsent
            (fun anonymous => absurd anonymous named) (fun _ => needed) ⟨rfl, rfl⟩
            others ⟨_, rfl⟩ ⟨_, rfl⟩ (fun other => absurd key other),
          fun _ => rfl⟩
      case isFalse noKey =>
        rw [enterCredentials_fresh node user [] named] at read
        cases read
        exact ⟨user, _, rfl, logonRead_without_password userText userAbsent
            (fun anonymous => absurd anonymous named) (fun _ => needed) ⟨rfl, rfl⟩
            others ⟨_, rfl⟩ .nil (fun _ => rfl),
          fun _ => rfl⟩

theorem readLogon_eq (noUser : server.user = []) {site : Site Key}
    (read : readLogon pugi base64 keys node { server } = some site) :
    ∃ user credentials,
      site = { server := { server with user }, credentials } ∧
      LogonRead pugi { server with user } credentials ∧
      (credentials.logonType = .anonymous → credentials.password = []) := by
  unfold readLogon at read
  dsimp only at read
  obtain ⟨-, read⟩ := of_refusal read
  rw [setLogonType_fresh noUser] at read
  exact readCredentials_eq base64 keys node noUser read

theorem readEncoding_eq (read : readEncoding pugi node server = some result) :
    ∃ encodingType customEncoding,
      result = { server with encodingType, customEncoding } ∧
      (encodingType = .custom ↔ customEncoding ≠ []) ∧ IsElementText pugi customEncoding := by
  unfold readEncoding at read
  split at read
  case isTrue =>
    dsimp only at read
    obtain ⟨given, read⟩ := of_refusal read
    unfold CServer.setEncodingType at read
    rw [if_neg fun both => given both.2] at read
    cases read
    exact ⟨.custom, _, rfl, iff_of_true rfl given, ⟨_, rfl⟩⟩
  case isFalse =>
    cases read
    exact ⟨.utf8, [], rfl, iff_of_false nofun fun nonempty => nonempty rfl, .nil⟩

theorem readCommands_eq (none : server.postLoginCommands = [])
    (read : readCommands pugi node server = some result) :
    ∃ postLoginCommands,
      result = { server with postLoginCommands } ∧
      (server.protocol.hasFeature .postLoginCommands = false → postLoginCommands = []) ∧
      ∀ command ∈ postLoginCommands, command ≠ [] ∧ IsElementText pugi command := by
  unfold readCommands at read
  split at read
  case isTrue feature =>
    unfold CServer.setPostLoginCommands at read
    rw [if_pos feature] at read
    cases read
    refine ⟨_, rfl, fun noFeature => absurd feature (by simp [noFeature]), ?_⟩
    intro command member
    obtain ⟨member, nonempty⟩ := mem_filter.mp member
    refine ⟨of_decide_eq_true nonempty, ?_⟩
    split at member
    · obtain ⟨child, -, rfl⟩ := mem_map.mp member
      exact ⟨_, rfl⟩
    · cases member
  case isFalse noFeature =>
    cases read
    exact ⟨[], by rw [← none], fun _ => rfl, fun _ member => by cases member⟩

def parametersOf (pugi : Pugixml) (node : XmlNode) : Parameters :=
  (node.childrenNamed "Parameter").map fun parameter : XmlNode =>
    (utf8Bytes (parameter.attributeValue "Name"), wide (pugi.value parameter.text))

theorem readParameters_eq (server : CServer) :
    readParameters pugi node server = { server with
      extraParameters := setAll server.protocol server.extraParameters
        (parametersOf pugi node) } := by
  unfold readParameters parametersOf
  generalize node.childrenNamed "Parameter" = children
  induction children generalizing server with
  | nil => rfl
  | cons child children induction => exact induction _

theorem trimmed_sublist (text : WString) : (trimmed text).Sublist text :=
  (List.rdropWhile_prefix _ _).sublist.trans (dropWhile_sublist _)

theorem trimmed_trimmed (text : WString) : trimmed (trimmed text) = trimmed text := by
  have untouched : (trimmed text).dropWhile isTrimmed = trimmed text := by
    cases result : trimmed text with
    | nil => rfl
    | cons char rest =>
      obtain ⟨after, whole⟩ := rdropWhile_prefix isTrimmed (text.dropWhile isTrimmed)
      rw [← trimmed, result, cons_append] at whole
      have nonempty : text.dropWhile isTrimmed ≠ [] := whole ▸ cons_ne_nil _ _
      have head := head_dropWhile_not isTrimmed nonempty
      simp only [← whole, head_cons] at head
      exact dropWhile_cons_of_neg (by simp [head])
  have idempotent := rdropWhile_idempotent isTrimmed (text.dropWhile isTrimmed)
  change ((trimmed text).dropWhile isTrimmed).rdropWhile isTrimmed = _
  rw [untouched]
  exact idempotent

theorem IsUnicode.sublist {text part : WString} (unicode : IsUnicode text)
    (sublist : part.Sublist text) : IsUnicode part := by
  obtain ⟨source, rfl⟩ := unicode
  obtain ⟨chars, -, rfl⟩ := sublist_map_iff.mp sublist
  exact ⟨String.ofList chars, by rw [wide, String.toList_ofList]⟩

theorem readName_eq : IsUnicode (readName pugi node) ∧
    trimmed (readName pugi node) = readName pugi node := by
  unfold readName
  dsimp only
  split
  · exact ⟨IsUnicode.sublist ⟨_, rfl⟩ (trimmed_sublist _), trimmed_trimmed _⟩
  · exact ⟨IsUnicode.sublist ⟨_, rfl⟩ (trimmed_sublist _), trimmed_trimmed _⟩

structure Parts (Key : Type) where
  host : WString
  port : Nat
  protocol : ServerProtocol
  type : ServerType
  user : WString
  credentials : Credentials Key
  timezoneOffset : Int
  encodingType : CharsetEncoding
  customEncoding : WString
  postLoginCommands : List WString

def Parts.site (pugi : Pugixml) (node : XmlNode) (parts : Parts Key) : Site Key where
  server := {
    protocol := parts.protocol
    type := parts.type
    host := parts.host
    user := parts.user
    port := parts.port
    timezoneOffset := parts.timezoneOffset
    pasvMode := readPasvMode pugi node
    bypassProxy := decide (getTextElementInt pugi node "BypassProxy" = 1)
    encodingType := parts.encodingType
    customEncoding := parts.customEncoding
    postLoginCommands := parts.postLoginCommands
    extraParameters := setAll parts.protocol [] (parametersOf pugi node) }
  credentials := parts.credentials
  name := readName pugi node
  connectionLimit := (getTextElementInt pugi node "MaximumMultipleConnections" % 2 ^ 32).toNat

structure Parts.Valid (pugi : Pugixml) (node : XmlNode) (parts : Parts Key) : Prop where
  host : IsElementText pugi parts.host ∧ parts.host ≠ []
  port : 1 ≤ parts.port ∧ parts.port ≤ 65535
  protocol : parts.protocol ≠ .unknown
  type : parts.protocol.hasFeature .serverType = false → parts.type = .unix
  logon : LogonRead pugi (parts.site pugi node).server parts.credentials
  anonymousPassword : parts.credentials.logonType = .anonymous → parts.credentials.password = []
  timezoneOffset : -(60 * 24) ≤ parts.timezoneOffset ∧ parts.timezoneOffset ≤ 60 * 24
  customEncoding : parts.encodingType = .custom ↔ parts.customEncoding ≠ []
  encoding_text : IsElementText pugi parts.customEncoding
  noCommands : parts.protocol.hasFeature .postLoginCommands = false → parts.postLoginCommands = []
  commands : ∀ command ∈ parts.postLoginCommands, command ≠ [] ∧ IsElementText pugi command

theorem getServer_eq {site : Site Key} (read : getServer pugi base64 keys node {} = some site) :
    ∃ parts : Parts Key, site = parts.site pugi node ∧ parts.Valid pugi node := by
  unfold getServer at read
  simp only [Option.bind_eq_bind, Option.bind_eq_some_iff] at read
  obtain ⟨server, readServer, named, readLogon, zoned, setZone, encoded, readEncoding,
    commanded, readCommands, read⟩ := read
  obtain ⟨host, port, protocol, type, rfl, hostText, hostGiven, portFirst, portLast, known,
    unixType⟩ := readServer_eq node readServer
  obtain ⟨user, credentials, rfl, logon, noPassword⟩ :=
    readLogon_eq base64 keys node (by rfl) readLogon
  obtain ⟨zone, rfl⟩ := some_of_refusal setZone
  obtain ⟨encodingType, customEncoding, rfl, custom, encodingText⟩ :=
    readEncoding_eq node readEncoding
  obtain ⟨commands, rfl, noCommands, commandTexts⟩ := readCommands_eq node (by rfl) readCommands
  rw [readParameters_eq] at read
  let parts : Parts Key := {
    host, port, protocol, type, user, credentials, encodingType, customEncoding
    timezoneOffset := intOfInt64 (getTextElementInt pugi node "TimezoneOffset")
    postLoginCommands := commands }
  obtain ⟨last, first⟩ := not_or.mp zone
  refine ⟨parts, (Option.some.inj read).symm, ?_⟩
  exact {
    host := ⟨hostText, hostGiven⟩
    port := ⟨portFirst, portLast⟩
    protocol := known
    type := unixType
    logon := ⟨logon.user, logon.anonymousUser, logon.noUser, logon.userNeeded, logon.plain,
      logon.cipher, logon.passwordNeeded, logon.noPassword, logon.account, logon.keyFile,
      logon.noKeyFile⟩
    anonymousPassword := noPassword
    timezoneOffset := ⟨Int.not_lt.mp first, Int.not_lt.mp last⟩
    customEncoding := custom
    encoding_text := encodingText
    noCommands := noCommands
    commands := commandTexts }

theorem siteRead_of_getServer {site : Site Key}
    (read : getServer pugi base64 keys node {} = some site) : SiteRead pugi site := by
  obtain ⟨parts, rfl, valid⟩ := getServer_eq base64 keys node read
  have parameters : Valid parts.protocol
      (setAll parts.protocol [] (parametersOf pugi node)) :=
    valid_setAll (valid_nil parts.protocol) _
  exact {
    host := valid.host.2
    __ := valid
    anonymousUser := valid.logon.anonymousUser
    connectionLimit := by
      simp only [Parts.site]
      omega
    commands := fun command member => (valid.commands command member).1
    parameters := parameters
    host_text := valid.host.1
    command_texts := fun command member => (valid.commands command member).2
    name_text := (readName_eq node).1
    name_trimmed := (readName_eq node).2
    parameter_texts := fun parameter member => by
      rcases mem_setAll member with member | member
      · obtain ⟨child, -, rfl⟩ := mem_map.mp member
        exact ⟨_, rfl⟩
      · cases member }

end Reading

end FileZilla.XmlSite
