import FileZilla.CommonUi.SavedSites

namespace FileZilla.XmlSite

open List Int

variable {Key : Type} [DecidableEq Key] {pugi : Pugixml}
variable (base64 : Base64) (keys : KeyFormat Key) (protection : Protection Key)
variable (node : XmlNode) {site : Site Key}

theorem intOfInt64_of_range {number : Int} (first : -2 ^ 31 ≤ number) (last : number < 2 ^ 31) :
    intOfInt64 number = number := by
  unfold intOfInt64
  rw [bmod_eq_of_le (by omega) (by omega)]

variable {written : XmlNode} {name : String}

theorem childText_of_child {text : String} (child : written.child name = some (element name text))
    : written.childText name = text := by
  rw [XmlNode.childText, child]
  rfl

theorem childText_of_absent (child : written.child name = none) :
    written.childText name = "" := by
  rw [XmlNode.childText, child]
  rfl

theorem getTextElement_of_child {text : WString} (elementText : IsElementText pugi text)
    (child : written.child name = some (element name (toUtf8 text))) :
    getTextElement pugi written name = text := by
  rw [getTextElement, childText_of_child child, elementText.read]

theorem getTextElementInt_of_child {number : Int} (first : -2 ^ 63 ≤ number)
    (last : number < 2 ^ 63) (child : written.child name = some (element name (toString number))) :
    getTextElementInt pugi written name = number := by
  rw [getTextElementInt, childText_of_child child, pugi.asLlong_toString number first last]

section Server

theorem readType_setServer (valid : site.Valid) :
    readType pugi (setServer base64 keys protection node site)
        (freshServer site.server.host site.server.port site.server.protocol .unix) =
      some (freshServer site.server.host site.server.port site.server.protocol
        site.server.type) := by
  unfold readType
  have child := child_type base64 keys protection node site
  cases feature : site.server.protocol.hasFeature .serverType with
  | false =>
    rw [if_neg (by simp [freshServer, feature]), valid.type feature]
  | true =>
    rw [feature, if_pos rfl] at child
    have range : site.server.type.value < 10 := by cases site.server.type <;> decide
    have type : intOfInt64 (getTextElementInt pugi
        (setServer base64 keys protection node site) "Type") = site.server.type.value + 1 := by
      rw [getTextElementInt_of_child (by omega) (by omega) child]
      exact intOfInt64_of_range (by omega) (by omega)
    rw [if_pos (by simp [freshServer, feature]), type]
    dsimp only
    rw [if_neg (by omega), if_pos (by omega), setType_fresh, feature, if_pos rfl]
    have index : ((site.server.type.value : Int) + 1).toNat - 1 = site.server.type.value := by
      omega
    rw [index]
    exact congrArg _ (congrArg _ (ServerType.ofNat_ctorIdx _))

theorem readServer_setServer (valid : SiteRead pugi site) :
    readServer pugi (setServer base64 keys protection node site) .empty =
      some (freshServer site.server.host site.server.port site.server.protocol
        site.server.type) := by
  have host : getTextElement pugi (setServer base64 keys protection node site) "Host" =
      site.server.host :=
    getTextElement_of_child valid.host_text (child_host base64 keys protection node site)
  have port : pugi.asUint ((setServer base64 keys protection node site).childText "Port") =
      site.server.port := by
    rw [childText_of_child (child_port base64 keys protection node site)]
    exact pugi.asUint_toString _ (lt_of_le_of_lt valid.port.2 (by decide))
  obtain ⟨first, last, same⟩ := ServerProtocol.ofValue_value valid.protocol
  have max : ServerProtocol.maxValue = 24 := rfl
  have protocol : pugi.asInt ((setServer base64 keys protection node site).childText "Protocol") =
      site.server.protocol.value := by
    rw [childText_of_child (child_protocol base64 keys protection node site)]
    exact pugi.asInt_toString _ (by omega) (by omega)
  have setHost : CServer.empty.setHost site.server.host site.server.port =
      some (freshServer site.server.host site.server.port
        (.fromPort site.server.port) .unix) := by
    have range := valid.port
    unfold CServer.setHost
    rw [if_neg (by simp [valid.host]; omega)]
    rfl
  unfold readServer
  rw [host, port, protocol]
  dsimp only
  rw [setHost]
  dsimp only [Bind.bind, Option.bind]
  rw [if_neg valid.host, if_neg (by omega), setProtocol_fresh, same]
  exact readType_setServer base64 keys protection node valid.toValid

end Server

section Logon

variable {server : CServer}

theorem protect_read (kiosk : protection.kioskMode = false) (master : protection.masterKey = none)
    {credentials : Credentials Key} (logon : LogonRead pugi server credentials) :
    protect protection credentials = credentials := by
  unfold protect
  split
  case isTrue unstored =>
    have noPassword := (logon.noPassword unstored.1 unstored.2).1
    unfold Credentials.setPass
    split
    · rfl
    · rw [← noPassword]
  case isFalse =>
    rw [kiosk, master]
    rfl

/-- The account is only stored where it is used. -/
def keptCredentials (credentials : Credentials Key) : Credentials Key :=
  { credentials with
    account := if credentials.logonType = .account then credentials.account else [] }

theorem child_user (named : site.credentials.logonType ≠ .anonymous) :
    (setServer base64 keys protection node site).child "User" =
      some (element "User" (toUtf8 site.server.user)) := by
  rw [child_logon _ _ _ _ _ (by simp), if_pos named, credentialElements]
  simp

variable (kiosk : protection.kioskMode = false) (master : protection.masterKey = none)
variable (valid : SiteRead pugi site)
include kiosk master valid

theorem child_pass (named : site.credentials.logonType ≠ .anonymous) :
    (setServer base64 keys protection node site).child "Pass" =
      if site.credentials.logonType = .normal ∨ site.credentials.logonType = .account then
        some (passElement base64 keys site.credentials)
      else none := by
  rw [child_logon _ _ _ _ _ (by simp), if_pos named, credentialElements,
    protect_read protection kiosk master valid.logon]
  simp

theorem child_account (named : site.credentials.logonType ≠ .anonymous) :
    (setServer base64 keys protection node site).child "Account" =
      if site.credentials.logonType = .account then
        some (element "Account" (toUtf8 site.credentials.account))
      else none := by
  rw [child_logon _ _ _ _ _ (by simp), if_pos named, credentialElements,
    protect_read protection kiosk master valid.logon]
  simp

theorem child_keyfile (named : site.credentials.logonType ≠ .anonymous) :
    (setServer base64 keys protection node site).child "Keyfile" =
      if site.credentials.keyFile ≠ [] then
        some (element "Keyfile" (toUtf8 site.credentials.keyFile))
      else none := by
  rw [child_logon _ _ _ _ _ (by simp), if_pos named, credentialElements,
    protect_read protection kiosk master valid.logon]
  by_cases stored : site.credentials.logonType = .normal ∨ site.credentials.logonType = .account
  · have noKeyFile : site.credentials.keyFile = [] := by
      refine valid.logon.noKeyFile fun key => ?_
      rw [key] at stored
      exact absurd stored (by decide)
    simp [stored, noKeyFile]
  · simp [stored]

omit kiosk master in
theorem getTextElement_user (named : site.credentials.logonType ≠ .anonymous) :
    (if site.server.protocol.hasUser then
      getTextElement pugi (setServer base64 keys protection node site) "User" else []) =
      site.server.user := by
  split
  case isTrue =>
    exact getTextElement_of_child valid.logon.user (child_user base64 keys protection node named)
  case isFalse noUser =>
    exact (valid.logon.noUser (Bool.eq_false_iff.mpr noUser)).symm

theorem getTextElement_account (named : site.credentials.logonType ≠ .anonymous) :
    getTextElement pugi (setServer base64 keys protection node site) "Account" =
      (keptCredentials site.credentials).account := by
  have child := child_account base64 keys protection node kiosk master valid named
  unfold keptCredentials
  dsimp only
  split
  case isTrue account =>
    rw [if_pos account] at child
    exact getTextElement_of_child valid.logon.account child
  case isFalse other =>
    rw [if_neg other] at child
    rw [getTextElement, childText_of_absent child, pugi.value_empty]
    rfl

theorem getTextElement_keyfile (named : site.credentials.logonType ≠ .anonymous) :
    getTextElement pugi (setServer base64 keys protection node site) "Keyfile" =
      site.credentials.keyFile := by
  have child := child_keyfile base64 keys protection node kiosk master valid named
  split at child
  case isTrue => exact getTextElement_of_child valid.logon.keyFile child
  case isFalse missing =>
    rw [getTextElement, childText_of_absent child, pugi.value_empty, not_not.mp missing]
    rfl

theorem readPass_setServer
    (stored : site.credentials.logonType = .normal ∨ site.credentials.logonType = .account) :
    readPass pugi base64 keys (setServer base64 keys protection node site)
        { server, credentials := { logonType := site.credentials.logonType } } =
      (site.credentials.password,
        { server, credentials := {
          logonType := site.credentials.logonType, encrypted := site.credentials.encrypted } }) := by
  have named : site.credentials.logonType ≠ .anonymous := by
    intro anonymous
    rw [anonymous] at stored
    exact absurd stored (by decide)
  have child := child_pass base64 keys protection node kiosk master valid named
  rw [if_pos stored] at child
  have password : site.credentials.getPass = site.credentials.password := if_neg named
  unfold readPass
  rw [child]
  cases encrypted : site.credentials.encrypted with
  | none =>
    have unicode := valid.logon.plain encrypted
    have read : wide (base64.decode (pugi.value (base64.encode
        (toUtf8 site.credentials.password)))) = site.credentials.password := by
      rw [value_encode, base64.decode_encode, unicode.wide_toUtf8]
    simp [passElement, encrypted, password, XmlNode.attributeValue, XmlNode.attributes,
      XmlNode.text, read]
  | some key =>
    have text := valid.logon.cipher (by simp [encrypted])
    simp [passElement, encrypted, password, XmlNode.attributeValue, XmlNode.attributes,
      XmlNode.text, text.read, keys.fromBase64_toBase64]

theorem readCredentials_setServer (protocol : server.protocol = site.server.protocol)
    (noUser : server.user = []) :
    readCredentials pugi base64 keys (setServer base64 keys protection node site)
        { server, credentials := { logonType := site.credentials.logonType } } =
      some { server := { server with user := site.server.user },
             credentials := keptCredentials site.credentials } := by
  unfold readCredentials
  dsimp only
  by_cases anonymous : site.credentials.logonType = .anonymous
  · rw [if_pos anonymous, valid.logon.anonymousUser anonymous]
    have cleared : { server with user := [] } = server := by rw [← noUser]
    have unstored := valid.logon.noPassword (by simp [anonymous]) (by simp [anonymous])
    have kept : keptCredentials site.credentials = { logonType := site.credentials.logonType } := by
      unfold keptCredentials
      rw [unstored.1, unstored.2, valid.logon.noKeyFile (by simp [anonymous]),
        if_neg (by simp [anonymous])]
    rw [cleared, kept]
  · have user : (if server.protocol.hasUser then
        getTextElement pugi (setServer base64 keys protection node site) "User" else []) =
          site.server.user := by
      rw [protocol]
      exact getTextElement_user base64 keys protection node valid anonymous
    have account :=
      getTextElement_account base64 keys protection node kiosk master valid anonymous
    have userGiven : ¬(server.protocol.hasUser = true ∧ site.server.user = [] ∧
        site.credentials.logonType ≠ .interactive ∧ site.credentials.logonType ≠ .ask) := by
      rintro ⟨hasUser, missing, notInteractive, notAsk⟩
      rw [protocol] at hasUser
      exact (valid.logon.userNeeded anonymous hasUser missing).elim notInteractive notAsk
    rw [if_neg anonymous, user, if_neg userGiven]
    by_cases stored : site.credentials.logonType = .normal ∨
        site.credentials.logonType = .account
    · have passGiven : ¬(site.credentials.password = [] ∧ (!server.protocol.hasUser) = true) := by
        rintro ⟨missing, noUser⟩
        rw [protocol, Bool.not_eq_true'] at noUser
        exact valid.logon.passwordNeeded noUser stored missing
      have noKeyFile : site.credentials.keyFile = [] := by
        refine valid.logon.noKeyFile fun key => ?_
        rw [key] at stored
        exact absurd stored (by decide)
      rw [if_pos stored, readPass_setServer base64 keys protection node kiosk master valid stored]
      dsimp only
      rw [if_neg passGiven, enterCredentials_fresh _ _ _ (by exact anonymous), account]
      simp [keptCredentials, noKeyFile]
    · have unstored := valid.logon.noPassword (fun normal => stored (.inl normal))
        fun account => stored (.inr account)
      rw [if_neg stored]
      by_cases key : site.credentials.logonType = .key
      · have keyFile :=
          getTextElement_keyfile base64 keys protection node kiosk master valid anonymous
        have keyUser : ¬(server.protocol = .sftp ∧ site.server.user = []) := by
          rintro ⟨sftp, missing⟩
          refine userGiven ⟨by rw [sftp]; rfl, missing, ?_, ?_⟩ <;> simp [key]
        rw [if_pos key, if_neg keyUser, enterCredentials_fresh _ _ _ (by exact anonymous),
          account, keyFile]
        simp [keptCredentials, unstored]
      · rw [if_neg key, enterCredentials_fresh _ _ _ (by exact anonymous), account]
        simp [keptCredentials, unstored, valid.logon.noKeyFile key]

theorem readLogon_setServer (protocol : server.protocol = site.server.protocol)
    (noUser : server.user = []) :
    readLogon pugi base64 keys (setServer base64 keys protection node site) { server } =
      some { server := { server with user := site.server.user },
             credentials := keptCredentials site.credentials } := by
  have child := child_logontype base64 keys protection node site
  rw [protect_read protection kiosk master valid.logon, ite_self] at child
  have range : site.credentials.logonType.ctorIdx < 8 := by
    cases site.credentials.logonType <;> decide
  have logonType : intOfInt64 (getTextElementInt pugi
      (setServer base64 keys protection node site) "Logontype") =
        (site.credentials.logonType.ctorIdx : Int) := by
    rw [getTextElementInt_of_child (by omega) (by omega) child]
    exact intOfInt64_of_range (by omega) (by omega)
  unfold readLogon
  rw [logonType]
  dsimp only
  rw [if_neg (by omega), toNat_natCast, LogonType.ofNat_ctorIdx, setLogonType_fresh noUser]
  exact readCredentials_setServer base64 keys protection node kiosk master valid protocol noUser

end Logon

section Texts

theorem utf8Bytes_nameText {name : List UInt8} (ascii : ∀ byte ∈ name, byte.toNat < 128) :
    utf8Bytes (nameText name) = name := by
  have single : ∀ byte : Fin 128, String.utf8EncodeChar (Char.ofNat byte.val) =
      [UInt8.ofNat byte.val] := by decide
  unfold utf8Bytes nameText
  rw [String.toList_ofList, flatMap_map]
  induction name with
  | nil => rfl
  | cons byte name induction =>
    obtain ⟨first, ascii⟩ := forall_mem_cons.mp ascii
    rw [flatMap_cons, induction ascii, single ⟨byte.toNat, first⟩, UInt8.ofNat_toNat]
    rfl

theorem ascii_of_hasParameter {protocol : ServerProtocol} {name : List UInt8}
    (known : protocol.hasParameter name = true) : ∀ byte ∈ name, byte.toNat < 128 := by
  have table : protocol.extraServerParameterTraits.all
      (fun parameter => (asciiBytes parameter.1).all fun byte => byte.toNat < 128) = true := by
    cases protocol <;> decide
  obtain ⟨parameter, member, matching⟩ := any_eq_true.mp known
  have same : name = asciiBytes parameter.1 := eq_of_beq (Bool.and_eq_true_iff.mp matching).2
  intro byte byteMember
  have ascii := all_eq_true.mp (all_eq_true.mp table parameter member) byte
    (same ▸ byteMember)
  exact of_decide_eq_true ascii

theorem not_blank_of_trimmed {text : WString} (unicode : IsUnicode text)
    (unchanged : trimmed text = text) (given : text ≠ []) : blankText (toUtf8 text) = false := by
  obtain ⟨source, rfl⟩ := unicode
  rw [toUtf8_wide]
  refine Bool.eq_false_iff.mpr fun blank => given ?_
  have dropped : (wide source).dropWhile isTrimmed = [] := by
    refine dropWhile_eq_nil_iff.mpr fun char member => ?_
    obtain ⟨letter, letterMember, rfl⟩ := mem_map.mp member
    have white := all_eq_true.mp blank letter letterMember
    simp only [Bool.or_eq_true, beq_iff_eq] at white
    rcases white with ((rfl | rfl) | rfl) | rfl <;> rfl
  rw [← unchanged, trimmed, dropped]
  rfl

end Texts

section Settings

variable (valid : SiteRead pugi site)
include valid

theorem timezone_setServer :
    intOfInt64 (getTextElementInt pugi (setServer base64 keys protection node site)
      "TimezoneOffset") = site.server.timezoneOffset := by
  have child := child_timezoneOffset base64 keys protection node site
  have range := valid.timezoneOffset
  split at child
  case isTrue =>
    rw [getTextElementInt_of_child (by omega) (by omega) child]
    exact intOfInt64_of_range (by omega) (by omega)
  case isFalse zero =>
    rw [getTextElementInt, childText_of_absent child, pugi.asLlong_empty, not_not.mp zero]
    rfl

theorem connectionLimit_setServer :
    (getTextElementInt pugi (setServer base64 keys protection node site)
      "MaximumMultipleConnections" % 2 ^ 32).toNat = site.connectionLimit := by
  have child := child_connectionLimit base64 keys protection node site
  have range := valid.connectionLimit
  split at child
  case isTrue =>
    rw [getTextElementInt_of_child (by omega) (by omega) child]
    omega
  case isFalse zero =>
    rw [getTextElementInt, childText_of_absent child, pugi.asLlong_empty]
    omega

omit valid in
theorem pasvMode_setServer :
    readPasvMode pugi (setServer base64 keys protection node site) =
      if site.server.protocol.hasFeature .transferMode then site.server.pasvMode
      else .default := by
  have child := child_pasvMode base64 keys protection node site
  unfold readPasvMode
  split at child
  case isTrue feature =>
    have notBlank : blankText (pasvModeText site.server.pasvMode) = false := by
      cases site.server.pasvMode <;> decide
    rw [childText_of_child child, pugi.value_of_not_blank _ notBlank, if_pos feature]
    cases site.server.pasvMode <;> rfl
  case isFalse noFeature =>
    rw [childText_of_absent child, pugi.value_empty, if_neg noFeature]
    rfl

def keptEncoding (server : CServer) : CharsetEncoding × WString :=
  if server.protocol.hasFeature .charset then (server.encodingType, server.customEncoding)
  else (.utf8, [])

theorem readEncoding_setServer (server : CServer) :
    readEncoding pugi (setServer base64 keys protection node site) server =
      some { server with
        encodingType := (keptEncoding site.server).1
        customEncoding := (keptEncoding site.server).2 } := by
  have typeChild := child_encoding base64 keys protection node site
    (show "EncodingType" ∈ ["EncodingType", "CustomEncoding"] by simp)
  have customChild := child_encoding base64 keys protection node site
    (show "CustomEncoding" ∈ ["EncodingType", "CustomEncoding"] by simp)
  rw [lookup_encodingElements] at typeChild customChild
  unfold readEncoding keptEncoding
  split at typeChild
  case isTrue feature =>
    rw [if_pos rfl] at typeChild
    have notBlank : blankText (encodingText site.server.encodingType) = false := by
      cases site.server.encodingType <;> decide
    rw [childText_of_child typeChild, pugi.value_of_not_blank _ notBlank, if_pos feature]
    cases encoding : site.server.encodingType with
    | custom =>
      have given := valid.customEncoding.mp encoding
      rw [if_pos feature, if_neg (by decide), if_pos ⟨rfl, encoding⟩] at customChild
      rw [if_pos (by rfl), getTextElement_of_child valid.encoding_text customChild]
      dsimp only
      rw [if_neg given, CServer.setEncodingType, if_neg fun both => given both.2]
    | utf8 =>
      have missing : site.server.customEncoding = [] := by
        refine Decidable.byContradiction fun given => ?_
        rw [valid.customEncoding.mpr given] at encoding
        cases encoding
      rw [if_neg (by decide), missing]
      rfl
  case isFalse noFeature =>
    rw [childText_of_absent typeChild, pugi.value_empty, if_neg noFeature, if_neg (by decide)]
    rfl

theorem readCommands_setServer {server : CServer}
    (protocol : server.protocol = site.server.protocol) (none : server.postLoginCommands = []) :
    readCommands pugi (setServer base64 keys protection node site) server =
      some { server with postLoginCommands := site.server.postLoginCommands } := by
  have child := child_commands base64 keys protection node site
  unfold readCommands
  cases feature : server.protocol.hasFeature .postLoginCommands with
  | false =>
    rw [if_neg Bool.false_ne_true, valid.noCommands (protocol ▸ feature), ← none]
  | true =>
    rw [if_pos rfl, child, CServer.setPostLoginCommands, if_pos feature, commandElements,
      ← protocol]
    by_cases given : site.server.postLoginCommands = []
    · rw [if_neg fun both => both.2 given, given]
      rfl
    · have texts : (site.server.postLoginCommands.map fun command =>
          wide (pugi.value (toUtf8 command))) = site.server.postLoginCommands :=
        (map_congr_left fun command member => (valid.command_texts command member).read).trans
          (map_id _)
      have elements : (XmlNode.mk "PostLoginCommands" "" []
          (site.server.postLoginCommands.map fun command =>
            element "Command" (toUtf8 command))).childrenNamed "Command" =
          site.server.postLoginCommands.map fun command =>
            element "Command" (toUtf8 command) := by
        refine filter_eq_self.mpr fun child member => ?_
        obtain ⟨command, -, rfl⟩ := mem_map.mp member
        rfl
      have nonempty : site.server.postLoginCommands.filter (fun command => command ≠ []) =
          site.server.postLoginCommands :=
        filter_eq_self.mpr fun command member =>
          decide_eq_true (valid.commands command member)
      rw [if_pos ⟨feature, given⟩]
      dsimp only [head?_cons]
      have read : (site.server.postLoginCommands.map fun command =>
          element "Command" (toUtf8 command)).map
            (fun command : XmlNode => wide (pugi.value command.text)) =
          site.server.postLoginCommands := by
        rw [map_map]
        exact texts
      rw [elements, read, nonempty]

theorem readName_setServer :
    readName pugi (setServer base64 keys protection node site) = site.name := by
  have child := child_name base64 keys protection node site
  unfold readName
  split at child
  case isTrue given =>
    have notBlank := not_blank_of_trimmed valid.name_text valid.name_trimmed given
    have name : getTextElement pugi (setServer base64 keys protection node site) "Name" =
        site.name := by
      rw [getTextElement, childText_of_child child, pugi.value_of_not_blank _ notBlank,
        valid.name_text.wide_toUtf8]
    rw [name, valid.name_trimmed]
    exact if_neg given
  case isFalse missing =>
    rw [getTextElement, childText_of_absent child, pugi.value_empty, not_not.mp missing]
    have text : (setServer base64 keys protection node site).text = "" := rfl
    rw [text, pugi.value_empty]
    rfl

omit valid in
theorem bypassProxy_setServer :
    decide (getTextElementInt pugi (setServer base64 keys protection node site)
      "BypassProxy" = 1) = site.server.bypassProxy := by
  have child := child_bypassProxy base64 keys protection node site
  have number : (if site.server.bypassProxy then "1" else "0") =
      toString (if site.server.bypassProxy then (1 : Int) else 0) := by
    cases site.server.bypassProxy <;> rfl
  rw [number] at child
  rw [getTextElementInt_of_child (by split <;> omega) (by split <;> omega) child]
  cases site.server.bypassProxy <;> rfl

theorem parametersOf_setServer :
    parametersOf pugi (setServer base64 keys protection node site) =
      site.server.extraParameters := by
  unfold parametersOf
  rw [childrenNamed_parameter, parameterElements, map_map]
  refine (map_congr_left fun parameter member => ?_).trans (map_id _)
  have ascii := ascii_of_hasParameter (valid.parameters.known parameter member)
  have text := valid.parameter_texts parameter member
  exact Prod.ext (utf8Bytes_nameText ascii) text.read

end Settings

def keptSite (site : Site Key) : Site Key where
  server := { site.server with
    pasvMode := if site.server.protocol.hasFeature .transferMode then site.server.pasvMode
      else .default
    encodingType := (keptEncoding site.server).1
    customEncoding := (keptEncoding site.server).2 }
  credentials := keptCredentials site.credentials
  name := site.name
  connectionLimit := site.connectionLimit

theorem getServer_setServer_of_read
    (kiosk : protection.kioskMode = false) (master : protection.masterKey = none)
    (valid : SiteRead pugi site) :
    getServer pugi base64 keys (setServer base64 keys protection node site) {} =
      some (keptSite site) := by
  have zone := valid.timezoneOffset
  unfold getServer
  dsimp only
  rw [readServer_setServer base64 keys protection node valid]
  dsimp only [Bind.bind, Option.bind]
  rw [readLogon_setServer base64 keys protection node kiosk master valid (by rfl) (by rfl)]
  dsimp only
  rw [CServer.setTimezoneOffset, timezone_setServer base64 keys protection node valid,
    if_neg (by omega)]
  dsimp only
  rw [readEncoding_setServer base64 keys protection node valid]
  dsimp only
  rw [readCommands_setServer base64 keys protection node valid (by rfl) (by rfl)]
  dsimp only
  have parameters : Parameters.setAll site.server.protocol [] site.server.extraParameters =
      site.server.extraParameters := Parameters.setAll_nil valid.parameters
  rw [readParameters_eq, parametersOf_setServer base64 keys protection node valid,
    pasvMode_setServer, connectionLimit_setServer base64 keys protection node valid,
    bypassProxy_setServer, readName_setServer base64 keys protection node valid]
  exact congrArg (fun extraParameters => some { keptSite site with
    server := { (keptSite site).server with extraParameters } }) parameters

structure SameSite (site again : Site Key) : Prop where
  host : again.server.host = site.server.host
  port : again.server.port = site.server.port
  protocol : again.server.protocol = site.server.protocol
  type : again.server.type = site.server.type
  logonType : again.credentials.logonType = site.credentials.logonType
  user : again.server.user = site.server.user
  password : again.credentials.password = site.credentials.password
  encrypted : again.credentials.encrypted = site.credentials.encrypted
  account : site.credentials.logonType = .account →
    again.credentials.account = site.credentials.account
  keyFile : site.credentials.logonType = .key →
    again.credentials.keyFile = site.credentials.keyFile
  timezoneOffset : again.server.timezoneOffset = site.server.timezoneOffset
  pasvMode : site.server.protocol.hasFeature .transferMode = true →
    again.server.pasvMode = site.server.pasvMode
  encoding : site.server.protocol.hasFeature .charset = true →
    again.server.encodingType = site.server.encodingType ∧
      again.server.customEncoding = site.server.customEncoding
  postLoginCommands : site.server.protocol.hasFeature .postLoginCommands = true →
    again.server.postLoginCommands = site.server.postLoginCommands
  connectionLimit : again.connectionLimit = site.connectionLimit
  bypassProxy : again.server.bypassProxy = site.server.bypassProxy
  name : again.name = site.name
  extraParameters : again.server.extraParameters = site.server.extraParameters

omit [DecidableEq Key] in
theorem sameSite_keptSite (site : Site Key) : SameSite site (keptSite site) where
  host := rfl
  port := rfl
  protocol := rfl
  type := rfl
  logonType := rfl
  user := rfl
  password := rfl
  encrypted := rfl
  account account := if_pos account
  keyFile _ := rfl
  timezoneOffset := rfl
  pasvMode feature := if_pos feature
  encoding feature := by simp [keptSite, keptEncoding, feature]
  postLoginCommands _ := rfl
  connectionLimit := rfl
  bypassProxy := rfl
  name := rfl
  extraParameters := rfl

section Plain

open Nat

def leadingNumber (chars : List Char) : Nat :=
  ofDigitChars 10 (chars.takeWhile Char.isDigit) 0

def signedNumber (text : String) : Int :=
  match text.toList with
  | '-' :: chars => -(leadingNumber chars : Int)
  | chars => leadingNumber chars

theorem leadingNumber_toDigits (number : Nat) :
    leadingNumber (toDigits 10 number) = number := by
  have digits : ∀ char ∈ toDigits 10 number, char.isDigit = true := fun char member =>
    isDigit_of_mem_toDigits (by decide) (by decide) member
  rw [leadingNumber, takeWhile_eq_self_iff.mpr digits, ofDigitChars_ten_toDigits]

theorem signedNumber_toString (number : Int) : signedNumber (toString number) = number := by
  cases number with
  | ofNat number =>
    have text : (toString (ofNat number)).toList = toDigits 10 number := toList_repr
    unfold signedNumber
    rw [text]
    split
    case h_1 chars minus =>
      have sign : '-' ∈ toDigits 10 number := by
        rw [minus]
        exact .head chars
      have digit : '-'.isDigit = true := isDigit_of_mem_toDigits (by decide) (by decide) sign
      cases digit
    case h_2 => exact congrArg ofNat (leadingNumber_toDigits number)
  | negSucc number =>
    have text : (toString (negSucc number)).toList = '-' :: toDigits 10 (number + 1) := by
      change ("-" ++ Nat.repr (number + 1)).toList = _
      rw [String.toList_append, toList_repr]
      rfl
    unfold signedNumber
    rw [text]
    exact congrArg (fun magnitude : Nat => -(magnitude : Int)) (leadingNumber_toDigits _)

def plainPugixml : Pugixml where
  value text := if blankText text then "" else text
  asLlong := signedNumber
  asInt := signedNumber
  asUint text := leadingNumber text.toList
  value_of_not_blank text notBlank := by simp [notBlank]
  value_empty := by decide
  value_value text := by cases blank : blankText text <;> simp [blank]
  asLlong_empty := by decide
  asLlong_toString number _ _ := signedNumber_toString number
  asInt_toString number _ _ := signedNumber_toString number
  asUint_toString number _ := by
    change leadingNumber (Nat.repr number).toList = number
    rw [toList_repr, leadingNumber_toDigits]

def lettersToSigns (letters : List Char) : List Char :=
  letters.flatMap fun letter => List.replicate letter.toNat 'A' ++ ['=']

def signsToLetters : List Char → Nat → List Char
  | [], _ => []
  | sign :: signs, seen =>
    if sign = 'A' then signsToLetters signs (seen + 1)
    else Char.ofNat seen :: signsToLetters signs 0

theorem signsToLetters_letter (signs : List Char) (length count : Nat) :
    signsToLetters (List.replicate length 'A' ++ '=' :: signs) count =
      Char.ofNat (count + length) :: signsToLetters signs 0 := by
  induction length generalizing count with
  | zero => rfl
  | succ length induction =>
    have shifted : count + (length + 1) = count + 1 + length := by omega
    rw [shifted]
    exact induction (count + 1)

theorem signsToLetters_lettersToSigns (letters : List Char) :
    signsToLetters (lettersToSigns letters) 0 = letters := by
  induction letters with
  | nil => rfl
  | cons letter letters induction =>
    have parts : lettersToSigns (letter :: letters) =
        replicate letter.toNat 'A' ++ '=' :: lettersToSigns letters := by
      simp [lettersToSigns]
    rw [parts, signsToLetters_letter, induction, zero_add, Char.ofNat_toNat]

def plainBase64 : Base64 where
  encode text := String.ofList (lettersToSigns text.toList)
  decode text := String.ofList (signsToLetters text.toList 0)
  decode_encode text := by
    rw [String.toList_ofList, signsToLetters_lettersToSigns, String.ofList_toList]
  encode_clean text char member := by
    rw [String.toList_ofList] at member
    obtain ⟨letter, -, member⟩ := List.mem_flatMap.mp member
    rcases List.mem_append.mp member with repeated | last
    · rw [List.eq_of_mem_replicate repeated]
      decide
    · rw [List.mem_singleton.mp last]
      decide

def plainKeys : KeyFormat Unit where
  fromBase64 text := if text = "key" then some () else none
  toBase64 _ := "key"
  fromBase64_toBase64 _ := rfl

def plainProtection : Protection Unit where
  kioskMode := false
  masterKey := none
  encrypt _ _ := none
  decryptor _ := none

end Plain

theorem savedSite_stable (pugi : Pugixml) (base64 : Base64) (keys : KeyFormat Key)
    (protection : Protection Key) (stored target : XmlNode) (site : Site Key)
    (kiosk : protection.kioskMode = false) (master : protection.masterKey = none)
    (accepted : getServer pugi base64 keys stored {} = some site) :
    ∃ again,
      getServer pugi base64 keys (setServer base64 keys protection target site) {} = some again ∧
      SameSite site again :=
  ⟨keptSite site, getServer_setServer_of_read base64 keys protection target kiosk master
      (siteRead_of_getServer base64 keys stored accepted),
    sameSite_keptSite site⟩

def keyFileNode : XmlNode :=
  .mk "Server" "work" []
    [element "Host" "example.org", element "Port" "2222", element "Protocol" "1",
      element "Logontype" "5", element "User" "me", element "Keyfile" "/home/me/key",
      element "TimezoneOffset" "-60", element "MaximumMultipleConnections" "2"]

theorem savedSite_stable_keyFile :
    ∃ site again, getServer plainPugixml plainBase64 plainKeys keyFileNode {} = some site ∧
      getServer plainPugixml plainBase64 plainKeys
        (setServer plainBase64 plainKeys plainProtection keyFileNode site) {} = some again ∧
      SameSite site again := by
  have accepted : (getServer plainPugixml plainBase64 plainKeys keyFileNode {}).isSome = true := by
    decide +kernel
  obtain ⟨site, accepted⟩ := Option.isSome_iff_exists.mp accepted
  obtain ⟨again, same⟩ := savedSite_stable plainPugixml plainBase64 plainKeys plainProtection
    keyFileNode keyFileNode site rfl rfl accepted
  exact ⟨site, again, accepted, same⟩

end FileZilla.XmlSite
