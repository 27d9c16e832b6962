import FileZilla.CommonUi.SiteRoundTrip
import FileZilla.Interface.ServerStorage

namespace FileZilla.ServerStorage

open XmlSite

variable {Key : Type} [DecidableEq Key]

inductive Accepted (pugi : Pugixml) (base64 : Base64) (keys : KeyText Key) : Site Key → Prop
  | read (node : XmlNode) (site : Site Key) (sitePath : WString)
      (read : XmlSite.getServer pugi base64 keys.toKeyFormat node {} = some site) :
      Accepted pugi base64 keys { site with sitePath }
  | entered (logonType : LogonType) (host : WString) (port : Nat) (user pass : WString)
      (hint : ServerProtocol) (site : Site Key) (path : Option WString) (sitePath : WString)
      (parsed : SiteUrl.parseUrl (({} : Site Key).setLogonType logonType) host port user pass hint =
        .ok (site, path)) :
      Accepted pugi base64 keys { site with sitePath }

/-- Unlike a valid site, one that has been entered may have no host. -/
structure Storable (site : Site Key) : Prop where
  port : 1 ≤ site.server.port ∧ site.server.port ≤ 65535
  protocol : site.server.protocol ≠ .unknown
  type : site.server.protocol.hasFeature .serverType = false → site.server.type = .unix
  anonymousUser : site.credentials.logonType = .anonymous → site.server.user = []
  anonymousPassword : site.credentials.logonType = .anonymous → site.credentials.password = []
  plain : site.credentials.logonType ≠ .normal → site.credentials.logonType ≠ .account →
    site.credentials.encrypted = none
  noKeyFile : site.credentials.logonType ≠ .key → site.credentials.keyFile = []
  timezoneOffset : -(60 * 24) ≤ site.server.timezoneOffset ∧ site.server.timezoneOffset ≤ 60 * 24
  connectionLimit : site.connectionLimit < 2 ^ 32
  customEncoding : site.server.encodingType = .custom ↔ site.server.customEncoding ≠ []
  parameters : Parameters.Valid site.server.protocol site.server.extraParameters
  unicode : ∀ parameter ∈ site.server.extraParameters, IsUnicode parameter.2

theorem storable_of_accepted {pugi : Pugixml} {base64 : Base64} {keys : KeyText Key}
    {site : Site Key} (accepted : Accepted pugi base64 keys site) : Storable site := by
  cases accepted with
  | read node site sitePath read =>
    have valid := siteRead_of_getServer base64 keys.toKeyFormat node read
    exact {
      __ := valid
      plain := fun notNormal notAccount => (valid.logon.noPassword notNormal notAccount).2
      noKeyFile := valid.logon.noKeyFile
      unicode := fun parameter member => (valid.parameter_texts parameter member).unicode }
  | entered logonType host port user pass hint site path sitePath parsed =>
    obtain ⟨host, port, protocol, user, logonType, password, rfl, valid, known, anonymous⟩ :=
      SiteUrl.parseUrl_fresh parsed
    exact {
      port := valid
      protocol := known
      type := fun _ => rfl
      anonymousUser := fun logon => (anonymous logon).1
      anonymousPassword := fun logon => (anonymous logon).2
      plain := fun _ _ => rfl
      noKeyFile := fun _ => rfl
      timezoneOffset := by simp [freshServer]
      connectionLimit := (by decide : 0 < 2 ^ 32)
      customEncoding := by simp [freshServer]
      parameters := Parameters.valid_nil protocol
      unicode := fun _ member => (by cases member) }

def storedCredentials (protection : Protection Key) (credentials : Credentials Key) :
    Credentials Key :=
  let credentials := protect protection credentials
  if protection.kioskMode ∧ credentials.logonType = .profile then
    { credentials with logonType := .ask }
  else credentials

def LogonReadable (protection : Protection Key) (credentials : Credentials Key) : Prop :=
  (protection.kioskMode = true → credentials.encrypted = none) ∧
  ((storedCredentials protection credentials).logonType = .account → credentials.account ≠ []) ∧
  (credentials.logonType = .key → credentials.keyFile ≠ [])

instance (protection : Protection Key) (credentials : Credentials Key) :
    Decidable (LogonReadable protection credentials) :=
  inferInstanceAs (Decidable (_ ∧ _ ∧ _))

section Credentials

variable (protection : Protection Key) {credentials : Credentials Key}

inductive ProtectedAs (protection : Protection Key) (credentials : Credentials Key) :
    Credentials Key → Prop
  | unstored (notNormal : credentials.logonType ≠ .normal)
      (notAccount : credentials.logonType ≠ .account) :
      ProtectedAs protection credentials { credentials with password := [], encrypted := none }
  | stored (password : WString) (encrypted : Option Key)
      (logon : credentials.logonType = .normal ∨ credentials.logonType = .account)
      (noKiosk : protection.kioskMode = false) :
      ProtectedAs protection credentials { credentials with password, encrypted }
  | asked (encrypted : Option Key)
      (logon : credentials.logonType = .normal ∨ credentials.logonType = .account)
      (kept : encrypted = if protection.kioskMode then credentials.encrypted else none) :
      ProtectedAs protection credentials
        { credentials with logonType := .ask, password := [], encrypted }

theorem encryptPassword_cases (credentials : Credentials Key) (key : Key) :
    (∃ password, encryptPassword protection credentials key =
      { credentials with password, encrypted := some key }) ∨
    encryptPassword protection credentials key =
      { credentials with logonType := .ask, password := [], encrypted := none } := by
  unfold encryptPassword
  split
  · exact .inl ⟨_, rfl⟩
  · exact .inr rfl

theorem protectedAs_protect
    (plain : credentials.logonType ≠ .normal → credentials.logonType ≠ .account →
      credentials.encrypted = none)
    (anonymous : credentials.logonType = .anonymous → credentials.password = []) :
    ProtectedAs protection credentials (protect protection credentials) := by
  unfold protect
  split
  case isTrue unstored =>
    have cleared : credentials.setPass [] =
        { credentials with password := [], encrypted := none } := by
      have noKey := plain unstored.1 unstored.2
      unfold Credentials.setPass
      split
      case isTrue logon =>
        have noPassword := anonymous logon
        cases credentials
        simp_all
      case isFalse =>
        cases credentials
        simp_all
    rw [cleared]
    exact .unstored unstored.1 unstored.2
  case isFalse stored =>
    have logon : credentials.logonType = .normal ∨ credentials.logonType = .account := by
      rw [not_and_or, not_not, not_not] at stored
      exact stored
    split
    case isTrue kiosk => exact .asked credentials.encrypted logon (if_pos kiosk).symm
    case isFalse noKiosk =>
      have noKiosk := Bool.eq_false_iff.mpr noKiosk
      have encrypts (password : WString) (encrypted : Option Key) (key : Key) :
          ProtectedAs protection credentials
            (encryptPassword protection { credentials with password, encrypted } key) := by
        rcases encryptPassword_cases protection { credentials with password, encrypted } key
          with ⟨cipher, same⟩ | same
        · rw [same]
          exact .stored cipher (some key) logon noKiosk
        · rw [same]
          exact .asked none logon (by rw [noKiosk]; rfl)
      split
      case h_1 => exact .stored credentials.password credentials.encrypted logon noKiosk
      case h_2 key _ _ => exact encrypts credentials.password credentials.encrypted key
      case h_3 key own _ _ =>
        split
        case isTrue => exact .stored credentials.password credentials.encrypted logon noKiosk
        case isFalse =>
          split
          case h_1 => exact .stored credentials.password credentials.encrypted logon noKiosk
          case h_2 =>
            split
            case h_1 => exact .asked none logon (by rw [noKiosk]; rfl)
            case h_2 password _ => exact encrypts password none key

omit [DecidableEq Key] in
theorem ProtectedAs.keyFile {result : Credentials Key}
    (protectedAs : ProtectedAs protection credentials result) :
    result.keyFile = credentials.keyFile := by
  cases protectedAs <;> rfl

end Credentials

section Row

variable (queries : QueryString) (keys : KeyText Key) (protection : Protection Key)

omit [DecidableEq Key] in
theorem bindLogon_eq (kioskMode : Bool) (user : WString) (credentials : Credentials Key)
    (bound : ServerRow) :
    bindLogon keys kioskMode user credentials bound =
      { bound with
        user := if credentials.logonType = .anonymous then none else some user
        password :=
          if LogonStored credentials.logonType ∧ kioskMode = false then
            some (passwordText keys credentials)
          else none
        account :=
          if LogonStored credentials.logonType ∧ kioskMode = false then
            textOrNull credentials.account
          else none
        keyFile :=
          if credentials.logonType = .anonymous then none else textOrNull credentials.keyFile
        logonType := some (logonTypeValue
          (if LogonStored credentials.logonType ∧ kioskMode = true then .ask
            else credentials.logonType) credentials.encrypted.isSome) } := by
  unfold bindLogon
  cases logon : credentials.logonType <;> cases kioskMode <;> simp [LogonStored]

theorem saveServer_eq (bound : ServerRow) (site : Site Key) :
    saveServer queries keys protection bound site =
      let logon := bindLogon keys protection.kioskMode site.server.user
        (protect protection site.credentials) {}
      { host := some site.server.host
        port := some site.server.port
        __ := logon
        protocol := some site.server.protocol.value
        type := some ((site.server.type.value : Int) + 1)
        timezoneOffset := some site.server.timezoneOffset
        transferMode := some (transferModeText site.server.pasvMode)
        maxConnections := some site.connectionLimit
        encoding := some (encodingText site.server)
        bypassProxy := some (if site.server.bypassProxy then 1 else 0)
        postLoginCommands :=
          if site.server.protocol.hasFeature .postLoginCommands then
            commandsText site.server.postLoginCommands
          else none
        name := textOrNull site.name
        parameters :=
          if site.server.extraParameters = [] then bound.parameters
          else some (queries.toText site.server.extraParameters)
        sitePath := textOrNull site.sitePath } := by
  unfold saveServer bindParameters
  rw [bindLogon_eq, bindLogon_eq]
  by_cases parameters : site.server.extraParameters = []
  · rw [if_neg (not_not.mpr parameters), if_pos parameters]
    rfl
  · rw [if_pos parameters, if_neg parameters]
    rfl

theorem getColumnText_textOrNull (text : WString) : getColumnText (textOrNull text) = text := by
  unfold textOrNull
  split
  case isTrue empty => exact empty.symm
  case isFalse => rfl

theorem logonTypeValue_bits (logonType : LogonType) (encrypted : Bool) :
    let value := BitVec.ofInt 64 (logonTypeValue logonType encrypted)
    decide (value &&& encryptedBit ≠ 0) = encrypted ∧
      (value &&& ~~~encryptedBit).toInt = logonType.ctorIdx := by
  cases logonType <;> cases encrypted <;> decide

omit [DecidableEq Key] in
theorem parsePassword_passwordText {credentials : Credentials Key}
    (named : credentials.logonType ≠ .anonymous) :
    parsePassword keys credentials.encrypted.isSome (passwordText keys credentials) =
      some (credentials.password, credentials.encrypted) := by
  have password : credentials.getPass = credentials.password := if_neg named
  unfold parsePassword passwordText
  cases encrypted : credentials.encrypted with
  | none => simp [password]
  | some key =>
    have clean : (wide (keys.toBase64 key)).findIdx? (· == ' '.toNat) = none := by
      refine List.findIdx?_eq_none_iff.mpr fun char member => ?_
      obtain ⟨letter, letterMember, rfl⟩ := List.mem_map.mp member
      refine beq_eq_false_iff_ne.mpr fun same => ?_
      have space : letter = ' ' := Char.toNat_inj.mp same
      exact keys.toBase64_clean key (space ▸ letterMember)
    have text : wide (keys.toBase64 key) ++ wide " " ++ credentials.getPass =
        wide (keys.toBase64 key) ++ 32 :: credentials.password := by
      rw [List.append_assoc, password]
      rfl
    have found : (wide (keys.toBase64 key) ++ 32 :: credentials.password).findIdx?
        (· == ' '.toNat) = some (wide (keys.toBase64 key)).length := by
      rw [List.findIdx?_append, clean, List.findIdx?_cons]
      simp
    dsimp only [Option.isSome]
    rw [if_pos rfl, text, found, Option.map_some, List.take_left, toUtf8_wide,
      keys.fromBase64_toBase64, List.drop_length_add_append]
    rfl

theorem getColumnInt_of_range {number : Int} (first : -2 ^ 31 ≤ number) (last : number < 2 ^ 31) :
    getColumnInt (some number) = number := by
  rw [getColumnInt, Option.map_some, Option.getD_some, intOfInt64_of_range first last]

variable {site : Site Key} {server : CServer}

theorem parseAddress_saveServer (storable : Storable site) (bound : ServerRow) :
    parseAddress (saveServer queries keys protection bound site) =
      if site.server.host = [] then none
      else some (freshServer site.server.host site.server.port site.server.protocol
        site.server.type) := by
  obtain ⟨first, last, same⟩ := ServerProtocol.ofValue_value storable.protocol
  have max : ServerProtocol.maxValue = 24 := rfl
  have port := storable.port
  have range : site.server.type.value < 10 := by cases site.server.type <;> decide
  have readPort : getColumnInt (some (site.server.port : Int)) = site.server.port :=
    getColumnInt_of_range (by omega) (by omega)
  have readProtocol : getColumnInt (some site.server.protocol.value) =
      site.server.protocol.value := getColumnInt_of_range (by omega) (by omega)
  have readType : getColumnInt (some ((site.server.type.value : Int) + 1)) =
      site.server.type.value + 1 := getColumnInt_of_range (by omega) (by omega)
  rw [saveServer_eq]
  unfold parseAddress
  dsimp only [getColumnText, Option.getD_some]
  split
  case isTrue => rfl
  case isFalse host =>
    have setHost : CServer.empty.setHost site.server.host site.server.port =
        some (freshServer site.server.host site.server.port
          (.fromPort site.server.port) .unix) := by
      unfold CServer.setHost
      rw [if_neg (by simp [host]; omega)]
      rfl
    rw [readPort, readProtocol, readType, if_neg (by omega), Int.toNat_natCast, setHost]
    dsimp only [Bind.bind, Option.bind]
    rw [if_neg (by omega), setProtocol_fresh, same]
    cases feature : site.server.protocol.hasFeature .serverType with
    | false =>
      rw [if_neg (by simp [freshServer, feature]), storable.type feature]
    | true =>
      rw [if_pos (by simp [freshServer, feature]), if_neg (by omega), setType_fresh, feature,
        if_pos rfl]
      have index : ((site.server.type.value : Int) + 1).toNat - 1 =
          site.server.type.value := by omega
      rw [index]
      exact congrArg _ (congrArg _ (ServerType.ofNat_ctorIdx _))

omit [DecidableEq Key] in
theorem parseCredentials_fresh (row : ServerRow) (encrypted : Bool)
    {logonType : LogonType} (named : logonType ≠ .anonymous) :
    parseCredentials keys row encrypted { server, credentials := { logonType } } =
      (parsePassword keys encrypted (getColumnText row.password)).bind fun password =>
        if getColumnText row.account = [] ∧ logonType = .account then none
        else if getColumnText row.keyFile = [] ∧ logonType = .key then none
        else
          some { server := { server with user := getColumnText row.user }
                 credentials := {
                   logonType
                   password := password.1
                   account := getColumnText row.account
                   keyFile := getColumnText row.keyFile
                   encrypted := password.2 } } := by
  unfold parseCredentials
  rw [if_neg named]
  simp [Site.setUser, Credentials.setPass, named]

omit [DecidableEq Key] in
theorem parseLogon_bindLogon (kioskMode : Bool) (user : WString) (credentials : Credentials Key)
    (noUser : server.user = []) :
    parseLogon keys (bindLogon keys kioskMode user credentials {}) { server } =
      parseCredentials keys (bindLogon keys kioskMode user credentials {})
        credentials.encrypted.isSome
        { server, credentials := {
          logonType := if LogonStored credentials.logonType ∧ kioskMode = true then .ask
            else credentials.logonType } } := by
  have column : (bindLogon keys kioskMode user credentials {}).logonType = some (logonTypeValue
        (if LogonStored credentials.logonType ∧ kioskMode = true then .ask
          else credentials.logonType) credentials.encrypted.isSome) := by
    rw [bindLogon_eq]
  generalize (if LogonStored credentials.logonType ∧ kioskMode = true then .ask
    else credentials.logonType) = logonType at column ⊢
  obtain ⟨encrypted, index⟩ := logonTypeValue_bits logonType credentials.encrypted.isSome
  have range : logonType.ctorIdx < 8 := by cases logonType <;> decide
  unfold parseLogon
  dsimp only
  rw [column, getColumnInt64, Option.getD_some, encrypted, index, if_neg (by omega),
    Int.toNat_natCast, LogonType.ofNat_ctorIdx, setLogonType_fresh noUser]

omit [DecidableEq Key] in
theorem parsePassword_bindLogon {credentials : Credentials Key}
    (named : credentials.logonType ≠ .anonymous) (kioskMode : Bool) (user : WString) :
    parsePassword keys credentials.encrypted.isSome
        (getColumnText (bindLogon keys kioskMode user credentials {}).password) =
      if LogonStored credentials.logonType ∧ kioskMode = false then
        some (credentials.password, credentials.encrypted)
      else if credentials.encrypted = none then some ([], none)
      else none := by
  rw [bindLogon_eq]
  dsimp only
  split
  case isTrue => exact parsePassword_passwordText keys named
  case isFalse => cases credentials.encrypted <;> rfl

omit [DecidableEq Key] in
theorem parseLogon_named {credentials : Credentials Key}
    (named : credentials.logonType ≠ .anonymous) (kioskMode : Bool) (user : WString)
    (noUser : server.user = []) :
    parseLogon keys (bindLogon keys kioskMode user credentials {}) { server } =
      let logonType := if LogonStored credentials.logonType ∧ kioskMode = true then .ask
        else credentials.logonType
      let account := if LogonStored credentials.logonType ∧ kioskMode = false then
        credentials.account else []
      (if LogonStored credentials.logonType ∧ kioskMode = false then
          some (credentials.password, credentials.encrypted)
        else if credentials.encrypted = none then some ([], none)
        else none).bind fun password =>
          if account = [] ∧ logonType = .account then none
          else if credentials.keyFile = [] ∧ logonType = .key then none
          else
            some { server := { server with user }
                   credentials := {
                     logonType
                     password := password.1
                     account
                     keyFile := credentials.keyFile
                     encrypted := password.2 } } := by
  have logonType : (if LogonStored credentials.logonType ∧ kioskMode = true then LogonType.ask
      else credentials.logonType) ≠ .anonymous := by
    split
    · exact nofun
    · exact named
  have columns : getColumnText (bindLogon keys kioskMode user credentials {}).user = user ∧
      getColumnText (bindLogon keys kioskMode user credentials {}).keyFile = credentials.keyFile ∧
      getColumnText (bindLogon keys kioskMode user credentials {}).account =
        if LogonStored credentials.logonType ∧ kioskMode = false then
          credentials.account else [] := by
    rw [bindLogon_eq]
    dsimp only
    rw [if_neg named, if_neg named, getColumnText_textOrNull]
    refine ⟨rfl, rfl, ?_⟩
    split
    · exact getColumnText_textOrNull _
    · rfl
  rw [parseLogon_bindLogon keys _ _ _ noUser, parseCredentials_fresh keys _ _ logonType,
    parsePassword_bindLogon keys named, columns.1, columns.2.1, columns.2.2]

/-- The account is only stored along with a password. -/
def returnedCredentials (protection : Protection Key) (credentials : Credentials Key) :
    Credentials Key :=
  let stored := storedCredentials protection credentials
  { stored with account := if LogonStored stored.logonType then credentials.account else [] }

theorem parseLogon_saved (storable : Storable site) (noUser : server.user = []) :
    parseLogon keys (bindLogon keys protection.kioskMode site.server.user
        (protect protection site.credentials) {}) { server } =
      if LogonReadable protection site.credentials then
        some { server := { server with user := site.server.user }
               credentials := returnedCredentials protection site.credentials }
      else none := by
  have protectedAs := protectedAs_protect protection storable.plain storable.anonymousPassword
  obtain ⟨credentials, same⟩ : ∃ credentials, protect protection site.credentials = credentials :=
    ⟨_, rfl⟩
  rw [same] at protectedAs ⊢
  cases protectedAs with
  | unstored notNormal notAccount =>
    have noKey := storable.plain notNormal notAccount
    by_cases anonymous : site.credentials.logonType = .anonymous
    · have noKeyFile := storable.noKeyFile (by simp [anonymous])
      have cleared : { server with user := [] } = server := by rw [← noUser]
      rw [parseLogon_bindLogon keys _ _ _ noUser, storable.anonymousUser anonymous, cleared]
      simp [returnedCredentials, storedCredentials, same, LogonReadable, LogonStored,
        parseCredentials, anonymous, noKey, noKeyFile]
    · rw [parseLogon_named keys (by exact anonymous) _ _ noUser]
      by_cases profile : site.credentials.logonType = .profile
      · cases kiosk : protection.kioskMode <;>
          simp [returnedCredentials, storedCredentials, same, LogonReadable, LogonStored,
            profile, kiosk, noKey]
      · have unstored : ¬LogonStored site.credentials.logonType := by
          simp [LogonStored, notNormal, notAccount, profile]
        by_cases rejected : site.credentials.keyFile = [] ∧ site.credentials.logonType = .key
        · simp [storedCredentials, same, LogonReadable, LogonStored, noKey, rejected]
        · have readable : site.credentials.logonType = .key → site.credentials.keyFile ≠ [] :=
            fun key missing => rejected ⟨missing, key⟩
          simp [returnedCredentials, storedCredentials, same, LogonReadable, unstored, notAccount,
            profile, noKey, rejected]
          exact readable
  | stored password encrypted logon noKiosk =>
    have named : site.credentials.logonType ≠ .anonymous := by
      intro anonymous
      rw [anonymous] at logon
      exact logon.elim nofun nofun
    have notKey : site.credentials.logonType ≠ .key := by
      intro key
      rw [key] at logon
      exact logon.elim nofun nofun
    have stored : LogonStored site.credentials.logonType := logon.imp_right .inl
    rw [parseLogon_named keys (by exact named) _ _ noUser]
    by_cases rejected : site.credentials.account = [] ∧ site.credentials.logonType = .account
    · simp [storedCredentials, same, LogonReadable, LogonStored, noKiosk, rejected]
    · have readable : site.credentials.logonType = .account → site.credentials.account ≠ [] :=
        fun account missing => rejected ⟨missing, account⟩
      simp [returnedCredentials, storedCredentials, same, LogonReadable, stored, noKiosk, notKey,
        rejected]
      exact readable
  | asked encrypted logon kept =>
    have notKey : site.credentials.logonType ≠ .key := by
      intro key
      rw [key] at logon
      exact logon.elim nofun nofun
    have readable : LogonReadable protection site.credentials ↔ encrypted = none := by
      rw [kept]
      cases kiosk : protection.kioskMode <;>
        simp [LogonReadable, storedCredentials, same, kiosk, notKey]
    rw [parseLogon_named keys (by simp) _ _ noUser]
    by_cases plain : encrypted = none
    · rw [if_pos (readable.mpr plain)]
      simp [returnedCredentials, storedCredentials, same, LogonStored, plain]
    · rw [if_neg (plain ∘ readable.mp)]
      simp [LogonStored, plain]

def returnedEncoding (server : CServer) : CharsetEncoding × WString :=
  if server.customEncoding = wide "Auto" ∨ server.customEncoding = wide "UTF-8" then (.utf8, [])
  else (server.encodingType, server.customEncoding)

theorem parseEncoding_saved (storable : Storable site) (server : CServer) :
    parseEncoding (getColumnText (some (encodingText site.server))) server =
      some { server with
        encodingType := (returnedEncoding site.server).1
        customEncoding := (returnedEncoding site.server).2 } := by
  have custom := storable.customEncoding
  unfold parseEncoding encodingText getColumnText
  rw [Option.getD_some]
  cases encodingType : site.server.encodingType with
  | utf8 =>
    have empty : site.server.customEncoding = [] :=
      not_not.mp fun given => by simpa [encodingType] using custom.mpr given
    simp [returnedEncoding, empty, encodingType, CServer.setEncodingType, wide]
  | custom =>
    have given : site.server.customEncoding ≠ [] := custom.mp encodingType
    by_cases named : site.server.customEncoding = wide "Auto" ∨
        site.server.customEncoding = wide "UTF-8"
    · simp [returnedEncoding, given, named, CServer.setEncodingType]
    · simp [returnedEncoding, given, named, CServer.setEncodingType, encodingType]

theorem parseCommands_saved (commands : List WString)
    (noCommands : server.postLoginCommands = []) (feature : Bool) :
    parseCommands (getColumnText (if feature then commandsText commands else none)) server =
      some server := by
  have text : getColumnText (if feature then commandsText commands else none) = [] := by
    unfold commandsText
    split
    · split <;> rfl
    · rfl
  have cleared : { server with postLoginCommands := [] } = server := by rw [← noCommands]
  rw [text, parseCommands]
  split
  case isTrue has =>
    rw [CServer.setPostLoginCommands, if_pos has]
    exact congrArg some cleared
  case isFalse => rfl

theorem parsePasvMode_saved (pasvMode : PasvMode) :
    parsePasvMode (getColumnText (some (transferModeText pasvMode))) = pasvMode := by
  cases pasvMode <;> decide

theorem foldl_setExtraParameter (server : CServer) (values : Parameters) :
    values.foldl (fun changed parameter => changed.setExtraParameter parameter.1 parameter.2)
        server =
      { server with
        extraParameters := Parameters.setAll server.protocol server.extraParameters values } := by
  induction values generalizing server with
  | nil => rfl
  | cons value values induction => exact induction (server.setExtraParameter value.1 value.2)

def returnedSite (protection : Protection Key) (bound : Parameters) (site : Site Key) :
    Site Key where
  server := {
    protocol := site.server.protocol
    type := site.server.type
    host := site.server.host
    user := site.server.user
    port := site.server.port
    timezoneOffset := site.server.timezoneOffset
    pasvMode := site.server.pasvMode
    bypassProxy := site.server.bypassProxy
    encodingType := (returnedEncoding site.server).1
    customEncoding := (returnedEncoding site.server).2
    postLoginCommands := []
    extraParameters := Parameters.setAll site.server.protocol [] bound }
  credentials := returnedCredentials protection site.credentials
  name := site.name.take 255
  sitePath := site.sitePath
  connectionLimit := site.connectionLimit

theorem parseServerFromRow_saved (storable : Storable site) (bound : ServerRow) :
    parseServerFromRow queries keys (saveServer queries keys protection bound site) =
      if site.server.host ≠ [] ∧ LogonReadable protection site.credentials then
        some (returnedSite protection (queries.pairs (getColumnText
          (saveServer queries keys protection bound site).parameters)) site)
      else none := by
  have zone := storable.timezoneOffset
  have limit := storable.connectionLimit
  unfold parseServerFromRow
  rw [parseAddress_saveServer queries keys protection storable bound]
  by_cases host : site.server.host = []
  · rw [if_pos host, if_neg (by simp [host])]
    rfl
  · rw [if_neg host]
    have logon (server : CServer) :
        parseLogon keys (saveServer queries keys protection bound site) { server } =
          parseLogon keys (bindLogon keys protection.kioskMode site.server.user
            (protect protection site.credentials) {}) { server } := by
      rw [saveServer_eq]
      rfl
    dsimp only [Bind.bind, Option.bind]
    rw [logon, parseLogon_saved keys protection storable (by rfl)]
    by_cases readable : LogonReadable protection site.credentials
    · rw [if_pos readable, if_pos ⟨host, readable⟩]
      generalize parameters : queries.pairs (getColumnText
        (saveServer queries keys protection bound site).parameters) = pairs
      have readZone : getColumnInt (some site.server.timezoneOffset) =
          site.server.timezoneOffset := getColumnInt_of_range (by omega) (by omega)
      have readLimit : (getColumnInt64 (some (site.connectionLimit : Int)) % 2 ^ 32).toNat =
          site.connectionLimit := by
        rw [getColumnInt64, Option.getD_some]
        omega
      have readBypass : decide (getColumnInt (some (if site.server.bypassProxy then 1 else 0)) = 1) =
          site.server.bypassProxy := by
        cases site.server.bypassProxy <;> decide
      rw [saveServer_eq]
      dsimp only
      rw [readZone, readLimit, readBypass, CServer.setTimezoneOffset, if_neg (by omega)]
      dsimp only
      rw [if_neg (by simp [getColumnInt64]), parseEncoding_saved storable]
      dsimp only
      rw [parseCommands_saved _ (by rfl)]
      dsimp only
      rw [foldl_setExtraParameter, parsePasvMode_saved, getColumnText_textOrNull,
        getColumnText_textOrNull]
      rfl
    · rw [if_neg readable, if_neg (fun both => readable both.2)]

end Row

end FileZilla.ServerStorage
