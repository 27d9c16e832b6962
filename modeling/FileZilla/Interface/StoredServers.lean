import FileZilla.Interface.ServerRow

namespace FileZilla.ServerStorage

open List

open XmlSite

variable {Key : Type} [DecidableEq Key]

structure Returned (protection : Protection Key) (site again : Site Key) : Prop where
  protocol : again.server.protocol = site.server.protocol
  host : again.server.host = site.server.host
  port : again.server.port = site.server.port
  type : again.server.type = site.server.type
  user : again.server.user = site.server.user
  logonType : again.credentials.logonType =
    (storedCredentials protection site.credentials).logonType
  password : again.credentials.password = (storedCredentials protection site.credentials).password
  encrypted : again.credentials.encrypted =
    (storedCredentials protection site.credentials).encrypted
  account : again.credentials.account = site.credentials.account
  keyFile : again.credentials.keyFile = site.credentials.keyFile
  timezoneOffset : again.server.timezoneOffset = site.server.timezoneOffset
  pasvMode : again.server.pasvMode = site.server.pasvMode
  connectionLimit : again.connectionLimit = site.connectionLimit
  encodingType : again.server.encodingType = site.server.encodingType
  customEncoding : again.server.customEncoding = site.server.customEncoding
  postLoginCommands : again.server.postLoginCommands = site.server.postLoginCommands
  bypassProxy : again.server.bypassProxy = site.server.bypassProxy
  name : again.name = site.name.take 255
  extraParameters : again.server.extraParameters = site.server.extraParameters
  sitePath : again.sitePath = site.sitePath

/-- Where the reader accepts a site and nothing is lost on the way -/
structure Kept (protection : Protection Key) (site : Site Key) : Prop where
  host : site.server.host ≠ []
  logon : LogonReadable protection site.credentials
  noCommands : site.server.postLoginCommands = []
  encoding : site.server.customEncoding ≠ wide "Auto" ∧
    site.server.customEncoding ≠ wide "UTF-8"
  storedAccount : site.credentials.account ≠ [] →
    LogonStored (storedCredentials protection site.credentials).logonType

/-- The parameters of a site without any are not taken for those that were bound before. -/
def Separate : Parameters → List (Site Key) → Prop
  | _, [] => True
  | bound, site :: sites =>
    (site.server.extraParameters = [] →
      ∀ parameter ∈ bound, site.server.protocol.hasParameter parameter.1 = false) ∧
    Separate
      (if site.server.extraParameters = [] then bound else site.server.extraParameters) sites

section Sites

variable (queries : QueryString) (keys : KeyText Key) (protection : Protection Key)

variable {site : Site Key}

theorem storedCredentials_keyFile (storable : Storable site) :
    (storedCredentials protection site.credentials).keyFile = site.credentials.keyFile := by
  have kept : (protect protection site.credentials).keyFile = site.credentials.keyFile :=
    (protectedAs_protect protection storable.plain storable.anonymousPassword).keyFile
  unfold storedCredentials
  dsimp only
  split <;> exact kept

theorem returnedEncoding_eq_iff (server : CServer) :
    ((returnedEncoding server).1 = server.encodingType ∧
      (returnedEncoding server).2 = server.customEncoding) ↔
      server.customEncoding ≠ wide "Auto" ∧ server.customEncoding ≠ wide "UTF-8" := by
  unfold returnedEncoding
  rw [← not_or]
  split
  case isTrue named =>
    refine iff_of_false (fun same => ?_) (not_not.mpr named)
    rw [← same.2] at named
    exact absurd named (by decide)
  case isFalse unnamed => exact iff_of_true ⟨rfl, rfl⟩ unnamed

open Parameters

theorem returned_returnedSite_iff (storable : Storable site) (bound : Parameters) :
    Returned protection site (returnedSite protection bound site) ↔
      site.server.postLoginCommands = [] ∧
      (site.server.customEncoding ≠ wide "Auto" ∧ site.server.customEncoding ≠ wide "UTF-8") ∧
      (site.credentials.account ≠ [] →
        LogonStored (storedCredentials protection site.credentials).logonType) ∧
      setAll site.server.protocol [] bound = site.server.extraParameters := by
  constructor
  · intro returned
    refine ⟨returned.postLoginCommands.symm,
      (returnedEncoding_eq_iff site.server).mp ⟨returned.encodingType, returned.customEncoding⟩,
      fun given => ?_, returned.extraParameters⟩
    refine not_not.mp fun unstored => given ?_
    rw [← returned.account]
    exact if_neg unstored
  · rintro ⟨commands, encoding, account, parameters⟩
    obtain ⟨encodingType, customEncoding⟩ := (returnedEncoding_eq_iff site.server).mpr encoding
    exact {
      protocol := rfl
      host := rfl
      port := rfl
      type := rfl
      user := rfl
      logonType := rfl
      password := rfl
      encrypted := rfl
      account := by
        change (if LogonStored (storedCredentials protection site.credentials).logonType then
          site.credentials.account else []) = site.credentials.account
        split
        case isTrue => rfl
        case isFalse unstored => exact (not_not.mp fun given => unstored (account given)).symm
      keyFile := storedCredentials_keyFile protection storable
      timezoneOffset := rfl
      pasvMode := rfl
      connectionLimit := rfl
      encodingType
      customEncoding
      postLoginCommands := commands.symm
      bypassProxy := rfl
      name := rfl
      extraParameters := parameters
      sitePath := rfl }

variable {protocol : ServerProtocol}

theorem set_ne_nil {parameters : Parameters} {name : List UInt8} {value : WString}
    (given : value ≠ []) (filled : parameters ≠ [] ∨ protocol.hasParameter name = true) :
    parameters.set protocol name value ≠ [] := by
  unfold Parameters.set
  rw [if_neg given]
  split
  case isTrue =>
    unfold Parameters.insert
    split
    · exact cons_ne_nil _ _
    · split <;> exact cons_ne_nil _ _
  case isFalse unknown => exact filled.resolve_right unknown

theorem setAll_ne_nil {parameters values : Parameters} (given : ∀ value ∈ values, value.2 ≠ [])
    (filled : parameters ≠ [] ∨ ∃ value ∈ values, protocol.hasParameter value.1 = true) :
    parameters.setAll protocol values ≠ [] := by
  induction values generalizing parameters with
  | nil => exact filled.resolve_right fun ⟨_, member, _⟩ => (by cases member)
  | cons value values induction =>
    obtain ⟨first, given⟩ := forall_mem_cons.mp given
    change setAll protocol (parameters.set protocol value.1 value.2) values ≠ []
    refine induction given ?_
    rcases filled with filled | ⟨known, member, has⟩
    · exact .inl (set_ne_nil first (.inl filled))
    · rcases mem_cons.mp member with rfl | later
      · exact .inl (set_ne_nil first (.inr has))
      · exact .inr ⟨known, later, has⟩

theorem setAll_eq_nil_iff {values : Parameters} (given : ∀ value ∈ values, value.2 ≠ []) :
    setAll protocol [] values = [] ↔
      ∀ value ∈ values, protocol.hasParameter value.1 = false := by
  constructor
  · intro empty value member
    refine Bool.eq_false_iff.mpr fun has => ?_
    exact setAll_ne_nil given (.inr ⟨value, member, has⟩) empty
  · intro unknown
    induction values with
    | nil => rfl
    | cons value values induction =>
      obtain ⟨first, given⟩ := forall_mem_cons.mp given
      obtain ⟨unknownFirst, unknown⟩ := forall_mem_cons.mp unknown
      have unchanged : set protocol [] value.1 value.2 = [] := by
        unfold Parameters.set
        rw [if_neg first, unknownFirst]
        rfl
      change setAll protocol (set protocol [] value.1 value.2) values = []
      rw [unchanged]
      exact induction given unknown

def rowParameters (row : ServerRow) : Parameters :=
  queries.pairs (getColumnText row.parameters)

theorem rowParameters_saveServer (storable : Storable site) (bound : ServerRow) :
    rowParameters queries (saveServer queries keys protection bound site) =
      if site.server.extraParameters = [] then rowParameters queries bound
      else site.server.extraParameters := by
  rw [saveServer_eq]
  unfold rowParameters
  dsimp only
  split
  case isTrue => rfl
  case isFalse => exact queries.pairs_toText _ _ storable.parameters storable.unicode

theorem kept_iff (storable : Storable site) (bound : ServerRow)
    (given : ∀ parameter ∈ rowParameters queries bound, parameter.2 ≠ []) :
    ((site.server.host ≠ [] ∧ LogonReadable protection site.credentials) ∧
      Returned protection site (returnedSite protection
        (rowParameters queries (saveServer queries keys protection bound site)) site)) ↔
      Kept protection site ∧
        (site.server.extraParameters = [] → ∀ parameter ∈ rowParameters queries bound,
            site.server.protocol.hasParameter parameter.1 = false) := by
  have parameters : setAll site.server.protocol []
        (rowParameters queries (saveServer queries keys protection bound site)) =
          site.server.extraParameters ↔
      (site.server.extraParameters = [] → ∀ parameter ∈ rowParameters queries bound,
          site.server.protocol.hasParameter parameter.1 = false) := by
    rw [rowParameters_saveServer queries keys protection storable]
    split
    case isTrue none =>
      rw [none, setAll_eq_nil_iff given]
      exact ⟨fun unknown _ => unknown, fun unknown => unknown rfl⟩
    case isFalse some =>
      exact iff_of_true (setAll_nil storable.parameters) fun none => absurd none some
  rw [returned_returnedSite_iff protection storable, parameters]
  constructor
  · rintro ⟨⟨host, logon⟩, noCommands, encoding, storedAccount, separate⟩
    exact ⟨⟨host, logon, noCommands, encoding, storedAccount⟩, separate⟩
  · rintro ⟨kept, separate⟩
    exact ⟨⟨kept.host, kept.logon⟩, kept.noCommands, kept.encoding, kept.storedAccount, separate⟩

theorem length_saveServers (bound : ServerRow) (sites : List (Site Key)) :
    (saveServers queries keys protection bound sites).length = sites.length := by
  induction sites generalizing bound with
  | nil => rfl
  | cons site sites induction => exact congrArg (· + 1) (induction _)

theorem saveServers_returned_iff {sites : List (Site Key)}
    (storable : ∀ site ∈ sites, Storable site) (bound : ServerRow)
    (given : ∀ parameter ∈ rowParameters queries bound, parameter.2 ≠ []) :
    List.Forall₂ (Returned protection) sites
        ((saveServers queries keys protection bound sites).filterMap
          (parseServerFromRow queries keys)) ↔
      (∀ site ∈ sites, Kept protection site) ∧
        Separate (rowParameters queries bound) sites := by
  induction sites generalizing bound with
  | nil =>
    refine iff_of_true .nil ⟨fun _ member => (by cases member), trivial⟩
  | cons site sites induction =>
    obtain ⟨first, storable⟩ := forall_mem_cons.mp storable
    have row := rowParameters_saveServer queries keys protection first bound
    have rowGiven : ∀ parameter ∈ rowParameters queries
        (saveServer queries keys protection bound site), parameter.2 ≠ [] := by
      rw [row]
      split
      case isTrue => exact given
      case isFalse => exact first.parameters.nonempty
    have later := induction storable (saveServer queries keys protection bound site) rowGiven
    have kept := kept_iff queries keys protection first bound given
    have parsed := parseServerFromRow_saved queries keys protection first bound
    rw [forall_mem_cons, Separate, ← row]
    unfold saveServers
    dsimp only
    by_cases readable : site.server.host ≠ [] ∧ LogonReadable protection site.credentials
    · rw [if_pos readable] at parsed
      rw [filterMap_cons_some parsed, forall₂_cons, later]
      change Returned protection site (returnedSite protection
        (rowParameters queries (saveServer queries keys protection bound site)) site) ∧ _ ↔ _
      constructor
      · rintro ⟨returned, rest, separate⟩
        obtain ⟨keptFirst, separateFirst⟩ := kept.mp ⟨readable, returned⟩
        exact ⟨⟨keptFirst, rest⟩, separateFirst, separate⟩
      · rintro ⟨⟨keptFirst, rest⟩, separateFirst, separate⟩
        exact ⟨(kept.mpr ⟨keptFirst, separateFirst⟩).2, rest, separate⟩
    · rw [if_neg readable] at parsed
      rw [filterMap_cons_none parsed]
      refine iff_of_false (fun matched => ?_) fun all =>
        readable ⟨all.1.1.host, all.1.1.logon⟩
      -- A row that is dropped is missing at the end.
      have length := matched.length_eq
      have atMost := length_filterMap_le (parseServerFromRow queries keys)
        (saveServers queries keys protection
          (saveServer queries keys protection bound site) sites)
      rw [length_saveServers] at atMost
      rw [length_cons] at length
      omega

end Sites

section Plain

def plainKeyText : KeyText Unit where
  toKeyFormat := plainKeys
  toBase64_clean _ := (by decide : ' ' ∉ "key".toList)

def parametersText : Parameters → WString
  | [] => []
  | parameter :: parameters =>
    parameter.1.length :: parameter.1.map UInt8.toNat ++
      parameter.2.length :: parameter.2 ++ parametersText parameters

def textParameters : Nat → WString → Parameters
  | fuel + 1, nameLength :: text =>
    match text.drop nameLength with
    | [] => []
    | valueLength :: value =>
      ((text.take nameLength).map UInt8.ofNat, value.take valueLength) ::
        textParameters fuel (value.drop valueLength)
  | _, _ => []

theorem textParameters_parametersText (parameters : Parameters) {fuel : Nat}
    (enough : parameters.length ≤ fuel) :
    textParameters fuel (parametersText parameters) = parameters := by
  induction parameters generalizing fuel with
  | nil => cases fuel <;> rfl
  | cons parameter parameters induction =>
    obtain ⟨fuel, rfl⟩ := Nat.exists_eq_add_one_of_ne_zero (Nat.ne_zero_of_lt enough)
    have rest := induction (Nat.le_of_succ_le_succ enough)
    have length : (parameter.1.map UInt8.toNat).length = parameter.1.length := length_map _
    have name : (parameter.1.map UInt8.toNat).map UInt8.ofNat = parameter.1 := by
      simp [Function.comp_def]
    have text : parametersText (parameter :: parameters) =
        parameter.1.length :: (parameter.1.map UInt8.toNat ++
          parameter.2.length :: (parameter.2 ++ parametersText parameters)) := by
      simp [parametersText]
    rw [text, textParameters, ← length, drop_left, take_left, name]
    dsimp only
    rw [take_left, drop_left, rest]

theorem length_le_parametersText (parameters : Parameters) :
    parameters.length ≤ (parametersText parameters).length := by
  induction parameters with
  | nil => exact Nat.le_refl _
  | cons parameter parameters induction =>
    simp only [parametersText, length_cons, length_append, length_map]
    omega

def plainQueries : QueryString where
  toText := parametersText
  pairs text := textParameters text.length text
  pairs_empty := rfl
  pairs_toText _ parameters _ _ :=
    textParameters_parametersText parameters (length_le_parametersText parameters)

end Plain

theorem storedServers_return_iff (pugi : Pugixml) (base64 : Base64) (queries : QueryString)
    (keys : KeyText Key) (protection : Protection Key) (sites : List (Site Key))
    (accepted : ∀ site ∈ sites, Accepted pugi base64 keys site) :
    List.Forall₂ (Returned protection) sites
        (getServers queries keys (saveQueue queries keys protection sites)) ↔
      (∀ site ∈ sites, Kept protection site) ∧ Separate [] sites := by
  have none : rowParameters queries {} = [] := queries.pairs_empty
  have given : ∀ parameter ∈ rowParameters queries {}, parameter.2 ≠ [] := by
    rw [none]
    exact fun _ member => (by cases member)
  rw [getServers_eq, ← none]
  exact saveServers_returned_iff queries keys protection
    (fun site member => storable_of_accepted (accepted site member)) {} given

def keyFileSite : Site Unit where
  server := { freshServer (wide "example.org") 2222 .sftp .unix with
    user := wide "me", timezoneOffset := -60 }
  credentials := { logonType := .key, keyFile := wide "/home/me/key" }
  name := wide "work"
  connectionLimit := 2

theorem storedServers_return_keyFile :
    List.Forall₂ (Returned plainProtection) [keyFileSite] (getServers plainQueries plainKeyText
        (saveQueue plainQueries plainKeyText plainProtection [keyFileSite])) := by
  have read : XmlSite.getServer plainPugixml plainBase64 plainKeyText.toKeyFormat keyFileNode {} =
      some keyFileSite := by
    decide +kernel
  have accepted : ∀ site ∈ [keyFileSite], Accepted plainPugixml plainBase64 plainKeyText site :=
    forall_mem_singleton.mpr (.read keyFileNode keyFileSite [] read)
  refine (storedServers_return_iff plainPugixml plainBase64 plainQueries plainKeyText
    plainProtection [keyFileSite] accepted).mpr ⟨forall_mem_singleton.mpr ?_, ?_⟩
  · exact {
      host := by decide
      logon := by decide
      noCommands := rfl
      encoding := by decide
      storedAccount := fun given => absurd rfl given }
  · exact ⟨fun _ _ member => (by cases member), trivial⟩

def commandNode : XmlNode :=
  .mk "Server" "work" []
    [element "Host" "example.org", element "Port" "21", element "Protocol" "0",
      element "Type" "0", element "Logontype" "0",
      .mk "PostLoginCommands" "" [] [element "Command" "SITE UMASK 22"]]

def commandSite : Site Unit where
  server := { freshServer (wide "example.org") 21 .ftp .unix with
    postLoginCommands := [wide "SITE UMASK 22"] }
  credentials := { logonType := .anonymous }
  name := wide "work"

theorem storedServers_lose_commands :
    Accepted plainPugixml plainBase64 plainKeyText commandSite ∧
    ¬List.Forall₂ (Returned plainProtection) [commandSite] (getServers plainQueries plainKeyText
        (saveQueue plainQueries plainKeyText plainProtection [commandSite])) := by
  have read : XmlSite.getServer plainPugixml plainBase64 plainKeyText.toKeyFormat commandNode {} =
      some commandSite := by
    decide +kernel
  have again : (saveQueue plainQueries plainKeyText plainProtection [commandSite]).filterMap
      (parseServerFromRow plainQueries plainKeyText) =
        [{ commandSite with server := freshServer (wide "example.org") 21 .ftp .unix }] := by
    decide +kernel
  refine ⟨.read commandNode commandSite [] read, fun matched => ?_⟩
  rw [getServers_eq, again] at matched
  cases matched with
  | cons returned _ => cases returned.postLoginCommands

end FileZilla.ServerStorage
