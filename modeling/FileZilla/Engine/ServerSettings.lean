import FileZilla.Engine.Server

namespace FileZilla

open List

inductive ProtocolFeature
  | transferMode
  | charset
  | serverType
  | postLoginCommands

inductive ParameterSection
  | host
  | user
  | credentials
  | extra
  deriving DecidableEq

namespace ServerProtocol

/-- The values of the protocols of saved sites, from `FTP` to `MAX_VALUE` -/
def maxValue : Int :=
  cloudflareR2.value

def ofValue (value : Int) : ServerProtocol :=
  ServerProtocol.ofNat (value.toNat + 1)

theorem ofValue_ne_unknown {value : Int} (first : 0 ≤ value) (last : value ≤ maxValue) :
    ofValue value ≠ .unknown := by
  have known : ∀ index : Fin 25, ServerProtocol.ofNat (index.val + 1) ≠ .unknown := by decide
  have bound : value.toNat < 25 := by
    have max : maxValue = 24 := rfl
    omega
  exact known ⟨value.toNat, bound⟩

theorem ofValue_value {protocol : ServerProtocol} (known : protocol ≠ .unknown) :
    0 ≤ protocol.value ∧ protocol.value ≤ maxValue ∧ ofValue protocol.value = protocol := by
  cases protocol with
  | unknown => exact absurd rfl known
  | _ => decide

variable (protocol : ServerProtocol)

def isFtp : Bool :=
  protocol = .ftp || protocol = .ftps || protocol = .ftpes || protocol = .insecureFtp

def hasFeature : ProtocolFeature → Bool
  | .transferMode => protocol.isFtp
  | .charset => protocol.isFtp || protocol = .sftp
  | .serverType => protocol.isFtp
  | .postLoginCommands => protocol.isFtp

def hasUser : Bool :=
  protocol != .dropbox && protocol != .onedrive && protocol != .box &&
    protocol != .googleDrive && protocol != .storjGrant && protocol != .googleCloudSvcAcc

/-- The protocols in the order of `protocolInfos`, with their default ports -/
def protocolInfos : List (ServerProtocol × Nat) :=
  [(.ftp, 21), (.sftp, 22), (.http, 80), (.https, 443), (.ftps, 990), (.ftpes, 21),
    (.insecureFtp, 21), (.s3, 443), (.storj, 7777), (.webdav, 443), (.azureFile, 443),
    (.azureBlob, 443), (.swift, 443), (.googleCloud, 443), (.googleDrive, 443),
    (.dropbox, 443), (.onedrive, 443), (.b2, 443), (.box, 443), (.insecureWebdav, 80),
    (.rackspace, 443), (.storjGrant, 7777), (.s3Sso, 443), (.googleCloudSvcAcc, 443),
    (.cloudflareR2, 443)]

def fromPort (port : Nat) : ServerProtocol :=
  ((protocolInfos.find? fun info => info.2 == port).map Prod.fst).getD .ftp

def s3Parameters : List String :=
  ["ssealgorithm", "ssekmskey", "ssecustomerkey", "stsrolearn", "stsmfaserial", "region",
    "original_profile", "ssoregion", "ssorole", "ssourl", "accelerate"]

def extraServerParameterTraits : ServerProtocol → List (String × ParameterSection)
  | .ftp | .ftps | .ftpes | .insecureFtp => [("otp_code", .credentials)]
  | .sftp =>
    [("allow_non_crlf_identification_string", .extra),
      ("allow_agent_keys_of_unknown_type", .extra),
      ("ignore_unknown_flags_in_attributes", .extra)]
  | .googleCloud | .googleDrive | .onedrive => [("login_hint", .user), ("oauth_identity", .extra)]
  | .googleCloudSvcAcc => [("oauth_identity", .extra)]
  | .swift =>
    [("identpath", .host), ("identuser", .user), ("keystone_version", .extra), ("domain", .extra)]
  | .rackspace => [("identpath", .host), ("identuser", .user)]
  | .s3 | .s3Sso => s3Parameters.map fun name => (name, .extra)
  | .dropbox => [("oauth_identity", .extra), ("root_namespace", .extra)]
  | .box => [("oauth_identity", .extra)]
  | .storj => [("passphrase_hash", .extra)]
  | .storjGrant => [("credentials_hash", .extra)]
  | .cloudflareR2 => [("identuser", .user), ("jurisdiction", .extra)]
  | _ => []

def hasParameter (name : List UInt8) : Bool :=
  protocol.extraServerParameterTraits.any fun parameter =>
    parameter.2 != .credentials && name == asciiBytes parameter.1

end ServerProtocol

abbrev Parameters := List (List UInt8 × WString)

namespace Parameters

def erase (parameters : Parameters) (name : List UInt8) : Parameters :=
  parameters.filter fun parameter => parameter.1 != name

def insert (parameters : Parameters) (name : List UInt8) (value : WString) : Parameters :=
  match parameters with
  | [] => [(name, value)]
  | parameter :: rest =>
    match compare name parameter.1 with
    | .lt => (name, value) :: parameter :: rest
    | .eq => (name, value) :: rest
    | .gt => parameter :: insert rest name value

def set (protocol : ServerProtocol) (parameters : Parameters) (name : List UInt8)
    (value : WString) : Parameters :=
  if value = [] then parameters.erase name
  else if protocol.hasParameter name then parameters.insert name value
  else parameters

def setAll (protocol : ServerProtocol) (parameters : Parameters) (values : Parameters) :
    Parameters :=
  values.foldl (fun changed parameter => changed.set protocol parameter.1 parameter.2) parameters

end Parameters

namespace CServer

def empty : CServer where
  protocol := .unknown
  type := .unix
  host := []
  user := []
  port := 21
  timezoneOffset := 0
  pasvMode := .default
  bypassProxy := false
  encodingType := .utf8
  customEncoding := []
  postLoginCommands := []
  extraParameters := []

variable (server : CServer)

def setExtraParameter (name : List UInt8) (value : WString) : CServer :=
  { server with
    extraParameters := Parameters.set server.protocol server.extraParameters name value }

def setType (type : ServerType) : CServer :=
  if server.protocol.hasFeature .serverType then { server with type } else server

def setProtocol (protocol : ServerProtocol) : CServer :=
  let postLoginCommands :=
    if protocol.hasFeature .postLoginCommands then server.postLoginCommands else []
  let user := if protocol.hasUser then server.user else []
  let type := if protocol.hasFeature .serverType then server.type else .unix
  let extraParameters := Parameters.setAll protocol [] server.extraParameters
  { server with protocol, postLoginCommands, user, type, extraParameters }

def setHost (host : WString) (port : Nat) : Option CServer :=
  if host = [] ∨ port < 1 ∨ 65535 < port then none
  else
    let protocol :=
      if server.protocol = .unknown then ServerProtocol.fromPort port else server.protocol
    some { server with host, port, protocol }

def setTimezoneOffset (minutes : Int) : Option CServer :=
  if 60 * 24 < minutes ∨ minutes < -(60 * 24) then none
  else some { server with timezoneOffset := minutes }

def setEncodingType (encodingType : CharsetEncoding)
    (encoding : WString := []) : Option CServer :=
  if encodingType = .custom ∧ encoding = [] then none
  else some { server with encodingType, customEncoding := encoding }

/-- Nothing is set if the protocol has no such commands. -/
def setPostLoginCommands (commands : List WString) : Option CServer :=
  if server.protocol.hasFeature .postLoginCommands then
    some { server with postLoginCommands := commands }
  else
    none

end CServer

/-! The parameters of a server are sorted by distinct names, and each of them is
one that the protocol has. -/

namespace Parameters

structure Valid (protocol : ServerProtocol) (parameters : Parameters) : Prop where
  sorted : parameters.Pairwise fun first second => compare first.1 second.1 = .lt
  nonempty : ∀ parameter ∈ parameters, parameter.2 ≠ []
  known : ∀ parameter ∈ parameters, protocol.hasParameter parameter.1 = true

theorem valid_nil (protocol : ServerProtocol) : Valid protocol [] :=
  ⟨List.Pairwise.nil, fun _ member => (by cases member), fun _ member => (by cases member)⟩

variable {parameters : Parameters} {name : List UInt8} {parameter : List UInt8 × WString}

theorem mem_insert {value : WString} (member : parameter ∈ parameters.insert name value) :
    parameter = (name, value) ∨ parameter ∈ parameters := by
  induction parameters with
  | nil => exact .inl (mem_singleton.mp member)
  | cons first rest induction =>
    unfold insert at member
    cases order : compare name first.1 with
    | lt =>
      rw [order] at member
      exact mem_cons.mp member
    | eq =>
      rw [order] at member
      exact (mem_cons.mp member).imp_right fun later => .tail _ later
    | gt =>
      rw [order] at member
      rcases mem_cons.mp member with same | later
      · exact .inr (same ▸ .head _)
      · exact (induction later).imp_right fun old => .tail _ old

theorem sorted_insert (name : List UInt8) (value : WString)
    (sorted : parameters.Pairwise fun first second => compare first.1 second.1 = .lt) :
    (parameters.insert name value).Pairwise
      fun first second => compare first.1 second.1 = .lt := by
  induction parameters with
  | nil => exact pairwise_singleton _ _
  | cons first rest induction =>
    obtain ⟨before, sorted⟩ := pairwise_cons.mp sorted
    unfold insert
    cases order : compare name first.1 with
    | lt =>
      refine pairwise_cons.mpr ⟨fun other member => ?_, .cons before sorted⟩
      rcases mem_cons.mp member with same | member
      · rw [same]
        exact order
      · exact Std.TransCmp.lt_trans order (before other member)
    | eq =>
      have same : name = first.1 := Std.LawfulEqOrd.compare_eq_iff_eq.mp order
      exact .cons (fun other member => same ▸ before other member) sorted
    | gt =>
      refine .cons (fun other member => ?_) (induction sorted)
      rcases mem_insert member with rfl | member
      · exact Std.OrientedCmp.lt_of_gt order
      · exact before other member

variable {protocol : ServerProtocol}

theorem valid_set (valid : parameters.Valid protocol) (name : List UInt8) (value : WString) :
    (parameters.set protocol name value).Valid protocol := by
  unfold set
  split
  case isTrue blank =>
    refine ⟨valid.sorted.filter _, fun parameter member => ?_, fun parameter member => ?_⟩
    · exact valid.nonempty parameter (mem_filter.mp member).1
    · exact valid.known parameter (mem_filter.mp member).1
  case isFalse filled =>
    split
    case isTrue known =>
      refine ⟨sorted_insert name value valid.sorted, fun parameter member => ?_,
        fun parameter member => ?_⟩
      · rcases mem_insert member with rfl | member
        · exact filled
        · exact valid.nonempty parameter member
      · rcases mem_insert member with rfl | member
        · exact known
        · exact valid.known parameter member
    case isFalse => exact valid

theorem valid_setAll (valid : parameters.Valid protocol) (values : Parameters) :
    (parameters.setAll protocol values).Valid protocol := by
  induction values generalizing parameters with
  | nil => exact valid
  | cons value values induction => exact induction (valid_set valid value.1 value.2)

theorem mem_set {value : WString} (member : parameter ∈ parameters.set protocol name value) :
    parameter = (name, value) ∨ parameter ∈ parameters := by
  unfold set at member
  split at member
  case isTrue => exact .inr (mem_filter.mp member).1
  case isFalse =>
    split at member
    case isTrue => exact mem_insert member
    case isFalse => exact .inr member

theorem mem_setAll {values : Parameters} (member : parameter ∈ parameters.setAll protocol values) :
    parameter ∈ values ∨ parameter ∈ parameters := by
  induction values generalizing parameters with
  | nil => exact .inr member
  | cons value values induction =>
    have changed : parameter ∈ values ∨ parameter ∈ parameters.set protocol value.1 value.2 :=
      induction member
    rcases changed with later | member
    · exact .inl (.tail _ later)
    · refine (mem_set member).imp_left fun same => ?_
      rw [same]
      exact .head _

theorem insert_last (value : WString)
    (last : ∀ parameter ∈ parameters, compare parameter.1 name = .lt) :
    parameters.insert name value = parameters ++ [(name, value)] := by
  induction parameters with
  | nil => rfl
  | cons first rest induction =>
    obtain ⟨before, last⟩ := forall_mem_cons.mp last
    unfold insert
    rw [Std.OrientedCmp.gt_of_lt before, induction last]
    rfl

theorem setAll_append {values : Parameters} (valid : (parameters ++ values).Valid protocol) :
    parameters.setAll protocol values = parameters ++ values := by
  induction values generalizing parameters with
  | nil => exact (append_nil _).symm
  | cons value values induction =>
    have shifted : parameters ++ value :: values = (parameters ++ [value]) ++ values :=
      (append_cons _ _ _)
    have member : value ∈ parameters ++ value :: values := mem_append_right _ (.head _)
    have last : ∀ parameter ∈ parameters, compare parameter.1 value.1 = .lt :=
      fun parameter before =>
        (pairwise_append.mp valid.sorted).2.2 parameter before value (.head _)
    have inserted : parameters.set protocol value.1 value.2 = parameters ++ [value] := by
      unfold set
      rw [if_neg (valid.nonempty value member), if_pos (valid.known value member),
        insert_last value.2 last]
    change Parameters.setAll protocol (parameters.set protocol value.1 value.2) values = _
    rw [inserted, shifted]
    exact induction (shifted ▸ valid)

theorem setAll_nil (valid : parameters.Valid protocol) :
    Parameters.setAll protocol [] parameters = parameters :=
  setAll_append valid

end Parameters

end FileZilla
