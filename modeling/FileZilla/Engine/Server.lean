import FileZilla.Ordering
import FileZilla.Text

namespace FileZilla

inductive ServerProtocol
  | unknown
  | ftp
  | sftp
  | http
  | ftps
  | ftpes
  | https
  | insecureFtp
  | s3
  | storj
  | webdav
  | azureFile
  | azureBlob
  | swift
  | googleCloud
  | googleDrive
  | dropbox
  | onedrive
  | b2
  | box
  | insecureWebdav
  | rackspace
  | storjGrant
  | s3Sso
  | googleCloudSvcAcc
  | cloudflareR2
  deriving DecidableEq

/-- `UNKNOWN` is -1 and `FTP` is 0. -/
def ServerProtocol.value (protocol : ServerProtocol) : Int :=
  (protocol.ctorIdx : Int) - 1

inductive ServerType
  | unix
  | vms
  | dos
  | mvs
  | vxworks
  | zvm
  | hpnonstop
  | dosVirtual
  | cygwin
  | dosFwdSlashes
  deriving DecidableEq

def ServerType.value (type : ServerType) : Nat :=
  type.ctorIdx

inductive PasvMode
  | default
  | active
  | passive
  deriving DecidableEq

def PasvMode.value (mode : PasvMode) : Nat :=
  mode.ctorIdx

inductive CharsetEncoding
  | utf8
  | custom
  deriving DecidableEq

def CharsetEncoding.value (encoding : CharsetEncoding) : Nat :=
  encoding.ctorIdx

theorem ServerProtocol.value_injective {left right : ServerProtocol}
    (same : left.value = right.value) : left = right := by
  have index : left.ctorIdx = right.ctorIdx := by
    simp only [value] at same
    omega
  rw [← ServerProtocol.ofNat_ctorIdx left, index, ServerProtocol.ofNat_ctorIdx]

theorem ServerType.value_injective {left right : ServerType}
    (same : left.value = right.value) : left = right := by
  have index : left.ctorIdx = right.ctorIdx := same
  rw [← ServerType.ofNat_ctorIdx left, index, ServerType.ofNat_ctorIdx]

theorem PasvMode.value_injective {left right : PasvMode}
    (same : left.value = right.value) : left = right := by
  have index : left.ctorIdx = right.ctorIdx := same
  rw [← PasvMode.ofNat_ctorIdx left, index, PasvMode.ofNat_ctorIdx]

theorem CharsetEncoding.value_injective {left right : CharsetEncoding}
    (same : left.value = right.value) : left = right := by
  have index : left.ctorIdx = right.ctorIdx := same
  rw [← CharsetEncoding.ofNat_ctorIdx left, index, CharsetEncoding.ofNat_ctorIdx]

/-- The attributes that take part in a comparison. The extra parameters are
listed in the order of their names. -/
structure CServer where
  protocol : ServerProtocol
  type : ServerType
  host : WString
  user : WString
  port : Nat
  timezoneOffset : Int
  pasvMode : PasvMode
  bypassProxy : Bool
  encodingType : CharsetEncoding
  customEncoding : WString
  postLoginCommands : List WString
  extraParameters : List (List UInt8 × WString)
  deriving DecidableEq

def CServer.ftp (host : WString) (postLoginCommands : List WString) : CServer where
  protocol := .ftp
  type := .unix
  host := host
  user := wide "anonymous"
  port := 21
  timezoneOffset := 0
  pasvMode := .default
  bypassProxy := false
  encodingType := .utf8
  customEncoding := []
  postLoginCommands := postLoginCommands
  extraParameters := []

def compareParameter (left right : List UInt8 × WString) : Ordering :=
  compareLex (compareOn Prod.fst) (compareOn Prod.snd) left right

instance : Std.TransCmp compareParameter :=
  inferInstanceAs (Std.TransCmp (compareLex (compareOn Prod.fst) (compareOn Prod.snd)))

instance : Std.LawfulEqCmp compareParameter where
  compare_self := Std.ReflCmp.compare_self
  eq_of_compare {left right} same := by
    simp only [compareParameter, compareLex_eq_eq, compareOn,
      Std.LawfulEqOrd.compare_eq_iff_eq] at same
    exact Prod.ext same.1 same.2

namespace CServer

def equal (left right : CServer) : Bool :=
  left.protocol == right.protocol &&
  left.type == right.type &&
  left.host == right.host &&
  left.port == right.port &&
  left.user == right.user &&
  left.timezoneOffset == right.timezoneOffset &&
  left.pasvMode == right.pasvMode &&
  left.encodingType == right.encodingType &&
  (left.encodingType != .custom || left.customEncoding == right.customEncoding) &&
  left.postLoginCommands == right.postLoginCommands &&
  left.bypassProxy == right.bypassProxy &&
  left.extraParameters == right.extraParameters

def less (left right : CServer) : Bool :=
  decideBy (compare left.protocol.value right.protocol.value) <|
  decideBy (compare left.type.value right.type.value) <|
  decideBy (compare left.host right.host) <| decideBy (compare left.port right.port) <|
  decideBy (compare left.user right.user) <|
  decideBy (compare left.timezoneOffset right.timezoneOffset) <|
  decideBy (compare left.pasvMode.value right.pasvMode.value) <|
  decideBy (compare left.encodingType.value right.encodingType.value) <|
  decideBy (if left.encodingType = .custom then
    compare left.customEncoding right.customEncoding else .eq) <|
  decideBy (compare left.bypassProxy right.bypassProxy) <|
  decideBy (List.compareLex compareParameter
    left.extraParameters right.extraParameters) <|
  false

/-- The custom encoding counts only where it is in use. -/
def usedEncoding (server : CServer) : Option WString :=
  if server.encodingType = .custom then some server.customEncoding else none

def order : CServer → CServer → Ordering :=
  compareLex (compareOn fun server => server.protocol.value) <|
  compareLex (compareOn fun server => server.type.value) <| compareLex (compareOn host) <|
  compareLex (compareOn port) <| compareLex (compareOn user) <|
  compareLex (compareOn timezoneOffset) <|
  compareLex (compareOn fun server => server.pasvMode.value) <|
  compareLex (compareOn fun server => server.encodingType.value) <|
  compareLex (compareOn usedEncoding) <| compareLex (compareOn bypassProxy)
    (fun left right => List.compareLex compareParameter
      left.extraParameters right.extraParameters)

instance : Std.TransCmp order :=
  haveI : Std.TransCmp fun left right : CServer =>
      List.compareLex compareParameter left.extraParameters right.extraParameters :=
    { eq_swap := Std.OrientedCmp.eq_swap
      isLE_trans := Std.TransCmp.isLE_trans }
  inferInstanceAs (Std.TransCmp (compareLex _ _))

theorem less_eq (left right : CServer) :
    less left right = (order left right == .lt) := by
  have last (field : Ordering) : decideBy field false = (field == .lt) := by
    cases field <;> rfl
  simp only [less, last, decideBy_then, order, compareLex, compareOn]
  cases encoding : compare left.encodingType.value right.encodingType.value with
  | lt => rfl
  | gt => rfl
  | eq =>
    have same : left.encodingType = right.encodingType := CharsetEncoding.value_injective
        (Std.LawfulEqOrd.compare_eq_iff_eq.mp encoding)
    have custom : (if left.encodingType = .custom then
          compare left.customEncoding right.customEncoding else .eq) =
        compare left.usedEncoding right.usedEncoding := by
      simp only [usedEncoding, ← same]
      split <;> rfl
    rw [custom]

theorem compareOfLess_less : compareOfLess less = order :=
  compareOfLess_eq less_eq

structure SameOrder (left right : CServer) : Prop where
  protocol : left.protocol = right.protocol
  type : left.type = right.type
  host : left.host = right.host
  port : left.port = right.port
  user : left.user = right.user
  timezoneOffset : left.timezoneOffset = right.timezoneOffset
  pasvMode : left.pasvMode = right.pasvMode
  encodingType : left.encodingType = right.encodingType
  customEncoding : left.encodingType = .custom →
    left.customEncoding = right.customEncoding
  bypassProxy : left.bypassProxy = right.bypassProxy
  extraParameters : left.extraParameters = right.extraParameters

variable {left right : CServer}

theorem usedEncoding_eq_iff (same : left.encodingType = right.encodingType) :
    left.usedEncoding = right.usedEncoding ↔
      (left.encodingType = .custom → left.customEncoding = right.customEncoding) := by
  simp only [usedEncoding, ← same]
  split
  case isTrue custom => simp [custom]
  case isFalse other => simp [other]

theorem order_eq_iff :
    order left right = .eq ↔ SameOrder left right := by
  simp only [order, compareLex_eq_eq, compareOn, Std.LawfulEqCmp.compare_eq_iff_eq]
  constructor
  · rintro ⟨protocol, type, host, port, user, timezone, pasv, encoding, custom,
      bypass, parameters⟩
    have encodingType := CharsetEncoding.value_injective encoding
    exact ⟨ServerProtocol.value_injective protocol, ServerType.value_injective type,
      host, port, user, timezone, PasvMode.value_injective pasv, encodingType,
      (usedEncoding_eq_iff encodingType).mp custom, bypass, parameters⟩
  · intro same
    exact ⟨congrArg _ same.protocol, congrArg _ same.type, same.host, same.port,
      same.user, same.timezoneOffset, congrArg _ same.pasvMode, congrArg _ same.encodingType,
      (usedEncoding_eq_iff same.encodingType).mpr same.customEncoding,
      same.bypassProxy, same.extraParameters⟩

/-- `operator==` compares all of these attributes, and the commands sent after
login besides. -/
theorem equal_iff :
    equal left right = true ↔
      SameOrder left right ∧ left.postLoginCommands = right.postLoginCommands := by
  simp only [equal, Bool.and_eq_true, Bool.or_eq_true, beq_iff_eq, bne_iff_ne]
  constructor
  · rintro ⟨⟨⟨⟨⟨⟨⟨⟨⟨⟨⟨protocol, type⟩, host⟩, port⟩, user⟩, timezone⟩, pasv⟩,
      encoding⟩, custom⟩, commands⟩, bypass⟩, parameters⟩
    have inUse (isCustom : left.encodingType = .custom) :
        left.customEncoding = right.customEncoding :=
      custom.resolve_left fun other => other isCustom
    exact ⟨⟨protocol, type, host, port, user, timezone, pasv, encoding, inUse,
      bypass, parameters⟩, commands⟩
  · rintro ⟨same, commands⟩
    have custom : left.encodingType ≠ .custom ∨
        left.customEncoding = right.customEncoding :=
      (Classical.em (left.encodingType = .custom)).symm.imp_right same.customEncoding
    exact ⟨⟨⟨⟨⟨⟨⟨⟨⟨⟨⟨same.protocol, same.type⟩, same.host⟩, same.port⟩, same.user⟩,
      same.timezoneOffset⟩, same.pasvMode⟩, same.encodingType⟩, custom⟩, commands⟩,
      same.bypassProxy⟩, same.extraParameters⟩

theorem equal_symm (same : equal left right = true) :
    equal right left = true := by
  rw [equal_iff, ← order_eq_iff] at *
  exact ⟨Std.OrientedCmp.eq_symm same.1, same.2.symm⟩

theorem less_strictWeakOrder : StrictWeakOrder less :=
  strictWeakOrder_of_induced less_eq

end CServer

end FileZilla
