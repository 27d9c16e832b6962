import FileZilla.Engine.DirectoryListingParser.Formats

namespace FileZilla

namespace EntryParser

open Rejecting

variable {Time : Type} (context : ListingContext Time)

structure MlsdFacts where
  owner : WString := []
  ownername : WString := []
  group : WString := []
  groupname : WString := []
  user : WString := []
  uid : WString := []
  gid : WString := []
  permissions : WString := []

/-- What a type fact says: nothing, that the line is to be skipped, or the flags and the
link target. -/
inductive MlsdType
  | other
  | skip
  | dir
  | link (target : Option WString)

def mlsdType (value : WString) : MlsdType :=
  let colonPos := CToken.find value [':'.toNat]
  let valuePrefix := strToLowerAscii (value.take (colonPos.getD value.length))
  if valuePrefix = wide "dir" ∧ colonPos = none then .dir
  else if valuePrefix = wide "os.unix=slink" ∨ valuePrefix = wide "os.unix=symlink" then
    .link (colonPos.map fun pos => value.drop (pos + 1))
  else if (valuePrefix = wide "cdir" ∨ valuePrefix = wide "pdir") ∧ colonPos = none then .skip
  else .other

/-- `text (inner)`, or only one of them if the other is empty -/
def withParentheses (text inner : WString) : WString :=
  if inner.isEmpty then text else text ++ wide " (" ++ inner ++ wide ")"

def collectFact (factname value : WString) (facts : MlsdFacts) : MlsdFacts :=
  if factname = wide "perm" then
    if value.isEmpty then facts
    else { facts with permissions := withParentheses value facts.permissions }
  else if factname = wide "unix.mode" then
    { facts with
      permissions :=
        if facts.permissions.isEmpty then value
        else facts.permissions ++ wide " (" ++ value ++ wide ")" }
  else if factname = wide "unix.owner" then { facts with owner := value }
  else if factname = wide "unix.ownername" then { facts with ownername := value }
  else if factname = wide "unix.group" then { facts with group := value }
  else if factname = wide "unix.groupname" then { facts with groupname := value }
  else if factname = wide "unix.user" then { facts with user := value }
  else if factname = wide "unix.uid" then { facts with uid := value }
  else if factname = wide "unix.gid" then { facts with gid := value }
  else facts

/-- One fact; without a result when the line is to be skipped. -/
def mlsdFact (factname value : WString) (facts : MlsdFacts) :
    EntryParser Time (Option MlsdFacts) := do
  let time ← readTime
  if factname = wide "type" then
    match mlsdType value with
    | .other => pure (some facts)
    | .skip => pure none
    | .dir => do
        addDir true
        pure (some facts)
    | .link target => do
        addDir true
        addLink true
        match target with
        | none => pure (some facts)
        | some target => do
            setTarget (some target)
            pure (some facts)
  else if factname = wide "size" then do
    let size := CToken.numberOf value .decimal true
    setSize size
    require (0 ≤ size)
    pure (some facts)
  else if factname = wide "modify" ∨ (time = none ∧ factname = wide "create") then do
    setTime (context.dates.ofString value)
    require (context.dates.ofString value).isSome
    pure (some facts)
  else pure (some (collectFact factname value facts))

def splitFact (fact : WString) : Option (WString × WString) :=
  (CToken.find fact ['='.toNat]).bind fun pos =>
    if pos < 1 then none else some (strToLowerAscii (fact.take pos), fact.drop (pos + 1))

def mlsdFacts : Nat → WString → MlsdFacts → EntryParser Time (Option MlsdFacts)
  | 0, _, facts => pure (some facts)
  | steps + 1, text, facts =>
    if text.isEmpty then pure (some facts)
    else do
      let delim := CToken.find text [';'.toNat]
      require (∀ pos ∈ delim, 3 ≤ pos)
      match splitFact (text.take (delim.getD text.length)) with
      | none => failure
      | some (factname, value) => do
          match ← mlsdFact context factname value facts with
          | none => pure none
          | some facts =>
            mlsdFacts steps (text.drop (delim.getD text.length + 1)) facts

def firstFilled (texts : List WString) : WString :=
  (texts.find? (!·.isEmpty)).getD []

def mlsdOwnerGroup (facts : MlsdFacts) : WString :=
  let group := firstFilled [facts.groupname, facts.group, facts.gid]
  firstFilled [facts.ownername, facts.owner, facts.user, facts.uid] ++
    if group.isEmpty then [] else 32 :: group

variable (line : CLine)

def parseAsMlsd : EntryParser Time Bool := do
  let token ← getToken line 0
  clearFlags
  setSize (-1)
  setTime none
  setTarget none
  match ← mlsdFacts context token.length token {} with
  | none => pure false
  | some facts => do
      let nameToken := line.getEndTokenWithWhitespace 1
      require (nameToken ≠ [])
      setName nameToken
      setOwnerGroup (mlsdOwnerGroup facts)
      setPermissions facts.permissions
      pure true

def setIbmName (nameToken : CToken) : EntryParser Time Unit :=
  if nameToken.getLast? = some '/'.toNat then do
    setName nameToken.dropLast
    addDir true
  else setName nameToken

def parseAsIbm : EntryParser Time Unit := do
  let ownerGroupToken ← getToken line 0
  let token ← getToken line 1
  require token.isNumeric
  setSize token.getNumber
  let token ← getToken line 2
  clearFlags
  parseShortDate context token
  let token ← getToken line 3
  parseTime context token
  let nameToken ← getEndToken line 5
  setIbmName nameToken
  setOwnerGroup ownerGroupToken
  setPermissions []
  addTimezoneOffset context

def parseAsWfFtp : EntryParser Time Unit := do
  let nameToken ← getToken line 0
  setName nameToken
  let token ← getToken line 1
  require token.isNumeric
  setSize token.getNumber
  clearFlags
  let token ← getToken line 2
  parseShortDate context token
  let token ← getToken line 3
  require (token.getLast? = some '.'.toNat)
  let token ← getEndToken line 4
  parseTime context token
  setOwnerGroup []
  setPermissions []
  addTimezoneOffset context

def mvsVsam (token : CToken) : EntryParser Time Unit := do
  require (token = wide "VSAM")
  let nameToken ← getToken line 3
  setName nameToken
  require (¬ nameToken.contains 32)
  setSize (-1)
  setOwnerGroup []
  setPermissions []

/-- The index of the token with the record length. The space that is used is missing when
the extents fill their column. -/
def mvsLreclIndex (ext used : CToken) : Option Nat :=
  if used.isNumeric ∨ used = wide "????" ∨ used = wide "++++" then do
    let recfm ← line.getToken? 5
    if recfm.isNumeric then none else some 6
  else if ext.length < 6 then none else some 5

def setMvsSize (dsorg : CToken) : EntryParser Time Unit :=
  if dsorg = wide "PO" ∨ dsorg = wide "PO-E" then do
    addDir true
    setSize (-1)
  else setSize 100

def mvsFields : EntryParser Time Unit := do
  let ext ← getToken line 3
  require ext.isNumeric
  let used ← getToken line 4
  let index ← ofOption (mvsLreclIndex line ext used)
  let lrecl ← getToken line index
  require lrecl.isNumeric
  let blksize ← getToken line (index + 1)
  require blksize.isNumeric
  let dsorg ← getToken line (index + 2)
  setMvsSize dsorg
  let nameToken ← getEndToken line (index + 3)
  setName nameToken
  setOwnerGroup []
  setPermissions []

def parseAsIbmMvs : EntryParser Time Unit := do
  let _ ← getToken line 0
  let _ ← getToken line 1
  let token ← getToken line 2
  clearFlags
  if token = wide "**NONE**" then mvsFields line
  else do
    match ← attempt (parseShortDate context token) with
    | some _ => mvsFields line
    | none => mvsVsam line token

def parseAsIbmMvsPds : EntryParser Time Unit := do
  let nameToken ← getToken line 0
  setName nameToken
  let _ ← getToken line 1
  clearFlags
  let token ← getToken line 2
  parseShortDate context token
  let token ← getToken line 3
  parseShortDate context token
  let token ← getToken line 4
  parseTime context token
  let token ← getToken line 5
  require token.isNumeric
  setSize token.getNumber
  let init ← getToken line 6
  require init.isNumeric
  let mod ← getToken line 7
  require mod.isNumeric
  let _ ← getEndToken line 8
  setOwnerGroup []
  setPermissions []
  addTimezoneOffset context

def parseAsIbmMvsMigrated : EntryParser Time Unit := do
  let token ← getToken line 0
  require (strToLowerAscii token = wide "migrated")
  let nameToken ← getToken line 1
  setName nameToken
  require (line.getToken 2 = [])
  clearFlags
  setSize (-1)
  setOwnerGroup []
  setPermissions []

def isNumericOrAny (token : CToken) : Bool :=
  token.isNumeric || token == wide "ANY"

def pds2Attributes (tokens : List CToken) : Bool :=
  match tokens.reverse with
  | last :: second :: words =>
    isNumericOrAny last && isNumericOrAny second &&
      words.all fun word => word.all fun char => 65 ≤ char && char ≤ 90
  | _ => false

def parseAsIbmMvsPds2 : EntryParser Time Unit := do
  let nameToken ← getToken line 0
  setName nameToken
  clearFlags
  setOwnerGroup []
  setPermissions []
  setSize (-1)
  let token := line.getToken 1
  if token.isEmpty then pure ()
  else do
    let size := token.getNumber .hex
    setSize size
    require (size ≠ -1)
    let unused ← getToken line 2
    require unused.isHexNumeric
    let unused ← getToken line 3
    require unused.isNumeric
    require (pds2Attributes (line.tokensFrom 4))

def parseAsIbmMvsTape : EntryParser Time Unit := do
  let _ ← getToken line 0
  let unit ← getToken line 1
  require (strToLowerAscii unit = wide "tape")
  let dsname ← getToken line 2
  setName dsname
  clearFlags
  setOwnerGroup []
  setPermissions []
  setSize (-1)
  require (line.getToken 3 = [])

def parseAsOs9 : EntryParser Time Unit := do
  let ownerGroupToken ← getToken line 0
  match ownerGroupToken.find ['.'.toNat] with
  | none => failure
  | some pos => do
      require (pos ≠ 0 ∧ pos ≠ ownerGroupToken.length - 1)
      require (ownerGroupToken.isNumericAt 0 pos)
      require (ownerGroupToken.isNumericAt (pos + 1) (ownerGroupToken.length - pos - 1))
      clearFlags
      let token ← getToken line 1
      parseShortDate context token true
      let _ ← getToken line 2
      let permToken ← getToken line 3
      addDir (permToken.head? == some 'd'.toNat)
      let _ ← getToken line 4
      let token ← getToken line 5
      require token.isNumeric
      setSize token.getNumber
      let nameToken ← getEndToken line 6
      setName nameToken
      setOwnerGroup ownerGroupToken
      setPermissions permToken

/-- The size of a file with so many records of the given length, unless it exceeds the
64-bit range. -/
def zvmSize (recordLength records : Int) : Option Int :=
  if 0 < recordLength then
    if records < 0 ∨ int64Max / recordLength < records then none
    else some (recordLength * records)
  else some recordLength

def parseAsZvm : EntryParser Time Unit := do
  let nameToken ← getToken line 0
  setName nameToken
  let extension ← getToken line 1
  setName (nameToken ++ '.'.toNat :: extension)
  let format ← getToken line 2
  require (format = wide "V" ∨ format = wide "F")
  let lengthToken ← getToken line 3
  require lengthToken.isNumeric
  setSize lengthToken.getNumber
  let recordsToken ← getToken line 4
  require recordsToken.isNumeric
  let size ← ofOption (zvmSize lengthToken.getNumber recordsToken.getNumber)
  setSize size
  let token ← getToken line 5
  require token.isNumeric
  clearFlags
  let token ← getToken line 6
  parseShortDate context token true
  let token ← getToken line 7
  parseTime context token
  let ownerGroupToken ← getToken line 8
  require (line.getToken 9 = [])
  setOwnerGroup ownerGroupToken
  setPermissions []
  setTarget none
  addTimezoneOffset context

def hpOwner : Option (WString × Nat) := do
  let owner ← line.getToken? 5
  if owner.getLast? = some ','.toNat then
    (line.getToken? 6).map fun second => (owner ++ 32 :: second, 7)
  else some (owner, 6)

def parseAsHpNonstop : EntryParser Time Unit := do
  let nameToken ← getToken line 0
  setName nameToken
  let token ← getToken line 1
  require token.isNumeric
  let token ← getToken line 2
  require token.isNumeric
  setSize token.getNumber
  clearFlags
  let token ← getToken line 3
  parseShortDate context token
  let token ← getToken line 4
  parseTime context token
  let (ownerGroup, index) ← ofOption (hpOwner line)
  let permToken ← getToken line index
  require (line.getToken (index + 1) = [])
  setPermissions permToken
  setOwnerGroup ownerGroup

end EntryParser

end FileZilla
