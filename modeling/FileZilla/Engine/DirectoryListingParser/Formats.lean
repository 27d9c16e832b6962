import FileZilla.Engine.DirectoryListingParser.Date

namespace FileZilla

def containsAny (chars : String) (char : WChar) : Bool :=
  (wide chars).contains char

namespace EntryParser

open Rejecting

variable {Time : Type} (context : ListingContext Time)

/-- What `ParseUnixDateTime` knows of the date, and the index of the last token that it
has read. -/
structure UnixDate where
  year : Int := -1
  month : Int := -1
  day : Int := -1
  dateMonth : CToken := []
  mayHaveTime : Bool := true
  bHasYearAndTime : Bool := false
  index : Nat

variable (line : CLine) (token : CToken)

def yearField (index : Nat) : Option UnixDate := do
  let dateMonth ← line.getToken? (index + 1)
  some { year := toInt token.getNumber, dateMonth, mayHaveTime := false, index := index + 1 }

/-- The date has three parts in one token. Nothing is left to be parsed when they are
separated by dots. -/
def shortDateField (separator : Option WChar) (index : Nat) :
    EntryParser Time (Bool × UnixDate) := do
  parseShortDate context token
  let time ← readTime
  let (year, month, day) := (time.map context.dates.getTm).getD (-1, -1, -1)
  pure (separator == some '.'.toNat, { year, month, day, index })

/-- A first token that is not a whole date -/
def partialDateField (index : Nat) : Option UnixDate :=
  match token.find (wide "-/.") with
  | some pos =>
    if token[pos]? = some '.'.toNat then some { dateMonth := token, index }
    else do
      -- something like 26-05 2002
      let day := toInt (token.getNumberAt (pos + 1) ((token.length : Int) - pos - 1))
      guard (1 ≤ day ∧ day ≤ 31)
      some { day, dateMonth := token.take pos, index }
  | none =>
    if token.isNumeric then
      if 1000 < token.getNumber ∧ token.getNumber < 10000 then yearField line token index
      else some { dateMonth := token, index }
    else if token.isLeftNumeric ∧ 127 < token.getLastD 0 ∧ 1000 < token.getNumber then
      -- 2005xxx 5xx 20xxx with some non-ascii characters following
      if 10000 < token.getNumber then none else yearField line token index
    else some { dateMonth := token, index }

def dateSeparators : Option (Nat × Nat) := do
  let pos ← token.find (wide "-/.")
  let pos2 ← token.find (wide "-/.") (pos + 1)
  some (pos, pos2)

/-- The token at `index`: whether the date is complete, and what is known of it. -/
def firstDateField (index : Nat) : EntryParser Time (Bool × UnixDate) := do
  let token ← getToken line index
  match dateSeparators token with
  | some (pos, pos2) => do
      require (token[pos]? = token[pos2]?)
      shortDateField context token token[pos]? index
  | none => do
      let date ← ofOption (partialDateField line token index)
      pure (false, date)

variable (date : UnixDate)

def dayField : Option UnixDate :=
  if date.day < 1 then do
    let index := date.index + 1
    let dayToken ← line.getToken? index
    if !dayToken.isNumeric && !dayToken.isLeftNumeric then do
      let len := date.dateMonth.length - if date.dateMonth.getLast? = some '.'.toNat then 1 else 0
      guard (date.dateMonth.isNumericAt 0 len)
      let day := toInt (date.dateMonth.getNumberAt 0 len)
      guard (1 ≤ day ∧ day ≤ 31)
      some { date with day, dateMonth := dayToken, index }
    else do
      -- a time of day means that a token too many has been read
      guard (¬ (dayToken.length = 5 ∧ dayToken[2]? = some ':'.toNat ∧
        dayToken.isRightNumeric = true))
      let day := toInt dayToken.getNumber
      guard (1 ≤ day ∧ day ≤ 31)
      some { date with
        day, index
        bHasYearAndTime := dayToken.getLast? == some ','.toNat }
  else some date

/-- The text of a month without what some servers put behind it. -/
def monthText (dateMonth : CToken) : WString :=
  let strMonth :=
    if dateMonth.isLeftNumeric ∧ 127 < dateMonth.getLastD 0 then
      dateMonth.take (max 1 (dateMonth.rdropWhile (!isDigit ·)).length)
    else dateMonth
  strMonth.rdropWhile (containsAny ",.")

def monthField : Option UnixDate :=
  if date.month < 1 then
    (getMonthFromName (monthText date.dateMonth)).map fun month => { date with month }
  else some date

/-- Hour and minute of a token with a separator at `pos` -/
def clockField (pos : Nat) : Option (Int × Int) := do
  guard (pos ≠ 0 ∧ pos ≠ token.length - 1)
  let hour := toIntegral (token.take pos)
  let minute := toIntegral (token.drop (pos + 1))
  -- 24:00 is an alternate midnight representation
  guard (if hour < 0 ∨ 23 < hour then hour = 24 ∧ minute = 0 else 0 ≤ minute ∧ minute ≤ 59)
  some (hour, minute)

def recentYear (month day : Int) : Int :=
  let (year, currentMonth, currentDay) := context.dates.today
  let currentDayOfYear := currentDay + 31 * (currentMonth - 1)
  let fileDayOfYear := day + 31 * (month - 1)
  if currentDayOfYear + 1 < fileDayOfYear then year - 1 else year

def timeAfterYear : Option (Int × Int × Nat) :=
  if date.bHasYearAndTime then do
    let timeToken ← line.getToken? (date.index + 1)
    if timeToken.find [':'.toNat] = some 2 ∧ timeToken.length = 5 ∧
        timeToken.isLeftNumeric = true ∧ timeToken.isRightNumeric = true then do
      let (hour, minute) ← clockField timeToken 2
      some (hour, minute, date.index + 1)
    else some (-1, -1, date.index)
  else some (-1, -1, date.index)

/-- The year, hour and minute that the time or the year behind the day gives, and the index
of the last token. -/
def timeOrYearField : Option (Int × Int × Int × Nat) := do
  let index := date.index + 1
  let timeOrYearToken ← line.getToken? index
  match timeOrYearToken.find (wide ":.-"), date.mayHaveTime with
  | some pos, true => do
      let (hour, minute) ← clockField timeOrYearToken pos
      guard (0 < date.year ∨ (date.month ≠ -1 ∧ date.day ≠ -1))
      let year := if date.year ≤ 0 then recentYear context date.month date.day else date.year
      some (year, hour, minute, index)
  | _, _ =>
    if date.year ≤ 0 then do
      guard (timeOrYearToken.isNumeric || timeOrYearToken.isLeftNumeric)
      let year := toInt timeOrYearToken.getNumber
      guard (year ≤ 3000)
      let (hour, minute, index) ← timeAfterYear line { date with index }
      some (if year < 1000 then year + 1900 else year, hour, minute, index)
    else some (date.year, -1, -1, date.index)

/-- Parses the date that starts behind the token at `index`, and returns the index of its
last token. -/
def parseUnixDateTime (index : Nat) : EntryParser Time Nat := do
  let (complete, date) ← firstDateField context line (index + 1)
  if complete then pure date.index
  else do
    let date ← ofOption (dayField line date)
    let date ← ofOption (monthField date)
    let (year, hour, minute, index) ← ofOption (timeOrYearField context line date)
    setDate context year date.month date.day hour minute
    pure index

/-- The given number of tokens behind the one at `index`, separated by blanks. -/
def ownerGroupTokens (line : CLine) (index : Nat) : Nat → Option WString
  | 0 => some []
  | 1 => line.getToken? (index + 1)
  | count + 2 => do
      let earlier ← ownerGroupTokens line index (count + 1)
      let token ← line.getToken? (index + count + 2)
      some (earlier ++ 32 :: token)

variable (expectDate : Bool)

def unixDate (index : Nat) : EntryParser Time (Option Nat) :=
  if expectDate then do
    setTime none
    attempt (parseUnixDateTime context line index)
  else pure (some index)

def unixDateAndName (ownerGroup : WString) (index : Nat) :
    EntryParser Time (Option (WString × CToken)) := do
  match ← unixDate context line expectDate index with
  | none => pure none
  | some index =>
    let nameToken := line.getEndToken (index + 1)
    if nameToken.isEmpty then pure none else pure (some (ownerGroup, nameToken))

/-- Tries a line with so many tokens for owner and group, without success if other numbers
of them are still to be tried. -/
def unixAttempt (startindex numOwnerGroup : Nat) :
    EntryParser Time (Option (WString × CToken)) := do
  let ownerGroup ← ofOption (ownerGroupTokens line startindex numOwnerGroup)
  let index := startindex + numOwnerGroup + 1
  let sizeToken ← getToken line index
  let valid ← parseEntrySize sizeToken
  if valid then unixDateAndName context line expectDate ownerGroup index
  else if sizeToken.isRightNumeric then do
    -- the group and the size are concatenated
    setSize sizeToken.getNumber
    let group := sizeToken.rdropWhile isDigit
    let ownerGroup := if ownerGroup.isEmpty then group else ownerGroup ++ 32 :: group
    unixDateAndName context line expectDate ownerGroup index
  else pure none

def unixColumns (line : CLine) (expectDate : Bool) (startindex : Nat) :
    Nat → EntryParser Time (WString × CToken)
  | 0 => do
      match ← unixAttempt context line expectDate startindex 0 with
      | some columns => pure columns
      | none => failure
  | numOwnerGroup + 1 => do
      match ← unixAttempt context line expectDate startindex (numOwnerGroup + 1) with
      | some columns => pure columns
      | none => unixColumns line expectDate startindex numOwnerGroup

def unixPermissions (permissionToken : CToken) : Option (WString × Nat) :=
  if permissionToken.length = 1 then do
    -- netware servers split the permissions into two parts
    let contPerm ← line.getToken? 1
    some (permissionToken ++ 32 :: contPerm, 1)
  else do
    let linkCount ← line.getToken? 1
    some (permissionToken, if linkCount.isNumeric then 1 else 0)

def withoutTypeSuffix (nameToken : CToken) : WString :=
  if containsAny "/|*" (nameToken.getLastD 0) then nameToken.dropLast else nameToken

def linkParts (name : WString) : Option (WString × WString) :=
  (findText (wide " -> ") name).map fun pos => (name.take pos, name.drop (pos + 4))

def setUnixName (isLink : Bool) (nameToken : CToken) : EntryParser Time Unit :=
  let name := withoutTypeSuffix nameToken
  match isLink, linkParts name with
  | true, some (name, target) => do
      setTarget (some target)
      setName name
  | _, _ => setName name

def unixFields (permissionToken : CToken) :
    EntryParser Time (WString × WString × CToken) := do
  let chr := permissionToken.headD 0
  require (containsAny "bcdlps-" chr)
  clearFlags
  addDir (containsAny "dl" chr)
  addLink (chr == 'l'.toNat)
  let (permissions, startindex) ← ofOption (unixPermissions line permissionToken)
  let (ownerGroup, nameToken) ← unixColumns context line expectDate startindex 3
  pure (permissions, ownerGroup, nameToken)

def parseAsUnix : EntryParser Time Unit := do
  let permissionToken ← getToken line 0
  let (permissions, ownerGroup, nameToken) ← unixFields context line expectDate permissionToken
  setUnixName (permissionToken.headD 0 == 'l'.toNat) nameToken
  addTimezoneOffset context
  setPermissions permissions
  setOwnerGroup ownerGroup

def dosSize : WString → Nat → Option Nat
  | [], size => some size
  | char :: rest, size =>
    if containsAny ",." char then dosSize rest size
    else if isDigit char then (appendDigit 10 size (char - 48)).bind (dosSize rest ·)
    else none

def setDosSize : EntryParser Time Unit :=
  if token = wide "<DIR>" then do
    addDir true
    setSize (-1)
  else do
    require (token.isNumeric || token.isLeftNumeric)
    let size ← ofOption (dosSize token 0)
    setSize size

def parseAsDos : EntryParser Time Unit := do
  let token ← getToken line 0
  clearFlags
  parseShortDate context token
  let token ← getToken line 1
  parseTime context token
  let token ← getToken line 2
  setDosSize token
  let token ← getEndToken line 3
  setName token
  setTarget none
  setOwnerGroup []
  setPermissions []
  addTimezoneOffset context

/-- Start and length of the facts before the name, which is behind `pos`. A comma in the
name ends the last fact. -/
def eplfFacts (token : CToken) (pos fact : Nat) : List (Nat × Nat) :=
  if fact < pos then
    let len := ((token.find [','.toNat] fact).getD pos) - fact
    if len = 0 then eplfFacts token pos (fact + 1)
    else (fact, len) :: eplfFacts token pos (fact + len + 1)
  else []
termination_by pos - fact

def eplfFact (permissions : WString) (fact len : Nat) :
    EntryParser Time WString := do
  let type := token[fact]?
  let number := token.getNumberAt (fact + 1) ((len : Int) - 1)
  if type = some '/'.toNat then do
    addDir true
    pure permissions
  else if type = some 's'.toNat then do
    setSize number
    require (0 ≤ number)
    pure permissions
  else if type = some 'm'.toNat then do
    require (0 ≤ number)
    setTime (context.dates.ofTimeT number)
    pure permissions
  else if type = some 'u'.toNat ∧ 2 < len ∧ token[fact + 1]? = some 'p'.toNat then
    pure ((token.drop (fact + 2)).take (len - 2))
  else pure permissions

def eplfApply (token : CToken) : List (Nat × Nat) → WString → EntryParser Time WString
  | [], permissions => pure permissions
  | (fact, len) :: facts, permissions => do
      let permissions ← eplfFact context token permissions fact len
      eplfApply token facts permissions

def parseAsEplf : EntryParser Time Unit := do
  let token ← getEndToken line 0
  require (token.head? = some '+'.toNat)
  match token.find ['\t'.toNat] with
  | none => failure
  | some pos => do
      require (pos ≠ token.length - 1)
      setName (token.drop (pos + 1))
      clearFlags
      setSize (-1)
      let permissions ← eplfApply context token (eplfFacts token pos 1) []
      setPermissions permissions
      setOwnerGroup []

def unescape (escape : WChar) : WString → WString
  | [] => []
  | char :: rest =>
    if char = escape then
      match rest with
      | [] => []
      | next :: rest => if next = 0 then [] else next :: unescape escape rest
    else char :: unescape escape rest

/-- Whether the token, whose version starts at `pos`, is that of a directory. -/
def vmsIsDir (pos : Nat) : Bool :=
  4 < pos && (token.drop (pos - 4)).take 4 == wide ".DIR"

def vmsName (pos : Nat) : WString :=
  if vmsIsDir token pos then
    if token.drop pos = wide ";1" then token.take (pos - 4)
    else token.take (pos - 4) ++ token.drop pos
  else token

/-- The owner if the token at index 1 is one, the index of the token behind it and that
token, which is the size or the date. -/
def vmsUsername : Option (WString × Nat × CToken) := do
  let token ← line.getToken? 1
  if !token.isNumeric && !token.isLeftNumeric then do
    guard (3 ≤ token.length ∧ token.head? = some '['.toNat ∧ token.getLast? = some ']'.toNat)
    let ownerGroup := (token.drop 1).take (token.length - 2)
    let token ← line.getToken? 2
    guard (token.isNumeric || token.isLeftNumeric)
    some (ownerGroup, 2, token)
  else some ([], 1, token)

def vmsSizeToken : CToken :=
  match token.find ['/'.toNat] with
  | none => token
  | some pos => token.take pos

/-- Whether the token at `index` is the size, and the token of the date with its index. -/
def vmsSize (index : Nat) (token : CToken) :
    EntryParser Time (Bool × Nat × CToken) := do
  let pos := token.find ['/'.toNat]
  require (pos ≠ some 0)
  if token.isNumeric ∨
      (pos.isSome = true ∧ token.find ['/'.toNat] (pos.getD 0 + 1) = none) then do
    -- definitely the size
    let valid ← parseEntrySize (vmsSizeToken token) 512
    require valid
    let token ← getToken line (index + 1)
    pure (true, index + 1, token)
  else if pos = none ∧ token.isLeftNumeric = true then do
    -- perhaps the size
    match ← parseEntrySize token 512 with
    | true => do
        let token ← getToken line (index + 1)
        pure (true, index + 1, token)
    | false => pure (false, index, token)
  else pure (false, index, token)

def enclosedBy (first last : Char) (token : CToken) : Bool :=
  token.head? == some first.toNat && token.getLast? == some last.toNat

def balanced (first last : Char) (token : CToken) : Bool :=
  (token.head? == some first.toNat) == (token.getLast? == some last.toNat)

def vmsRest (tokens : List CToken) (ownerGroup permissions : WString) : WString × WString :=
  let join (text token : WString) := if text.isEmpty then token else text ++ 32 :: token
  tokens.foldl (fun (ownerGroup, permissions) token =>
    let inner := (token.drop 1).take (token.length - 2)
    if 2 < token.length ∧ enclosedBy '(' ')' token = true then
      (ownerGroup, join permissions inner)
    else if 2 < token.length ∧ enclosedBy '[' ']' token = true then
      (join ownerGroup inner, permissions)
    else (join ownerGroup token, permissions)) (ownerGroup, permissions)

/-- The time in the token at `index`, if it is one; returns the index of the token behind
it. -/
def vmsTime (index : Nat) : EntryParser Time Nat := do
  let token := line.getToken index
  match ← attempt (parseTime context token) with
  | some _ => pure (index + 1)
  | none => do
      require (balanced '[' ']' token && balanced '(' ')' token)
      pure index

/-- The size behind the date, unless it was before it; returns the index of the token behind
it. -/
def vmsLateSize (gotSize : Bool) (index : Nat) : EntryParser Time Nat :=
  if gotSize then pure index
  else do
    let token ← getToken line index
    require (token.isNumeric || token.isLeftNumeric)
    require (token.find ['/'.toNat] ≠ some 0)
    let valid ← parseEntrySize (vmsSizeToken token) 512
    require valid
    pure (index + 1)

/-- The fields behind the date, whose first token is at `index`. -/
def vmsFields (ownerGroup : WString) (gotSize : Bool) (index : Nat) :
    EntryParser Time Unit := do
  let index ← vmsTime context line index
  let index ← vmsLateSize line gotSize index
  let (ownerGroup, permissions) := vmsRest (line.tokensFrom index) ownerGroup []
  setPermissions permissions
  setOwnerGroup ownerGroup
  addTimezoneOffset context

def vmsHead : EntryParser Time (WString × Bool × Nat) := do
  let token ← getToken line 0
  match token.find [';'.toNat] with
  | none => failure
  | some pos => do
      clearFlags
      addDir (vmsIsDir token pos)
      setName (unescape '^'.toNat (vmsName token pos))
      let (ownerGroup, index, token) ← ofOption (vmsUsername line)
      let (gotSize, index, token) ← vmsSize line index token
      parseShortDate context token
      pure (ownerGroup, gotSize, index)

def parseAsVms : EntryParser Time Unit := do
  let (ownerGroup, gotSize, index) ← vmsHead context line
  if (line.getToken (index + 1)).isEmpty then pure ()
  else vmsFields context line ownerGroup gotSize (index + 1)

def numericalUnix (firstToken token : CToken) : EntryParser Time Unit := do
  addDir (2 ≤ firstToken.length && firstToken[1]? == some '4'.toNat)
  let group ← getToken line 2
  let sizeToken ← getToken line 3
  require sizeToken.isNumeric
  setSize sizeToken.getNumber
  let dateToken ← getToken line 4
  let number := dateToken.getNumber
  require (0 ≤ number)
  setTime (context.dates.ofTimeT number)
  let nameToken ← getEndToken line 5
  setName nameToken
  setTarget none
  setPermissions firstToken
  setOwnerGroup (token ++ 32 :: group)

/-- Skips the attributes before the date. Returns how many they are, and whether one of
them says that the entry is a directory. -/
def os2Attributes : List CToken → Option (Nat × Bool)
  | [] => none
  | token :: rest =>
    if token = wide "DIR" then
      (os2Attributes rest).map fun (count, _) => (count + 1, true)
    else if (token.find (wide "-/.")).isSome then some (0, false)
    else (os2Attributes rest).map fun (count, isDir) => (count + 1, isDir)

/-- A name that ends in the marker for directories, without it and the spaces before it. -/
def withoutDirMarker (name : WString) : Option WString :=
  if 5 ≤ name.length ∧ strToLowerAscii (name.drop (name.length - 5)) = wide "<dir>" then
    some ((name.take (name.length - 5)).rdropWhile (· == 32))
  else none

def os2Style : EntryParser Time Unit :=
  match os2Attributes (line.tokensFrom 1) with
  | none => do
      addDir ((line.tokensFrom 1).contains (wide "DIR"))
      failure
  | some (skippedCount, isDir) => do
      addDir isDir
      let token ← getToken line (skippedCount + 1)
      parseShortDate context token
      let token ← getToken line (skippedCount + 2)
      parseTime context token
      let nameToken ← getEndToken line (skippedCount + 3)
      match skippedCount, withoutDirMarker nameToken with
      | 0, some name => do
          addDir true
          setName name
      | _, _ => setName nameToken

def vshellStyle (month : Int) : EntryParser Time Unit := do
  let token ← getToken line 2
  require (token.isNumeric || token.isLeftNumeric)
  let day := token.getNumber
  require (0 ≤ day ∧ day ≤ 31)
  let token ← getToken line 3
  require token.isNumeric
  let year := token.getNumber
  let year := if year < 50 then year + 2000 else if year < 1000 then year + 1900 else year
  setDate context (toInt year) month day (-1) (-1)
  let token ← getToken line 4
  parseTime context token
  let nameToken ← getEndToken line 5
  if containsAny "/\\" (nameToken.getLastD 0) then do
    addDir true
    setName nameToken.dropLast
  else setName nameToken

/-- The fields behind the size; `token` is the one at index 1. -/
def otherFields : EntryParser Time Unit :=
  match getMonthFromName token with
  | none => os2Style context line
  | some month => vshellStyle context line month

def parseOther (maybeMultilineVms : Bool) : EntryParser Time Unit := do
  let firstToken ← getToken line 0
  require firstToken.isNumeric
  let token ← getToken line 1
  clearFlags
  if token.isNumeric then numericalUnix context line firstToken token
  else do
    -- possible conflict with multiline VMS listings
    require (maybeMultilineVms = false)
    setSize firstToken.getNumber
    otherFields context line token
    setTarget none
    setOwnerGroup []
    setPermissions []
    addTimezoneOffset context

end EntryParser

end FileZilla
