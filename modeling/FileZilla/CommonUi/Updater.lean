import FileZilla.Engine.Ftp.LoginSequence
import FileZilla.Engine.Version
import FileZilla.Hex
import FileZilla.LinkedFiles
import FileZilla.Runs
import FileZilla.Utf8

namespace FileZilla

/-! The updater: it reads version information, looks for an update that is signed for, and
downloads it. Log, changelog, resources and the observers are left out. -/

inductive UpdaterState
  | idle
  | failed
  | checking
  | newversion
  | newversionDownloading
  | newversionReady
  | newversionStale
  | eol
  deriving DecidableEq

structure Build where
  url : WString := []
  version : WString := []
  hash : WString := []
  size : Int := -1

structure VersionInformation where
  stable : Build := {}
  beta : Build := {}
  nightly : Build := {}
  available : Build := {}
  eol : Bool := false

structure UpdaterOptions where
  newVersion : WString
  checkBeta : Int
  updateCheck : Int
  disableUpdateCheck : Int

structure UpdaterEnvironment (Time : Type) where
  fileZillaVersion : WString
  buildType : WString
  buildDate : Option Time
  datetime : WString → Option Time
  base64Decode : List UInt8 → List UInt8
  /-- `fz::verify` with the embedded key, of data and a signature -/
  verify : List UInt8 → List UInt8 → Bool
  sha512 : List UInt8 → List UInt8
  /-- Whether `Site::ParseUrl` takes the address for one of an HTTP server. -/
  downloadable : WString → Bool
  /-- What an end-of-life statement has to sign, on systems that heed it -/
  eolData : Option (List UInt8)
  autoUpdateCheck : Bool
  linkDepth : Nat

inductive UpdaterCommand
  | disconnect
  | connect
  | transfer
  | httpRequest
  deriving DecidableEq

inductive Executed
  | ok
  | wouldBlock
  | error
  deriving DecidableEq

/-- What `fz::rename_file` does: it moves the file, or copies it to another device and then
removes the original, which may fail. -/
inductive Renaming
  | moved
  | copied
  | copiedOnly
  | failed

structure UpdaterInputs where
  downloadDir : WString
  tempDir : WString
  readable : WString → Bool
  execute : UpdaterCommand → Executed
  executeAgain : UpdaterCommand → Executed
  renamed : Renaming
  removed : Bool
  longTimeAtLoad : Bool
  longTimeAtCheck : Bool
  oldBuild : Bool

structure ReadyMoment where
  text : WString
  checkBeta : Int
  files : Files

structure Updater where
  state : UpdaterState
  localFile : WString
  versionInformation : VersionInformation
  rawVersionInformation : WString
  pendingCommands : List UpdaterCommand
  resumeOffset : Nat
  options : UpdaterOptions
  files : Files
  parsedWith : Int
  ready : Option ReadyMoment

namespace Updater

variable {Time : Type} [LinearOrder Time] (env : UpdaterEnvironment Time)

def initial (options : UpdaterOptions) (files : Files) : Updater where
  state := .idle
  localFile := []
  versionInformation := {}
  rawVersionInformation := []
  pendingCommands := []
  resumeOffset := 0
  options := options
  files := files
  parsedWith := 0
  ready := none

def updatableBuild : Bool :=
  env.buildType = wide "nightly" ∨ env.buildType = wide "official"

def getFilename (url : WString) : WString :=
  let ret := if url.contains '/'.toNat then url.rtakeWhile (· != '/'.toNat) else []
  ret.takeWhile fun char => char != '?'.toNat && char != '#'.toNat

/-- `fz::to_integral<uint64_t>` -/
def toSize (text : WString) : Nat :=
  let digits := if text.head? = some '+'.toNat then text.tail else text
  if digits = [] ∨ !digits.all isDigit then 0
  else
    let number := digits.foldl (fun number char => number * 10 + (char - 48)) 0
    if number < 2 ^ 64 then number else 0

def lineTokens (line : WString) : List WString :=
  strtok line (wide " \t\r\n")

def lines (text : WString) : List WString :=
  text.splitOnP (· == '\n'.toNat)

def isSignature (token : WString) : Bool :=
  token.take 4 = wide "sig:"

def rawSignature (token : WString) : List UInt8 :=
  env.base64Decode (toUtf8Bytes (token.drop 4))

def signedData (hash version : WString) : List UInt8 :=
  hexDecode hash ++ 0 :: version.map UInt8.ofNat

def validSignature (data : List UInt8) (tokens : List WString) : Bool :=
  tokens.foldl (fun valid token =>
    if isSignature token then env.verify data (rawSignature env token) else valid) false

def validEolSignature (data : List UInt8) (tokens : List WString) : Bool :=
  tokens.foldl (fun valid token =>
    if isSignature token ∧ rawSignature env token ≠ [] then
      env.verify data (rawSignature env token)
    else valid) false

def parseEol (tokens : List WString) (information : VersionInformation) : VersionInformation :=
  match env.eolData with
  | none => information
  | some data =>
    if validEolSignature env data tokens then { information with eol := true }
    else information

def isNewer (type versionOrDate : WString) : Bool :=
  if type = wide "nightly" then
    match env.datetime versionOrDate, env.buildDate with
    | some nightlyDate, some buildDate => !(nightlyDate ≤ buildDate)
    | _, _ => false
  else if type = wide "release" ∨ type = wide "beta" then
    !(convertToVersionNumber versionOrDate ≤ convertToVersionNumber env.fileZillaVersion)
  else false

def parseBuild (versionOrDate : WString) : List WString → Option Build
  | url :: sizestr :: hashAlgo :: hash :: signatures =>
    if updatableBuild env then
      if getFilename url = [] then none
      else if strToLowerAscii hashAlgo ≠ wide "sha512" then none
      else if toSize sizestr = 0 then none
      else if !(validSignature env (signedData hash versionOrDate) signatures) then none
      else if !((strToLowerAscii hash).all isHexDigit) then none
      else
        some
          { url := url
            version := versionOrDate
            hash := strToLowerAscii hash
            size := toInt64 (toSize sizestr) }
    else some { version := versionOrDate }
  | _ => some { version := versionOrDate }

def parseLine (tokens : List WString) (information : VersionInformation) :
    VersionInformation :=
  match tokens with
  | type :: versionOrDate :: more =>
    if type = wide "eol" then parseEol env (versionOrDate :: more) information
    else if !(isNewer env type versionOrDate) then information
    else
      match parseBuild env versionOrDate more with
      | none => information
      | some build =>
        if type = wide "nightly" ∧ updatableBuild env then
          { information with nightly := build }
        else if type = wide "release" then { information with stable := build }
        else if type = wide "beta" then { information with beta := build }
        else information
  | _ => information

def parseLines : List WString → VersionInformation → VersionInformation
  | [], information => information
  | line :: rest, information =>
    if lineTokens line = [] then information
    else parseLines rest (parseLine env (lineTokens line) information)

def selectAvailable (checkBeta : Int) (information : VersionInformation) : Build :=
  if information.nightly.url ≠ [] ∧ checkBeta = 2 then information.nightly
  else if information.beta.version ≠ [] ∧ checkBeta ≠ 0 then information.beta
  else information.stable

variable (self : Updater)

def parseData : Updater :=
  let information := parseLines env (lines self.rawVersionInformation) {}
  { self with
    versionInformation :=
      { information with available := selectAvailable self.options.checkBeta information }
    parsedWith := self.options.checkBeta
    options := { self.options with newVersion := self.rawVersionInformation } }

def getSize (files : Files) (name : WString) : Int :=
  match files.read env.linkDepth name with
  | some content => content.length
  | none => -1

def verifyChecksum (files : Files) (readable : WString → Bool) (file : WString) (size : Int)
    (checksum : WString) : Bool :=
  if file = [] ∨ checksum = [] then false
  else
    match files.read env.linkDepth file with
    | none => false
    | some content =>
      (content.length : Int) = size && readable file && hexEncode (env.sha512 content) = checksum

def tempFile (tempDir hash : WString) : WString :=
  tempDir ++ wide "fzupdate_" ++ hash.take 16 ++ wide ".tmp"

def getTempFile (inputs : UpdaterInputs) : WString :=
  let hash := self.versionInformation.available.hash
  if hash = [] ∨ inputs.tempDir = [] then [] else tempFile inputs.tempDir hash

def extensionStart (name : WString) : Option Nat :=
  if name.length > 8 ∧ strToLowerAscii (name.drop (name.length - 8)) = wide ".tar.bz2" then
    some (name.length - 8)
  else (name.reverse.idxOf? '.'.toNat).map (name.length - 1 - ·)

def alternative (name : WString) (number : Nat) : WString :=
  let suffix := wide " (" ++ wide (toString number) ++ wide ")"
  if number = 1 then name
  else
    match extensionStart name with
    | none => name ++ suffix
    | some pos => name.take pos ++ suffix ++ name.drop pos

def getLocalFile (inputs : UpdaterInputs) (allowExisting : Bool) : WString :=
  let b := self.versionInformation.available
  if inputs.downloadDir = [] then []
  else
    let names := (List.range' 1 99).map fun number =>
      inputs.downloadDir ++ alternative (getFilename b.url) number
    (names.find? fun name => !((self.files name).isSome &&
      (!allowExisting || !(verifyChecksum env self.files inputs.readable name b.size
        b.hash)))).getD []

def renameFile (outcome : Renaming) (source dest : WString) (files : Files) : Files × Bool :=
  match outcome, files.read env.linkDepth source with
  | .moved, _ => (files.move source dest, true)
  | .copied, some content => ((files.add dest (.file content)).remove source, true)
  | .copiedOnly, some content => (files.add dest (.file content), false)
  | _, _ => (files, false)

def removeFile (removed : Bool) (name : WString) (self : Updater) : Updater :=
  if removed then { self with files := self.files.remove name } else self

def setState (s : UpdaterState) (self : Updater) : Updater :=
  if s ≠ self.state then
    { self with
      state := s
      pendingCommands :=
        if s ≠ .checking ∧ s ≠ .newversionDownloading then [] else self.pendingCommands
      ready :=
        if s = .newversionReady then
          some ⟨self.rawVersionInformation, self.parsedWith, self.files⟩
        else self.ready }
  else self

def continueDownload (execute : UpdaterCommand → Executed) :
    List UpdaterCommand → List UpdaterCommand × Executed
  | [] => ([], .ok)
  | command :: rest =>
    match execute command with
    | .ok => continueDownload execute rest
    | res => (command :: rest, res)

def resumePending (execute : UpdaterCommand → Executed) (self : Updater) : Updater × Executed :=
  let (pendingCommands, res) := continueDownload execute self.pendingCommands
  ({ self with pendingCommands := pendingCommands }, res)

def download (execute : UpdaterCommand → Executed) (url localFile : WString) (self : Updater) :
    Updater × Executed :=
  if self.pendingCommands ≠ [] then (self, .error)
  else if !(env.downloadable url) ∨ localFile = [] then (self, .error)
  else
    resumePending execute
      { self with
        resumeOffset := (getSize env self.files localFile).toNat
        pendingCommands := [.disconnect, .connect, .transfer] }

def request (execute : UpdaterCommand → Executed) (self : Updater) : Updater × Executed :=
  if self.pendingCommands ≠ [] then (self, .error)
  else
    resumePending execute
      { self with pendingCommands := [.disconnect, .connect, .httpRequest] }

variable (inputs : UpdaterInputs)

def processFinishedDownload (self : Updater) :
    Updater × UpdaterState :=
  let b := self.versionInformation.available
  let temp := getTempFile self inputs
  if temp = [] then (self, .newversion)
  else if !(verifyChecksum env self.files inputs.readable temp b.size b.hash) then
    (removeFile inputs.removed temp self, .newversion)
  else
    let localFile := getLocalFile env self inputs false
    if localFile = [] then (removeFile inputs.removed temp self, .newversion)
    else
      let (files, done) := renameFile env inputs.renamed temp localFile self.files
      if !done then
        (removeFile inputs.removed temp { self with files := files }, .newversion)
      else ({ self with files := files, localFile := localFile }, .newversionReady)

def processFinishedData (execute : UpdaterCommand → Executed)
    (canDownload : Bool) (self : Updater) : Updater × UpdaterState :=
  let self := parseData env self
  let b := self.versionInformation.available
  if self.versionInformation.eol then (self, .eol)
  else if b.version = [] then (self, .idle)
  else if b.url ≠ [] then
    let temp := getTempFile self inputs
    let localFile := getLocalFile env self inputs true
    if localFile ≠ [] ∧ (self.files localFile).isSome then
      ({ self with localFile := localFile }, .newversionReady)
    else if temp = [] ∨ localFile = [] then (self, .newversion)
    else if 0 ≤ getSize env self.files temp ∧ b.size ≤ getSize env self.files temp then
      processFinishedDownload env inputs self
    else if !canDownload then (self, .newversion)
    else
      let (self, res) := download env execute b.url temp self
      if res = .wouldBlock then (self, .newversionDownloading) else (self, .newversion)
  else (self, .newversion)

def downloadedFile : WString :=
  if self.state = .newversionReady then self.localFile else []

def loadLocalData (self : Updater) : Updater × UpdaterState :=
  let text :=
    if !inputs.longTimeAtLoad ∨ self.options.disableUpdateCheck ≠ 0 then
      self.options.newVersion
    else []
  processFinishedData env inputs inputs.execute env.autoUpdateCheck
    { self with rawVersionInformation := text }

def shouldCheck (manual : Bool) (inputs : UpdaterInputs) (self : Updater) (s : UpdaterState) :
    Option (Updater × UpdaterState) :=
  if manual then
    let b := self.versionInformation.available
    if s = .idle ∨ s = .failed ∨ s = .newversionStale ∨ s = .eol ∨ inputs.longTimeAtCheck ∨
        (s = .newversion ∧ b.url ≠ []) ∨
        (s = .newversionReady ∧
          !(verifyChecksum env self.files inputs.readable (downloadedFile self) b.size
            b.hash)) then
      none
    else some (self, s)
  else if env.autoUpdateCheck ∧ (s = .failed ∨ s = .idle ∨ s = .newversionStale) then
    if self.options.disableUpdateCheck = 0 ∧ self.options.updateCheck ≠ 0 then
      if inputs.longTimeAtCheck then none else some (self, s)
    else if inputs.oldBuild then
      some ({ self with versionInformation := {} }, .newversionStale)
    else some (self, s)
  else some (self, s)

def busy : Bool :=
  self.state = .checking ∨ self.state = .newversionDownloading

def onRun (manual : Bool) (inputs : UpdaterInputs) (self : Updater) : Updater :=
  if busy self then self
  else if env.fileZillaVersion = [] then self
  else
    let (self, s) := loadLocalData env inputs (setState .checking self)
    match shouldCheck env manual inputs self s with
    | some (self, s) => setState s self
    | none =>
      let (self, res) := request inputs.executeAgain { self with localFile := [] }
      let self := if res ≠ .wouldBlock then setState .failed self else self
      { self with rawVersionInformation := [] }

/-- The text of a valid answer: no byte below 10 or above 127 -/
def filterOutput (outputBuffer : List UInt8) : Option WString :=
  if outputBuffer.all fun byte => 10 ≤ byte.toNat ∧ byte.toNat ≤ 127 then
    some (outputBuffer.map UInt8.toNat)
  else none

def retryDownload (self : Updater) : Option Updater × Updater :=
  let temp := getTempFile self inputs
  let size := getSize env self.files temp
  if self.state = .newversionDownloading ∧ temp ≠ [] ∧ 0 < size ∧
      self.resumeOffset < size.toNat then
    let (self, res) :=
      resumePending inputs.executeAgain { self with resumeOffset := size.toNat }
    if res = .wouldBlock then (some self, self) else (none, self)
  else (none, self)

def operationFailed (self : Updater) : Updater :=
  match retryDownload env inputs self with
  | (some self, _) => self
  | (none, self) => setState (if self.state ≠ .checking then .newversion else .failed) self

def operationSucceeded (outputBuffer : List UInt8) (self : Updater) :
    Updater :=
  if self.state = .checking then
    match filterOutput outputBuffer with
    | none => setState .failed { self with rawVersionInformation := [] }
    | some text =>
      let (self, s) := processFinishedData env inputs inputs.executeAgain true
          { self with rawVersionInformation := text }
      setState s self
  else
    let (self, s) := processFinishedDownload env inputs self
    setState s self

def replyDisconnected : Nat := 0x40

def processOperation (commandId : UpdaterCommand) (replyCode : Nat) (inputs : UpdaterInputs)
    (outputBuffer : List UInt8) (self : Updater) : Updater :=
  if !(busy self) then self
  else if self.pendingCommands = [] then setState .failed self
  else if replyCode = 0 ∨
      (commandId = .disconnect ∧ replyCode &&& replyDisconnected ≠ 0) then
    let (self, res) :=
      resumePending inputs.execute { self with pendingCommands := self.pendingCommands.tail }
    match res with
    | .wouldBlock => self
    | .ok => operationSucceeded env inputs outputBuffer self
    | .error => operationFailed env inputs self
  else operationFailed env inputs self

def reset : Updater :=
  if busy self then self
  else
    setState .idle
      { self with
        options := { self.options with newVersion := [], updateCheck := 1 }
        versionInformation := {}
        rawVersionInformation := []
        localFile := [] }

inductive Event
  | run (manual : Bool) (inputs : UpdaterInputs)
  | operation (commandId : UpdaterCommand) (replyCode : Nat) (outputBuffer : List UInt8)
      (inputs : UpdaterInputs)
  | reset
  | optionsChanged (options : UpdaterOptions)
  | filesChanged (files : Files)

def handle : Event → Updater
  | .run manual inputs => onRun env manual inputs self
  | .operation commandId replyCode outputBuffer inputs =>
    processOperation env commandId replyCode inputs outputBuffer self
  | .reset => reset self
  | .optionsChanged options => { self with options := options }
  | .filesChanged files => { self with files := files }

def step (event : Event) : Option Updater :=
  some (handle env self event)

end Updater

end FileZilla
