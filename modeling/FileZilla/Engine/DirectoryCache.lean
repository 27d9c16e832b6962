import FileZilla.Engine.ListingLookup
import FileZilla.Engine.ServerPathChange
import FileZilla.Engine.ServerPathOrder
import FileZilla.Engine.ServerSettings

namespace FileZilla

universe u

inductive CaseSensitivity
  | unspecified
  | yes
  | no
  deriving DecidableEq

def ServerProtocol.caseSensitivity : ServerProtocol → CaseSensitivity
  | .b2 | .googleDrive => .yes
  | .box | .onedrive => .no
  | _ => .unspecified

namespace CServer

def getCaseSensitivity (server : CServer) : CaseSensitivity :=
  server.protocol.caseSensitivity

/-- Only for case sensitive servers the comparisons take the case into account. -/
def ignoresCase (server : CServer) : Bool :=
  server.getCaseSensitivity != .yes

def getExtraParameter (server : CServer) (name : List UInt8) : WString :=
  ((server.extraParameters.find? fun parameter => parameter.1 == name).map Prod.snd).getD []

/-- The parameters with the flag `content_transparent` -/
def contentTransparent : List String :=
  ["allow_non_crlf_identification_string", "allow_agent_keys_of_unknown_type"]

def sameResource (server other : CServer) : Bool :=
  server.protocol == other.protocol && server.host == other.host &&
    server.port == other.port && server.user == other.user &&
    server.postLoginCommands == other.postLoginCommands &&
    server.protocol.extraServerParameterTraits.all fun parameter =>
      contentTransparent.contains parameter.1 ||
        server.getExtraParameter (asciiBytes parameter.1) ==
          other.getExtraParameter (asciiBytes parameter.1)

def sameContent (server other : CServer) : Bool :=
  server.sameResource other && server.timezoneOffset == other.timezoneOffset &&
    server.encodingType == other.encodingType && server.customEncoding == other.customEncoding

end CServer

section Comparisons

variable (towlower : WChar → WChar)

def sameText (cmpNoCase : Bool) (left right : WString) : Bool :=
  if cmpNoCase then stricmp towlower left right == .eq else left == right

namespace CServerPath

def unixAt (segments : List WString) : CServerPath where
  data := some { segments, pathPrefix := Option.none }
  type := .unix

/-- `IsParentOf` with both flags -/
def isParentOfBy (self path : CServerPath) (cmpNoCase allowEqual : Bool) : Bool :=
  path.isSubdirOfBy (sameText towlower cmpNoCase) self allowEqual

def samePath (cmpNoCase : Bool) (self path : CServerPath) : Bool :=
  if cmpNoCase then self.equalNocase towlower path else self.equal path

end CServerPath

variable {towlower}

theorem wcsncasecmp_self (count : Nat) (text : WString) :
    wcsncasecmp towlower count text text = .eq := by
  induction count generalizing text with
  | zero => rfl
  | succ count induction =>
    cases text with
    | nil => rfl
    | cons char rest => simp [wcsncasecmp, induction]

@[simp] theorem stricmp_self (text : WString) : stricmp towlower text text = .eq := by
  simp [stricmp, wcsncasecmp_self]

@[simp] theorem sameText_self (cmpNoCase : Bool) (text : WString) :
    sameText towlower cmpNoCase text text = true := by
  cases cmpNoCase with
  | false => simp [sameText]
  | true => simp [sameText]

namespace CServerPath

@[simp] theorem equalNocase_self (path : CServerPath) :
    path.equalNocase towlower path = true := by
  have segmentsSame : ∀ segments : List WString,
      ((segments.zip segments).all fun pair => stricmp towlower pair.1 pair.2 == .eq) = true := by
    intro segments
    induction segments with
    | nil => rfl
    | cons segment segments induction => simpa using induction
  unfold equalNocase
  cases path.data with
  | none => rfl
  | some data =>
    have prefixSame : samePrefix (fun left right => stricmp towlower left right == .eq)
        data.pathPrefix data.pathPrefix = true := by
      cases data.pathPrefix with
      | none => rfl
      | some volume => simp [samePrefix]
    simp only [beq_self_eq_true, prefixSame, segmentsSame, Bool.and_self]

@[simp] theorem samePath_self (cmpNoCase : Bool) (path : CServerPath) :
    samePath towlower cmpNoCase path path = true := by
  cases cmpNoCase with
  | false => simp [samePath]
  | true => simp [samePath]

end CServerPath

end Comparisons

/-- The bits of `m_flags` that the cache changes -/
structure ListingFlags where
  fileAdded : Bool := false
  fileRemoved : Bool := false
  fileChanged : Bool := false
  dirAdded : Bool := false
  dirRemoved : Bool := false
  dirChanged : Bool := false
  unknown : Bool := false
  invalid : Bool := false
  hasDirs : Bool := false

def ListingFlags.unsure (flags : ListingFlags) : Bool :=
  flags.fileAdded || flags.fileRemoved || flags.fileChanged || flags.dirAdded ||
    flags.dirRemoved || flags.dirChanged || flags.unknown || flags.invalid

structure FlaggedListing (Time : Type u) extends IndexedListing Time where
  flags : ListingFlags := {}

def FlaggedListing.remove {Time : Type u} (listing : FlaggedListing Time) (index : Nat) :
    FlaggedListing Time :=
  match listing.entries[index]? with
  | none => listing
  | some entry =>
    { toIndexedListing := (listing.removeEntry index).2
      flags :=
        if entry.isDir then { listing.flags with dirRemoved := true }
        else { listing.flags with fileRemoved := true } }

/-- `lruIt` is the node of the list of least recently used entries, if the entry has one. -/
structure CCacheEntry (Time : Type u) where
  listing : FlaggedListing Time
  modificationTime : Nat
  lruIt : Option Nat := none

structure CServerEntry (Time : Type u) where
  server : CServer
  cacheList : List (CCacheEntry Time) := []

structure LruList where
  nodes : List Nat := []
  fresh : Nat := 0

structure CDirectoryCache (Time : Type u) where
  serverList : List (CServerEntry Time) := []
  leastRecentlyUsedList : LruList := {}
  totalFileCount : Int := 0

variable {Time : Type u}

def CCacheEntry.content (entry : CCacheEntry Time) : FlaggedListing Time × Nat :=
  (entry.listing, entry.modificationTime)

def LruList.update (lru : LruList) (entry : CCacheEntry Time) : CCacheEntry Time × LruList :=
  match entry.lruIt with
  | some node => (entry, { lru with nodes := lru.nodes.erase node ++ [node] })
  | none =>
    ({ entry with lruIt := some lru.fresh },
      { nodes := lru.nodes ++ [lru.fresh], fresh := lru.fresh + 1 })

def LruList.erase (lru : LruList) (entry : CCacheEntry Time) : LruList :=
  match entry.lruIt with
  | some node => { lru with nodes := lru.nodes.erase node }
  | none => lru

@[simp] theorem LruList.content_update (lru : LruList) (entry : CCacheEntry Time) :
    (lru.update entry).1.content = entry.content := by
  unfold update
  cases entry.lruIt with
  | none => rfl
  | some node => rfl

namespace CDirectoryCache

variable (cache : CDirectoryCache Time)

def getServerEntry (server : CServer) : Option Nat :=
  cache.serverList.findIdx? fun entry => entry.server.sameContent server

def cacheList (server : CServer) : List (CCacheEntry Time) :=
  match cache.getServerEntry server with
  | none => []
  | some sit => ((cache.serverList[sit]?).map CServerEntry.cacheList).getD []

def setCacheList (sit : Nat)
    (changed : List (CCacheEntry Time) × LruList) : CDirectoryCache Time :=
  { cache with
    serverList := cache.serverList.modify sit fun entry => { entry with cacheList := changed.1 }
    leastRecentlyUsedList := changed.2 }

theorem getServerEntry_setCacheList (server : CServer) (sit : Nat)
    (changed : List (CCacheEntry Time) × LruList) :
    (cache.setCacheList sit changed).getServerEntry server = cache.getServerEntry server := by
  unfold getServerEntry setCacheList
  dsimp only
  generalize cache.serverList = entries
  induction entries generalizing sit with
  | nil => simp
  | cons entry entries induction =>
    cases sit with
    | zero => simp [List.findIdx?_cons]
    | succ sit => simp [List.findIdx?_cons, induction]

theorem cacheList_setCacheList {cache : CDirectoryCache Time} {server : CServer} {sit : Nat}
    (found : cache.getServerEntry server = some sit)
    (changed : List (CCacheEntry Time) × LruList) :
    (cache.setCacheList sit changed).cacheList server = changed.1 := by
  have bound : sit < cache.serverList.length := (List.findIdx?_eq_some_iff_findIdx_eq.mp found).1
  have listed : (cache.setCacheList sit changed).serverList[sit]? =
      some { cache.serverList[sit] with cacheList := changed.1 } := by
    simp [setCacheList, List.getElem?_modify, bound]
  simp only [cacheList, getServerEntry_setCacheList, found, listed, Option.map_some,
    Option.getD_some]

theorem serverList_setCacheList {cache : CDirectoryCache Time} {sit index : Nat}
    (other : sit ≠ index) (changed : List (CCacheEntry Time) × LruList) :
    (cache.setCacheList sit changed).serverList[index]? = cache.serverList[index]? := by
  simp [setCacheList, List.getElem?_modify, other]

end CDirectoryCache

section Operations

variable (towlower : WChar → WChar) (cmpNoCase : Bool)

namespace CCacheEntry

variable (entry : CCacheEntry Time)

/-- What both loops of `InvalidateFile` do to a listing -/
def touch (now : Nat) : CCacheEntry Time :=
  { entry with
    listing := { entry.listing with flags := { entry.listing.flags with unknown := true } }
    modificationTime := now }

variable (filename : WString)

def markUnsure (entry : CDirentry Time) : CDirentry Time :=
  if sameText towlower cmpNoCase filename entry.name then { entry with isUnsure := true }
  else entry

def invalidateFile (now : Nat) :
    CCacheEntry Time :=
  touch { entry with
    listing := { entry.listing with
      entries := entry.listing.entries.map (markUnsure towlower cmpNoCase filename) } } now

def showsDir : Bool :=
  entry.listing.entries.any fun direntry =>
    sameText towlower cmpNoCase filename direntry.name && direntry.isDir

/-- `RemoveFile` for one listing, with the number of entries that are removed -/
def removeFile (now : Nat) :
    CCacheEntry Time × Int :=
  match entry.listing.entries.findIdx? fun direntry => direntry.name == filename with
  | some index =>
    ({ entry with listing := entry.listing.remove index, modificationTime := now }, 1)
  | none =>
    ({ entry with
        listing := { entry.listing with
          entries := entry.listing.entries.map (markUnsure towlower true filename)
          flags := { entry.listing.flags with invalid := true } }
        modificationTime := now }, 0)

end CCacheEntry

/-- The first loop of `InvalidateFile`, with the flag `dir` -/
def invalidateMatching (path : CServerPath) (filename : WString) (now : Nat) :
    List (CCacheEntry Time) → LruList → Bool → List (CCacheEntry Time) × LruList × Bool
  | [], lru, dir => ([], lru, dir)
  | entry :: entries, lru, dir =>
    if path.samePath towlower cmpNoCase entry.listing.path then
      let (entry, lru) := lru.update entry
      let rest := invalidateMatching path filename now entries lru
        (dir || entry.showsDir towlower cmpNoCase filename)
      (entry.invalidateFile towlower cmpNoCase filename now :: rest.1, rest.2)
    else
      let rest := invalidateMatching path filename now entries lru dir
      (entry :: rest.1, rest.2)

/-- The second loop of `InvalidateFile` -/
def invalidateBelow (path : CServerPath) (now : Nat) (entries : List (CCacheEntry Time)) :
    List (CCacheEntry Time) :=
  entries.map fun entry =>
    if path.isParentOfBy towlower entry.listing.path cmpNoCase true then entry.touch now
    else entry

/-- The loop of `RemoveFile`, with the count of files -/
def removeMatching (path : CServerPath) (filename : WString) (now : Nat) :
    List (CCacheEntry Time) → LruList → Int → List (CCacheEntry Time) × LruList × Int
  | [], lru, count => ([], lru, count)
  | entry :: entries, lru, count =>
    if path.equalNocase towlower entry.listing.path then
      let (entry, lru) := lru.update entry
      let (entry, removed) := entry.removeFile towlower filename now
      let rest := removeMatching path filename now entries lru (count - removed)
      (entry :: rest.1, rest.2)
    else
      let rest := removeMatching path filename now entries lru count
      (entry :: rest.1, rest.2)

/-- Whether `RemoveDir` deletes what is cached for `listed` -/
def deletedWith (absolutePath listed : CServerPath) : Bool :=
  !absolutePath.empty &&
    (listed.equal absolutePath || absolutePath.isParentOfBy towlower listed true false)

/-- The loop of `RemoveDir`, with the count of files -/
def removeBelow (absolutePath : CServerPath) :
    List (CCacheEntry Time) → LruList → Int → List (CCacheEntry Time) × LruList × Int
  | [], lru, count => ([], lru, count)
  | entry :: entries, lru, count =>
    if deletedWith towlower absolutePath entry.listing.path then
      removeBelow absolutePath entries (lru.erase entry) (count - entry.listing.entries.length)
    else
      let rest := removeBelow absolutePath entries lru count
      (entry :: rest.1, rest.2)

namespace CDirectoryCache

variable (cache : CDirectoryCache Time)

def invalidateFile (server : CServer) (path : CServerPath)
    (filename : WString) (now : Nat) : Bool × CDirectoryCache Time :=
  match cache.getServerEntry server with
  | none => (false, cache)
  | some sit =>
    let matching := invalidateMatching towlower server.ignoresCase path filename now
      (cache.cacheList server) cache.leastRecentlyUsedList false
    let entries :=
      if matching.2.2 && (path.changePath filename).isSome then
        invalidateBelow towlower server.ignoresCase path now matching.1
      else matching.1
    (true, cache.setCacheList sit (entries, matching.2.1))

def removeFile (server : CServer) (path : CServerPath)
    (filename : WString) (now : Nat) : Bool × CDirectoryCache Time :=
  match cache.getServerEntry server with
  | none => (false, cache)
  | some sit =>
    let matching := removeMatching towlower path filename now
      (cache.cacheList server) cache.leastRecentlyUsedList cache.totalFileCount
    (true,
      { cache.setCacheList sit (matching.1, matching.2.1) with totalFileCount := matching.2.2 })

/-- The last argument has no name in the code. -/
def removeDir (server : CServer) (path : CServerPath)
    (filename : WString) (_ : CServerPath) (now : Nat) : CDirectoryCache Time :=
  match cache.getServerEntry server with
  | none => cache
  | some sit =>
    let absolutePath := (path.addSegment filename).getD path.clear
    let kept := removeBelow towlower absolutePath
      (cache.cacheList server) cache.leastRecentlyUsedList cache.totalFileCount
    let cache := { cache.setCacheList sit (kept.1, kept.2.1) with totalFileCount := kept.2.2 }
    (cache.removeFile towlower server path filename now).2

end CDirectoryCache

end Operations

end FileZilla
