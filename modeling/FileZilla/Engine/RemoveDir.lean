import FileZilla.Engine.DirectoryCacheInvalidation
import FileZilla.Engine.PathCacheInvalidation

namespace FileZilla

open List

universe u

namespace RemoveDir

/-- The `FZ_REPLY` codes of these operations -/
inductive Code
  | ok
  | wouldBlock
  | error
  | internalError
  | disconnected
  | continued
  deriving DecidableEq

structure Caches (Time : Type u) where
  pathCache : CPathCache
  directoryCache : CDirectoryCache Time

/-- What `Send` leads to: a result, a change of the directory first, or the command to remove it -/
inductive Sent
  | result (code : Code)
  | changeDir (path : CServerPath)
  | rmd (argument : WString)

variable {Time : Type u} (towlower : WChar → WChar)

def target (caches : Caches Time) (server : CServer) (path : CServerPath) (subDir : WString) :
    Option CServerPath :=
  let path' := caches.pathCache.lookup server path subDir
  if path'.empty then path.addSegment subDir else some path'

/-- What both kinds of `Send` do before they send the command -/
def invalidate (caches : Caches Time) (server : CServer) (path : CServerPath) (subDir : WString)
    (now : Nat) : Caches Time where
  pathCache := caches.pathCache.invalidatePath server path subDir
  directoryCache := (caches.directoryCache.invalidateFile towlower server path subDir now).2

def remove (caches : Caches Time) (server : CServer) (path : CServerPath) (subDir : WString)
    (now : Nat) : Caches Time :=
  { caches with
    directoryCache := caches.directoryCache.removeDir towlower server path subDir
      (caches.pathCache.lookup server path subDir) now }

inductive RmdState
  | init
  | waitcwd
  | rmd

structure CFtpRemoveDirOpData where
  opState : RmdState := .init
  path_ : CServerPath
  fullPath_ : CServerPath
  subDir_ : WString
  omitPath_ : Bool := true

namespace CFtpRemoveDirOpData

def new (path : CServerPath) (subDir : WString) : CFtpRemoveDirOpData where
  path_ := path
  fullPath_ := path
  subDir_ := subDir

variable (self : CFtpRemoveDirOpData)

def send (server : CServer) (caches : Caches Time) (now : Nat) :
    Sent × CFtpRemoveDirOpData × Caches Time :=
  match self.opState with
  | .init => (.changeDir self.path_, { self with opState := .waitcwd }, caches)
  | .waitcwd => (.result .internalError, self, caches)
  | .rmd =>
    match target caches server self.path_ self.subDir_ with
    | none => (.result .error, self, caches)
    | some _ =>
      let caches := invalidate towlower caches server self.path_ self.subDir_ now
      if self.omitPath_ then (.rmd self.subDir_, self, caches)
      else
        match self.fullPath_.addSegment self.subDir_ with
        | none => (.result .error, { self with fullPath_ := self.fullPath_.clear }, caches)
        | some fullPath => (.rmd fullPath.getPath, { self with fullPath_ := fullPath }, caches)

def subcommandResult (prevResult : Code) (currentPath_ : CServerPath) :
    Code × CFtpRemoveDirOpData :=
  match self.opState with
  | .waitcwd =>
    if prevResult ≠ .ok then (.continued, { self with omitPath_ := false, opState := .rmd })
    else (.continued, { self with path_ := currentPath_, opState := .rmd })
  | _ => (.internalError, self)

def parseResponse (server : CServer) (caches : Caches Time)
    (code now : Nat) : Code × Caches Time :=
  if code ≠ 2 ∧ code ≠ 3 then (.error, caches)
  else (.ok, remove towlower caches server self.path_ self.subDir_ now)

end CFtpRemoveDirOpData

structure CSftpRemoveDirOpData where
  path_ : CServerPath
  subDir_ : WString

namespace CSftpRemoveDirOpData

def send (self : CSftpRemoveDirOpData) (connected : Bool) (server : CServer)
    (caches : Caches Time) (now : Nat) : Sent × Caches Time :=
  if !connected then (.result .disconnected, caches)
  else
    match target caches server self.path_ self.subDir_ with
    | none => (.result .error, caches)
    | some fullPath =>
      (.rmd fullPath.getPath, invalidate towlower caches server self.path_ self.subDir_ now)

def doProcessStatus (self : CSftpRemoveDirOpData) (server : CServer) (caches : Caches Time)
    (ok : Bool) (now : Nat) : Code × Caches Time :=
  if ok then (.ok, remove towlower caches server self.path_ self.subDir_ now)
  else (.error, caches)

end CSftpRemoveDirOpData

/-- An operation about `subDir` in `path` has succeeded. With FTP, `path` is the directory that
the operation is in after its attempt to change to the one it was given. -/
inductive Succeeds (server : CServer) :
    CServerPath → WString → Caches Time → Caches Time → Prop
  | ftp {given path currentPath : CServerPath} {subDir argument : WString}
      {caches sent after : Caches Time} {prevResult : Code}
      {self changed waiting : CFtpRemoveDirOpData} {code sentAt repliedAt : Nat}
      (changing : (CFtpRemoveDirOpData.new given subDir).send towlower server caches sentAt =
        (.changeDir given, self, caches))
      (cwd : self.subcommandResult prevResult currentPath = (.continued, changed))
      (working : changed.path_ = path)
      (removing : changed.send towlower server caches sentAt = (.rmd argument, waiting, sent))
      (reply : waiting.parseResponse towlower server sent code repliedAt = (.ok, after)) :
      Succeeds server path subDir caches after
  | sftp {path : CServerPath} {subDir argument : WString} {caches sent after : Caches Time}
      {sentAt repliedAt : Nat}
      (removing : ({ path_ := path, subDir_ := subDir } : CSftpRemoveDirOpData).send towlower true
        server caches sentAt = (.rmd argument, sent))
      (status : ({ path_ := path, subDir_ := subDir } : CSftpRemoveDirOpData).doProcessStatus
        towlower server sent true repliedAt = (.ok, after)) :
      Succeeds server path subDir caches after

structure Purged (server : CServer) (path : CServerPath) (subDir : WString)
    (caches after : Caches Time) : Prop where
  directory : ∀ directory ∈ target caches server path subDir,
    ∀ entry ∈ after.directoryCache.cacheList server,
      ¬ CServerPath.AtOrBeneath directory entry.listing.path
  named : ∀ entry ∈ after.directoryCache.cacheList server, entry.listing.path = path →
    ∀ direntry ∈ entry.listing.entries, direntry.name = subDir → direntry.isUnsure = true

/-- Every listing at or beneath the directory is one that `RemoveDir` finds by `path` with one
more segment. -/
def FoundBySegment (server : CServer) (path : CServerPath) (subDir : WString)
    (caches : Caches Time) : Prop :=
  ∀ directory ∈ target caches server path subDir,
    ∀ entry ∈ caches.directoryCache.cacheList server,
      CServerPath.AtOrBeneath directory entry.listing.path →
        deletedWith towlower ((path.addSegment subDir).getD path.clear) entry.listing.path = true

section Cache

variable {towlower} {server : CServer} {path : CServerPath} {filename : WString}
  {cache : CDirectoryCache Time} {now : Nat}

def listed (cache : CDirectoryCache Time) (server : CServer) : List CServerPath :=
  (cache.cacheList server).map fun entry => entry.listing.path

theorem map_path_of_forall₂ {entries changed : List (CCacheEntry Time)} (same : List.Forall₂
      (fun entry after : CCacheEntry Time => after.listing.path = entry.listing.path)
      entries changed) :
    (changed.map fun entry => entry.listing.path) = entries.map fun entry => entry.listing.path := by
  induction same with
  | nil => rfl
  | cons here _ induction => rw [map_cons, map_cons, here, induction]

theorem exists_of_forall₂ {Related : CCacheEntry Time → CCacheEntry Time → Prop}
    {entries changed : List (CCacheEntry Time)} (related : List.Forall₂ Related entries changed)
    {after : CCacheEntry Time} (member : after ∈ changed) :
    ∃ entry ∈ entries, Related entry after := by
  induction related with
  | nil => exact absurd member not_mem_nil
  | cons here _ induction =>
    rcases mem_cons.mp member with rfl | later
    · exact ⟨_, mem_cons_self, here⟩
    · obtain ⟨entry, present, linked⟩ := induction later
      exact ⟨entry, mem_cons_of_mem _ present, linked⟩

open CCacheEntry

theorem listed_invalidateFile :
    listed (cache.invalidateFile towlower server path filename now).2 server =
      listed cache server := by
  refine map_path_of_forall₂ (CDirectoryCache.cacheList_invalidateFile.imp ?_)
  intro entry after same
  rw [listing_of_content same, listing_path_invalidated]

def NamedUnsure (filename : WString) (entry : CCacheEntry Time) : Prop :=
  ∀ direntry ∈ entry.listing.entries, direntry.name = filename → direntry.isUnsure = true

variable {direntry : CDirentry Time}

theorem markUnsure_named {cmpNoCase : Bool}
    (named : (markUnsure towlower cmpNoCase filename direntry).name = filename) :
    (markUnsure towlower cmpNoCase filename direntry).isUnsure = true := by
  unfold markUnsure at named ⊢
  split at named
  case isTrue same => rw [if_pos same]
  case isFalse other => exact absurd (named ▸ sameText_self cmpNoCase _) other

theorem markUnsure_keeps {cmpNoCase : Bool} (unsure : direntry.isUnsure = true) :
    (markUnsure towlower cmpNoCase filename direntry).isUnsure = true := by
  unfold markUnsure
  split
  case isTrue => rfl
  case isFalse => exact unsure

theorem name_markUnsure (cmpNoCase : Bool) (direntry : CDirentry Time) :
    (markUnsure towlower cmpNoCase filename direntry).name = direntry.name := by
  unfold markUnsure
  split <;> rfl

theorem namedUnsure_invalidateFile {after : CCacheEntry Time} (member : after ∈
      (cache.invalidateFile towlower server path filename now).2.cacheList server)
    (here : after.listing.path = path) : NamedUnsure filename after := by
  obtain ⟨entry, _, same⟩ := exists_of_forall₂ CDirectoryCache.cacheList_invalidateFile member
  have listing := listing_of_content same
  have place : entry.listing.path = path := by
    rw [← here, listing, listing_path_invalidated]
  rw [invalidated, place, if_pos (CServerPath.samePath_self ..)] at listing
  intro direntry present named
  rw [listing] at present
  obtain ⟨before, _, rfl⟩ := mem_map.mp present
  exact markUnsure_named named

theorem mem_removeFile {entry : CCacheEntry Time}
    (present : direntry ∈ (entry.removeFile towlower filename now).1.listing.entries) :
    ∃ before ∈ entry.listing.entries, direntry.name = before.name ∧
      (before.isUnsure = true → direntry.isUnsure = true) := by
  unfold removeFile at present
  split at present
  case h_1 index found =>
    dsimp only at present
    have kept : direntry ∈ entry.listing.entries := by
      unfold FlaggedListing.remove at present
      split at present
      case h_1 => exact present
      case h_2 =>
        unfold IndexedListing.removeEntry at present
        split at present
        · exact present
        · exact mem_of_mem_eraseIdx present
    exact ⟨direntry, kept, rfl, id⟩
  case h_2 =>
    obtain ⟨before, earlier, rfl⟩ := mem_map.mp present
    exact ⟨before, earlier, name_markUnsure true before, markUnsure_keeps⟩

theorem path_remove (listing : FlaggedListing Time) (index : Nat) :
    (listing.remove index).path = listing.path := by
  unfold FlaggedListing.remove
  split
  case h_1 => rfl
  case h_2 =>
    unfold IndexedListing.removeEntry
    split <;> rfl

theorem path_removeFile (entry : CCacheEntry Time) :
    (entry.removeFile towlower filename now).1.listing.path = entry.listing.path := by
  unfold removeFile
  split
  case h_1 => exact path_remove ..
  case h_2 => rfl

structure Kept (filename : WString) (entry after : CCacheEntry Time) : Prop where
  path : after.listing.path = entry.listing.path
  named : NamedUnsure filename entry → NamedUnsure filename after

theorem removeMatching_kept (entries : List (CCacheEntry Time)) (lru : LruList) (count : Int) :
    List.Forall₂ (Kept filename) entries
      (removeMatching towlower path filename now entries lru count).1 := by
  induction entries generalizing lru count with
  | nil => exact .nil
  | cons entry entries induction =>
    unfold removeMatching
    split
    case isFalse => exact .cons ⟨rfl, id⟩ (induction ..)
    case isTrue =>
      refine .cons ⟨?_, ?_⟩ (induction ..)
      · rw [path_removeFile, LruList.listing_update]
      · intro unsure direntry present named
        obtain ⟨before, earlier, name, flag⟩ := mem_removeFile present
        rw [LruList.listing_update] at earlier
        exact flag (unsure before earlier (name ▸ named))

theorem removeFile_kept :
    List.Forall₂ (Kept filename) (cache.cacheList server)
      ((cache.removeFile towlower server path filename now).2.cacheList server) := by
  unfold CDirectoryCache.removeFile
  cases found : cache.getServerEntry server with
  | none => exact forall₂_same.mpr fun _ _ => ⟨rfl, id⟩
  | some sit =>
    have kept := @removeMatching_kept _ towlower path filename now (cache.cacheList server)
      cache.leastRecentlyUsedList cache.totalFileCount
    exact (CDirectoryCache.cacheList_setCacheList found _).symm ▸ kept

theorem removeBelow_eq (absolutePath : CServerPath) (entries : List (CCacheEntry Time))
    (lru : LruList) (count : Int) :
    (removeBelow towlower absolutePath entries lru count).1 =
      entries.filter fun entry => !deletedWith towlower absolutePath entry.listing.path := by
  induction entries generalizing lru count with
  | nil => rfl
  | cons entry entries induction =>
    unfold removeBelow
    split
    case isTrue deleted => rw [induction, filter_cons_of_neg (by simp [deleted])]
    case isFalse spared =>
      dsimp only
      rw [induction, filter_cons_of_pos (by simp [spared])]

theorem removeDir_kept (ignored : CServerPath) :
    List.Forall₂ (Kept filename) ((cache.cacheList server).filter fun entry =>
        !deletedWith towlower ((path.addSegment filename).getD path.clear) entry.listing.path)
      ((cache.removeDir towlower server path filename ignored now).cacheList server) := by
  unfold CDirectoryCache.removeDir
  cases found : cache.getServerEntry server with
  | none =>
    simp only [CDirectoryCache.cacheList_of_unknown found, filter_nil]
    exact .nil
  | some sit =>
    dsimp only
    rw [← removeBelow_eq _ _ cache.leastRecentlyUsedList cache.totalFileCount]
    generalize removeBelow towlower ((path.addSegment filename).getD path.clear)
      (cache.cacheList server) cache.leastRecentlyUsedList cache.totalFileCount = below
    have kept := @removeFile_kept _ towlower server path filename
      { cache.setCacheList sit (below.1, below.2.1) with totalFileCount := below.2.2 } now
    have place : CDirectoryCache.cacheList
        { cache.setCacheList sit (below.1, below.2.1) with totalFileCount := below.2.2 } server =
          below.1 :=
      CDirectoryCache.cacheList_setCacheList found _
    rw [place] at kept
    exact kept

end Cache

variable {towlower} {server : CServer} {path : CServerPath} {subDir : WString}
  {caches after : Caches Time}

variable {self : CFtpRemoveDirOpData}

theorem send_rmd {waiting : CFtpRemoveDirOpData} {sent : Caches Time} {now : Nat}
    {argument : WString} (removing : self.opState = .rmd)
    (sending : self.send towlower server caches now = (.rmd argument, waiting, sent)) :
    (∃ directory, target caches server self.path_ self.subDir_ = some directory) ∧
      waiting.path_ = self.path_ ∧ waiting.subDir_ = self.subDir_ ∧
      sent = invalidate towlower caches server self.path_ self.subDir_ now := by
  unfold CFtpRemoveDirOpData.send at sending
  rw [removing] at sending
  cases known : target caches server self.path_ self.subDir_ with
  | none =>
    rw [known] at sending
    cases sending
  | some directory =>
    rw [known] at sending
    dsimp only at sending
    refine ⟨⟨directory, rfl⟩, ?_⟩
    split at sending
    case isTrue =>
      cases sending
      exact ⟨rfl, rfl, rfl⟩
    case isFalse =>
      split at sending
      case h_1 => cases sending
      case h_2 =>
        cases sending
        exact ⟨rfl, rfl, rfl⟩

theorem subcommandResult_changed {changed : CFtpRemoveDirOpData} {prevResult : Code}
    {currentPath : CServerPath}
    (cwd : self.subcommandResult prevResult currentPath = (.continued, changed)) :
    changed.opState = .rmd ∧ changed.subDir_ = self.subDir_ := by
  unfold CFtpRemoveDirOpData.subcommandResult at cwd
  split at cwd
  case h_1 =>
    split at cwd
    · cases cwd
      exact ⟨rfl, rfl⟩
    · cases cwd
      exact ⟨rfl, rfl⟩
  case h_2 => cases cwd

theorem parseResponse_ok {code now : Nat}
    (reply : self.parseResponse towlower server caches code now = (.ok, after)) :
    after = remove towlower caches server self.path_ self.subDir_ now := by
  unfold CFtpRemoveDirOpData.parseResponse at reply
  split at reply
  case isTrue => cases reply
  case isFalse =>
    cases reply
    rfl

theorem succeeds_cases (succeeded : Succeeds towlower server path subDir caches after) :
    (∃ directory, target caches server path subDir = some directory) ∧
      ∃ sentAt repliedAt, after =
        remove towlower (invalidate towlower caches server path subDir sentAt) server path subDir
          repliedAt := by
  cases succeeded with
  | ftp changing cwd working removing reply =>
    cases changing
    obtain ⟨state, same⟩ := subcommandResult_changed cwd
    obtain ⟨known, samePath, sameDir, made⟩ := send_rmd state removing
    have whole := parseResponse_ok reply
    rw [samePath, sameDir, made, same, working] at whole
    rw [same, working] at known
    exact ⟨known, _, _, whole⟩
  | sftp removing status =>
    unfold CSftpRemoveDirOpData.send at removing
    cases known : target caches server path subDir with
    | none =>
      simp only [Bool.not_true, Bool.false_eq_true, if_false, known] at removing
      cases removing
    | some directory =>
      simp only [Bool.not_true, Bool.false_eq_true, if_false, known] at removing
      cases removing
      cases status
      exact ⟨⟨directory, rfl⟩, _, _, rfl⟩

/-- `RemoveDir` does not use the target it is given: the listings of the removed directory are
purged if they are found under the path with one more segment. -/
theorem removeDir_purges_iff (succeeded : Succeeds towlower server path subDir caches after) :
    Purged server path subDir caches after ↔
      FoundBySegment towlower server path subDir caches := by
  obtain ⟨⟨directory, known⟩, sentAt, repliedAt, rfl⟩ := succeeds_cases succeeded
  have kept := @removeDir_kept _ towlower server path subDir
    (caches.directoryCache.invalidateFile towlower server path subDir sentAt).2 repliedAt
    ((invalidate towlower caches server path subDir sentAt).pathCache.lookup server path subDir)
  have places := @listed_invalidateFile _ towlower server path subDir caches.directoryCache sentAt
  have samePlaces := map_path_of_forall₂ (kept.imp fun _ _ same => same.path)
  constructor
  · intro purged other resolved entry member inside
    refine Classical.byContradiction fun spared => ?_
    have still : entry.listing.path ∈ listed
        (caches.directoryCache.invalidateFile towlower server path subDir sentAt).2 server := by
      rw [places]
      exact mem_map_of_mem member
    obtain ⟨touched, present, place⟩ := mem_map.mp still
    have left : entry.listing.path ∈ ((caches.directoryCache.invalidateFile towlower server path
        subDir sentAt).2.cacheList server |>.filter fun entry => !deletedWith towlower
          ((path.addSegment subDir).getD path.clear) entry.listing.path).map
        fun entry => entry.listing.path := by
      refine mem_map.mpr ⟨touched, mem_filter.mpr ⟨present, ?_⟩, place⟩
      rw [place]
      simp [spared]
    rw [← samePlaces] at left
    obtain ⟨last, found, lastPlace⟩ := mem_map.mp left
    exact purged.directory other resolved last found (lastPlace ▸ inside)
  · intro found
    refine ⟨?_, ?_⟩
    · intro other resolved entry member inside
      obtain ⟨before, present, same⟩ := exists_of_forall₂ kept member
      obtain ⟨touched, spared⟩ := mem_filter.mp present
      have earlier : before.listing.path ∈ listed caches.directoryCache server :=
        places ▸ mem_map_of_mem touched
      obtain ⟨original, listing, place⟩ := mem_map.mp earlier
      rw [same.path, ← place] at inside
      rw [← place, found other resolved original listing inside] at spared
      cases spared
    · intro entry member here
      obtain ⟨before, present, same⟩ := exists_of_forall₂ kept member
      have unsure := namedUnsure_invalidateFile (mem_filter.mp present).1
        (same.path.symm.trans here)
      exact same.named unsure

theorem succeeds_sftp {directory : CServerPath}
    (known : target caches server path subDir = some directory) (sentAt repliedAt : Nat) :
    Succeeds towlower server path subDir caches
      (remove towlower (invalidate towlower caches server path subDir sentAt) server path subDir
        repliedAt) := by
  have removing : ({ path_ := path, subDir_ := subDir } : CSftpRemoveDirOpData).send towlower true
      server caches sentAt =
        (.rmd directory.getPath, invalidate towlower caches server path subDir sentAt) := by
    unfold CSftpRemoveDirOpData.send
    simp only [Bool.not_true, Bool.false_eq_true, if_false, known]
  exact .sftp removing rfl

def linked : Caches Unit where
  pathCache := CPathCache.store ∅ (.ftp (wide "host") []) (.unixAt [wide "r"])
    (.unixAt [wide "a"]) (wide "l")
  directoryCache := {
    serverList := [{
      server := .ftp (wide "host") []
      cacheList := [{ listing := { path := .unixAt [wide "r"] }, modificationTime := 0 }] }] }

theorem linked_target : target linked (.ftp (wide "host") []) (.unixAt [wide "a"]) (wide "l") =
    some (.unixAt [wide "r"]) := by
  decide +kernel

theorem removeDir_keepsLinked : ∃ after,
    Succeeds asciiTolower (.ftp (wide "host") []) (.unixAt [wide "a"]) (wide "l") linked after ∧
      ¬ Purged (.ftp (wide "host") []) (.unixAt [wide "a"]) (wide "l") linked after := by
  refine ⟨_, succeeds_sftp linked_target 1 2, ?_⟩
  intro purged
  have listing : CServerPath.unixAt [wide "r"] ∈ listed (remove asciiTolower (invalidate asciiTolower linked
      (.ftp (wide "host") []) (.unixAt [wide "a"]) (wide "l") 1) (.ftp (wide "host") [])
        (.unixAt [wide "a"]) (wide "l") 2).directoryCache (.ftp (wide "host") []) := by
    decide +kernel
  obtain ⟨entry, member, place⟩ := mem_map.mp listing
  exact purged.directory _ linked_target entry member (.inl place)

theorem removeDir_purges_plain :
    Purged (.ftp (wide "host") []) (.unixAt []) (wide "r") linked
      (remove asciiTolower (invalidate asciiTolower linked (.ftp (wide "host") []) (.unixAt [])
        (wide "r") 1) (.ftp (wide "host") []) (.unixAt []) (wide "r") 2) := by
  have known : target linked (.ftp (wide "host") []) (.unixAt []) (wide "r") =
      some (.unixAt [wide "r"]) := by
    decide +kernel
  refine (removeDir_purges_iff (succeeds_sftp known 1 2)).mpr ?_
  intro directory resolved entry member _
  rw [known] at resolved
  cases resolved
  have place : entry.listing.path = .unixAt [wide "r"] := by
    rw [show linked.directoryCache.cacheList (.ftp (wide "host") []) =
      [{ listing := { path := .unixAt [wide "r"] }, modificationTime := 0 }] from by rfl] at member
    rw [mem_singleton.mp member]
  rw [place]
  decide +kernel

end RemoveDir

end FileZilla
