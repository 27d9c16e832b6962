import Mathlib.Data.List.Forall2
import FileZilla.Engine.DirectoryCache

namespace FileZilla

universe u

variable {Time : Type u}

namespace CCacheEntry

variable (entry : CCacheEntry Time)

@[simp] theorem content_touch (now : Nat) :
    (entry.touch now).content =
      ({ entry.listing with flags := { entry.listing.flags with unknown := true } }, now) := rfl

@[simp] theorem listing_touch (now : Nat) :
    (entry.touch now).listing =
      { entry.listing with flags := { entry.listing.flags with unknown := true } } := rfl

theorem unsure_touch (now : Nat) :
    (entry.touch now).listing.flags.unsure = true := by
  simp [ListingFlags.unsure]

theorem listing_of_content {entry after : CCacheEntry Time} (same : after.content = entry.content) :
    after.listing = entry.listing :=
  congrArg Prod.fst same

theorem touch_congr {entry after : CCacheEntry Time} (same : after.content = entry.content)
    (now : Nat) : (after.touch now).content = (entry.touch now).content := by
  rw [content_touch, content_touch, listing_of_content same]

end CCacheEntry

open CCacheEntry

@[simp] theorem LruList.listing_update (lru : LruList) (entry : CCacheEntry Time) :
    (lru.update entry).1.listing = entry.listing :=
  listing_of_content (lru.content_update entry)

section Invalidation

variable (towlower : WChar → WChar)

/-- The directory that `filename` denotes in `path`, as `InvalidateFile` makes it -/
def CServerPath.child (path : CServerPath) (filename : WString) : Option CServerPath :=
  (path.changePath filename).map Prod.fst

/-- `listed` is the directory or one beneath it, as far as case matters. -/
def CServerPath.ListedIn (cmpNoCase : Bool) (directory listed : CServerPath) : Prop :=
  directory.samePath towlower cmpNoCase listed = true ∨
    directory.isParentOfBy towlower listed cmpNoCase true = true

/-- What may become of a listing if `filename` in `path` may have changed; `child` is the
directory it was, if it was one. -/
structure Touched (cmpNoCase : Bool) (path : CServerPath) (filename : WString)
    (child : Option CServerPath) (entry after : CCacheEntry Time) : Prop where
  samePlace : after.listing.path = entry.listing.path
  ofPath : path.samePath towlower cmpNoCase entry.listing.path = true →
    after.listing.flags.unsure = true ∧
      after.listing.entries =
        entry.listing.entries.map (markUnsure towlower cmpNoCase filename)
  ofChild : ∀ directory ∈ child, directory.ListedIn towlower cmpNoCase entry.listing.path →
    after.listing.flags.unsure = true
  other : path.samePath towlower cmpNoCase entry.listing.path = false →
    (∀ directory ∈ child, ¬ directory.ListedIn towlower cmpNoCase entry.listing.path) →
    after.content = entry.content

open List

namespace CDirectoryCache

/-- A listing of `path` shows `filename` as a directory. -/
def shownAsDir (cache : CDirectoryCache Time) (server : CServer) (path : CServerPath)
    (filename : WString) : Bool :=
  (cache.cacheList server).any fun entry =>
    path.samePath towlower server.ignoresCase entry.listing.path &&
      entry.showsDir towlower server.ignoresCase filename

def shownChild (cache : CDirectoryCache Time) (server : CServer) (path : CServerPath)
    (filename : WString) : Option CServerPath :=
  if cache.shownAsDir towlower server path filename then path.child filename else none

/-- Only what may have changed is touched. -/
structure TouchesOnly (server : CServer) (path : CServerPath) (filename : WString)
    (cache after : CDirectoryCache Time) : Prop where
  servers : after.serverList.map CServerEntry.server = cache.serverList.map CServerEntry.server
  otherServers : ∀ index, cache.getServerEntry server ≠ some index →
    after.serverList[index]? = cache.serverList[index]?
  listings : Forall₂ (Touched towlower server.ignoresCase path filename
      (cache.shownChild towlower server path filename))
    (cache.cacheList server) (after.cacheList server)

/-- Apart from the listings of `path` itself, those that `path` is an ancestor of are those at or
beneath `path/filename`; one that is unsure anyway does not matter. -/
def ChildIsAll (server : CServer) (path : CServerPath) (filename : WString)
    (cache : CDirectoryCache Time) (now : Nat) : Prop :=
  ∀ directory ∈ cache.shownChild towlower server path filename, ∀ entry ∈ cache.cacheList server,
      path.samePath towlower server.ignoresCase entry.listing.path = false →
      (directory.ListedIn towlower server.ignoresCase entry.listing.path →
        path.isParentOfBy towlower entry.listing.path server.ignoresCase true = true ∨
          entry.listing.flags.unsure = true) ∧
      (¬ directory.ListedIn towlower server.ignoresCase entry.listing.path →
        path.isParentOfBy towlower entry.listing.path server.ignoresCase true = true →
        (entry.touch now).content = entry.content)

end CDirectoryCache

section Loops

variable {towlower} {cmpNoCase : Bool} {path : CServerPath} {filename : WString} {now : Nat}

/-- What the loops make of a listing; `deep` tells whether the second one runs. -/
def invalidated (towlower : WChar → WChar) (cmpNoCase : Bool) (path : CServerPath)
    (filename : WString) (now : Nat) (deep : Bool) (entry : CCacheEntry Time) :
    CCacheEntry Time :=
  if path.samePath towlower cmpNoCase entry.listing.path then
    entry.invalidateFile towlower cmpNoCase filename now
  else if deep && path.isParentOfBy towlower entry.listing.path cmpNoCase true then
    entry.touch now
  else entry

theorem invalidateMatching_content (entries : List (CCacheEntry Time)) (lru : LruList)
    (dir : Bool) :
    Forall₂ (fun entry after : CCacheEntry Time => after.content =
        (invalidated towlower cmpNoCase path filename now false entry).content)
      entries (invalidateMatching towlower cmpNoCase path filename now entries lru dir).1 := by
  induction entries generalizing lru dir with
  | nil => exact .nil
  | cons entry entries induction =>
    unfold invalidateMatching
    by_cases here : path.samePath towlower cmpNoCase entry.listing.path = true
    case pos =>
      rw [if_pos here]
      refine .cons ?_ (induction ..)
      simp [invalidated, here, invalidateFile]
    case neg =>
      rw [if_neg here]
      exact .cons (by simp [invalidated, here]) (induction ..)

theorem invalidateMatching_dir (entries : List (CCacheEntry Time)) (lru : LruList) (dir : Bool) :
    (invalidateMatching towlower cmpNoCase path filename now entries lru dir).2.2 =
      (dir || entries.any fun entry =>
        path.samePath towlower cmpNoCase entry.listing.path &&
          entry.showsDir towlower cmpNoCase filename) := by
  induction entries generalizing lru dir with
  | nil => simp [invalidateMatching]
  | cons entry entries induction =>
    unfold invalidateMatching
    by_cases here : path.samePath towlower cmpNoCase entry.listing.path = true
    case pos => simp [here, induction, showsDir, Bool.or_assoc]
    case neg => simp [here, induction]

theorem listing_path_invalidated (deep : Bool) (entry : CCacheEntry Time) :
    (invalidated towlower cmpNoCase path filename now deep entry).listing.path =
      entry.listing.path := by
  unfold invalidated
  split
  case isTrue => rfl
  case isFalse => split <;> rfl

theorem invalidateBelow_content {entries changed : List (CCacheEntry Time)} (first : Forall₂
      (fun entry after : CCacheEntry Time => after.content =
        (invalidated towlower cmpNoCase path filename now false entry).content)
      entries changed) :
    Forall₂ (fun entry after : CCacheEntry Time => after.content =
        (invalidated towlower cmpNoCase path filename now true entry).content)
      entries (invalidateBelow towlower cmpNoCase path now changed) := by
  rw [invalidateBelow, forall₂_map_right_iff]
  refine first.imp ?_
  intro entry after same
  have samePlace : after.listing.path = entry.listing.path := by
    rw [listing_of_content same, listing_path_invalidated]
  rw [samePlace]
  by_cases here : path.samePath towlower cmpNoCase entry.listing.path = true
  case pos =>
    simp only [invalidated, here, if_true] at same ⊢
    split
    case isTrue =>
      -- the flag and the time are set already
      rw [touch_congr same]
      rfl
    case isFalse => exact same
  case neg =>
    simp only [invalidated, here, Bool.false_and, Bool.true_and, Bool.false_eq_true,
      if_false] at same ⊢
    split
    case isTrue => exact touch_congr same now
    case isFalse => exact same

end Loops

namespace CDirectoryCache

variable {towlower} {server : CServer} {path : CServerPath} {filename : WString}
  {cache : CDirectoryCache Time} {now : Nat}

theorem cacheList_of_unknown (unknown : cache.getServerEntry server = none) :
    cache.cacheList server = [] := by
  rw [cacheList, unknown]

theorem map_server_setCacheList (sit : Nat) (changed : List (CCacheEntry Time) × LruList) :
    (cache.setCacheList sit changed).serverList.map CServerEntry.server =
      cache.serverList.map CServerEntry.server := by
  apply ext_getElem?
  intro index
  simp only [setCacheList, getElem?_map, getElem?_modify, Option.map_map]
  cases cache.serverList[index]? with
  | none => rfl
  | some entry =>
    simp only [Option.map_eq_map, Option.map_some]
    split <;> rfl

theorem cacheList_invalidateFile :
    Forall₂ (fun entry after : CCacheEntry Time => after.content =
        (invalidated towlower server.ignoresCase path filename now
          (cache.shownChild towlower server path filename).isSome entry).content)
      (cache.cacheList server)
      ((cache.invalidateFile towlower server path filename now).2.cacheList server) := by
  unfold invalidateFile
  cases found : cache.getServerEntry server with
  | none =>
    simp only [cacheList_of_unknown found]
    exact .nil
  | some sit =>
    have first := @invalidateMatching_content _ towlower server.ignoresCase path filename now
      (cache.cacheList server) cache.leastRecentlyUsedList false
    have dir := @invalidateMatching_dir _ towlower server.ignoresCase path filename now
      (cache.cacheList server) cache.leastRecentlyUsedList false
    have deep : (cache.shownChild towlower server path filename).isSome =
        ((invalidateMatching towlower server.ignoresCase path filename now
          (cache.cacheList server) cache.leastRecentlyUsedList false).2.2 &&
          (path.changePath filename).isSome) := by
      rw [dir, Bool.false_or, shownChild, shownAsDir, CServerPath.child]
      split
      case isTrue shown => rw [shown, Bool.true_and, Option.isSome_map]
      case isFalse hidden => rw [eq_false_of_ne_true hidden]; rfl
    dsimp only
    rw [cacheList_setCacheList found, ← deep]
    dsimp only
    cases (cache.shownChild towlower server path filename).isSome with
    | true => exact invalidateBelow_content first
    | false => exact first

end CDirectoryCache

section Touching

variable {towlower} {cmpNoCase : Bool} {path : CServerPath} {filename : WString} {now : Nat}
  {child : Option CServerPath} {entry : CCacheEntry Time}

theorem touched_congr {after changed : CCacheEntry Time} (same : changed.content = after.content) :
    Touched towlower cmpNoCase path filename child entry changed ↔
      Touched towlower cmpNoCase path filename child entry after := by
  have listing := listing_of_content same
  constructor
  · rintro ⟨samePlace, ofPath, ofChild, other⟩
    rw [listing] at samePlace ofPath ofChild
    rw [same] at other
    exact ⟨samePlace, ofPath, ofChild, other⟩
  · rintro ⟨samePlace, ofPath, ofChild, other⟩
    rw [← listing] at samePlace ofPath ofChild
    rw [← same] at other
    exact ⟨samePlace, ofPath, ofChild, other⟩

theorem forall₂_touched_iff {entries changed : List (CCacheEntry Time)}
    {change : CCacheEntry Time → CCacheEntry Time}
    (made : Forall₂ (fun entry after : CCacheEntry Time =>
      after.content = (change entry).content) entries changed) :
    Forall₂ (Touched towlower cmpNoCase path filename child) entries changed ↔
      ∀ entry ∈ entries, Touched towlower cmpNoCase path filename child entry (change entry) := by
  induction made with
  | nil => simp
  | cons same _ induction =>
    rw [forall₂_cons, forall_mem_cons, induction, touched_congr same]

theorem touched_ofPath (deep : Bool)
    (here : path.samePath towlower cmpNoCase entry.listing.path = true) :
    Touched towlower cmpNoCase path filename child entry
      (invalidated towlower cmpNoCase path filename now deep entry) where
  samePlace := listing_path_invalidated deep entry
  ofPath _ := by
    rw [invalidated, if_pos here]
    exact ⟨unsure_touch .., rfl⟩
  ofChild _ _ _ := by
    rw [invalidated, if_pos here]
    exact unsure_touch ..
  other elsewhere := absurd here (by simp [elsewhere])

theorem touched_of_noChild
    (elsewhere : path.samePath towlower cmpNoCase entry.listing.path = false) :
    Touched towlower cmpNoCase path filename none entry
      (invalidated towlower cmpNoCase path filename now false entry) where
  samePlace := listing_path_invalidated false entry
  ofPath here := absurd here (by simp [elsewhere])
  ofChild directory member := absurd member (by simp)
  other _ _ := by simp [invalidated, elsewhere]

theorem touched_child_iff {directory : CServerPath}
    (elsewhere : path.samePath towlower cmpNoCase entry.listing.path = false) :
    Touched towlower cmpNoCase path filename (some directory) entry
        (invalidated towlower cmpNoCase path filename now true entry) ↔
      (directory.ListedIn towlower cmpNoCase entry.listing.path →
        path.isParentOfBy towlower entry.listing.path cmpNoCase true = true ∨
          entry.listing.flags.unsure = true) ∧
      (¬ directory.ListedIn towlower cmpNoCase entry.listing.path →
        path.isParentOfBy towlower entry.listing.path cmpNoCase true = true →
        (entry.touch now).content = entry.content) := by
  have notHere : ¬ path.samePath towlower cmpNoCase entry.listing.path = true := by
    simp [elsewhere]
  by_cases below : path.isParentOfBy towlower entry.listing.path cmpNoCase true = true
  case pos =>
    have made : invalidated towlower cmpNoCase path filename now true entry =
        entry.touch now := by
      simp [invalidated, elsewhere, below]
    rw [made]
    constructor
    · intro touched
      refine ⟨fun _ => .inl below, fun outside _ => touched.other elsewhere ?_⟩
      intro other member
      cases member
      exact outside
    · rintro ⟨_, unchanged⟩
      exact {
        samePlace := rfl
        ofPath := fun here => absurd here notHere
        ofChild := fun _ _ _ => entry.unsure_touch now
        other := fun _ outside => unchanged (outside directory rfl) below }
  case neg =>
    have made : invalidated towlower cmpNoCase path filename now true entry = entry := by
      simp [invalidated, elsewhere, below]
    rw [made]
    constructor
    · intro touched
      exact ⟨fun inside => .inr (touched.ofChild directory rfl inside),
        fun _ isBelow => absurd isBelow below⟩
    · rintro ⟨unsure, _⟩
      refine ⟨rfl, fun here => absurd here notHere, ?_, fun _ _ => rfl⟩
      intro other member inside
      cases member
      exact (unsure inside).resolve_left below

end Touching

namespace CDirectoryCache

variable {towlower} {server : CServer} {path : CServerPath} {filename : WString}
  {cache : CDirectoryCache Time} {now : Nat}

theorem map_server_invalidateFile :
    (cache.invalidateFile towlower server path filename now).2.serverList.map
        CServerEntry.server = cache.serverList.map CServerEntry.server := by
  unfold invalidateFile
  cases cache.getServerEntry server with
  | none => rfl
  | some sit => exact map_server_setCacheList sit _

theorem otherServers_invalidateFile {index : Nat}
    (other : cache.getServerEntry server ≠ some index) :
    (cache.invalidateFile towlower server path filename now).2.serverList[index]? =
      cache.serverList[index]? := by
  unfold invalidateFile
  cases found : cache.getServerEntry server with
  | none => rfl
  | some sit =>
    have apart : sit ≠ index := fun same => other (same ▸ found)
    exact serverList_setCacheList apart _

/-- `InvalidateFile` flags what lies beneath `path`, although it has made the path of the
directory that changed. -/
theorem invalidateFile_touchesOnly_iff (cache : CDirectoryCache Time) (server : CServer)
    (path : CServerPath) (filename : WString) (now : Nat) :
    TouchesOnly towlower server path filename cache
        (cache.invalidateFile towlower server path filename now).2 ↔
      ChildIsAll towlower server path filename cache now := by
  have made := @cacheList_invalidateFile _ towlower server path filename cache now
  have listings := @forall₂_touched_iff _ towlower server.ignoresCase path filename
    (cache.shownChild towlower server path filename) _ _ _ made
  constructor
  · rintro ⟨_, _, touched⟩ directory shown entry member elsewhere
    have each := listings.mp touched entry member
    rw [Option.mem_def.mp shown] at each
    exact (touched_child_iff elsewhere).mp each
  · intro all
    refine ⟨map_server_invalidateFile, fun _ => otherServers_invalidateFile, listings.mpr ?_⟩
    intro entry member
    cases here : path.samePath towlower server.ignoresCase entry.listing.path with
    | true => exact touched_ofPath _ here
    | false =>
      cases shown : cache.shownChild towlower server path filename with
      | none => exact touched_of_noChild here
      | some directory =>
        exact (touched_child_iff here).mpr (all directory shown entry member here)

def nested : CDirectoryCache Unit where
  serverList := [{
    server := .ftp (wide "host") []
    cacheList := [
      { listing := { path := .unixAt [wide "a"], entries := [{ name := wide "x", isDir := true }] }
        modificationTime := 0 },
      { listing := { path := .unixAt [wide "a", wide "y"] }, modificationTime := 0 }] }]

/-- A change of `x` makes the listing of its sibling unsure. -/
theorem invalidateFile_touchesSibling :
    ¬ TouchesOnly asciiTolower (.ftp (wide "host") []) (.unixAt [wide "a"]) (wide "x") nested
      (nested.invalidateFile asciiTolower (.ftp (wide "host") []) (.unixAt [wide "a"])
        (wide "x") 1).2 := by
  intro touched
  have child : nested.shownChild asciiTolower (.ftp (wide "host") []) (.unixAt [wide "a"])
      (wide "x") = some (.unixAt [wide "a", wide "x"]) := by
    decide +kernel
  obtain ⟨_, listings⟩ := forall₂_iff_get.mp touched.listings
  have sibling := (listings 1 (by decide) (by decide +kernel)).other (by decide +kernel) (by
    intro directory member
    rw [child] at member
    cases member
    unfold CServerPath.ListedIn
    decide +kernel)
  exact absurd (congrArg Prod.snd sibling) (by decide +kernel)

end CDirectoryCache

end Invalidation

end FileZilla
