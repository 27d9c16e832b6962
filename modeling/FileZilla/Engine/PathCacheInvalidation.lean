import FileZilla.Engine.PathCache
import FileZilla.Engine.ServerPathOrder
import FileZilla.Engine.ServerPathParents

namespace FileZilla

namespace CServerPath

/-- The path is the directory with further segments. A name of a data set on MVS has no volume
and is no directory. -/
structure Beneath (directory path : CServerPath) : Prop where
  type : path.type = directory.type
  filled : directory.empty = false
  parent : path.hasParent = true
  volume : directory.type ≠ .mvs → path.volume = directory.volume
  dataSet : directory.type = .mvs → directory.volume ≠ .none
  shorter : directory.segments <+: path.segments
  longer : directory.segments ≠ path.segments

def AtOrBeneath (directory path : CServerPath) : Prop :=
  path = directory ∨ Beneath directory path

variable {directory path : CServerPath}

theorem isParentOf_iff_beneath : directory.isParentOf path = true ↔ Beneath directory path := by
  obtain ⟨_ | data, type⟩ := path
  · exact ⟨fun below => absurd below (by simp [isParentOf, isSubdirOf, isSubdirOfBy]),
      fun below => absurd below.parent (by simp [hasParent])⟩
  obtain ⟨_ | upper, upperType⟩ := directory
  · exact ⟨fun below => absurd below (by simp [isParentOf, isSubdirOf, isSubdirOfBy]),
      fun below => absurd below.filled (by simp [empty])⟩
  by_cases same : type = upperType
  case pos =>
    subst same
    rw [isParentOf, isSubdirOf_eq_true_iff]
    constructor
    · rintro ⟨parent, volume, dataSet, shorter, longer⟩
      exact ⟨rfl, rfl, parent, volume, dataSet, shorter, longer rfl⟩
    · intro below
      exact ⟨below.parent, below.volume, below.dataSet, below.shorter, fun _ => below.longer⟩
  case neg =>
    refine ⟨fun below => ?_, fun below => absurd below.type same⟩
    exact absurd below (by simp [isParentOf, isSubdirOf, isSubdirOfBy, same])

end CServerPath

open CServerPath

namespace ServerCache

variable {serverCache : ServerCache} {key : CSourcePath} {value target : CServerPath}

def Holds (serverCache : ServerCache) (key : CSourcePath) (value : CServerPath) : Prop :=
  (key, value) ∈ serverCache.toList

theorem holds_purge :
    (purge serverCache target).Holds key value ↔
      serverCache.Holds key value ∧ ¬AtOrBeneath target value ∧
        ¬AtOrBeneath target key.source := by
  unfold Holds purge
  rw [Std.TreeMap.toList_filter, List.mem_filter]
  refine and_congr_right fun _ => ?_
  rw [Bool.not_eq_true', Bool.or_eq_false_iff, Bool.or_eq_false_iff, Bool.or_eq_false_iff]
  simp only [← Bool.not_eq_true, equal_iff, isParentOf_iff_beneath, AtOrBeneath, not_or,
    and_assoc]

theorem holds_erase {sourcePath : CSourcePath} :
    Holds (serverCache.erase sourcePath) key value ↔
      serverCache.Holds key value ∧ compareOfLess CSourcePath.less sourcePath key ≠ .eq := by
  unfold Holds
  rw [Std.TreeMap.mem_toList_iff_getKey?_eq_some_and_getElem?_eq_some,
    Std.TreeMap.mem_toList_iff_getKey?_eq_some_and_getElem?_eq_some,
    Std.TreeMap.getKey?_erase, Std.TreeMap.getElem?_erase]
  split
  case isTrue same => simp [same]
  case isFalse other => simp [other]

/-- The directory that a subdirectory resolves to: what is cached for it, or the path with one
more segment. -/
def resolve (serverCache : ServerCache) (path : CServerPath) (subdir : WString) : CServerPath :=
  let cached := serverCache.lookup path subdir
  if cached.empty then (path.addSegment subdir).getD CServerPath.none else cached

theorem invalidatePath_eq {path : CServerPath} {subdir : WString} (filled : path.empty = false)
    (named : subdir ≠ []) :
    serverCache.invalidatePath path subdir =
      purge (serverCache.erase { source := path, subdir }) (serverCache.resolve path subdir) := by
  obtain ⟨_ | data, type⟩ := path
  · exact absurd filled (by simp [empty])
  have nonempty : subdir.isEmpty = false := List.isEmpty_eq_false_iff.mpr named
  unfold invalidatePath resolve lookup
  simp only [nonempty, Bool.not_false, Bool.and_true]
  split
  case isTrue => rfl
  case isFalse => rfl

theorem holds_invalidatePath {path : CServerPath} {subdir : WString}
    (filled : path.empty = false) (named : subdir ≠ []) :
    (serverCache.invalidatePath path subdir).Holds key value ↔
      serverCache.Holds key value ∧
        compareOfLess CSourcePath.less { source := path, subdir } key ≠ .eq ∧
        ¬AtOrBeneath (serverCache.resolve path subdir) value ∧
        ¬AtOrBeneath (serverCache.resolve path subdir) key.source := by
  rw [invalidatePath_eq filled named, holds_purge, holds_erase, and_assoc]

end ServerCache

namespace CPathCache

variable {cache : CPathCache} {server other : CServer} {key : CSourcePath}
  {value path : CServerPath} {subdir : WString}

def Holds (cache : CPathCache) (server : CServer) (key : CSourcePath) (value : CServerPath) :
    Prop :=
  ∃ serverCache, cache[server]? = some serverCache ∧ ServerCache.Holds serverCache key value

def resolve (cache : CPathCache) (server : CServer) (path : CServerPath) (subdir : WString) :
    CServerPath :=
  ((cache[server]?).getD ∅).resolve path subdir

theorem exists_holds_of_entry (present : cache.entry server key = some value) :
    ∃ key', compareOfLess CSourcePath.less key key' = .eq ∧ cache.Holds server key' value := by
  unfold entry at present
  cases found : cache[server]? with
  | none => simp [found] at present
  | some serverCache =>
    rw [found] at present
    obtain ⟨key', same, member⟩ :=
      Std.TreeMap.getElem?_eq_some_iff_exists_compare_eq_eq_and_mem_toList.mp present
    exact ⟨key', same, serverCache, found, member⟩

theorem holds_invalidatePath_other (apart : compareOfLess CServer.less server other ≠ .eq) :
    (cache.invalidatePath server path subdir).Holds other key value ↔
      cache.Holds other key value := by
  unfold Holds
  rw [invalidatePath, Std.TreeMap.getElem?_modify, if_neg apart]

theorem holds_invalidatePath_same (same : compareOfLess CServer.less server other = .eq)
    (filled : path.empty = false) (named : subdir ≠ []) :
    (cache.invalidatePath server path subdir).Holds other key value ↔
      cache.Holds other key value ∧
        compareOfLess CSourcePath.less { source := path, subdir } key ≠ .eq ∧
        ¬AtOrBeneath (cache.resolve server path subdir) value ∧
        ¬AtOrBeneath (cache.resolve server path subdir) key.source := by
  unfold Holds resolve
  rw [invalidatePath, Std.TreeMap.getElem?_modify, if_pos same, Std.TreeMap.getElem?_congr same]
  cases found : cache[other]? with
  | none => simp
  | some serverCache =>
    simp only [Option.map_some, Option.some.injEq, exists_eq_left', Option.getD_some]
    exact ServerCache.holds_invalidatePath filled named

/-- Servers and source paths are the same if the maps find one by the other. -/
theorem invalidatePath_complete (cache : CPathCache) (server : CServer) {path : CServerPath}
    {subdir : WString} (filled : path.empty = false) (named : subdir ≠ []) :
    let after := cache.invalidatePath server path subdir
    let directory := cache.resolve server path subdir
    let sameServer (other : CServer) := compareOfLess CServer.less server other = .eq
    let sameKey (key : CSourcePath) :=
      compareOfLess CSourcePath.less { source := path, subdir } key = .eq
    (∀ other key value, sameServer other → after.Holds other key value →
      ¬AtOrBeneath directory value ∧ ¬AtOrBeneath directory key.source) ∧
    (∀ other key, sameServer other → sameKey key → after.entry other key = Option.none) ∧
    ∀ other key value, ¬(sameServer other ∧
        (sameKey key ∨ AtOrBeneath directory value ∨ AtOrBeneath directory key.source)) →
      (after.Holds other key value ↔ cache.Holds other key value) := by
  intro after directory sameServer sameKey
  refine ⟨?_, ?_, ?_⟩
  · intro other key value same held
    exact ((holds_invalidatePath_same same filled named).mp held).2.2
  · intro other key same found
    cases present : after.entry other key with
    | none => rfl
    | some value =>
      obtain ⟨key', sameAs, held⟩ := exists_holds_of_entry present
      have gone := ((holds_invalidatePath_same same filled named).mp held).2.1
      exact absurd (Std.TransCmp.eq_trans found sameAs) gone
  · intro other key value spared
    by_cases same : sameServer other
    case pos =>
      rw [not_and, not_or, not_or] at spared
      obtain ⟨otherKey, notTarget, notSource⟩ := spared same
      exact (holds_invalidatePath_same same filled named).trans
        (and_iff_left ⟨otherKey, notTarget, notSource⟩)
    case neg => exact holds_invalidatePath_other same

theorem invalidatePath_complete_home :
    let server := CServer.ftp (wide "host") []
    let cache := store ∅ server unixHome unixRoot (wide "home")
    (cache.invalidatePath server unixRoot (wide "home")).entry server
      { source := unixRoot, subdir := wide "home" } = Option.none :=
  (invalidatePath_complete _ _ rfl (by decide)).2.1 _ _ Std.ReflCmp.compare_self
    Std.ReflCmp.compare_self

end CPathCache

end FileZilla
