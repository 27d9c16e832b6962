import FileZilla.Runs
import FileZilla.Engine.ServerPath

namespace FileZilla

/-! The cache of resolved directories: for each server, where changing from a
source directory into a subdirectory leads. -/

structure CSourcePath where
  source : CServerPath
  subdir : WString

def CSourcePath.less (left right : CSourcePath) : Bool :=
  decideBy (compare left.subdir right.subdir) (left.source.less right.source)

def CSourcePath.order : CSourcePath → CSourcePath → Ordering :=
  compareLex (compareOn CSourcePath.subdir)
    (fun left right => CServerPath.order left.source right.source)

instance : Std.TransCmp CSourcePath.order :=
  haveI : Std.TransCmp fun left right : CSourcePath =>
      CServerPath.order left.source right.source :=
    { eq_swap := Std.OrientedCmp.eq_swap
      isLE_trans := Std.TransCmp.isLE_trans }
  inferInstanceAs (Std.TransCmp (compareLex _ _))

theorem CSourcePath.less_eq (left right : CSourcePath) :
    less left right = (order left right == .lt) := by
  rw [less, CServerPath.less_eq, decideBy_then]
  rfl

instance : Std.TransCmp (compareOfLess CSourcePath.less) :=
  compareOfLess_eq CSourcePath.less_eq ▸ inferInstance

open CServer

instance : Std.TransCmp (compareOfLess less) :=
  compareOfLess_less ▸ inferInstance

abbrev ServerCache :=
  Std.TreeMap CSourcePath CServerPath (compareOfLess CSourcePath.less)

abbrev CPathCache :=
  Std.TreeMap CServer ServerCache (compareOfLess less)

namespace ServerCache

variable (serverCache : ServerCache)

def lookup (source : CServerPath) (subdir : WString) :
    CServerPath :=
  (serverCache[({ source, subdir } : CSourcePath)]?).getD CServerPath.none

def purge (target : CServerPath) : ServerCache :=
  serverCache.filter fun key value =>
    !(value.equal target || target.isParentOf value ||
      key.source.equal target || target.isParentOf key.source)

def invalidatePath (path : CServerPath)
    (subdir : WString) : ServerCache :=
  let sourcePath : CSourcePath := { source := path, subdir }
  let target := (serverCache[sourcePath]?).getD CServerPath.none
  let serverCache := serverCache.erase sourcePath
  if target.empty && !subdir.isEmpty then
    match path.addSegment subdir with
    | none => serverCache
    | some target => if target.empty then serverCache else purge serverCache target
  else if target.empty then
    serverCache
  else
    purge serverCache target

end ServerCache

namespace CPathCache

variable (cache : CPathCache) (server : CServer)

def store (target source : CServerPath)
    (subdir : WString) : CPathCache :=
  let serverCache := (cache[server]?).getD ∅
  insertOrAssign cache server (insertOrAssign serverCache { source, subdir } target)

def lookup (source : CServerPath)
    (subdir : WString) : CServerPath :=
  match cache[server]? with
  | none => CServerPath.none
  | some serverCache => serverCache.lookup source subdir

def invalidateServer : CPathCache :=
  cache.erase server

def invalidatePath (path : CServerPath)
    (subdir : WString) : CPathCache :=
  cache.modify server fun serverCache => serverCache.invalidatePath path subdir

end CPathCache

inductive PathCacheCall
  | store (server : CServer) (target source : CServerPath) (subdir : WString)
  | invalidatePath (server : CServer) (path : CServerPath) (subdir : WString)
  | invalidateServer (server : CServer)
  | clear

namespace PathCacheCall

def server : PathCacheCall → Option CServer
  | store server _ _ _ => some server
  | invalidatePath server _ _ => some server
  | invalidateServer server => some server
  | clear => none

def apply (cache : CPathCache) : PathCacheCall → CPathCache
  | store server target source subdir => cache.store server target source subdir
  | invalidatePath server path subdir => cache.invalidatePath server path subdir
  | invalidateServer server => cache.invalidateServer server
  | clear => ∅

end PathCacheCall

def pathCacheStep (cache : CPathCache) (call : PathCacheCall) : Option CPathCache :=
  some (call.apply cache)

open Std.TreeMap

namespace ServerCache

variable {serverCache : ServerCache} {key : CSourcePath} {value : CServerPath}

theorem getElem?_purge {target : CServerPath}
    (kept : (purge serverCache target)[key]? = some value) :
    serverCache[key]? = some value := by
  rw [purge, getElem?_filter, Option.pfilter_eq_some_iff] at kept
  exact kept.1

theorem getElem?_erase {sourcePath : CSourcePath}
    (kept : (serverCache.erase sourcePath)[key]? = some value) :
    serverCache[key]? = some value := by
  rw [Std.TreeMap.getElem?_erase] at kept
  split at kept
  case isTrue => cases kept
  case isFalse => exact kept

theorem getElem?_invalidatePath {path : CServerPath} {subdir : WString}
    (kept : (invalidatePath serverCache path subdir)[key]? = some value) :
    serverCache[key]? = some value := by
  simp only [invalidatePath] at kept
  split at kept
  case isTrue =>
    cases added : path.addSegment subdir with
    | none => exact getElem?_erase (by simpa [added] using kept)
    | some target =>
      simp only [added] at kept
      split at kept
      case isTrue => exact getElem?_erase kept
      case isFalse => exact getElem?_erase (getElem?_purge kept)
  case isFalse =>
    split at kept
    case isTrue => exact getElem?_erase kept
    case isFalse => exact getElem?_erase (getElem?_purge kept)

end ServerCache

namespace CPathCache

variable {cache : CPathCache} {server other : CServer} {key : CSourcePath}

def entry (cache : CPathCache) (server : CServer) (key : CSourcePath) :
    Option CServerPath :=
  match cache[server]? with
  | none => none
  | some serverCache => serverCache[key]?

theorem lookup_eq (cache : CPathCache) (server : CServer) (source : CServerPath)
    (subdir : WString) :
    lookup cache server source subdir =
      (entry cache server { source, subdir }).getD CServerPath.none := by
  unfold lookup entry
  cases cache[server]? <;> rfl

theorem entry_congr {cache after : CPathCache} (same : after[server]? = cache[server]?) :
    entry after server key = entry cache server key := by
  unfold entry
  rw [same]

variable {subdir : WString}

theorem entry_store_other {target source : CServerPath}
    (apart : compareOfLess less server other ≠ .eq) :
    entry (store cache server target source subdir) other key =
      entry cache other key := by
  apply entry_congr
  rw [store, getElem?_insertOrAssign, if_neg apart]

theorem entry_store_same {target source : CServerPath}
    (same : compareOfLess less server other = .eq) :
    entry (store cache server target source subdir) other key =
      if compareOfLess CSourcePath.less { source, subdir } key = .eq then some target
      else entry cache other key := by
  have stored : (store cache server target source subdir)[other]? =
      some (insertOrAssign ((cache[server]?).getD ∅) { source, subdir } target) := by
    rw [store, getElem?_insertOrAssign, if_pos same]
  have earlier : ((cache[other]?).getD ∅)[key]? = entry cache other key := by
    unfold entry
    cases cache[other]? <;> rfl
  have found : entry (store cache server target source subdir) other key =
      (insertOrAssign ((cache[server]?).getD ∅) { source, subdir } target)[key]? := by
    unfold entry
    rw [stored]
  rw [found, getElem?_insertOrAssign, getElem?_congr same, earlier]

theorem entry_invalidateServer_other (apart : compareOfLess less server other ≠ .eq) :
    entry (invalidateServer cache server) other key = entry cache other key := by
  apply entry_congr
  rw [invalidateServer, getElem?_erase, if_neg apart]

theorem entry_invalidatePath_other {path : CServerPath}
    (apart : compareOfLess less server other ≠ .eq) :
    entry (invalidatePath cache server path subdir) other key =
      entry cache other key := by
  apply entry_congr
  rw [invalidatePath, getElem?_modify, if_neg apart]

theorem entry_invalidateServer {value : CServerPath}
    (kept : entry (invalidateServer cache server) other key = some value) :
    entry cache other key = some value := by
  by_cases same : compareOfLess less server other = .eq
  case pos =>
    unfold entry invalidateServer at kept
    simp [same] at kept
  case neg => rwa [entry_invalidateServer_other same] at kept

theorem entry_invalidatePath {path : CServerPath} {value : CServerPath}
    (kept : entry (invalidatePath cache server path subdir) other key = some value) :
    entry cache other key = some value := by
  by_cases same : compareOfLess less server other = .eq
  case neg => rwa [entry_invalidatePath_other same] at kept
  case pos =>
    unfold entry invalidatePath at kept
    rw [getElem?_modify, if_pos same, getElem?_congr same] at kept
    unfold entry
    cases found : cache[other]? with
    | none => simp [found] at kept
    | some serverCache =>
      rw [found] at kept
      exact ServerCache.getElem?_invalidatePath kept

end CPathCache

/-! Separation of servers. The cache finds a server by `operator<`, the engine
tells servers apart by `operator==`. -/

def DifferOnlyInPostLoginCommands (left right : CServer) : Prop :=
  SameOrder left right ∧ left.postLoginCommands ≠ right.postLoginCommands

def CallsUse (used : CServer → Prop) (trace : List (CPathCache × PathCacheCall)) :
    Prop :=
  ∀ taken ∈ trace, ∀ server, taken.2.server = some server → used server

open CPathCache

structure ServersSeparated (used : CServer → Prop) : Prop where
  found : ∀ trace cache, Run pathCacheStep ∅ trace cache → CallsUse used trace →
    ∀ server source subdir, used server →
      (lookup cache server source subdir).empty = false →
      ∃ taken ∈ trace, ∃ owner storedSource storedSubdir,
        taken.2 = .store owner (lookup cache server source subdir)
          storedSource storedSubdir ∧
        owner.equal server = true
  untouched : ∀ trace cache, Run pathCacheStep ∅ trace cache → CallsUse used trace →
    ∀ call owner server, call.server = some owner → used owner → used server →
      owner.equal server = false → ∀ source subdir,
        lookup (PathCacheCall.apply cache call) server source subdir =
          lookup cache server source subdir

theorem compareOfLess_less_eq_iff {left right : CServer} :
    compareOfLess less left right = .eq ↔ SameOrder left right := by
  rw [compareOfLess_less, order_eq_iff]

def Stored (trace : List (CPathCache × PathCacheCall)) (cache : CPathCache) : Prop :=
  ∀ server key target, entry cache server key = some target →
    ∃ taken ∈ trace, ∃ owner storedSource storedSubdir,
      taken.2 = .store owner target storedSource storedSubdir ∧
      compareOfLess less owner server = .eq

def PathCacheCall.Replaces (server : CServer) (key : CSourcePath) : PathCacheCall → Prop
  | store owner _ source subdir => compareOfLess less owner server = .eq ∧
      compareOfLess CSourcePath.less { source, subdir } key = .eq
  | invalidatePath .. => False
  | invalidateServer owner => compareOfLess less owner server = .eq
  | clear => True

variable {cache : CPathCache} {server : CServer} {key : CSourcePath} {target : CServerPath}

theorem entry_apply {call : PathCacheCall}
    (present : entry (call.apply cache) server key = some target) :
    (∃ owner source subdir, call = .store owner target source subdir ∧
        call.Replaces server key) ∨
      (¬ call.Replaces server key ∧ entry cache server key = some target) := by
  cases call with
  | store owner value source subdir =>
    by_cases same : compareOfLess less owner server = .eq
    · rw [PathCacheCall.apply, entry_store_same same] at present
      split at present
      case isTrue equal =>
        cases present
        exact .inl ⟨owner, source, subdir, rfl, same, equal⟩
      case isFalse apart => exact .inr ⟨fun replaces => apart replaces.2, present⟩
    · rw [PathCacheCall.apply, entry_store_other same] at present
      exact .inr ⟨fun replaces => same replaces.1, present⟩
  | invalidatePath => exact .inr ⟨id, entry_invalidatePath present⟩
  | invalidateServer owner =>
    refine .inr ⟨fun same : compareOfLess less owner server = .eq => ?_,
      entry_invalidateServer present⟩
    simp [entry, PathCacheCall.apply, invalidateServer, same] at present
  | clear => simp [entry, PathCacheCall.apply] at present

theorem stored_step {trace : List (CPathCache × PathCacheCall)} (stored : Stored trace cache)
    (call : PathCacheCall) :
    Stored (trace ++ [(cache, call)]) (call.apply cache) := by
  intro server key target present
  rcases entry_apply present with ⟨owner, source, subdir, rfl, replaces⟩ | ⟨_, before⟩
  · exact ⟨_, List.mem_append_right _ (List.mem_singleton_self _),
      owner, source, subdir, rfl, replaces.1⟩
  · obtain ⟨taken, member, rest⟩ := stored server key target before
    exact ⟨taken, List.mem_append_left _ member, rest⟩

theorem run_stored {trace : List (CPathCache × PathCacheCall)}
    (run : Run pathCacheStep ∅ trace cache) : Stored trace cache := by
  induction run with
  | refl =>
    intro server key target present
    simp [entry] at present
  | @step trace cache next call run taken ih =>
    cases taken
    exact stored_step ih call

theorem entry_apply_other {call : PathCacheCall} {owner server : CServer}
    (concerns : call.server = some owner) (apart : compareOfLess less owner server ≠ .eq)
    (key : CSourcePath) :
    entry (call.apply cache) server key =
      entry cache server key := by
  cases call with
  | store _ target source subdir =>
    cases concerns
    exact entry_store_other apart
  | invalidatePath _ path subdir =>
    cases concerns
    exact entry_invalidatePath_other apart
  | invalidateServer _ =>
    cases concerns
    exact entry_invalidateServer_other apart
  | clear => cases concerns

theorem serversSeparated_of_distinct {used : CServer → Prop}
    (distinct : ∀ left right, used left → used right →
      ¬ DifferOnlyInPostLoginCommands left right) :
    ServersSeparated used where
  found trace cache run calls server source subdir inUse nonempty := by
    rw [lookup_eq] at nonempty ⊢
    cases present : entry cache server { source, subdir } with
    | none => simp [present, CServerPath.empty, CServerPath.none] at nonempty
    | some target =>
      obtain ⟨taken, member, owner, storedSource, storedSubdir, call, same⟩ :=
        run_stored run server _ target present
      have sameOrder := compareOfLess_less_eq_iff.mp same
      have ownerUsed : used owner := calls taken member owner (by rw [call]; rfl)
      have commands : owner.postLoginCommands = server.postLoginCommands :=
        Classical.not_not.mp fun differ =>
          distinct owner server ownerUsed inUse ⟨sameOrder, differ⟩
      exact ⟨taken, member, owner, storedSource, storedSubdir, call,
        equal_iff.mpr ⟨sameOrder, commands⟩⟩
  untouched trace cache _ _ call owner server concerns ownerUsed inUse differ
      source subdir := by
    have apart : compareOfLess less owner server ≠ .eq := by
      intro same
      have sameOrder := compareOfLess_less_eq_iff.mp same
      refine distinct owner server ownerUsed inUse ⟨sameOrder, fun commands => ?_⟩
      rw [equal_iff.mpr ⟨sameOrder, commands⟩] at differ
      cases differ
    rw [lookup_eq, lookup_eq, entry_apply_other concerns apart]

theorem not_serversSeparated {used : CServer → Prop} {left right : CServer}
    (leftUsed : used left) (rightUsed : used right)
    (twins : DifferOnlyInPostLoginCommands left right) :
    ¬ ServersSeparated used := by
  intro separated
  let root : CServerPath := { data := some { segments := [], pathPrefix := none },
                              type := .unix }
  let call : PathCacheCall := .store left root root []
  have run : Run pathCacheStep ∅ [(∅, call)] (call.apply ∅) := .step .refl rfl
  have calls : CallsUse used [((∅ : CPathCache), call)] := by
    intro taken member server concerns
    cases List.mem_singleton.mp member
    cases concerns
    exact leftUsed
  have seen : lookup (call.apply ∅) right root [] = root := by
    rw [lookup_eq]
    change (entry (store ∅ left root root []) right _).getD _ = root
    rw [entry_store_same (compareOfLess_less_eq_iff.mpr twins.1),
      if_pos Std.ReflCmp.compare_self]
    rfl
  obtain ⟨taken, member, owner, source, subdir, stored, same⟩ :=
    separated.found _ _ run calls right root [] rightUsed (by rw [seen]; rfl)
  cases List.mem_singleton.mp member
  rw [seen] at stored
  cases stored
  exact twins.2 (equal_iff.mp same).2

/-- The cache keeps the servers in use apart exactly as long as no two of them
differ in nothing but the commands sent after login; `operator<` is a strict
weak order throughout, and its equivalence is `operator==` under the same
condition. -/
theorem serversSeparated_iff (used : CServer → Prop) :
    StrictWeakOrder less ∧
    (ServersSeparated used ↔
      ∀ left right, used left → used right → ¬ DifferOnlyInPostLoginCommands left right) ∧
    ((∀ left right, used left → used right →
        (compareOfLess less left right = .eq ↔ left.equal right = true)) ↔
      ∀ left right, used left → used right → ¬ DifferOnlyInPostLoginCommands left right) := by
  refine ⟨less_strictWeakOrder, ⟨?_, serversSeparated_of_distinct⟩, ?_, ?_⟩
  · intro separated left right leftUsed rightUsed twins
    exact not_serversSeparated leftUsed rightUsed twins separated
  · intro agree left right leftUsed rightUsed twins
    have same := (agree left right leftUsed rightUsed).mp (compareOfLess_less_eq_iff.mpr twins.1)
    exact twins.2 (equal_iff.mp same).2
  · intro distinct left right leftUsed rightUsed
    rw [compareOfLess_less_eq_iff, equal_iff]
    constructor
    · intro sameOrder
      exact ⟨sameOrder, Classical.not_not.mp fun differ =>
        distinct left right leftUsed rightUsed ⟨sameOrder, differ⟩⟩
    · exact And.left

theorem not_serversSeparated_commands : ¬ ServersSeparated fun _ => True := by
  have twins : DifferOnlyInPostLoginCommands (ftp (wide "host") [])
      (ftp (wide "host") [wide "SITE UMASK 022"]) :=
    ⟨order_eq_iff.mp (by decide), by decide⟩
  exact not_serversSeparated trivial trivial twins

def rootStored : PathCacheCall :=
  .store (ftp (wide "host") []) .none .none []

end FileZilla
