import FileZilla.CommonUi.LocalRecursiveOperation

namespace FileZilla

universe u

namespace LocalRecursiveOperation

variable {Time : Type u}

inductive LocalNode (Time : Type u)
  | mk (file : FoundFile Time) (children : List (LocalNode Time))

open List

namespace LocalNode

def file : LocalNode Time → FoundFile Time
  | mk file _ => file

def children : LocalNode Time → List (LocalNode Time)
  | mk _ children => children

mutual

def height : LocalNode Time → Nat
  | mk _ children => heights children + 1

def heights : List (LocalNode Time) → Nat
  | [] => 0
  | node :: nodes => max node.height (heights nodes)

end

theorem heights_le {nodes : List (LocalNode Time)} {bound : Nat}
    (le : heights nodes ≤ bound) {node : LocalNode Time} (member : node ∈ nodes) :
    node.height ≤ bound := by
  induction nodes with
  | nil => cases member
  | cons head tail ih =>
    rw [heights, Nat.max_le] at le
    rcases mem_cons.mp member with rfl | later
    · exact le.1
    · exact ih le.2 later

theorem height_eq (node : LocalNode Time) : node.height = heights node.children + 1 := by
  cases node
  rw [height, children]

end LocalNode

/-- The directory at a path holds these files and directories, none of them a link, and so on
below each directory whose name can be converted. A directory that cannot be opened holds nothing
that could be listed. -/
inductive Holds (filesys : LocalFilesys Time) : WString → List (LocalNode Time) → Prop
  | mk {path : WString} {nodes : List (LocalNode Time)}
      (found : (filesys.findFiles path).getD [] = nodes.map LocalNode.file)
      (unlinked : ∀ node ∈ nodes, node.file.isLink = false)
      (below : ∀ node ∈ nodes, node.file.isDir = true → filesys.toWstring node.file.name ≠ [] →
        Holds filesys (CLocalPath.addSegment path (filesys.toWstring node.file.name))
          node.children) :
      Holds filesys path nodes

structure LocalVisit (Time : Type u) where
  localPath : WString
  remotePath : CServerPath
  recurse : Bool
  children : List (LocalNode Time)

namespace LocalVisit

def newDir (visit : LocalVisit Time) : LocalNewDir :=
  { localPath := visit.localPath, remotePath := visit.remotePath, recurse := visit.recurse }

def height (visit : LocalVisit Time) : Nat :=
  LocalNode.heights visit.children + 1

end LocalVisit

open LocalVisit LocalListing

section Listing

variable (operation : LocalRecursiveOperation Time) (toWstring : List UInt8 → WString)

def passes (path : WString) (node : LocalNode Time) : Bool :=
  !operation.filters (toWstring node.file.name) path node.file.isDir node.file.size
    node.file.attributes node.file.time

def entryOf (node : LocalNode Time) : LocalEntry Time :=
  { name := toWstring node.file.name
    size := node.file.size
    time := node.file.time
    attributes := node.file.attributes
    isDir := node.file.isDir
    isLink := false }

def entries (visit : LocalVisit Time) : List (LocalEntry Time) :=
  (visit.children.filter (operation.passes toWstring visit.localPath)).map (entryOf toWstring)

def childRemotePath (remotePath : CServerPath) (name : WString) : CServerPath :=
  match operation.operationMode with
  | .transfer => (remotePath.addSegment name).getD remotePath
  | _ => remotePath

def reached (visit : LocalVisit Time) : List (LocalVisit Time) :=
  if visit.recurse then
    (visit.children.filter fun node =>
      operation.passes toWstring visit.localPath node && node.file.isDir).map fun node =>
        { localPath := CLocalPath.addSegment visit.localPath (toWstring node.file.name)
          remotePath := operation.childRemotePath visit.remotePath (toWstring node.file.name)
          recurse := true
          children := node.children }
  else []

def levels : Nat → List (LocalVisit Time) → List (LocalVisit Time)
  | 0, _ => []
  | depth + 1, visits => visits ++ levels depth (visits.flatMap (operation.reached toWstring))

def visited (roots : List (List (LocalVisit Time))) : List (LocalVisit Time) :=
  roots.flatMap fun visits =>
    operation.levels toWstring ((visits.map height).foldr max 0) visits

/-- The listings of one directory: all but the last are full, and there is an empty one only for
a directory without entries. -/
structure ListsDirectory (visit : LocalVisit Time) (listings : List (LocalListing Time)) :
    Prop where
  listed : listings ≠ []
  paths : ∀ listing ∈ listings,
    listing.localPath = visit.localPath ∧ listing.remotePath = visit.remotePath
  files : listings.flatMap files =
    (operation.entries toWstring visit).filter fun entry => !entry.isDir
  dirs : listings.flatMap dirs =
    (operation.entries toWstring visit).filter fun entry => entry.isDir
  named : ∀ listing ∈ listings, ∀ entry ∈ listing.files ++ listing.dirs, entry.name ≠ []
  full : ∀ listing ∈ listings.dropLast, listing.files.length + listing.dirs.length = batchSize
  empty : ∀ listing ∈ listings, listing.files = [] → listing.dirs = [] →
    operation.entries toWstring visit = []

end Listing

def ListsTrees (filesys : LocalFilesys Time) (operation : LocalRecursiveOperation Time)
    (roots : List (List (LocalVisit Time))) : Prop :=
  ∃ rounds final groups, threadEntry filesys rounds operation = some final ∧
    final.listedDirectories = operation.listedDirectories ++ groups.flatten ++ [({} : LocalListing Time)] ∧
    Forall₂ (operation.ListsDirectory filesys.toWstring)
      (operation.visited filesys.toWstring roots) groups

structure Queued (filesys : LocalFilesys Time) (operation : LocalRecursiveOperation Time)
    (roots : List (List (LocalVisit Time))) : Prop where
  queued : operation.recursionRoots = roots.map fun visits =>
    { dirsToVisit := visits.map newDir }
  holds : ∀ visits ∈ roots, ∀ visit ∈ visits, Holds filesys visit.localPath visit.children

variable {operation : LocalRecursiveOperation Time} {toWstring : List UInt8 → WString}

def withState (operation : LocalRecursiveOperation Time) (roots : List LocalRecursionRoot)
    (listed : List (LocalListing Time)) : LocalRecursiveOperation Time :=
  { operation with recursionRoots := roots, listedDirectories := listed }

def queuedBy (operation : LocalRecursiveOperation Time) (recurse : Bool)
    (listings : List (LocalListing Time)) : List LocalNewDir :=
  if recurse then listings.flatMap (subdirs operation.operationMode) else []

theorem queuedBy_append (recurse : Bool) (listings : List (LocalListing Time))
    (listing : LocalListing Time) :
    operation.queuedBy recurse (listings ++ [listing]) = operation.queuedBy recurse listings ++
        if recurse then subdirs operation.operationMode listing else [] := by
  cases recurse with
  | true => simp [queuedBy]
  | false => rfl

theorem enqueue_withState (dirs : List LocalNewDir) (roots : List LocalRecursionRoot)
    (listed : List (LocalListing Time)) (d : LocalListing Time) (recurse : Bool) :
    (operation.withState ({ dirsToVisit := dirs } :: roots) listed).enqueueEnumeratedListing d
        recurse =
      operation.withState ({ dirsToVisit := dirs ++
        if recurse then subdirs operation.operationMode d else [] } :: roots)
        (listed ++ [d]) := by
  cases recurse with
  | true => rfl
  | false => simp [enqueueEnumeratedListing, withState]

/-- How far the loop over a directory got: the entries seen are in the listings sent, which are
full, or in the one being filled. -/
structure Progress (operation : LocalRecursiveOperation Time) (dirs : List LocalNewDir)
    (roots : List LocalRecursionRoot) (listed : List (LocalListing Time)) (dir : LocalNewDir)
    (seen : List (LocalEntry Time)) (sent : List (LocalListing Time)) (enumeration : Enumeration Time) : Prop where
  state : enumeration.operation = operation.withState
    ({ dirsToVisit := dirs ++ operation.queuedBy dir.recurse sent } :: roots) (listed ++ sent)
  path : enumeration.d.localPath = dir.localPath ∧ enumeration.d.remotePath = dir.remotePath
  paths : ∀ listing ∈ sent,
    listing.localPath = dir.localPath ∧ listing.remotePath = dir.remotePath
  files : sent.flatMap files ++ enumeration.d.files =
    seen.filter fun entry => !entry.isDir
  dirs : sent.flatMap LocalListing.dirs ++ enumeration.d.dirs =
    seen.filter fun entry => entry.isDir
  full : ∀ listing ∈ sent, listing.files.length + listing.dirs.length = batchSize
  small : enumeration.d.files.length + enumeration.d.dirs.length < batchSize
  sentPartial : enumeration.sentPartial = !sent.isEmpty

section Enumerating

variable {dirs : List LocalNewDir} {roots : List LocalRecursionRoot} {dir : LocalNewDir}
  {listed sent : List (LocalListing Time)} {seen : List (LocalEntry Time)}
  {enumeration : Enumeration Time}

theorem addEntry_parts (d : LocalListing Time) (entry : LocalEntry Time) :
    (addEntry d entry).files = d.files ++ [entry].filter (fun entry => !entry.isDir) ∧
      (addEntry d entry).dirs = d.dirs ++ [entry].filter (fun entry => entry.isDir) ∧
      (addEntry d entry).localPath = d.localPath ∧
      (addEntry d entry).remotePath = d.remotePath ∧
      (addEntry d entry).files.length + (addEntry d entry).dirs.length =
        d.files.length + d.dirs.length + 1 := by
  unfold addEntry
  cases kind : entry.isDir with
  | true => simp [kind, Nat.add_assoc]
  | false => simp [kind, Nat.add_right_comm]

theorem enumerateFile_progress (toWstring : List UInt8 → WString)
    (progress : Progress operation dirs roots listed dir seen sent enumeration) (file : FoundFile Time) :
    ∃ more, Progress operation dirs roots listed dir
      (seen ++ (operation.toEntry toWstring dir.localPath file).toList) more
      (enumerateFile toWstring dir.recurse enumeration file) := by
  have same : enumeration.operation.toEntry toWstring enumeration.d.localPath file =
      operation.toEntry toWstring dir.localPath file := by
    rw [progress.state, progress.path.1]
    rfl
  unfold enumerateFile
  rw [same]
  cases operation.toEntry toWstring dir.localPath file with
  | none =>
    refine ⟨sent, ?_⟩
    simpa using progress
  | some entry =>
    obtain ⟨files, dirs', localPath, remotePath, length⟩ := addEntry_parts enumeration.d entry
    have seenFiles : sent.flatMap LocalListing.files ++ (addEntry enumeration.d entry).files =
        (seen ++ [entry]).filter fun entry => !entry.isDir := by
      rw [files, ← append_assoc, progress.files, filter_append]
    have seenDirs : sent.flatMap LocalListing.dirs ++ (addEntry enumeration.d entry).dirs =
        (seen ++ [entry]).filter fun entry => entry.isDir := by
      rw [dirs', ← append_assoc, progress.dirs, filter_append]
    have small := progress.small
    dsimp only
    split
    case isTrue reached =>
      refine ⟨sent ++ [addEntry enumeration.d entry], ?_⟩
      constructor
      case state =>
        rw [progress.state, enqueue_withState, queuedBy_append, append_assoc,
          append_assoc]
      case path => exact ⟨localPath.trans progress.path.1, remotePath.trans progress.path.2⟩
      case paths =>
        intro listing member
        rcases mem_append.mp member with before | now
        · exact progress.paths listing before
        · rw [mem_singleton.mp now]
          exact ⟨localPath.trans progress.path.1, remotePath.trans progress.path.2⟩
      case files => simpa using seenFiles
      case dirs => simpa using seenDirs
      case full =>
        intro listing member
        rcases mem_append.mp member with before | now
        · exact progress.full listing before
        · rw [mem_singleton.mp now]
          omega
      case small => exact Nat.zero_lt_succ _
      case sentPartial => simp
    case isFalse unreached =>
      exact ⟨sent,
        { progress with
          path := ⟨localPath.trans progress.path.1, remotePath.trans progress.path.2⟩
          files := seenFiles
          dirs := seenDirs
          small := by simpa using unreached }⟩

theorem enumerate_progress (files : List (FoundFile Time))
    (progress : Progress operation dirs roots listed dir seen sent enumeration) :
    ∃ more, Progress operation dirs roots listed dir
      (seen ++ files.filterMap (operation.toEntry toWstring dir.localPath)) more
      (files.foldl (enumerateFile toWstring dir.recurse) enumeration) := by
  induction files generalizing seen sent enumeration with
  | nil => exact ⟨sent, by simpa using progress⟩
  | cons file files ih =>
    obtain ⟨more, later⟩ := enumerateFile_progress toWstring progress file
    obtain ⟨most, last⟩ := ih later
    refine ⟨most, ?_⟩
    rw [foldl_cons, filterMap_cons]
    cases found : operation.toEntry toWstring dir.localPath file with
    | none => simpa [found] using last
    | some entry => simpa [found] using last

end Enumerating

theorem remoteSub_eq (remotePath : CServerPath) (name : WString) :
    remoteSub operation.operationMode remotePath name =
      operation.childRemotePath remotePath name := by
  unfold remoteSub childRemotePath
  cases operation.operationMode with
  | transfer =>
    cases data : remotePath.data with
    | none => simp [CServerPath.empty, CServerPath.addSegment, data]
    | some => simp [CServerPath.empty, data]
  | none | transferFlatten | delete | chmod | list => simp

theorem toEntry_node {path : WString} {node : LocalNode Time} (unlinked : node.file.isLink = false) :
    operation.toEntry toWstring path node.file =
      if operation.passes toWstring path node then some (entryOf toWstring node) else none := by
  cases filtered : operation.filters (toWstring node.file.name) path node.file.isDir node.file.size
      node.file.attributes node.file.time with
  | true => simp [toEntry, passes, unlinked, filtered]
  | false => simp [toEntry, passes, unlinked, filtered, entryOf]

theorem filterMap_toEntry {path : WString} {nodes : List (LocalNode Time)}
    (unlinked : ∀ node ∈ nodes, node.file.isLink = false) :
    (nodes.map LocalNode.file).filterMap (operation.toEntry toWstring path) =
      (nodes.filter (operation.passes toWstring path)).map (entryOf toWstring) := by
  induction nodes with
  | nil => rfl
  | cons node nodes ih =>
    have rest := ih fun other member => unlinked other (mem_cons_of_mem _ member)
    have entry := @toEntry_node _ operation toWstring path node (unlinked node mem_cons_self)
    rw [map_cons, filterMap_cons, filter_cons, entry, rest]
    cases operation.passes toWstring path node with
    | true => rfl
    | false => rfl

variable {visit : LocalVisit Time} {listings : List (LocalListing Time)}

theorem queuedBy_eq (lists : operation.ListsDirectory toWstring visit listings) :
    operation.queuedBy visit.recurse listings =
      (operation.reached toWstring visit).map newDir := by
  unfold queuedBy reached
  cases visit.recurse with
  | false => rfl
  | true =>
    let child (entry : LocalEntry Time) : LocalNewDir :=
      { localPath := CLocalPath.addSegment visit.localPath entry.name
        remotePath := operation.childRemotePath visit.remotePath entry.name }
    have each : ∀ listing ∈ listings,
        subdirs operation.operationMode listing = listing.dirs.map child := by
      intro listing member
      obtain ⟨localPath, remotePath⟩ := lists.paths listing member
      simp only [subdirs, localPath, remotePath, remoteSub_eq, child]
    calc listings.flatMap (subdirs operation.operationMode)
        = listings.flatMap fun listing => listing.dirs.map child := flatMap_congr each
      _ = (listings.flatMap dirs).map child := by rw [map_flatMap]
      _ = ((operation.entries toWstring visit).filter fun entry => entry.isDir).map child := by
          rw [lists.dirs]
      _ = _ := by
          rw [entries, filter_map, filter_filter, map_map, if_pos rfl,
            map_map]
          exact congrArg _ (filter_congr fun node _ => Bool.and_comm _ _)

theorem progress_initial (dirs : List LocalNewDir) (roots : List LocalRecursionRoot)
    (listed : List (LocalListing Time)) (dir : LocalNewDir) :
    Progress operation dirs roots listed dir [] []
      { operation := operation.withState ({ dirsToVisit := dirs } :: roots) listed
        d := { localPath := dir.localPath, remotePath := dir.remotePath } } where
  state := by simp [queuedBy]
  path := ⟨rfl, rfl⟩
  paths _ member := nomatch member
  files := rfl
  dirs := rfl
  full _ member := nomatch member
  small := Nat.zero_lt_succ _
  sentPartial := rfl

theorem eq_nil_of_filter {Element : Type u} {elements : List Element} (kind : Element → Bool)
    (others : elements.filter (fun element => !kind element) = [])
    (those : elements.filter kind = []) : elements = [] := by
  refine eq_nil_iff_forall_not_mem.mpr fun element member => ?_
  have other := filter_eq_nil_iff.mp others element member
  have that := filter_eq_nil_iff.mp those element member
  simp [that] at other

theorem progress_listings {dirs : List LocalNewDir} {roots : List LocalRecursionRoot}
    {listed sent : List (LocalListing Time)} {enumeration : Enumeration Time}
    (progress : Progress operation dirs roots listed visit.newDir (operation.entries toWstring visit) sent
      enumeration) (named : ∀ entry ∈ operation.entries toWstring visit, entry.name ≠ [])
    (complete : (listings = sent ++ [enumeration.d] ∧
        (sent = [] ∨ enumeration.d.files ≠ [] ∨ enumeration.d.dirs ≠ [])) ∨
      (listings = sent ∧ sent ≠ [] ∧ enumeration.d.files = [] ∧ enumeration.d.dirs = [])) :
    operation.ListsDirectory toWstring visit listings := by
  have files : listings.flatMap files =
      (operation.entries toWstring visit).filter fun entry => !entry.isDir := by
    rw [← progress.files]
    rcases complete with ⟨rfl, -⟩ | ⟨rfl, -, none, -⟩
    · simp
    · simp [none]
  have dirs : listings.flatMap LocalListing.dirs =
      (operation.entries toWstring visit).filter fun entry => entry.isDir := by
    rw [← progress.dirs]
    rcases complete with ⟨rfl, -⟩ | ⟨rfl, -, -, none⟩
    · simp
    · simp [none]
  have occupied : ∀ listing ∈ sent, ¬(listing.files = [] ∧ listing.dirs = []) := by
    rintro listing member ⟨noFiles, noDirs⟩
    have full := progress.full listing member
    rw [noFiles, noDirs] at full
    cases full
  constructor
  case listed =>
    rcases complete with ⟨rfl, -⟩ | ⟨rfl, sent, -⟩
    · simp
    · exact sent
  case paths =>
    intro listing member
    rcases complete with ⟨rfl, -⟩ | ⟨rfl, -⟩
    · rcases mem_append.mp member with before | last
      · exact progress.paths listing before
      · rw [mem_singleton.mp last]
        exact progress.path
    · exact progress.paths listing member
  case files => exact files
  case dirs => exact dirs
  case named =>
    intro listing member entry inside
    apply named
    rcases mem_append.mp inside with inFiles | inDirs
    · have found := mem_flatMap.mpr ⟨listing, member, inFiles⟩
      rw [files] at found
      exact (mem_filter.mp found).1
    · have found := mem_flatMap.mpr ⟨listing, member, inDirs⟩
      rw [dirs] at found
      exact (mem_filter.mp found).1
  case full =>
    intro listing member
    apply progress.full
    rcases complete with ⟨rfl, -⟩ | ⟨rfl, -⟩
    · simpa using member
    · exact (dropLast_sublist _).subset member
  case empty =>
    intro listing member noFiles noDirs
    rcases complete with ⟨rfl, filled⟩ | ⟨rfl, -⟩
    · rcases mem_append.mp member with before | last
      · exact absurd ⟨noFiles, noDirs⟩ (occupied listing before)
      · obtain rfl := mem_singleton.mp last
        rcases filled with rfl | files | dirs
        · refine eq_nil_of_filter (fun entry => entry.isDir) ?_ ?_
          · rw [← files]
            simp [noFiles]
          · rw [← dirs]
            simp [noDirs]
        · exact absurd noFiles files
        · exact absurd noDirs dirs
    · exact absurd ⟨noFiles, noDirs⟩ (occupied listing member)

theorem visit_lists {filesys : LocalFilesys Time}
    (holds : Holds filesys visit.localPath visit.children)
    (named : ∀ entry ∈ operation.entries filesys.toWstring visit, entry.name ≠ [])
    (dirs : List LocalNewDir) (roots : List LocalRecursionRoot)
    (listed : List (LocalListing Time)) :
    ∃ listings, operation.ListsDirectory filesys.toWstring visit listings ∧
      (operation.withState ({ dirsToVisit := dirs } :: roots) listed).visit filesys visit.newDir =
        operation.withState ({ dirsToVisit :=
            dirs ++ (operation.reached filesys.toWstring visit).map newDir } :: roots)
          (listed ++ listings) := by
  obtain ⟨found, unlinked, -⟩ := holds
  have entries : ((filesys.findFiles visit.newDir.localPath).getD []).filterMap
      (operation.toEntry filesys.toWstring visit.newDir.localPath) =
      operation.entries filesys.toWstring visit := by
    rw [show filesys.findFiles visit.newDir.localPath = filesys.findFiles visit.localPath from rfl,
      found, filterMap_toEntry unlinked]
    rfl
  obtain ⟨sent, progress⟩ := @enumerate_progress _ operation filesys.toWstring dirs roots
    visit.newDir listed [] [] _ ((filesys.findFiles visit.newDir.localPath).getD [])
    (progress_initial dirs roots listed visit.newDir)
  rw [nil_append, entries] at progress
  unfold LocalRecursiveOperation.visit
  generalize ((filesys.findFiles visit.newDir.localPath).getD []).foldl _ _ = enumeration
    at progress ⊢
  have partially := progress.sentPartial
  dsimp only
  split
  case isTrue more =>
    have lists := progress_listings progress named (.inl ⟨rfl, by
      simpa only [partially, Bool.not_not, Bool.or_eq_true, List.isEmpty_iff, Bool.not_eq_true',
        isEmpty_eq_false_iff, or_assoc] using more⟩)
    refine ⟨_, lists, ?_⟩
    rw [progress.state, enqueue_withState, ← queuedBy_eq lists, queuedBy_append,
      append_assoc, append_assoc]
    rfl
  case isFalse done =>
    have lists := progress_listings progress named (.inr ⟨rfl, by
      simpa only [partially, Bool.not_not, Bool.or_eq_true, List.isEmpty_iff, Bool.not_eq_true',
        isEmpty_eq_false_iff, not_or, not_not, and_assoc, ne_eq] using done⟩)
    refine ⟨_, lists, ?_⟩
    rw [progress.state, ← queuedBy_eq lists]
    rfl

def Reaches (filesys : LocalFilesys Time) (before after : LocalRecursiveOperation Time) : Prop :=
  ∃ rounds, ∀ more, threadEntry filesys (more + rounds) before = threadEntry filesys more after

section Running

variable {filesys : LocalFilesys Time}

theorem Reaches.refl (operation : LocalRecursiveOperation Time) :
    Reaches filesys operation operation :=
  ⟨0, fun _ => rfl⟩

theorem Reaches.trans {first second third : LocalRecursiveOperation Time}
    (early : Reaches filesys first second) (late : Reaches filesys second third) :
    Reaches filesys first third := by
  obtain ⟨rounds, early⟩ := early
  obtain ⟨further, late⟩ := late
  refine ⟨further + rounds, fun more => ?_⟩
  rw [← Nat.add_assoc, early, late]

theorem Reaches.of_visitNext {before after : LocalRecursiveOperation Time}
    (next : before.visitNext filesys = some after) : Reaches filesys before after := by
  refine ⟨1, fun more => ?_⟩
  rw [threadEntry, next]

theorem level_lists {visits : List (LocalVisit Time)}
    (holds : ∀ visit ∈ visits, Holds filesys visit.localPath visit.children)
    (named : ∀ visit ∈ visits, ∀ entry ∈ operation.entries filesys.toWstring visit,
      entry.name ≠ [])
    (queued : List LocalNewDir) (roots : List LocalRecursionRoot)
    (listed : List (LocalListing Time)) :
    ∃ groups, Forall₂ (operation.ListsDirectory filesys.toWstring) visits groups ∧
      Reaches filesys
        (operation.withState ({ dirsToVisit := visits.map newDir ++ queued } :: roots)
          listed)
        (operation.withState ({ dirsToVisit := queued ++
            (visits.flatMap (operation.reached filesys.toWstring)).map newDir } :: roots)
          (listed ++ groups.flatten)) := by
  induction visits generalizing queued listed with
  | nil => 
    refine ⟨[], .nil, ?_⟩
    simpa using Reaches.refl _
  | cons visit visits ih =>
    obtain ⟨listings, lists, visited⟩ := visit_lists (holds visit mem_cons_self)
      (named visit mem_cons_self) (visits.map newDir ++ queued) roots listed
    obtain ⟨groups, each, rest⟩ := ih
      (fun other member => holds other (mem_cons_of_mem _ member))
      (fun other member => named other (mem_cons_of_mem _ member))
      (queued ++ (operation.reached filesys.toWstring visit).map newDir)
      (listed ++ listings)
    refine ⟨listings :: groups, .cons lists each, ?_⟩
    refine Reaches.trans (.of_visitNext (congrArg some visited)) ?_
    simpa only [flatMap_cons, map_append, flatten_cons, append_assoc]
      using rest

theorem reached_height {visit reached : LocalVisit Time} {bound : Nat}
    (le : visit.height ≤ bound + 1)
    (member : reached ∈ operation.reached toWstring visit) : reached.height ≤ bound := by
  unfold LocalRecursiveOperation.reached at member
  split at member
  case isTrue =>
    obtain ⟨node, inside, rfl⟩ := mem_map.mp member
    have inside := (mem_filter.mp inside).1
    have below := LocalNode.heights_le (Nat.le_of_succ_le_succ le) inside
    rwa [LocalNode.height_eq] at below
  case isFalse => cases member

theorem reached_holds {visit reached : LocalVisit Time}
    (holds : Holds filesys visit.localPath visit.children)
    (named : ∀ entry ∈ operation.entries filesys.toWstring visit, entry.name ≠ [])
    (member : reached ∈ operation.reached filesys.toWstring visit) :
    Holds filesys reached.localPath reached.children := by
  unfold LocalRecursiveOperation.reached at member
  split at member
  case isTrue =>
    obtain ⟨node, inside, rfl⟩ := mem_map.mp member
    obtain ⟨inside, passed⟩ := mem_filter.mp inside
    rw [Bool.and_eq_true] at passed
    obtain ⟨-, -, below⟩ := holds
    have entry : entryOf filesys.toWstring node ∈ operation.entries filesys.toWstring visit :=
      mem_map_of_mem (mem_filter.mpr ⟨inside, passed.1⟩)
    exact below node inside passed.2 (named _ entry)
  case isFalse => cases member

theorem levels_list (depth : Nat) {visits : List (LocalVisit Time)}
    (holds : ∀ visit ∈ visits, Holds filesys visit.localPath visit.children)
    (bounded : ∀ visit ∈ visits, visit.height ≤ depth)
    (named : ∀ visit ∈ operation.levels filesys.toWstring depth visits,
      ∀ entry ∈ operation.entries filesys.toWstring visit, entry.name ≠ [])
    (roots : List LocalRecursionRoot) (listed : List (LocalListing Time)) :
    ∃ groups, Forall₂ (operation.ListsDirectory filesys.toWstring)
        (operation.levels filesys.toWstring depth visits) groups ∧
      Reaches filesys
        (operation.withState ({ dirsToVisit := visits.map newDir } :: roots) listed)
        (operation.withState roots (listed ++ groups.flatten)) := by
  induction depth generalizing visits listed with
  | zero =>
    have none : visits = [] := eq_nil_iff_forall_not_mem.mpr fun visit member =>
      absurd (bounded visit member) (Nat.not_succ_le_zero _)
    subst none
    refine ⟨[], .nil, .of_visitNext ?_⟩
    simp [visitNext, withState]
  | succ depth ih =>
    have here := fun visit member => named visit (mem_append_left _ member)
    obtain ⟨groups, each, level⟩ := level_lists holds here [] roots listed
    have below : ∀ next ∈ visits.flatMap (operation.reached filesys.toWstring),
        Holds filesys next.localPath next.children ∧ next.height ≤ depth := by
      intro next member
      obtain ⟨visit, inside, reached⟩ := mem_flatMap.mp member
      exact ⟨reached_holds (holds visit inside) (here visit inside) reached,
        reached_height (bounded visit inside) reached⟩
    obtain ⟨later, others, rest⟩ := ih (fun next member => (below next member).1)
      (fun next member => (below next member).2)
      (fun visit member => named visit (mem_append_right _ member))
      (listed ++ groups.flatten)
    refine ⟨groups ++ later, rel_append each others, ?_⟩
    rw [append_nil, nil_append] at level
    rw [flatten_append, ← append_assoc]
    exact level.trans rest

theorem le_foldr_max {bounds : List Nat} {bound : Nat} (member : bound ∈ bounds) :
    bound ≤ bounds.foldr max 0 := by
  induction bounds with
  | nil => cases member
  | cons head tail ih =>
    rcases mem_cons.mp member with rfl | later
    · exact Nat.le_max_left _ _
    · exact (ih later).trans (Nat.le_max_right _ _)

theorem roots_list {roots : List (List (LocalVisit Time))}
    (holds : ∀ visits ∈ roots, ∀ visit ∈ visits, Holds filesys visit.localPath visit.children)
    (named : ∀ visit ∈ operation.visited filesys.toWstring roots,
      ∀ entry ∈ operation.entries filesys.toWstring visit, entry.name ≠ [])
    (listed : List (LocalListing Time)) :
    ∃ groups, Forall₂ (operation.ListsDirectory filesys.toWstring)
        (operation.visited filesys.toWstring roots) groups ∧
      Reaches filesys (operation.withState (roots.map fun visits =>
          { dirsToVisit := visits.map newDir }) listed)
        (operation.withState [] (listed ++ groups.flatten)) := by
  induction roots generalizing listed with
  | nil =>
    refine ⟨[], .nil, ?_⟩
    simpa using Reaches.refl _
  | cons visits roots ih =>
    obtain ⟨groups, each, first⟩ := levels_list _ (holds visits mem_cons_self)
      (fun visit member => le_foldr_max (mem_map_of_mem member))
      (fun visit member => named visit (mem_append_left _ member))
      (roots.map fun visits => { dirsToVisit := visits.map newDir }) listed
    obtain ⟨later, others, rest⟩ := ih
      (fun other member => holds other (mem_cons_of_mem _ member))
      (fun visit member => named visit (mem_append_right _ member))
      (listed ++ groups.flatten)
    refine ⟨groups ++ later, rel_append each others, ?_⟩
    rw [flatten_append, ← append_assoc]
    exact first.trans rest

end Running

theorem ListsDirectory.named_entries (lists : operation.ListsDirectory toWstring visit listings) :
    ∀ entry ∈ operation.entries toWstring visit, entry.name ≠ [] := by
  intro entry member
  cases kind : entry.isDir with
  | true =>
    have found := mem_filter.mpr ⟨member, kind⟩
    rw [← lists.dirs] at found
    obtain ⟨listing, inside, isEntry⟩ := mem_flatMap.mp found
    exact lists.named listing inside entry (mem_append_right _ isEntry)
  | false =>
    have found : entry ∈ (operation.entries toWstring visit).filter fun entry => !entry.isDir :=
      mem_filter.mpr ⟨member, by simp [kind]⟩
    rw [← lists.files] at found
    obtain ⟨listing, inside, isEntry⟩ := mem_flatMap.mp found
    exact lists.named listing inside entry (mem_append_left _ isEntry)

/-- The thread lists the trees completely if and only if it can convert the name of each entry
that passes the filters. -/
theorem traversal_complete_iff {filesys : LocalFilesys Time}
    {roots : List (List (LocalVisit Time))} (queued : Queued filesys operation roots) :
    ListsTrees filesys operation roots ↔
      ∀ visit ∈ operation.visited filesys.toWstring roots,
        ∀ entry ∈ operation.entries filesys.toWstring visit, entry.name ≠ [] := by
  constructor
  · rintro ⟨-, -, groups, -, -, each⟩ visit member
    obtain ⟨index, inside, rfl⟩ := getElem_of_mem member
    exact (each.get inside (each.length_eq ▸ inside)).named_entries
  · intro named
    obtain ⟨groups, each, rounds, ends⟩ := roots_list queued.holds named
      operation.listedDirectories
    rw [← queued.queued] at ends
    let final := operation.withState []
      (operation.listedDirectories ++ groups.flatten ++ [({} : LocalListing Time)])
    exact ⟨1 + rounds, final, groups, ends 1, rfl, each⟩

/-- Bytes are converted one by one where they are all ASCII. -/
private def asciiToWstring (name : List UInt8) : WString :=
  if name.all (· < 128) then name.map UInt8.toNat else []

private def startPath : WString :=
  wide "/a/"

private def plainTree : List (LocalNode Nat) :=
  [.mk { name := asciiBytes "f", size := 3 } [],
    .mk { name := asciiBytes "b", isDir := true } [.mk { name := asciiBytes "g", size := 4 } []]]

private def plainFilesys : LocalFilesys Nat where
  toWstring := asciiToWstring
  findFiles path :=
    if path = startPath then some (plainTree.map LocalNode.file)
    else if path = wide "/a/b/" then some [{ name := asciiBytes "g", size := 4 }]
    else none

private def startVisit (children : List (LocalNode Nat)) : LocalVisit Nat :=
  { localPath := startPath, remotePath := CServerPath.none, recurse := true, children := children }

private def startOperation : LocalRecursiveOperation Nat where
  recursionRoots := [{ dirsToVisit := [{ localPath := startPath }] }]
  operationMode := .transfer

theorem traversal_complete_plain :
    ListsTrees plainFilesys startOperation [[startVisit plainTree]] := by
  have lower : Holds plainFilesys (wide "/a/b/")
      [.mk { name := asciiBytes "g", size := 4 } []] := by
    refine ⟨by decide, ?_, ?_⟩
    · decide
    · intro node member isDir
      rw [mem_singleton.mp member] at isDir
      cases isDir
  have holds : Holds plainFilesys startPath plainTree := by
    refine ⟨by decide, by decide, ?_⟩
    intro node member isDir _
    rcases mem_cons.mp member with rfl | last
    · cases isDir
    · rw [mem_singleton.mp last]
      exact lower
  have queued : Queued plainFilesys startOperation [[startVisit plainTree]] := ⟨rfl, by
      intro visits isVisits visit isVisit
      rw [mem_singleton.mp isVisits] at isVisit
      rw [mem_singleton.mp isVisit]
      exact holds⟩
  exact (traversal_complete_iff queued).mpr (by decide)

/-- A directory that holds a directory with a name that cannot be converted -/
private def oddTree : List (LocalNode Nat) :=
  [.mk { name := [255], isDir := true } []]

private def oddFilesys : LocalFilesys Nat where
  toWstring := asciiToWstring
  findFiles path := if path = startPath then some (oddTree.map LocalNode.file) else none

private def oddListing : LocalListing Nat where
  dirs := [{ name := [], size := -1, time := none, attributes := 0, isDir := true, isLink := false }]
  localPath := startPath

/-- The directory is queued again for the entry whose name cannot be converted, and the thread
never ends. -/
theorem traversal_endless :
    Queued oddFilesys startOperation [[startVisit oddTree]] ∧
      (∀ rounds, threadEntry oddFilesys rounds startOperation = none) ∧
      ¬ListsTrees oddFilesys startOperation [[startVisit oddTree]] := by
  have round (listed : List (LocalListing Nat)) :
      (startOperation.withState startOperation.recursionRoots listed).visitNext oddFilesys =
        some (startOperation.withState startOperation.recursionRoots
          (listed ++ [oddListing])) := rfl
  have endless (rounds : Nat) : ∀ listed, threadEntry oddFilesys rounds
      (startOperation.withState startOperation.recursionRoots listed) = none := by
    induction rounds with
    | zero => exact fun _ => rfl
    | succ rounds ih =>
      intro listed
      rw [threadEntry, round]
      exact ih _
  refine ⟨⟨rfl, ?_⟩, fun rounds => endless rounds [], ?_⟩
  · intro visits isVisits visit isVisit
    rw [mem_singleton.mp isVisits] at isVisit
    rw [mem_singleton.mp isVisit]
    refine ⟨by decide, by decide, ?_⟩
    intro node member _ converted
    rw [mem_singleton.mp member] at converted
    exact absurd rfl converted
  · rintro ⟨rounds, final, -, ends, -⟩
    cases (endless rounds []).symm.trans ends

end LocalRecursiveOperation

end FileZilla
