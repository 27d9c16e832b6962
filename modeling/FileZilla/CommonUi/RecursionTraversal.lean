import Mathlib.Data.List.Nodup
import FileZilla.CommonUi.RecursionStep

namespace FileZilla

open List

universe u

variable {Time : Type u}

/-! The directories of a server, without links. A tree is what one directory
contains, in the order of its listing. -/

inductive RemoteTree (Time : Type u)
  | nil
  | file (entry : CDirentry Time) (rest : RemoteTree Time)
  | directory (entry : CDirentry Time) (contents rest : RemoteTree Time)

namespace RemoteTree

def entries : RemoteTree Time → List (CDirentry Time)
  | nil => []
  | file entry rest => entry :: rest.entries
  | directory entry _ rest => entry :: rest.entries

def directories : RemoteTree Time → List (CDirentry Time × RemoteTree Time)
  | nil => []
  | file _ rest => rest.directories
  | directory entry contents rest => (entry, contents) :: rest.directories

def WellFormed : RemoteTree Time → Prop
  | nil => True
  | file entry rest =>
    entry.isDir = false ∧ entry.name ∉ rest.entries.map CDirentry.name ∧ rest.WellFormed
  | directory entry contents rest =>
    entry.isDir = true ∧ entry.isLink = false ∧ entry.name ≠ [] ∧ 0 ∉ entry.name ∧
      entry.name ∉ rest.entries.map CDirentry.name ∧ contents.WellFormed ∧ rest.WellFormed

def descend : RemoteTree Time → List WString → Option (RemoteTree Time)
  | tree, [] => some tree
  | tree, name :: names =>
    (tree.directories.find? (·.1.name == name)).bind (·.2.descend names)

theorem mem_entries_of_mem_directories {tree : RemoteTree Time}
    {pair : CDirentry Time × RemoteTree Time} (member : pair ∈ tree.directories) :
    pair.1 ∈ tree.entries := by
  induction tree with
  | nil => cases member
  | file entry rest ih => exact mem_cons_of_mem _ (ih member)
  | directory entry contents rest _ ih =>
    rcases mem_cons.mp member with rfl | later
    · exact mem_cons_self
    · exact mem_cons_of_mem _ (ih later)

theorem WellFormed.directory {tree : RemoteTree Time} (wellFormed : tree.WellFormed)
    {entry : CDirentry Time} {contents : RemoteTree Time}
    (member : (entry, contents) ∈ tree.directories) :
    entry.isDir = true ∧ entry.isLink = false ∧ entry.name ≠ [] ∧ 0 ∉ entry.name ∧
      contents.WellFormed := by
  induction tree with
  | nil => cases member
  | file _ rest ih => exact ih wellFormed.2.2 member
  | directory other _ rest _ ih =>
    obtain ⟨isDir, notLink, named, clean, _, inside, rest⟩ := wellFormed
    rcases mem_cons.mp member with same | later
    · cases same
      exact ⟨isDir, notLink, named, clean, inside⟩
    · exact ih rest later

theorem WellFormed.find {tree : RemoteTree Time} (wellFormed : tree.WellFormed)
    {entry : CDirentry Time} {contents : RemoteTree Time}
    (member : (entry, contents) ∈ tree.directories) :
    tree.directories.find? (·.1.name == entry.name) = some (entry, contents) := by
  induction tree with
  | nil => cases member
  | file _ rest ih => exact ih wellFormed.2.2 member
  | directory other inside rest _ ih =>
    obtain ⟨_, _, _, _, fresh, _, restFormed⟩ := wellFormed
    rcases mem_cons.mp member with same | later
    · cases same
      simp [directories]
    · have apart : other.name ≠ entry.name := by
        intro same
        refine fresh (mem_map.mpr ⟨entry, ?_, same.symm⟩)
        exact mem_entries_of_mem_directories later
      rw [directories, find?_cons_of_neg (by simpa using apart)]
      exact ih restFormed later

theorem WellFormed.names_nodup {tree : RemoteTree Time} (wellFormed : tree.WellFormed) :
    (tree.entries.map CDirentry.name).Nodup := by
  induction tree with
  | nil => exact .nil
  | file entry rest ih =>
    exact nodup_cons.mpr ⟨wellFormed.2.1, ih wellFormed.2.2⟩
  | directory entry contents rest _ ih =>
    obtain ⟨_, _, _, _, fresh, _, restFormed⟩ := wellFormed
    exact nodup_cons.mpr ⟨fresh, ih restFormed⟩

theorem WellFormed.filter_entries {tree : RemoteTree Time} (wellFormed : tree.WellFormed)
    (keep : CDirentry Time → Bool) :
    tree.entries.filter (fun entry => keep entry && entry.isDir) =
      (tree.directories.filter fun pair => keep pair.1).map Prod.fst := by
  induction tree with
  | nil => rfl
  | file entry rest ih =>
    obtain ⟨isFile, _, restFormed⟩ := wellFormed
    rw [entries, filter_cons_of_neg (by simp [isFile]), ih restFormed]
    rfl
  | directory entry contents rest _ ih =>
    obtain ⟨isDir, _, _, _, _, _, restFormed⟩ := wellFormed
    rw [entries, directories, filter_cons, filter_cons, ih restFormed, isDir,
      Bool.and_true]
    cases keep entry <;> rfl

theorem descend_append {tree : RemoteTree Time} (names : List WString) (name : WString) :
    tree.descend (names ++ [name]) = (tree.descend names).bind fun below =>
        (below.directories.find? (·.1.name == name)).map Prod.snd := by
  induction names generalizing tree with
  | nil =>
    simp only [nil_append, descend, Option.bind_some]
    cases tree.directories.find? (·.1.name == name) <;> rfl
  | cons first names ih =>
    simp only [cons_append, descend]
    cases tree.directories.find? (·.1.name == first) with
    | none => rfl
    | some pair => exact ih

theorem WellFormed.descend {tree below : RemoteTree Time} {names : List WString}
    (wellFormed : tree.WellFormed) (found : tree.descend names = some below) :
    below.WellFormed ∧ ∀ name ∈ names, 0 ∉ name := by
  induction names generalizing tree with
  | nil =>
    cases found
    exact ⟨wellFormed, by simp⟩
  | cons name names ih =>
    obtain ⟨⟨entry, contents⟩, first, rest⟩ := Option.bind_eq_some_iff.mp found
    have inside := wellFormed.directory (mem_of_find?_eq_some first)
    obtain ⟨formed, clean⟩ := ih inside.2.2.2.2 rest
    have same : entry.name = name := by simpa using find?_some first
    refine ⟨formed, fun other member => ?_⟩
    rcases mem_cons.mp member with rfl | later
    · rw [← same]
      exact inside.2.2.2.1
    · exact clean other later

end RemoteTree

namespace CServerPath

variable (path : CServerPath)

def extend (names : List WString) : CServerPath :=
  { path with data := path.data.map fun data => { data with segments := data.segments ++ names } }

@[simp] theorem extend_nil : path.extend [] = path := by
  obtain ⟨_ | data, type⟩ := path <;> simp [extend]

@[simp] theorem extend_extend (first second : List WString) :
    (path.extend first).extend second = path.extend (first ++ second) := by
  obtain ⟨_ | data, type⟩ := path <;> simp [extend]

@[simp] theorem empty_extend (names : List WString) :
    (path.extend names).empty = path.empty := by
  obtain ⟨_ | data, type⟩ := path <;> rfl

theorem extend_injective {path : CServerPath} (filled : path.empty = false)
    {first second : List WString} (same : path.extend first = path.extend second) :
    first = second := by
  obtain ⟨_ | data, type⟩ := path
  · cases filled
  · simpa [extend] using same

theorem order_extend {path : CServerPath} (filled : path.empty = false)
    {first second : List WString} (firstClean : ∀ name ∈ first, 0 ∉ name)
    (secondClean : ∀ name ∈ second, 0 ∉ name)
    (same : order (path.extend first) (path.extend second) = .eq) : first = second := by
  have clean {names : List WString} (clean : ∀ name ∈ names, 0 ∉ name) :
      names.map cString = names := by
    conv_rhs => rw [← map_id names]
    exact map_congr_left fun name member => cString_of_not_mem (clean name member)
  obtain ⟨_ | data, type⟩ := path
  · cases filled
  · have keys := order_eq_iff.mp same
    simpa [orderKey, extend, clean firstClean, clean secondClean] using keys

theorem segmentsBelow_append {same : WString → WString → Bool} {left right : List WString}
    (below : segmentsBelow same false left right = true) (more : List WString) :
    segmentsBelow same false (left ++ more) right = true := by
  induction left generalizing right with
  | nil => simp [segmentsBelow] at below
  | cons segment left ih =>
    cases right with
    | nil => rfl
    | cons other right =>
      simp only [cons_append, segmentsBelow] at below ⊢
      split at below
      case isTrue equal =>
        rw [if_pos equal]
        exact ih below
      case isFalse => cases below

theorem segmentsBelow_self {same : WString → WString → Bool}
    (refl : ∀ segment, same segment segment = true) (segments : List WString) (name : WString) :
    segmentsBelow same false (segments ++ [name]) segments = true := by
  induction segments with
  | nil => rfl
  | cons segment segments ih =>
    simp only [cons_append, segmentsBelow, refl, if_true]
    exact ih

def CanDescend : Prop :=
  path.empty = false ∧ ((traits path.type).hasRoot = true ∨ path.segments ≠ []) ∧
    ((traits path.type).prefixmode = 1 → (path.data.bind (·.pathPrefix)).isSome = true)

theorem isSubdirOf_iff {path other : CServerPath} :
    path.isSubdirOf other = true ↔
      ∃ data otherData, path.data = some data ∧ other.data = some otherData ∧
        path.type = other.type ∧ path.hasParent = true ∧
        ((traits path.type).prefixmode ≠ 1 →
          samePrefix (fun left right => left == right) data.pathPrefix
            otherData.pathPrefix = true) ∧
        ((traits path.type).prefixmode = 1 → otherData.pathPrefix.isSome = true) ∧
        segmentsBelow (fun left right => left == right) false data.segments
          otherData.segments = true := by
  unfold isSubdirOf isSubdirOfBy
  cases path.data with
  | none => simp
  | some data =>
    cases other.data with
    | none => simp
    | some otherData =>
      by_cases prefixed : (traits path.type).prefixmode = 1
      case pos =>
        obtain ⟨otherSegments, volume⟩ := otherData
        cases volume <;> simp [prefixed]
      case neg => simp [prefixed]

theorem hasParent_extend {path : CServerPath} (parent : path.hasParent = true)
    (names : List WString) : (path.extend names).hasParent = true := by
  obtain ⟨_ | data, type⟩ := path
  · cases parent
  · change (if (!(traits type).hasRoot) = true then
      decide ((data.segments ++ names).length > 1) else !(data.segments ++ names).isEmpty) = true
    simp only [hasParent] at parent
    split at parent
    case isTrue rootless =>
      rw [if_pos rootless]
      simp only [decide_eq_true_eq, length_append] at parent ⊢
      omega
    case isFalse rooted =>
      rw [if_neg rooted]
      cases segments : data.segments with
      | nil => simp [segments] at parent
      | cons => rfl

theorem isSubdirOf_extend {path other : CServerPath} (below : path.isSubdirOf other = true)
    (names : List WString) : (path.extend names).isSubdirOf other = true := by
  obtain ⟨data, otherData, here, there, type, parent, same, enclosed, segments⟩ :=
    isSubdirOf_iff.mp below
  exact isSubdirOf_iff.mpr ⟨{ data with segments := data.segments ++ names }, otherData,
    by simp [extend, here], there, type, hasParent_extend parent names, same, enclosed,
    segmentsBelow_append segments names⟩

theorem samePrefix_self (volume : Option WString) :
    samePrefix (fun left right => left == right) volume volume = true := by
  cases volume <;> simp [samePrefix]

theorem extend_isSubdirOf {path : CServerPath} (descends : path.CanDescend)
    (name : WString) : (path.extend [name]).isSubdirOf path = true := by
  obtain ⟨filled, root, enclosed⟩ := descends
  obtain ⟨_ | data, type⟩ := path
  · cases filled
  · refine isSubdirOf_iff.mpr ⟨{ data with segments := data.segments ++ [name] }, data, rfl, rfl,
      rfl, ?_, fun _ => samePrefix_self _, enclosed,
      segmentsBelow_self (fun segment => beq_self_eq_true segment) _ _⟩
    change (if (!(traits type).hasRoot) = true then
      decide ((data.segments ++ [name]).length > 1) else !(data.segments ++ [name]).isEmpty) = true
    split
    case isTrue rootless =>
      rcases root with rooted | some
      · simp [rooted] at rootless
      · have filled := length_pos_iff.mpr some
        simp only [segments] at filled
        simpa using filled
    case isFalse => simp

end CServerPath

namespace RemoteRecursiveOperation

structure Visit (Time : Type u) where
  path : CServerPath
  localDir : WString
  contents : RemoteTree Time

section Expected

variable (sanitizeFilename : WString → WString) (filters : ActiveFilters Time)

def filteredAt (path : CServerPath) (entry : CDirentry Time) : Bool :=
  filters entry.name path.getPath entry.isDir entry.size entry.time

variable (visit : Visit Time)

def Visit.enter (entry : CDirentry Time) (contents : RemoteTree Time) :
    Visit Time :=
  { path := visit.path.extend [entry.name]
    localDir := CLocalPath.addSegment visit.localDir (sanitizeFilename entry.name)
    contents }

def below (path : CServerPath) (localDir : WString) : RemoteTree Time → List (Visit Time)
  | .nil => []
  | .file _ rest => below path localDir rest
  | .directory entry contents rest =>
    (if filteredAt filters path entry then
      []
    else
      let next := CLocalPath.addSegment localDir (sanitizeFilename entry.name)
      { path := path.extend [entry.name], localDir := next, contents } ::
        below (path.extend [entry.name]) next contents) ++
    below path localDir rest

def reached : List (Visit Time) :=
  visit :: below sanitizeFilename filters visit.path visit.localDir visit.contents

/-- The calls for one directory: its files from the last to the first, or the
directory itself if it is empty. -/
def ownCalls : List RecursiveOutput :=
  if visit.contents.entries = [] then
    [.handleEmptyDirectory visit.localDir]
  else
    (visit.contents.entries.reverse.filter fun entry =>
      !filteredAt filters visit.path entry && !entry.isDir).map fun entry =>
        .handleFile entry.name visit.localDir visit.path entry.size

def subdirs : List (CDirentry Time × RemoteTree Time) :=
  visit.contents.directories.filter fun pair => !filteredAt filters visit.path pair.1

theorem below_eq (path : CServerPath) (localDir : WString) (tree : RemoteTree Time) :
    below sanitizeFilename filters path localDir tree =
      (tree.directories.filter fun pair => !filteredAt filters path pair.1).flatMap fun pair =>
        reached sanitizeFilename filters
          { path := path.extend [pair.1.name]
            localDir := CLocalPath.addSegment localDir (sanitizeFilename pair.1.name)
            contents := pair.2 } := by
  induction tree with
  | nil => rfl
  | file entry rest ih => exact ih
  | directory entry contents rest _ ih =>
    rw [below, RemoteTree.directories, filter_cons, ih]
    cases filteredAt filters path entry <;> rfl

theorem reached_eq :
    reached sanitizeFilename filters visit = visit :: (subdirs filters visit).flatMap fun pair =>
        reached sanitizeFilename filters (visit.enter sanitizeFilename pair.1 pair.2) := by
  rw [reached, below_eq]
  rfl

end Expected

variable {sanitizeFilename : WString → WString} {filters : ActiveFilters Time}

def Inside (root : RecursionRoot) (startDir path : CServerPath) : Prop :=
  path.isSubdirOf (if startDir.empty then root.remoteStartDir else startDir) = true

theorem Inside.extend {root : RecursionRoot} {startDir path : CServerPath}
    (inside : Inside root startDir path) (names : List WString) :
    Inside root startDir (path.extend names) :=
  CServerPath.isSubdirOf_extend inside names

theorem belowRecursionRoot_inside {root : RecursionRoot} {path : CServerPath} {dir : NewDir}
    (inside : Inside root dir.startDir path) :
    belowRecursionRoot root path dir = (true, dir) := by
  unfold Inside at inside
  unfold belowRecursionRoot
  cases none : dir.startDir.empty with
  | true =>
    rw [if_pos none] at inside
    simp [inside]
  | false =>
    rw [if_neg (by simp [none])] at inside
    simp [inside]

variable {dir : NewDir}

theorem inside_of_accepted {root : RecursionRoot} {path : CServerPath}
    (accepted : (belowRecursionRoot root path dir).1 = true)
    (descends : path.isSubdirOf root.remoteStartDir = true ∨ path.CanDescend)
    (fresh : dir.startDir.empty = true) (name : WString) :
    Inside root (belowRecursionRoot root path dir).2.startDir (path.extend [name]) := by
  unfold belowRecursionRoot at accepted ⊢
  rw [if_neg (by simp [fresh])] at accepted ⊢
  split at accepted
  case isTrue below =>
    rw [if_pos below]
    unfold Inside
    rw [if_pos fresh]
    exact CServerPath.isSubdirOf_extend below _
  case isFalse notBelow =>
    have descends := descends.resolve_left notBelow
    rw [if_neg notBelow]
    split at accepted
    case isTrue same =>
      rw [if_pos same]
      rw [Bool.and_eq_true, CServerPath.equal_iff] at same
      unfold Inside
      rw [if_pos fresh, ← same.1]
      exact CServerPath.extend_isSubdirOf descends name
    case isFalse notSame =>
      rw [if_neg notSame]
      split at accepted
      case isFalse => cases accepted
      case isTrue link =>
        rw [if_pos link]
        unfold Inside
        rw [if_neg (by simp [descends.1])]
        exact CServerPath.extend_isSubdirOf descends name

def askedPath (dir : NewDir) : CServerPath :=
  if dir.subdir = [] then dir.parent else dir.parent.extend [dir.subdir]

def TrueListing (top : CServerPath) (tree : RemoteTree Time) (dir : NewDir)
    (listing : CDirectoryListing Time) : Prop :=
  ∃ names contents, tree.descend names = some contents ∧
    askedPath dir = top.extend names ∧
    listing = { path := askedPath dir, entries := contents.entries }

def Truthful (top : CServerPath) (tree : RemoteTree Time)
    (self : RemoteRecursiveOperation Time) (event : RecursiveEvent Time) : Prop :=
  ∃ dir, frontDir self = some dir ∧
    ((∃ listing, event = .listing (some listing) ∧ TrueListing top tree dir listing) ∨
      ∃ error, event = .listingFailed error ∧ isCanceled error = false ∧
        isCritical error = false ∧ dir.secondTry = false)

def isCall : RecursiveOutput → Bool
  | .handleFile _ _ _ _ | .handleEmptyDirectory _ | .operationFinished => true
  | _ => false

def callsOf (sanitizeFilename : WString → WString)
    (trace : List (RemoteRecursiveOperation Time × RecursiveEvent Time)) :
    List RecursiveOutput :=
  trace.flatMap fun taken => (respond sanitizeFilename taken.1 taken.2).2.filter isCall

/-! The work list. Each directory to visit stands for one of the tree, known by
the names that lead to it. -/

structure Item (Time : Type u) where
  names : List WString
  visit : Visit Time

structure Represents (top : CServerPath) (tree : RemoteTree Time) (root : RecursionRoot)
    (dir : NewDir) (item : Item Time) : Prop where
  found : tree.descend item.names = some item.visit.contents
  path : item.visit.path = top.extend item.names
  asked : askedPath dir = item.visit.path
  localDir : dir.localDir = item.visit.localDir
  recurse : dir.recurse = true
  unrestricted : dir.restricted = none
  accepted : (belowRecursionRoot root item.visit.path dir).1 = true
  inside : ∀ name, Inside root (belowRecursionRoot root item.visit.path dir).2.startDir
    (item.visit.path.extend [name])

def Apart (left right : Item Time) : Prop :=
  ¬ left.names <+: right.names ∧ ¬ right.names <+: left.names

def Item.children (sanitizeFilename : WString → WString) (filters : ActiveFilters Time)
    (item : Item Time) : List (Item Time) :=
  (subdirs filters item.visit).map fun pair =>
    { names := item.names ++ [pair.1.name]
      visit := item.visit.enter sanitizeFilename pair.1 pair.2 }

def pendingCalls (sanitizeFilename : WString → WString) (filters : ActiveFilters Time)
    (items : List (Item Time)) : List RecursiveOutput :=
  items.flatMap fun item =>
    (reached sanitizeFilename filters item.visit).flatMap (ownCalls filters)

def pendingVisits (sanitizeFilename : WString → WString) (filters : ActiveFilters Time)
    (items : List (Item Time)) : List (Visit Time) :=
  items.flatMap fun item => reached sanitizeFilename filters item.visit

theorem pendingVisits_children (item : Item Time) (rest : List (Item Time)) :
    pendingVisits sanitizeFilename filters (item :: rest) =
      item.visit :: pendingVisits sanitizeFilename filters
        (item.children sanitizeFilename filters ++ rest) := by
  simp only [pendingVisits, flatMap_cons, flatMap_append, Item.children,
    flatMap_map]
  rw [reached_eq]
  rfl

variable {item : Item Time}

theorem represents_child {top : CServerPath} {tree : RemoteTree Time} {root : RecursionRoot}
    {mode : OperationMode} {pair : CDirentry Time × RemoteTree Time}
    (wellFormed : tree.WellFormed) (transfer : mode = .transfer)
    (represents : Represents top tree root dir item)
    (member : pair ∈ subdirs filters item.visit) :
    Represents top tree root (entryDir sanitizeFilename mode item.visit.path
        (belowRecursionRoot root item.visit.path dir).2 pair.1)
      { names := item.names ++ [pair.1.name]
        visit := item.visit.enter sanitizeFilename pair.1 pair.2 } := by
  obtain ⟨entry, contents⟩ := pair
  obtain ⟨inTree, _⟩ := mem_filter.mp member
  have formed := (wellFormed.descend represents.found).1
  obtain ⟨_, notLink, named, _, _⟩ := formed.directory inTree
  obtain ⟨startDir, same⟩ := belowRecursionRoot_same root item.visit.path dir
  have inside := represents.inside entry.name
  have guard := @belowRecursionRoot_inside root (item.visit.path.extend [entry.name])
    (entryDir sanitizeFilename mode item.visit.path
      (belowRecursionRoot root item.visit.path dir).2 entry) inside
  refine ⟨?_, ?_, ?_, ?_, ?_, rfl, ?_, fun name => ?_⟩
  · simp only [RemoteTree.descend_append, represents.found, Option.bind_some,
      formed.find inTree, Option.map_some]
    rfl
  · simp only [Visit.enter, represents.path, CServerPath.extend_extend]
  · simp only [askedPath, entryDir, named, if_false, Visit.enter]
  · simp only [entryDir, transfer, if_true, Visit.enter, same, represents.localDir]
  · simp only [entryDir, notLink, Bool.not_false]
  · exact congrArg Prod.fst guard
  · change Inside root (belowRecursionRoot root (item.visit.path.extend [entry.name])
      (entryDir sanitizeFilename mode item.visit.path
        (belowRecursionRoot root item.visit.path dir).2 entry)).2.startDir _
    rw [guard]
    exact inside.extend [name]

theorem represents_children {top : CServerPath} {tree : RemoteTree Time}
    {root : RecursionRoot} {mode : OperationMode}
    (wellFormed : tree.WellFormed) (transfer : mode = .transfer)
    (represents : Represents top tree root dir item) :
    List.Forall₂ (Represents top tree root) ((subdirs filters item.visit).map fun pair =>
        entryDir sanitizeFilename mode item.visit.path
          (belowRecursionRoot root item.visit.path dir).2 pair.1)
      (item.children sanitizeFilename filters) := by
  unfold Item.children
  rw [forall₂_map_left_iff, forall₂_map_right_iff, forall₂_same]
  exact fun pair member => represents_child wellFormed transfer represents member

theorem children_apart (formed : item.visit.contents.WellFormed) :
    (item.children sanitizeFilename filters).Pairwise Apart := by
  have distinct : (item.visit.contents.directories.map (·.1.name)).Nodup := by
    have names := formed.names_nodup
    have part := formed.filter_entries fun _ => true
    simp only [Bool.true_and, filter_true] at part
    have sublist : ((item.visit.contents.directories.map Prod.fst).map CDirentry.name).Sublist
        (item.visit.contents.entries.map CDirentry.name) := by
      rw [← part]
      exact filter_sublist.map _
    rw [map_map] at sublist
    exact names.sublist sublist
  unfold Item.children subdirs
  rw [pairwise_map]
  refine List.Pairwise.filter _ ?_
  rw [List.Nodup, pairwise_map] at distinct
  refine distinct.imp fun {left right} apart => ?_
  constructor
  · intro before
    have same := before.eq_of_length (by simp)
    exact apart (cons.inj (append_cancel_left same)).1
  · intro before
    have same := before.eq_of_length (by simp)
    exact apart (cons.inj (append_cancel_left same)).1.symm

theorem child_apart {other child : Item Time} (apart : Apart item other)
    (isChild : child ∈ item.children sanitizeFilename filters) : Apart child other := by
  obtain ⟨pair, _, rfl⟩ := mem_map.mp isChild
  constructor
  · exact fun before => apart.1 ((prefix_append _ _).trans before)
  · intro before
    rcases prefix_concat_iff.mp before with same | earlier
    · exact apart.1 (same ▸ prefix_append _ _)
    · exact apart.2 earlier

theorem child_unvisited {child : Item Time} {seen : List WString}
    (unvisited : ¬ item.names <+: seen)
    (isChild : child ∈ item.children sanitizeFilename filters) : ¬ child.names <+: seen := by
  obtain ⟨pair, _, rfl⟩ := mem_map.mp isChild
  exact fun before => unvisited ((prefix_append _ _).trans before)

theorem child_not_prefix {child : Item Time}
    (isChild : child ∈ item.children sanitizeFilename filters) :
    ¬ child.names <+: item.names := by
  obtain ⟨pair, _, rfl⟩ := mem_map.mp isChild
  intro before
  have short := before.length_le
  rw [length_append] at short
  exact Nat.not_succ_le_self _ short

structure Traversing (sanitizeFilename : WString → WString) (filters : ActiveFilters Time)
    (top : CServerPath) (tree : RemoteTree Time) (root : RecursionRoot)
    (expected : List (Visit Time)) (calls : List RecursiveOutput) (used : Nat)
    (operation : RemoteRecursiveOperation Time) (dirs : List NewDir)
    (items : List (Item Time)) (seen : List (List WString)) : Prop where
  mode : operation.operationMode = .transfer
  unchanged : operation.filters = filters
  roots : operation.recursionRoots =
    [{ root with visitedDirs := seen.map top.extend, dirsToVisit := dirs }]
  represents : List.Forall₂ (Represents top tree root) dirs items
  calls : calls ++ pendingCalls sanitizeFilename filters items =
    expected.flatMap (ownCalls filters)
  apart : items.Pairwise Apart
  unvisited : ∀ names ∈ seen, ∀ item ∈ items, ¬ item.names <+: names
  clean : ∀ names ∈ seen, ∀ name ∈ names, 0 ∉ name
  budget : used + 2 * (pendingVisits sanitizeFilename filters items).length ≤
    2 * expected.length + dirs.countP (·.secondTry)

theorem insertVisited_fresh {top : CServerPath} {seen : List (List WString)}
    {names : List WString} (filled : top.empty = false)
    (unvisited : ∀ earlier ∈ seen, ¬ names <+: earlier)
    (clean : ∀ earlier ∈ seen, ∀ name ∈ earlier, 0 ∉ name)
    (namesClean : ∀ name ∈ names, 0 ∉ name) :
    insertVisited (seen.map top.extend) (top.extend names) =
      ((names :: seen).map top.extend, true) := by
  unfold insertVisited
  rw [if_neg]
  · rfl
  · rw [any_map, any_eq_true]
    rintro ⟨earlier, member, same⟩
    rw [CServerPath.compareOfLess_less] at same
    have equal := CServerPath.order_extend filled (clean earlier member) namesClean
      (eq_of_beq same)
    exact unvisited earlier member (equal ▸ prefix_refl _)

structure Finished (filters : ActiveFilters Time) (expected : List (Visit Time))
    (calls : List RecursiveOutput) (used : Nat)
    (operation : RemoteRecursiveOperation Time) : Prop where
  mode : operation.operationMode = .none
  roots : operation.recursionRoots = []
  calls : calls = expected.flatMap (ownCalls filters) ++ [.operationFinished]
  budget : used ≤ 2 * expected.length

theorem filter_entered {self : RemoteRecursiveOperation Time}
    {visit : Visit Time} (formed : visit.contents.WellFormed)
    (transfer : self.operationMode = .transfer) (kept : self.filters = filters)
    (recurse : dir.recurse = true) (unrestricted : dir.restricted = none) :
    (visit.contents.entries.filter fun entry =>
        entered self dir visit.path entry && dir.recurse) =
      (subdirs filters visit).map Prod.fst := by
  have directories := formed.filter_entries fun entry => !filteredAt filters visit.path entry
  refine Eq.trans (filter_congr fun entry _ => ?_) directories
  simp [entered, skipped, unrestricted, transfer, recurse, kept, filteredAt]

theorem calls_entries {self : RemoteRecursiveOperation Time}
    {visit : Visit Time} (transfer : self.operationMode = .transfer)
    (kept : self.filters = filters) (unrestricted : dir.restricted = none)
    (localDir : dir.localDir = visit.localDir) (some : visit.contents.entries ≠ []) :
    ((visit.contents.entries.reverse.flatMap (entryOutputs self dir visit.path) ++
        deleteFiles self dir { path := visit.path, entries := visit.contents.entries } ++
        [RecursiveOutput.handleDirListingEnd]).filter isCall) = ownCalls filters visit := by
  have none : deleteFiles self dir
      { path := visit.path, entries := visit.contents.entries } = [] := by
    simp [deleteFiles, transfer]
  rw [none, append_nil, filter_append, ownCalls, if_neg some]
  simp only [isCall, Bool.false_eq_true, not_false_eq_true, filter_cons_of_neg,
    filter_nil, append_nil]
  generalize visit.contents.entries.reverse = entries
  induction entries with
  | nil => rfl
  | cons entry entries ih =>
    rw [flatMap_cons, filter_append, ih, filter_cons]
    have one : (entryOutputs self dir visit.path entry).filter isCall =
        if (!filteredAt filters visit.path entry && !entry.isDir) = true then
          [.handleFile entry.name visit.localDir visit.path entry.size] else [] := by
      unfold entryOutputs asFile chmodEntry skipped filteredAt
      rw [unrestricted, transfer, kept, localDir]
      cases filters entry.name visit.path.getPath entry.isDir entry.size entry.time <;>
        cases entry.isDir <;> simp [isCall]
    rw [one]
    split <;> rfl

section Steps

variable {top : CServerPath} {tree : RemoteTree Time} {root : RecursionRoot}
  {expected : List (Visit Time)} {calls : List RecursiveOutput} {used : Nat}
  {self : RemoteRecursiveOperation Time} {dirs : List NewDir} {items : List (Item Time)}
  {seen : List (List WString)}

theorem Traversing.next
    (traversing : Traversing sanitizeFilename filters top tree root expected calls used self
      dirs items seen) :
    Finished filters expected (calls ++ (nextOperation self).2.filter isCall) used
      (nextOperation self).1 ∨
    dirs ≠ [] ∧ Traversing sanitizeFilename filters top tree root expected
      (calls ++ (nextOperation self).2.filter isCall) used (nextOperation self).1 dirs items
      seen := by
  obtain ⟨markers, rest, outputs, split, all, same, next⟩ :=
    nextOperation_eq (by rw [traversing.mode]; simp) traversing.roots (by simp)
  have none : markers = [] := by
    cases markers with
    | nil => rfl
    | cons marker markers =>
      have delete := (all marker mem_cons_self).1
      rw [traversing.mode] at delete
      cases delete
  subst none
  have here : dirs = rest := split
  subst here
  have only : (nextOperation self).2 = outputs := same
  rw [only]
  have roots := traversing.roots
  have mode := traversing.mode
  generalize (nextOperation self).1 = after at next
  cases next with
  | here =>
    refine .inr ⟨by simp, traversing.mode, traversing.unchanged, rfl, traversing.represents,
      ?_, traversing.apart, traversing.unvisited, traversing.clean, traversing.budget⟩
    simpa [listDir, isCall] using traversing.calls
  | later suffix => cases suffix_nil.mp suffix
  | finished =>
    cases traversing.represents
    refine .inl ⟨rfl, rfl, ?_, ?_⟩
    · have calls := traversing.calls
      rw [pendingCalls, flatMap_nil, append_nil] at calls
      rw [calls]
      rfl
    · simpa [pendingVisits] using traversing.budget

theorem pendingCalls_eq (items : List (Item Time)) :
    pendingCalls sanitizeFilename filters items =
      (pendingVisits sanitizeFilename filters items).flatMap (ownCalls filters) := by
  rw [pendingCalls, pendingVisits, flatMap_assoc]

theorem Traversing.descend {dir : NewDir} {rest : List NewDir} {item : Item Time}
    {middle : RemoteRecursiveOperation Time}
    (traversing : Traversing sanitizeFilename filters top tree root expected calls used self
      (dir :: rest) (item :: items) seen)
    (wellFormed : tree.WellFormed) (mode : middle.operationMode = .transfer)
    (unchanged : middle.filters = filters)
    (roots : middle.recursionRoots =
      [{ root with
          visitedDirs := (item.names :: seen).map top.extend
          dirsToVisit := ((subdirs filters item.visit).map fun pair =>
            entryDir sanitizeFilename .transfer item.visit.path
              (belowRecursionRoot root item.visit.path dir).2 pair.1) ++ rest }]) :
    Traversing sanitizeFilename filters top tree root expected
      (calls ++ ownCalls filters item.visit) (used + 1) middle
      (((subdirs filters item.visit).map fun pair =>
        entryDir sanitizeFilename .transfer item.visit.path
          (belowRecursionRoot root item.visit.path dir).2 pair.1) ++ rest)
      (item.children sanitizeFilename filters ++ items) (item.names :: seen) := by
  obtain ⟨represents, restRepresents⟩ := forall₂_cons.mp traversing.represents
  obtain ⟨itemApart, restApart⟩ := pairwise_cons.mp traversing.apart
  have formed := wellFormed.descend represents.found
  refine ⟨mode, unchanged, roots, ?_, ?_, ?_, ?_, ?_, ?_⟩
  · exact rel_append (represents_children wellFormed rfl represents) restRepresents
  · have whole := traversing.calls
    rw [pendingCalls_eq, pendingVisits_children, flatMap_cons, ← pendingCalls_eq] at whole
    rw [append_assoc]
    exact whole
  · refine pairwise_append.mpr ⟨children_apart formed.1, restApart, ?_⟩
    exact fun child isChild other member => child_apart (itemApart other member) isChild
  · intro names member other isPending
    rcases mem_cons.mp member with rfl | earlier
    · rcases mem_append.mp isPending with isChild | old
      · exact child_not_prefix isChild
      · exact (itemApart other old).2
    · rcases mem_append.mp isPending with isChild | old
      · exact child_unvisited (traversing.unvisited names earlier item mem_cons_self) isChild
      · exact traversing.unvisited names earlier other (mem_cons_of_mem _ old)
  · intro names member
    rcases mem_cons.mp member with rfl | earlier
    · exact formed.2
    · exact traversing.clean names earlier
  · have budget := traversing.budget
    rw [pendingVisits_children, length_cons, countP_cons] at budget
    rw [countP_append]
    split at budget <;> omega

variable {dir : NewDir}

theorem respond_listing_active {listing : CDirectoryListing Time} {front : RecursionRoot}
    {roots : List RecursionRoot} {rest : List NewDir}
    (mode : self.operationMode = .transfer) (here : self.recursionRoots = front :: roots)
    (next : front.dirsToVisit = dir :: rest) (fine : listing.failed = false) :
    respond sanitizeFilename self (.listing (some listing)) =
      processListing sanitizeFilename self listing front roots dir rest := by
  simp only [respond, processDirectoryListing, mode, here, fine, next, Bool.false_eq_true,
    if_false]

theorem respond_failed_active {error : Nat} {front : RecursionRoot}
    {roots : List RecursionRoot} {rest : List NewDir}
    (mode : self.operationMode = .transfer) (here : self.recursionRoots = front :: roots)
    (next : front.dirsToVisit = dir :: rest) (running : isCanceled error = false)
    (minor : isCritical error = false) (first : dir.secondTry = false) :
    respond sanitizeFilename self (.listingFailed error) =
      nextOperation (setFront { self with failed := true } front roots
        ({ dir with secondTry := true } :: rest)) := by
  simp [respond, listingFailed, mode, here, next, running, minor, first]

theorem Represents.again {item : Item Time} (represents : Represents top tree root dir item) :
    Represents top tree root { dir with secondTry := true } item := by
  have same : belowRecursionRoot root item.visit.path { dir with secondTry := true } =
      ((belowRecursionRoot root item.visit.path dir).1,
        { (belowRecursionRoot root item.visit.path dir).2 with secondTry := true }) := by
    unfold belowRecursionRoot
    dsimp only
    split
    case isTrue => rfl
    case isFalse =>
      split
      case isTrue => rfl
      case isFalse =>
        split
        case isTrue => rfl
        case isFalse => split <;> rfl
  refine ⟨represents.found, represents.path, represents.asked, represents.localDir,
    represents.recurse, represents.unrestricted, ?_, ?_⟩
  · rw [same]
    exact represents.accepted
  · rw [same]
    exact represents.inside

def Advances (sanitizeFilename : WString → WString) (filters : ActiveFilters Time)
    (top : CServerPath) (tree : RemoteTree Time) (root : RecursionRoot)
    (expected : List (Visit Time)) (calls : List RecursiveOutput) (used : Nat)
    (self : RemoteRecursiveOperation Time) : Prop :=
  Finished filters expected calls used self ∨
  ∃ dirs items seen, dirs ≠ [] ∧
    Traversing sanitizeFilename filters top tree root expected calls used self dirs items seen

theorem Traversing.advances
    (traversing : Traversing sanitizeFilename filters top tree root expected calls used self
      dirs items seen) :
    Advances sanitizeFilename filters top tree root expected
      (calls ++ (nextOperation self).2.filter isCall) used (nextOperation self).1 := by
  rcases traversing.next with finished | ⟨some, later⟩
  · exact .inl finished
  · exact .inr ⟨_, _, _, some, later⟩

theorem Traversing.fail {error : Nat} {rest : List NewDir}
    (traversing : Traversing sanitizeFilename filters top tree root expected calls used self
      (dir :: rest) items seen)
    (running : isCanceled error = false) (minor : isCritical error = false)
    (first : dir.secondTry = false) :
    Advances sanitizeFilename filters top tree root expected
      (calls ++ (respond sanitizeFilename self (.listingFailed error)).2.filter isCall)
      (used + 1) (respond sanitizeFilename self (.listingFailed error)).1 := by
  rw [respond_failed_active traversing.mode traversing.roots rfl running minor first]
  cases items with
  | nil => cases traversing.represents
  | cons item items =>
    obtain ⟨represents, restRepresents⟩ := forall₂_cons.mp traversing.represents
    have again : Traversing sanitizeFilename filters top tree root expected calls (used + 1)
        (setFront { self with failed := true }
          { root with visitedDirs := seen.map top.extend, dirsToVisit := dir :: rest } []
          ({ dir with secondTry := true } :: rest))
        ({ dir with secondTry := true } :: rest) (item :: items) seen := by
      refine ⟨traversing.mode, traversing.unchanged, rfl,
        .cons represents.again restRepresents, traversing.calls, traversing.apart,
        traversing.unvisited, traversing.clean, ?_⟩
      have budget := traversing.budget
      rw [countP_cons_of_neg (by simp [first])] at budget
      rw [countP_cons_of_pos rfl]
      omega
    exact again.advances

theorem subdirs_of_empty {visit : Visit Time} (none : visit.contents.entries = []) :
    subdirs filters visit = [] := by
  unfold subdirs
  cases contents : visit.contents with
  | nil => rfl
  | file entry rest =>
    rw [contents] at none
    cases none
  | directory entry inside rest =>
    rw [contents] at none
    cases none

theorem Traversing.list {listing : CDirectoryListing Time} {rest : List NewDir}
    (traversing : Traversing sanitizeFilename filters top tree root expected calls used self
      (dir :: rest) items seen)
    (wellFormed : tree.WellFormed) (filled : top.empty = false)
    (true_ : TrueListing top tree dir listing) :
    Advances sanitizeFilename filters top tree root expected
      (calls ++ (respond sanitizeFilename self (.listing (some listing))).2.filter isCall)
      (used + 1) (respond sanitizeFilename self (.listing (some listing))).1 := by
  cases items with
  | nil => cases traversing.represents
  | cons item items =>
    obtain ⟨names, contents, found, asked, rfl⟩ := true_
    have represents := (forall₂_cons.mp traversing.represents).1
    have sameNames : names = item.names := by
      refine CServerPath.extend_injective filled ?_
      rw [← asked, represents.asked, represents.path]
    subst sameNames
    have sameContents : item.visit.contents = contents :=
      Option.some.inj (represents.found.symm.trans found)
    subst sameContents
    have mode := traversing.mode
    have formed := (wellFormed.descend represents.found).1
    have clean := (wellFormed.descend represents.found).2
    have fresh := insertVisited_fresh filled
      (fun earlier member => traversing.unvisited earlier member item mem_cons_self)
      traversing.clean clean
    rw [← represents.path] at fresh
    obtain ⟨outputs, dirs, visited, middle, turn, middleMode, middleFilters, _, middleRoots,
      same⟩ := @processListing_turn _ sanitizeFilename self
        { path := askedPath dir, entries := item.visit.contents.entries }
        { root with visitedDirs := seen.map top.extend, dirsToVisit := dir :: rest } [] dir rest
        rfl
    rw [respond_listing_active mode traversing.roots rfl rfl, same]
    rw [represents.asked] at turn
    have step (own : outputs.filter isCall = ownCalls filters item.visit)
        (dirsEq : dirs = ((subdirs filters item.visit).map fun pair =>
          entryDir sanitizeFilename .transfer item.visit.path
            (belowRecursionRoot root item.visit.path dir).2 pair.1) ++ rest)
        (visitedEq : visited = (item.names :: seen).map top.extend) :
        Advances sanitizeFilename filters top tree root expected
          (calls ++ (outputs ++ (nextOperation middle).2).filter isCall) (used + 1)
          (nextOperation middle).1 := by
      have after := @Traversing.descend _ _ _ _ _ _ _ _ _ _ _ _ _ _ _ middle traversing wellFormed
        (middleMode.trans mode) (middleFilters.trans traversing.unchanged)
        (by rw [middleRoots, dirsEq, visitedEq])
      rw [filter_append, own, ← append_assoc]
      exact after.advances
    cases turn with
    | rejected _ outside =>
      have notAccepted : (belowRecursionRoot root item.visit.path dir).1 = false := outside
      rw [represents.accepted] at notAccepted
      cases notAccepted
    | lookedAt _ _ looked =>
      rcases looked with ⟨_, flat⟩ | visited
      · rw [represents.recurse] at flat
        cases flat
      · rw [fresh] at visited
        cases visited
    | empty _ _ _ none _ =>
      refine step ?_ ?_ ?_
      · rw [ownCalls, if_pos none, represents.localDir]
        rfl
      · rw [subdirs_of_empty none]
        rfl
      · rw [fresh]
    | entries _ _ _ some =>
      have some : item.visit.contents.entries ≠ [] := fun none => some ⟨none, mode⟩
      refine step ?_ ?_ ?_
      · exact calls_entries mode traversing.unchanged represents.unrestricted
          represents.localDir some
      · rw [filter_entered formed mode traversing.unchanged represents.recurse
          represents.unrestricted, map_map, mode, removeLater, if_neg (by simp)]
        rfl
      · rw [fresh]

theorem Advances.step {event : RecursiveEvent Time} (wellFormed : tree.WellFormed)
    (filled : top.empty = false)
    (advances : Advances sanitizeFilename filters top tree root expected calls used self)
    (truthful : Truthful top tree self event) :
    Advances sanitizeFilename filters top tree root expected
      (calls ++ (respond sanitizeFilename self event).2.filter isCall) (used + 1)
      (respond sanitizeFilename self event).1 := by
  obtain ⟨dir, front, answer⟩ := truthful
  rcases advances with finished | ⟨dirs, items, seen, _, traversing⟩
  · simp [frontDir, finished.roots] at front
  · cases dirs with
    | nil => simp [frontDir, traversing.roots] at front
    | cons first rest =>
      simp only [frontDir, traversing.roots, head?_cons, Option.bind_some,
        Option.some.injEq] at front
      subst front
      rcases answer with ⟨listing, rfl, true_⟩ | ⟨error, rfl, running, minor, once⟩
      · exact traversing.list wellFormed filled true_
      · exact traversing.fail running minor once

end Steps

/-! What is reached: every directory that passes the filters with all directories
above it, once. -/

inductive Reaches (sanitizeFilename : WString → WString) (filters : ActiveFilters Time)
    (start : Visit Time) : Visit Time → Prop
  | here : Reaches sanitizeFilename filters start start
  | enter {visit : Visit Time} {entry : CDirentry Time} {contents : RemoteTree Time} :
      Reaches sanitizeFilename filters start visit →
      (entry, contents) ∈ visit.contents.directories →
      filteredAt filters visit.path entry = false →
      Reaches sanitizeFilename filters start (visit.enter sanitizeFilename entry contents)

theorem Reaches.trans {first second third : Visit Time}
    (left : Reaches sanitizeFilename filters first second)
    (right : Reaches sanitizeFilename filters second third) :
    Reaches sanitizeFilename filters first third := by
  induction right with
  | here => exact left
  | enter _ member shown ih => exact .enter ih member shown

theorem mem_subdirs {visit : Visit Time} {entry : CDirentry Time} {contents : RemoteTree Time} :
    (entry, contents) ∈ subdirs filters visit ↔
      (entry, contents) ∈ visit.contents.directories ∧
        filteredAt filters visit.path entry = false := by
  simp [subdirs]

theorem reaches_of_mem_below {path : CServerPath} {localDir : WString}
    {tree whole : RemoteTree Time} {visit : Visit Time}
    (part : ∀ pair ∈ tree.directories, pair ∈ whole.directories)
    (member : visit ∈ below sanitizeFilename filters path localDir tree) :
    Reaches sanitizeFilename filters { path, localDir, contents := whole } visit := by
  induction tree generalizing path localDir whole with
  | nil => cases member
  | file _ rest ih => exact ih part member
  | directory entry contents rest contentsIh restIh =>
    rcases mem_append.mp member with inside | later
    · split at inside
      case isTrue => cases inside
      case isFalse shown =>
        have enters : Reaches sanitizeFilename filters { path, localDir, contents := whole }
            (Visit.enter sanitizeFilename { path, localDir, contents := whole } entry contents) :=
          .enter .here (part _ mem_cons_self) (by simpa using shown)
        rcases mem_cons.mp inside with rfl | deeper
        · exact enters
        · exact enters.trans (contentsIh (fun _ => id) deeper)
    · exact restIh (fun pair inRest => part pair (mem_cons_of_mem _ inRest)) later

theorem below_closed {path : CServerPath} {localDir : WString} {tree : RemoteTree Time}
    {visit next : Visit Time} (member : visit ∈ below sanitizeFilename filters path localDir tree)
    (later : next ∈ reached sanitizeFilename filters visit) :
    next ∈ below sanitizeFilename filters path localDir tree := by
  induction tree generalizing path localDir with
  | nil => cases member
  | file _ rest ih => exact ih member
  | directory entry contents rest contentsIh restIh =>
    rcases mem_append.mp member with inside | after
    · refine mem_append_left _ ?_
      split at inside
      case isTrue => cases inside
      case isFalse shown =>
        rw [if_neg shown]
        rcases mem_cons.mp inside with rfl | deeper
        · exact later
        · exact mem_cons_of_mem _ (contentsIh deeper)
    · exact mem_append_right _ (restIh after)

theorem mem_reached {start visit : Visit Time} :
    visit ∈ reached sanitizeFilename filters start ↔
      Reaches sanitizeFilename filters start visit := by
  constructor
  · intro member
    rcases mem_cons.mp member with rfl | below
    · exact .here
    · exact reaches_of_mem_below (fun _ => id) below
  · intro reaches
    induction reaches with
    | here => exact mem_cons_self
    | @enter visit entry contents _ inTree shown ih =>
      have child : visit.enter sanitizeFilename entry contents ∈
          reached sanitizeFilename filters visit := by
        rw [reached_eq]
        refine mem_cons_of_mem _ (mem_flatMap.mpr
          ⟨(entry, contents), mem_subdirs.mpr ⟨inTree, shown⟩, mem_cons_self⟩)
      rcases mem_cons.mp ih with same | below
      · rw [← same]
        exact child
      · exact mem_cons_of_mem _ (below_closed below child)

theorem path_of_mem_below {path : CServerPath} {localDir : WString} {tree : RemoteTree Time}
    {visit : Visit Time} (member : visit ∈ below sanitizeFilename filters path localDir tree) :
    ∃ pair ∈ tree.directories, ∃ names, visit.path = path.extend (pair.1.name :: names) := by
  induction tree generalizing path localDir with
  | nil => cases member
  | file _ rest ih => exact ih member
  | directory entry contents rest contentsIh restIh =>
    rcases mem_append.mp member with inside | after
    · split at inside
      case isTrue => cases inside
      case isFalse =>
        rcases mem_cons.mp inside with rfl | deeper
        · exact ⟨_, mem_cons_self, [], rfl⟩
        · obtain ⟨pair, _, names, same⟩ := contentsIh deeper
          refine ⟨_, mem_cons_self, pair.1.name :: names, ?_⟩
          rw [same, CServerPath.extend_extend]
          rfl
    · obtain ⟨pair, inRest, rest⟩ := restIh after
      exact ⟨pair, mem_cons_of_mem _ inRest, rest⟩

theorem below_paths_nodup {path : CServerPath} {localDir : WString} {tree : RemoteTree Time}
    (formed : tree.WellFormed) (filled : path.empty = false) :
    ((below sanitizeFilename filters path localDir tree).map Visit.path).Nodup := by
  induction tree generalizing path localDir with
  | nil => exact .nil
  | file _ rest ih => exact ih formed.2.2 filled
  | directory entry contents rest contentsIh restIh =>
    obtain ⟨_, _, _, _, fresh, inside, restFormed⟩ := formed
    rw [below, map_append]
    refine nodup_append.mpr ⟨?_, restIh restFormed filled, ?_⟩
    · split
      case isTrue => exact .nil
      case isFalse =>
        refine nodup_cons.mpr ⟨?_, contentsIh inside (by simpa using filled)⟩
        intro again
        obtain ⟨visit, member, same⟩ := mem_map.mp again
        obtain ⟨pair, _, names, path⟩ := path_of_mem_below member
        rw [path, CServerPath.extend_extend] at same
        have equal := CServerPath.extend_injective filled same
        simp at equal
    · rintro first inFirst _ inRest rfl
      split at inFirst
      case isTrue => cases inFirst
      case isFalse =>
        obtain ⟨visit, inVisit, here⟩ := mem_map.mp inFirst
        obtain ⟨other, inOther, there⟩ := mem_map.mp inRest
        obtain ⟨pair, inPair, names, otherPath⟩ := path_of_mem_below inOther
        have starts : ∃ names, visit.path = path.extend (entry.name :: names) := by
          rcases mem_cons.mp inVisit with rfl | deeper
          · exact ⟨[], rfl⟩
          · obtain ⟨inner, _, names, same⟩ := path_of_mem_below deeper
            exact ⟨inner.1.name :: names, by rw [same, CServerPath.extend_extend]; rfl⟩
        obtain ⟨others, visitPath⟩ := starts
        rw [← here, visitPath, otherPath] at there
        have equal := CServerPath.extend_injective filled there
        refine fresh (mem_map.mpr ⟨pair.1, ?_, (cons.inj equal).1⟩)
        exact RemoteTree.mem_entries_of_mem_directories inPair

theorem reached_paths_nodup {visit : Visit Time} (formed : visit.contents.WellFormed)
    (filled : visit.path.empty = false) :
    ((reached sanitizeFilename filters visit).map Visit.path).Nodup := by
  refine nodup_cons.mpr ⟨fun again => ?_, below_paths_nodup formed filled⟩
  obtain ⟨other, member, same⟩ := mem_map.mp again
  obtain ⟨pair, _, names, path⟩ := path_of_mem_below member
  rw [path] at same
  have equal := CServerPath.extend_injective filled
    (same.trans (CServerPath.extend_nil visit.path).symm)
  cases equal

def isFileCall (name : WString) (path : CServerPath) : RecursiveOutput → Bool
  | .handleFile file _ remote _ => file == name && remote == path
  | _ => false

theorem filter_name_eq {entries : List (CDirentry Time)} {entry : CDirentry Time}
    (distinct : (entries.map CDirentry.name).Nodup) (member : entry ∈ entries) :
    (entries.filter fun other => other.name == entry.name) = [entry] := by
  induction entries with
  | nil => cases member
  | cons first entries ih =>
    obtain ⟨fresh, distinct⟩ := nodup_cons.mp distinct
    rcases mem_cons.mp member with rfl | later
    · rw [filter_cons_of_pos (by simp)]
      congr 1
      rw [filter_eq_nil_iff]
      intro other inRest same
      exact fresh (mem_map.mpr ⟨other, inRest, eq_of_beq same⟩)
    · rw [filter_cons_of_neg, ih distinct later]
      intro same
      exact fresh (mem_map.mpr ⟨entry, later, (eq_of_beq same).symm⟩)

theorem ownCalls_file {visit : Visit Time} (formed : visit.contents.WellFormed)
    {entry : CDirentry Time} (member : entry ∈ visit.contents.entries)
    (isFile : entry.isDir = false) (shown : filteredAt filters visit.path entry = false) :
    (ownCalls filters visit).filter (isFileCall entry.name visit.path) =
      [.handleFile entry.name visit.localDir visit.path entry.size] := by
  have some : visit.contents.entries ≠ [] := ne_nil_of_mem member
  rw [ownCalls, if_neg some, filter_map, filter_filter]
  have only : (visit.contents.entries.reverse.filter fun other =>
      (isFileCall entry.name visit.path ∘ fun other : CDirentry Time =>
        RecursiveOutput.handleFile other.name visit.localDir visit.path other.size) other &&
      (!filteredAt filters visit.path other && !other.isDir)) = [entry] := by
    have byName := @filter_name_eq _ visit.contents.entries.reverse entry
      (by rw [map_reverse, nodup_reverse]; exact formed.names_nodup)
      (mem_reverse.mpr member)
    have both := congrArg
      (filter fun other => !filteredAt filters visit.path other && !other.isDir) byName
    rw [filter_filter] at both
    refine Eq.trans (filter_congr fun other _ => ?_) (both.trans ?_)
    · simp only [Function.comp_apply, isFileCall, beq_self_eq_true, Bool.and_true]
      exact Bool.and_comm _ _
    · simp [shown, isFile]
  rw [only]
  rfl

theorem ownCalls_other {visit : Visit Time} {name : WString} {path : CServerPath}
    (other : visit.path ≠ path) : (ownCalls filters visit).filter (isFileCall name path) = [] := by
  rw [filter_eq_nil_iff]
  intro output member same
  unfold ownCalls at member
  split at member
  case isTrue =>
    cases mem_singleton.mp member
    cases same
  case isFalse =>
    obtain ⟨entry, _, rfl⟩ := mem_map.mp member
    rw [isFileCall, Bool.and_eq_true, beq_iff_eq, beq_iff_eq] at same
    exact other same.2

theorem calls_file_once {visits : List (Visit Time)} (distinct : (visits.map Visit.path).Nodup)
    {visit : Visit Time} (reached : visit ∈ visits) (formed : visit.contents.WellFormed)
    {entry : CDirentry Time} (member : entry ∈ visit.contents.entries)
    (isFile : entry.isDir = false) (shown : filteredAt filters visit.path entry = false) :
    (visits.flatMap (ownCalls filters)).filter (isFileCall entry.name visit.path) =
      [.handleFile entry.name visit.localDir visit.path entry.size] := by
  induction visits with
  | nil => cases reached
  | cons first visits ih =>
    obtain ⟨fresh, distinct⟩ := nodup_cons.mp distinct
    rw [flatMap_cons, filter_append]
    rcases mem_cons.mp reached with rfl | later
    · rw [ownCalls_file formed member isFile shown, filter_flatMap]
      have none : visits.flatMap (fun other =>
          (ownCalls filters other).filter (isFileCall entry.name visit.path)) = [] := by
        rw [flatMap_eq_nil_iff]
        intro other inRest
        refine ownCalls_other fun same => fresh ?_
        exact mem_map.mpr ⟨other, inRest, same⟩
      rw [none, append_nil]
    · rw [ih distinct later, ownCalls_other, nil_append]
      intro same
      exact fresh (mem_map.mpr ⟨visit, later, same.symm⟩)

def isEmptyCall : RecursiveOutput → Bool
  | .handleEmptyDirectory _ => true
  | _ => false

theorem calls_empty_once (visits : List (Visit Time)) :
    (visits.flatMap (ownCalls filters)).filter isEmptyCall =
      (visits.filter fun visit => visit.contents.entries.isEmpty).map fun visit =>
        .handleEmptyDirectory visit.localDir := by
  induction visits with
  | nil => rfl
  | cons visit visits ih =>
    rw [flatMap_cons, filter_append, ih, filter_cons]
    unfold ownCalls
    cases contents : visit.contents.entries with
    | nil => rfl
    | cons entry entries =>
      have none : (((entry :: entries).reverse.filter fun entry =>
          !filteredAt filters visit.path entry && !entry.isDir).map fun entry =>
            RecursiveOutput.handleFile entry.name visit.localDir visit.path
              entry.size).filter isEmptyCall = [] := by
        rw [filter_eq_nil_iff]
        intro output member
        obtain ⟨file, _, rfl⟩ := mem_map.mp member
        simp [isEmptyCall]
      rw [if_neg (by simp), none]
      rfl

theorem Reaches.wellFormed {start visit : Visit Time}
    (reaches : Reaches sanitizeFilename filters start visit)
    (formed : start.contents.WellFormed) : visit.contents.WellFormed := by
  induction reaches with
  | here => exact formed
  | enter _ member _ ih => exact (ih.directory member).2.2.2.2

def queuedRoot (start : CServerPath) (allowParent : Bool) (path : CServerPath)
    (subdir localDir : WString) (isLink : Bool) : RecursionRoot :=
  RecursionRoot.addDirToVisit { remoteStartDir := start, allowParent } path subdir localDir isLink

def startTransfer (sanitizeFilename : WString → WString) (filters : ActiveFilters Time)
    (refresh : Bool) (root : RecursionRoot) : RemoteRecursiveOperation Time :=
  (respond sanitizeFilename (addRecursionRoot {} root) (.start .transfer filters refresh)).1

def topPath (path : CServerPath) (subdir : WString) : CServerPath :=
  if subdir = [] then path else path.extend [subdir]

def transferOf (filters : ActiveFilters Time) (refresh : Bool) (root : RecursionRoot) :
    RemoteRecursiveOperation Time :=
  { recursionRoots := [root], operationMode := .transfer, filters, refresh }

theorem startTransfer_eq (refresh : Bool) {start path : CServerPath}
    {allowParent isLink : Bool} {subdir localDir : WString} (filled : start.empty = false) :
    startTransfer sanitizeFilename filters refresh
        (queuedRoot start allowParent path subdir localDir isLink) =
      (nextOperation (transferOf filters refresh
        (queuedRoot start allowParent path subdir localDir isLink))).1 := by
  have added : addRecursionRoot ({} : RemoteRecursiveOperation Time)
      (queuedRoot start allowParent path subdir localDir isLink) =
      { recursionRoots := [queuedRoot start allowParent path subdir localDir isLink] } := by
    rw [addRecursionRoot, if_neg]
    · rfl
    · simp [RecursionRoot.empty, queuedRoot, RecursionRoot.addDirToVisit, filled]
  unfold startTransfer
  rw [added]
  rfl

theorem transferOf_traversing {tree : RemoteTree Time} (refresh : Bool)
    {start path : CServerPath} {allowParent isLink : Bool} {subdir localDir : WString}
    (accepted : (topPath path subdir).isSubdirOf start = true ∨
      (topPath path subdir = start ∧ allowParent = true) ∨ isLink = true)
    (descends : (topPath path subdir).isSubdirOf start = true ∨
      (topPath path subdir).CanDescend) :
    Traversing sanitizeFilename filters (topPath path subdir) tree
      (queuedRoot start allowParent path subdir localDir isLink) (reached sanitizeFilename filters
        { path := topPath path subdir, localDir, contents := tree }) [] 0
      (transferOf filters refresh (queuedRoot start allowParent path subdir localDir isLink))
      (queuedRoot start allowParent path subdir localDir isLink).dirsToVisit
      [{ names := []
         visit := { path := topPath path subdir, localDir, contents := tree } }] [] := by
  let dir : NewDir :=
    { parent := path, subdir, localDir, link := if isLink then .queued else .notLink }
  have passes : (belowRecursionRoot
      (queuedRoot start allowParent path subdir localDir isLink) (topPath path subdir) dir).1 =
      true := by
    unfold belowRecursionRoot
    rw [if_neg (by simp [dir, CServerPath.none, CServerPath.empty])]
    split
    case isTrue => rfl
    case isFalse notBelow =>
      split
      case isTrue => rfl
      case isFalse notSame =>
        rcases accepted with below | same | link
        · exact absurd below notBelow
        · refine absurd ?_ notSame
          rw [Bool.and_eq_true, CServerPath.equal_iff]
          exact same
        · rw [if_pos (by simp [dir, link])]
  have represents : Represents (topPath path subdir) tree
      (queuedRoot start allowParent path subdir localDir isLink) dir
      { names := [], visit := { path := topPath path subdir, localDir, contents := tree } } :=
    ⟨rfl, (CServerPath.extend_nil _).symm, rfl, rfl, rfl, rfl, passes,
      inside_of_accepted passes descends rfl⟩
  refine ⟨rfl, rfl, rfl, .cons represents .nil, ?_, pairwise_singleton _ _, by simp, by simp,
    ?_⟩
  · simp [pendingCalls]
  · simp [pendingVisits]

theorem startTransfer_advances {tree : RemoteTree Time} (refresh : Bool)
    {start path : CServerPath} {allowParent isLink : Bool} {subdir localDir : WString}
    (filled : start.empty = false) (accepted : (topPath path subdir).isSubdirOf start = true ∨
      (topPath path subdir = start ∧ allowParent = true) ∨ isLink = true)
    (descends : (topPath path subdir).isSubdirOf start = true ∨
      (topPath path subdir).CanDescend) :
    Advances sanitizeFilename filters (topPath path subdir) tree
      (queuedRoot start allowParent path subdir localDir isLink) (reached sanitizeFilename filters
        { path := topPath path subdir, localDir, contents := tree }) [] 0
      (startTransfer sanitizeFilename filters refresh
        (queuedRoot start allowParent path subdir localDir isLink)) := by
  have advances := (@transferOf_traversing _ sanitizeFilename filters tree refresh start path
    allowParent isLink subdir localDir accepted descends).advances
  rw [startTransfer_eq refresh filled]
  exact advances

theorem Advances.used_le {tree : RemoteTree Time} {top : CServerPath} {root : RecursionRoot}
    {expected : List (Visit Time)} {calls : List RecursiveOutput} {used : Nat}
    {self : RemoteRecursiveOperation Time}
    (advances : Advances sanitizeFilename filters top tree root expected calls used self) :
    used ≤ 2 * expected.length := by
  rcases advances with finished | ⟨dirs, items, seen, _, traversing⟩
  · exact finished.budget
  · have budget := traversing.budget
    have tried : dirs.countP (·.secondTry) ≤ items.length := by
      rw [← traversing.represents.length_eq]
      exact countP_le_length
    have pending : items.length ≤ (pendingVisits sanitizeFilename filters items).length := by
      clear budget tried traversing
      induction items with
      | nil => exact Nat.zero_le _
      | cons item items ih =>
        simp only [pendingVisits, flatMap_cons, length_append, length_cons,
          reached] at ih ⊢
        omega
    omega

theorem Advances.progress {tree : RemoteTree Time} {top : CServerPath} {root : RecursionRoot}
    {expected : List (Visit Time)} {calls : List RecursiveOutput} {used : Nat}
    {self : RemoteRecursiveOperation Time}
    (advances : Advances sanitizeFilename filters top tree root expected calls used self) :
    Finished filters expected calls used self ∨ ∃ event, Truthful top tree self event := by
  rcases advances with finished | ⟨dirs, items, seen, nonempty, traversing⟩
  · exact .inl finished
  · cases traversing.represents with
    | nil => exact absurd rfl nonempty
    | @cons dir item rest items represents _ =>
      let listing : CDirectoryListing Time :=
        { path := askedPath dir, entries := item.visit.contents.entries }
      refine .inr ⟨.listing (some listing), dir, ?_, .inl ⟨listing, rfl, item.names,
        item.visit.contents, represents.found, ?_, rfl⟩⟩
      · simp [frontDir, traversing.roots]
      · rw [represents.asked, represents.path]

theorem advances_run {tree : RemoteTree Time} {top : CServerPath} {root : RecursionRoot}
    {expected : List (Visit Time)} {start self : RemoteRecursiveOperation Time}
    {trace : List (RemoteRecursiveOperation Time × RecursiveEvent Time)}
    (wellFormed : tree.WellFormed) (filled : top.empty = false)
    (initial : Advances sanitizeFilename filters top tree root expected [] 0 start)
    (run : Run (recursiveStep sanitizeFilename) start trace self)
    (truthful : ∀ taken ∈ trace, Truthful top tree taken.1 taken.2) :
    Advances sanitizeFilename filters top tree root expected
      (callsOf sanitizeFilename trace) trace.length self := by
  refine @Run.trace_invariant_of_forall _ _ _ _ _ _
    (fun trace (self : RemoteRecursiveOperation Time) =>
      Advances sanitizeFilename filters top tree root expected
        (callsOf sanitizeFilename trace) trace.length self)
    (fun self event => Truthful top tree self event) initial ?_ run truthful
  rintro trace self event _ advances truthful ⟨⟩
  have next := advances.step wellFormed filled truthful
  simpa [callsOf] using next

theorem filled_of_descends {top start : CServerPath}
    (descends : top.isSubdirOf start = true ∨ top.CanDescend) : top.empty = false := by
  rcases descends with below | descends
  · obtain ⟨data, _, here, _⟩ := CServerPath.isSubdirOf_iff.mp below
    simp [CServerPath.empty, here]
  · exact descends.1

/-- As long as the list commands are answered truthfully a transfer goes on until it
has finished, and then it has handled every file and every empty directory that it
reaches exactly once. -/
theorem transfer_complete {tree : RemoteTree Time} {refresh : Bool}
    {start path : CServerPath} {allowParent isLink : Bool} {subdir localDir : WString}
    {trace : List (RemoteRecursiveOperation Time × RecursiveEvent Time)}
    {self : RemoteRecursiveOperation Time}
    (wellFormed : tree.WellFormed) (filled : start.empty = false)
    (accepted : (topPath path subdir).isSubdirOf start = true ∨
      (topPath path subdir = start ∧ allowParent = true) ∨ isLink = true)
    (descends : (topPath path subdir).isSubdirOf start = true ∨
      (topPath path subdir).CanDescend)
    (run : Run (recursiveStep sanitizeFilename) (startTransfer sanitizeFilename filters refresh
        (queuedRoot start allowParent path subdir localDir isLink)) trace self)
    (truthful : ∀ taken ∈ trace, Truthful (topPath path subdir) tree taken.1 taken.2) :
    let top : Visit Time := { path := topPath path subdir, localDir, contents := tree }
    let visits := reached sanitizeFilename filters top
    trace.length ≤ 2 * visits.length ∧
    ((∃ event, Truthful (topPath path subdir) tree self event) ∨
      self.operationMode = .none ∧
      callsOf sanitizeFilename trace = visits.flatMap (ownCalls filters) ++ [.operationFinished] ∧
      (∀ visit, visit ∈ visits ↔ Reaches sanitizeFilename filters top visit) ∧
      (visits.map Visit.path).Nodup ∧
      (callsOf sanitizeFilename trace).filter isEmptyCall =
        (visits.filter fun visit => visit.contents.entries.isEmpty).map
          (fun visit => .handleEmptyDirectory visit.localDir) ∧
      ∀ visit entry, Reaches sanitizeFilename filters top visit →
        entry ∈ visit.contents.entries → entry.isDir = false →
        filteredAt filters visit.path entry = false →
        (callsOf sanitizeFilename trace).filter (isFileCall entry.name visit.path) =
          [.handleFile entry.name visit.localDir visit.path entry.size]) := by
  intro top visits
  have topFilled := filled_of_descends descends
  have advances := advances_run wellFormed topFilled
    (startTransfer_advances refresh filled accepted descends) run truthful
  refine ⟨advances.used_le, ?_⟩
  rcases advances.progress with finished | event
  · have distinct : (visits.map Visit.path).Nodup := reached_paths_nodup wellFormed topFilled
    refine .inr ⟨finished.mode, finished.calls, fun visit => mem_reached, distinct, ?_,
      fun visit entry reaches member isFile shown => ?_⟩
    · rw [finished.calls, filter_append, calls_empty_once]
      exact append_nil _
    rw [finished.calls, filter_append,
      calls_file_once distinct (mem_reached.mpr reaches) (reaches.wellFormed wellFormed) member
        isFile shown]
    rfl
  · exact .inl event

def oneFile : RemoteTree Unit :=
  .file { name := wide "f", size := 5 } .nil

def directoryD : CServerPath :=
  { data := some { segments := [wide "d"], pathPrefix := none }, type := .unix }

def retriedListing : List (RecursiveEvent Unit) :=
  [.listingFailed 2, .listing (some { path := directoryD, entries := oneFile.entries })]

theorem transfer_complete_one_file : ∃ trace self, Run (@recursiveStep Unit id)
      (startTransfer id (fun _ _ _ _ _ => false) false
        (queuedRoot directoryD true directoryD [] (wide "/home/") false)) trace self ∧
    callsOf id trace = [.handleFile (wide "f") (wide "/home/") directoryD 5, .operationFinished] ∧
    trace.length ≤ 2 := by
  let start : RemoteRecursiveOperation Unit := startTransfer id (fun _ _ _ _ _ => false) false
    (queuedRoot directoryD true directoryD [] (wide "/home/") false)
  obtain ⟨self, run⟩ := @eventTrace_run Unit id start retriedListing
  have truthful : ∀ taken ∈ eventTrace id start retriedListing,
      Truthful directoryD oneFile taken.1 taken.2 := by
    intro taken member
    rcases mem_cons.mp member with rfl | later
    · exact ⟨_, rfl, .inr ⟨2, rfl, rfl, rfl, rfl⟩⟩
    · cases mem_singleton.mp later
      exact ⟨_, rfl, .inl ⟨_, rfl, [], oneFile, rfl, rfl, rfl⟩⟩
  have wellFormed : oneFile.WellFormed := ⟨rfl, by simp [RemoteTree.entries], trivial⟩
  have descends : directoryD.CanDescend := ⟨rfl, .inl rfl, by decide⟩
  have complete := @transfer_complete Unit id (fun _ _ _ _ _ => false) oneFile false directoryD
    directoryD true false [] (wide "/home/") _ self wellFormed rfl (.inr (.inl ⟨rfl, rfl⟩))
    (.inr descends) run truthful
  exact ⟨_, self, run, rfl, complete.1⟩

/-- A directory that is not below the start directory is not worked on. -/
theorem transfer_not_complete : ¬ ∀ (tree : RemoteTree Unit) (start path : CServerPath)
    (allowParent isLink : Bool) (subdir localDir : WString) trace self,
    tree.WellFormed → start.empty = false → Run (@recursiveStep Unit id)
      (startTransfer id (fun _ _ _ _ _ => false) false
        (queuedRoot start allowParent path subdir localDir isLink)) trace self →
    (∀ taken ∈ trace, Truthful (topPath path subdir) tree taken.1 taken.2) →
    (¬ ∃ event, Truthful (topPath path subdir) tree self event) →
    callsOf id trace = (reached id (fun _ _ _ _ _ => false)
        { path := topPath path subdir, localDir, contents := tree }).flatMap
        (ownCalls fun _ _ _ _ _ => false) ++ [.operationFinished] := by
  intro complete
  let start : RemoteRecursiveOperation Unit := startTransfer id (fun _ _ _ _ _ => false) false
    (queuedRoot directoryD false directoryD [] (wide "/home/") false)
  let listed : RecursiveEvent Unit :=
    .listing (some { path := directoryD, entries := oneFile.entries })
  have run : Run (@recursiveStep Unit id) start [(start, listed)] (respond id start listed).1 :=
    .step .refl rfl
  have calls := complete oneFile directoryD directoryD false false [] (wide "/home/") _ _
    ⟨rfl, by simp [RemoteTree.entries], trivial⟩ rfl run (by
      intro taken member
      cases mem_singleton.mp member
      exact ⟨_, rfl, .inl ⟨_, rfl, [], oneFile, rfl, rfl, rfl⟩⟩) (by
      rintro ⟨event, dir, front, _⟩
      cases front)
  cases congrArg length calls

end RemoteRecursiveOperation

end FileZilla
