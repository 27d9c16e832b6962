import FileZilla.CommonUi.RecursionContainment

namespace FileZilla

open List

namespace RemoteRecursiveOperation

universe u

variable {Time : Type u} {sanitizeFilename : WString → WString}

variable {α : Type u} {front above below : List α} {element : α} {path : CServerPath}
  {name : WString} {dirs rest : List NewDir} {self : RemoteRecursiveOperation Time}
  {root : RecursionRoot}

theorem append_split {rest : List α} (split : front ++ rest = above ++ element :: below) :
    (∃ between, front = above ++ element :: between) ∨
    ∃ between, above = front ++ between ∧ rest = between ++ element :: below := by
  rcases append_eq_append_iff.mp split with ⟨between, same, left⟩ | ⟨between, same, left⟩
  · exact .inr ⟨between, same, left⟩
  · cases between with
    | nil => exact .inr ⟨[], by simpa using same.symm, by simpa using left.symm⟩
    | cons first between =>
      obtain ⟨rfl, _⟩ := cons.inj left
      exact .inl ⟨between, same⟩

theorem append_split_right {rest : List α}
    (absent : element ∉ front) (split : front ++ rest = above ++ element :: below) :
    ∃ between, above = front ++ between ∧ rest = between ++ element :: below := by
  rcases append_split split with ⟨between, rfl⟩ | right
  · exact absurd (mem_append_right _ mem_cons_self) absent
  · exact right

theorem append_split_left {rest : List α}
    (absent : element ∉ rest) (split : front ++ rest = above ++ element :: below) :
    ∃ between, front = above ++ element :: between := by
  rcases append_split split with left | ⟨between, _, rfl⟩
  · exact left
  · exact absurd (mem_append_right _ mem_cons_self) absent

/-! The journal of a run: every event, with the state it found, and then the
commands and calls it caused, one by one. -/

inductive JournalEntry (Time : Type u)
  | received (self : RemoteRecursiveOperation Time) (event : RecursiveEvent Time)
  | issued (output : RecursiveOutput)

abbrev Journal (Time : Type u) := List (JournalEntry Time)

def journalStep (sanitizeFilename : WString → WString)
    (taken : RemoteRecursiveOperation Time × RecursiveEvent Time) : Journal Time :=
  .received taken.1 taken.2 :: (respond sanitizeFilename taken.1 taken.2).2.map .issued

def journal (sanitizeFilename : WString → WString)
    (trace : List (RemoteRecursiveOperation Time × RecursiveEvent Time)) : Journal Time :=
  trace.flatMap (journalStep sanitizeFilename)

/-- A final answer for a directory after which it is not removed: it is no
directory, it is out of bounds, or it has no name. -/
def Dismissed (self : RemoteRecursiveOperation Time) (dir : NewDir) :
    RecursiveEvent Time → Prop
  | .linkIsNotDir _ => True
  | .listing (some listing) =>
    (∃ root ∈ self.recursionRoots.head?,
      (belowRecursionRoot root listing.path dir).1 = false) ∨ dir.subdir = []
  | .listingFailed error =>
    (isCritical error = true ∨ dir.secondTry = true) ∧ dir.subdir = []
  | _ => False

variable (entries : Journal Time)

def Handled (path : CServerPath) (name : WString) : Prop :=
  .issued (.removeDir path name) ∈ entries ∨
    ∃ self event dir, .received self event ∈ entries ∧ frontDir self = some dir ∧
      dir.parent = path ∧ dir.subdir = name ∧ Dismissed self dir event

theorem Handled.left {earlier : Journal Time} (later : Journal Time)
    (handled : Handled earlier path name) :
    Handled (earlier ++ later) path name := by
  rcases handled with removed | ⟨self, event, dir, received, rest⟩
  · exact .inl (mem_append_left _ removed)
  · exact .inr ⟨self, event, dir, mem_append_left _ received, rest⟩

theorem Handled.right {later : Journal Time} (earlier : Journal Time)
    (handled : Handled later path name) :
    Handled (earlier ++ later) path name := by
  rcases handled with removed | ⟨self, event, dir, received, rest⟩
  · exact .inl (mem_append_right _ removed)
  · exact .inr ⟨self, event, dir, mem_append_right _ received, rest⟩

/-- The entries of a directory are dealt with, but for the subdirectories that are
still in front of it. -/
structure CleanedUp (entries : Journal Time) (operation : RemoteRecursiveOperation Time)
    (dir : NewDir) (listing : CDirectoryListing Time) (above : List NewDir) : Prop where
  files : ∀ entry ∈ listing.entries, asFile operation dir listing.path entry = true →
    ∃ files, .issued (.delete listing.path files) ∈ entries ∧ entry.name ∈ files
  subdirs : ∀ entry ∈ listing.entries, entered operation dir listing.path entry = true →
    Handled entries listing.path entry.name ∨
      ∃ other ∈ above, other.parent = listing.path ∧ other.subdir = entry.name ∧
        other.recurse = true

def FirstVisit (self : RemoteRecursiveOperation Time) (path : CServerPath) : Prop :=
  ∃ root ∈ self.recursionRoots.head?, (insertVisited root.visitedDirs path).2 = true

def Settled (above : List NewDir) (path : CServerPath)
    (name : WString) : Prop :=
  ∃ earlier self event dir later,
    entries = earlier ++ .received self event :: later ∧ frontDir self = some dir ∧
    dir.parent = path ∧ dir.subdir = name ∧ self.operationMode = .delete ∧
    ((∃ listing, event = .listing (some listing)) ∨ ∃ error, event = .listingFailed error) ∧
    ∀ listing, event = .listing (some listing) → FirstVisit self listing.path →
      CleanedUp later self dir listing above

theorem Settled.advance {entries : Journal Time} {above after : List NewDir}
    {path : CServerPath} {name : WString} (settled : Settled entries above path name)
    (more : Journal Time) (moved : ∀ other ∈ above, other.recurse = true →
      Handled more other.parent other.subdir ∨
        ∃ next ∈ after, next.parent = other.parent ∧ next.subdir = other.subdir ∧
          next.recurse = true) :
    Settled (entries ++ more) after path name := by
  obtain ⟨earlier, self, event, dir, later, rfl, front, parent, subdir, delete, answer,
    cleaned⟩ := settled
  refine ⟨earlier, self, event, dir, later ++ more, by simp, front, parent, subdir, delete,
    answer, fun listing same first => ?_⟩
  have cleaned := cleaned listing same first
  refine ⟨fun entry member file => ?_, fun entry member into => ?_⟩
  · obtain ⟨files, issued, inFiles⟩ := cleaned.files entry member file
    exact ⟨files, mem_append_left _ issued, inFiles⟩
  · rcases cleaned.subdirs entry member into with handled | ⟨other, inAbove, parent, name, recurse⟩
    · exact .inl (handled.left more)
    · rcases moved other inAbove recurse with handled | ⟨next, inAfter, rest⟩
      · rw [parent, name] at handled
        exact .inl (handled.right later)
      · rw [parent, name] at rest
        exact .inr ⟨next, inAfter, rest⟩

def Stacked (mode : OperationMode) (entries : Journal Time) (dirs : List NewDir) : Prop :=
  ∀ above marker below, dirs = above ++ marker :: below → marker.doVisit = false →
    IsMarker mode marker ∧ Settled entries above marker.parent marker.subdir

theorem stacked_of_unmarked {mode : OperationMode} {entries : Journal Time}
    (fresh : ∀ dir ∈ dirs, dir.doVisit = true) :
    Stacked mode entries dirs := by
  rintro above marker below rfl seen
  rw [fresh marker (by simp)] at seen
  cases seen

theorem Stacked.removed {mode : OperationMode} {entries : Journal Time} {marker : NewDir}
    (stacked : Stacked mode entries (marker :: dirs)) (isMarker : IsMarker mode marker) :
    Settled entries [] marker.parent marker.subdir ∧
    Stacked mode (entries ++ [.issued (.removeDir marker.parent marker.subdir)]) dirs := by
  refine ⟨(stacked [] marker dirs rfl isMarker.2.1).2, ?_⟩
  rintro above other below rfl seen
  obtain ⟨otherMarker, settled⟩ := stacked (marker :: above) other below rfl seen
  refine ⟨otherMarker, settled.advance _ fun item member recurse => ?_⟩
  rcases mem_cons.mp member with rfl | inAbove
  · exact .inl (.inl mem_cons_self)
  · exact .inr ⟨item, inAbove, rfl, rfl, recurse⟩

theorem Stacked.removeMarkers {mode : OperationMode} {entries : Journal Time}
    {markers rest : List NewDir} (stacked : Stacked mode entries (markers ++ rest))
    (all : ∀ marker ∈ markers, IsMarker mode marker) :
    Stacked mode (entries ++ (removeMarkers markers).map .issued) rest ∧
    ∀ earlier path name later, removeMarkers markers = earlier ++ .removeDir path name :: later →
      Settled (entries ++ earlier.map .issued) [] path name := by
  induction markers generalizing entries with
  | nil =>
    refine ⟨by simpa [RemoteRecursiveOperation.removeMarkers] using stacked, ?_⟩
    intro earlier path name later split
    simp [RemoteRecursiveOperation.removeMarkers] at split
  | cons marker markers ih =>
    obtain ⟨settled, below⟩ := stacked.removed (all marker mem_cons_self)
    obtain ⟨rest, removals⟩ := ih below fun other member =>
      all other (mem_cons_of_mem _ member)
    refine ⟨by simpa [RemoteRecursiveOperation.removeMarkers] using rest, ?_⟩
    intro earlier path name later split
    cases earlier with
    | nil =>
      obtain ⟨same, _⟩ := cons.inj split
      cases same
      simpa using settled
    | cons first earlier =>
      obtain ⟨rfl, tail⟩ := cons.inj split
      have below := removals earlier path name later tail
      simpa using below

theorem split_of_visit {pushed above below : List NewDir} {marker : NewDir}
    (visit : ∀ dir ∈ pushed, dir.doVisit = true)
    (split : pushed ++ rest = above ++ marker :: below) (seen : marker.doVisit = false) :
    ∃ between, above = pushed ++ between ∧ rest = between ++ marker :: below := by
  refine append_split_right (fun member => ?_) split
  rw [visit marker member] at seen
  cases seen

theorem Stacked.dismiss {mode : OperationMode} {entries more : Journal Time} {dir : NewDir}
    {rest : List NewDir} (stacked : Stacked mode entries (dir :: rest))
    (handled : dir.recurse = true → mode = .delete → Handled more dir.parent dir.subdir) :
    Stacked mode (entries ++ more) rest := by
  rintro above marker below rfl seen
  obtain ⟨isMarker, settled⟩ := stacked (dir :: above) marker below rfl seen
  refine ⟨isMarker, settled.advance _ fun other member recurse => ?_⟩
  rcases mem_cons.mp member with rfl | inAbove
  · exact .inl (handled recurse isMarker.1)
  · exact .inr ⟨other, inAbove, rfl, rfl, recurse⟩

theorem Stacked.replace {self : RemoteRecursiveOperation Time} {entries later : Journal Time}
    {event : RecursiveEvent Time} {dir next : NewDir} {pushed rest : List NewDir}
    (stacked : Stacked self.operationMode entries (dir :: rest))
    (front : frontDir self = some dir) (visit : dir.doVisit = true)
    (fresh : ∀ other ∈ pushed, other.doVisit = true)
    (same : next = { dir with startDir := next.startDir })
    (answer : (∃ listing, event = .listing (some listing)) ∨
      ∃ error, event = .listingFailed error)
    (unnamed : dir.subdir = [] → Dismissed self dir event)
    (cleaned : ∀ listing, event = .listing (some listing) → FirstVisit self listing.path →
      dir.recurse = true → self.operationMode = .delete →
      CleanedUp later self dir listing pushed) :
    Stacked self.operationMode (entries ++ .received self event :: later)
      (pushed ++ removeLater self.operationMode next rest) := by
  rw [same]
  intro above marker below split seen
  obtain ⟨between, rfl, left⟩ := split_of_visit fresh split seen
  unfold removeLater at left
  split at left
  case isTrue marked =>
    obtain ⟨delete, _, recurse, _⟩ := marked
    cases between with
    | nil =>
      obtain ⟨rfl, _⟩ := cons.inj left
      refine ⟨⟨delete, rfl, recurse⟩, entries, self, event, dir, later, rfl, front, rfl, rfl,
        delete, answer, fun listing isListing first => ?_⟩
      rw [append_nil]
      exact cleaned listing isListing first recurse delete
    | cons first between =>
      obtain ⟨rfl, rest⟩ := cons.inj left
      obtain ⟨isMarker, settled⟩ := stacked (dir :: between) marker below (by rw [rest]; rfl) seen
      refine ⟨isMarker, settled.advance _ fun other member otherRecurse => ?_⟩
      rcases mem_cons.mp member with rfl | inAbove
      · exact .inr ⟨{ other with startDir := next.startDir, doVisit := false }, by simp, rfl,
          rfl, otherRecurse⟩
      · exact .inr ⟨other, by simp [inAbove], rfl, rfl, otherRecurse⟩
  case isFalse unmarked =>
    have kept := @Stacked.dismiss _ _ entries (.received self event :: later) dir rest stacked
      fun recurse delete => by
        have noName : dir.subdir = [] := by
          by_contra named
          exact unmarked ⟨delete, visit, recurse, by simpa using named⟩
        exact .inr ⟨self, event, dir, mem_cons_self, front, rfl, rfl, unnamed noName⟩
    obtain ⟨isMarker, settled⟩ := kept between marker below left seen
    refine ⟨isMarker, ?_⟩
    have weaker := @Settled.advance _ _ _ (pushed ++ between) _ _ settled []
      fun other member recurse =>
        .inr ⟨other, mem_append_right _ member, rfl, rfl, recurse⟩
    rwa [append_nil] at weaker

theorem belowRecursionRoot_startDir (root : RecursionRoot) (path : CServerPath) (dir : NewDir) :
    (belowRecursionRoot root path dir).2 =
      { dir with startDir := (belowRecursionRoot root path dir).2.startDir } := by
  obtain ⟨startDir, same⟩ := belowRecursionRoot_same root path dir
  rw [same]

theorem not_firstVisit (front : self.recursionRoots.head? = some root)
    (seen : (insertVisited root.visitedDirs path).2 = false) : ¬ FirstVisit self path := by
  rintro ⟨other, here, fresh⟩
  cases front.symm.trans here
  rw [seen] at fresh
  cases fresh

theorem cleanedUp_entries {dir next : NewDir}
    {listing : CDirectoryListing Time} (more : List RecursiveOutput)
    (recurse : dir.recurse = true) (delete : self.operationMode = .delete) :
    CleanedUp ((listing.entries.reverse.flatMap (entryOutputs self dir listing.path) ++
        deleteFiles self dir listing ++ more).map .issued) self dir listing
      ((listing.entries.filter fun entry =>
        entered self dir listing.path entry && dir.recurse).map
        (entryDir sanitizeFilename self.operationMode listing.path next)) where
  files entry member file := by
    let files :=
      ((listing.entries.filter (asFile self dir listing.path)).map CDirentry.name).reverse
    have inFiles : entry.name ∈ files :=
      mem_reverse.mpr (mem_map_of_mem (mem_filter.mpr ⟨member, file⟩))
    refine ⟨files, mem_map_of_mem (mem_append_left _ (mem_append_right _ ?_)),
      inFiles⟩
    have filled : (!files.isEmpty) = true := by
      cases empty : files with
      | nil =>
        rw [empty] at inFiles
        cases inFiles
      | cons => rfl
    dsimp only [deleteFiles]
    rw [if_pos ⟨delete, filled⟩]
    exact mem_cons_self
  subdirs entry member into := by
    have notLink : entry.isLink = false := by
      cases link : entry.isLink with
      | false => rfl
      | true => simp [entered, link, delete] at into
    refine .inr ⟨entryDir sanitizeFilename self.operationMode listing.path next entry,
      mem_map_of_mem (mem_filter.mpr ⟨member, by simp [into, recurse]⟩), rfl, rfl, ?_⟩
    simp [entryDir, notLink]

theorem Turn.stacked {self : RemoteRecursiveOperation Time} {root : RecursionRoot}
    {dir : NewDir} {rest dirs : List NewDir} {event : RecursiveEvent Time}
    {outputs : List RecursiveOutput} {visited : List CServerPath} {entries : Journal Time}
    (turn : Turn sanitizeFilename self root dir rest event outputs dirs visited)
    (front : self.recursionRoots.head? = some root)
    (next : root.dirsToVisit = dir :: rest) (visit : dir.doVisit = true)
    (stacked : Stacked self.operationMode entries (dir :: rest)) :
    Stacked self.operationMode (entries ++ .received self event :: outputs.map .issued)
      dirs := by
  have first : frontDir self = some dir := by simp [frontDir, front, next]
  cases turn with
  | rejected _ outside =>
    refine stacked.dismiss fun _ _ => .inr ⟨self, _, dir, mem_cons_self, first, rfl, rfl, ?_⟩
    exact .inl ⟨root, front, outside⟩
  | @lookedAt listing _ below looked =>
    refine @Stacked.replace _ self entries [] _ dir _ [] rest stacked first visit (by simp)
      (belowRecursionRoot_startDir _ _ _) (.inl ⟨_, rfl⟩) .inr ?_
    rintro _ ⟨⟩ isFirst recurse _
    rcases looked with ⟨_, flat⟩ | seen
    · rw [recurse] at flat
      cases flat
    · exact absurd isFirst (not_firstVisit front seen)
  | empty _ _ _ _ transfer =>
    refine stacked.dismiss fun _ delete => ?_
    rw [transfer] at delete
    cases delete
  | @entries listing _ below _ _ =>
    refine @Stacked.replace _ self entries _ _ dir _ _ rest stacked first visit ?_
      (belowRecursionRoot_startDir _ _ _) (.inl ⟨_, rfl⟩) .inr ?_
    · intro other member
      obtain ⟨entry, _, rfl⟩ := mem_map.mp member
      rfl
    · rintro _ ⟨⟩ _ recurse delete
      exact cleanedUp_entries [.handleDirListingEnd] recurse delete
  | retry =>
    rintro above marker below split seen
    cases above with
    | nil =>
      obtain ⟨rfl, _⟩ := cons.inj split
      rw [visit] at seen
      cases seen
    | cons again above =>
      obtain ⟨rfl, rfl⟩ := cons.inj split
      obtain ⟨isMarker, settled⟩ := stacked (dir :: above) marker below rfl seen
      refine ⟨isMarker, settled.advance _ fun other member recurse => ?_⟩
      rcases mem_cons.mp member with rfl | inAbove
      · exact .inr ⟨_, mem_cons_self, rfl, rfl, recurse⟩
      · exact .inr ⟨other, mem_cons_of_mem _ inAbove, rfl, rfl, recurse⟩
  | failed _ final =>
    refine @Stacked.replace _ self entries _ _ dir dir [] rest stacked first visit (by simp)
      rfl (.inr ⟨_, rfl⟩) (fun unnamed => ⟨final, unnamed⟩) ?_
    rintro _ ⟨⟩
  | notDirectory =>
    exact stacked.dismiss fun _ _ =>
      .inr ⟨self, _, dir, mem_cons_self, first, rfl, rfl, trivial⟩

def FrontStacked (self : RemoteRecursiveOperation Time) : Prop :=
  ∀ root ∈ self.recursionRoots.head?, Stacked self.operationMode entries root.dirsToVisit

def RemovalsSettled (outputs : List RecursiveOutput) : Prop :=
  ∀ earlier path name later, outputs = earlier ++ .removeDir path name :: later →
    Settled (entries ++ earlier.map .issued) [] path name

theorem Stacked.more {mode : OperationMode} {entries : Journal Time} {dirs : List NewDir}
    (stacked : Stacked mode entries dirs) (more : Journal Time) :
    Stacked mode (entries ++ more) dirs := by
  intro above marker below split seen
  obtain ⟨isMarker, settled⟩ := stacked above marker below split seen
  exact ⟨isMarker, settled.advance more fun other member recurse =>
    .inr ⟨other, member, rfl, rfl, recurse⟩⟩

theorem Next.no_removal {after : RemoteRecursiveOperation Time}
    {roots : List RecursionRoot} {outputs : List RecursiveOutput}
    (next : Next self root roots rest after outputs) (path : CServerPath) (name : WString) :
    .removeDir path name ∉ outputs := by
  intro member
  have concerns := next.containing_none member
  cases concerns

theorem nextOperation_stacked {self : RemoteRecursiveOperation Time} {root : RecursionRoot}
    {roots : List RecursionRoot} {entries : Journal Time}
    (active : self.operationMode ≠ .none) (front : self.recursionRoots = root :: roots)
    (unmarked : ∀ other ∈ roots, Unmarked other)
    (stacked : Stacked self.operationMode entries root.dirsToVisit) :
    FrontStacked (entries ++ (nextOperation self).2.map .issued) (nextOperation self).1 ∧
    RemovalsSettled entries (nextOperation self).2 := by
  obtain ⟨markers, rest, outputs, split, all, same, next⟩ :=
    nextOperation_eq active front unmarked
  rw [split] at stacked
  obtain ⟨left, removals⟩ := stacked.removeMarkers all
  refine ⟨?_, fun earlier path name later whole => ?_⟩
  · rw [same, map_append, ← append_assoc]
    have left := left.more (outputs.map .issued)
    intro other first
    generalize (nextOperation self).1 = after at next first
    cases next with
    | here =>
      cases first
      exact left
    | later suffix =>
      cases first
      exact stacked_of_unmarked (unmarked _ (suffix.subset mem_cons_self))
    | finished => cases first
  · rw [same] at whole
    obtain ⟨between, only⟩ := append_split_left (next.no_removal path name) whole
    exact removals earlier path name between only

theorem Turn.no_removal {dir : NewDir} {event : RecursiveEvent Time}
    {outputs : List RecursiveOutput} {visited : List CServerPath}
    (turn : Turn sanitizeFilename self root dir rest event outputs dirs visited)
    (path : CServerPath) (name : WString) : .removeDir path name ∉ outputs := by
  cases turn with
  | rejected => simp
  | lookedAt => simp
  | empty => simp
  | entries =>
    intro member
    rcases mem_append.mp member with made | last
    · rcases mem_append.mp made with direct | deleted
      · obtain ⟨entry, _, inEntry⟩ := mem_flatMap.mp direct
        rcases mem_entryOutputs inEntry with same | ⟨permissions, same⟩ <;> cases same
      · dsimp only [deleteFiles] at deleted
        split at deleted <;> simp at deleted
    · simp at last
  | retry => simp
  | failed => split <;> simp
  | notDirectory about =>
    intro member
    rcases about _ member with same | ⟨localPath, same⟩ <;> cases same

theorem removalsSettled_nil : RemovalsSettled entries [] := by
  intro earlier path name later split
  simp at split

theorem Response.stacked {self after : RemoteRecursiveOperation Time}
    {event : RecursiveEvent Time} {outputs : List RecursiveOutput} {entries : Journal Time}
    (response : Response sanitizeFilename self event after outputs) (lined : Lined self)
    (fromUser : FromUser event) (stacked : FrontStacked entries self) :
    FrontStacked (entries ++ .received self event :: outputs.map .issued) after ∧
    RemovalsSettled (entries ++ [.received self event]) outputs := by
  cases response with
  | @added root =>
    refine ⟨?_, removalsSettled_nil _⟩
    obtain ⟨roots, mode⟩ := addRecursionRoot_roots self root
    intro other first
    rw [mode]
    rcases roots with same | more
    · rw [same] at first
      exact (stacked other first).more _
    · rw [more] at first
      cases front : self.recursionRoots with
      | nil =>
        rw [front] at first
        cases first
        exact stacked_of_unmarked fromUser.fresh
      | cons root rest =>
        rw [front] at first
        cases first
        exact (stacked other (by rw [front]; rfl)).more _
  | quiet mode roots =>
    refine ⟨fun root first => ?_, removalsSettled_nil _⟩
    rw [mode]
    rw [roots] at first
    exact (stacked root first).more _
  | stopped mode roots =>
    refine ⟨fun root first => ?_, removalsSettled_nil _⟩
    rw [roots] at first
    cases first
  | @started mode filters refresh started idle startedMode _ roots some =>
    have fresh := lined.idle idle
    by_cases none : mode = .none
    case pos =>
      rw [nextOperation, if_pos (startedMode.trans none)]
      refine ⟨fun root first => ?_, removalsSettled_nil _⟩
      rw [roots] at first
      exact stacked_of_unmarked (fresh root (mem_of_head? first))
    case neg =>
      cases first : self.recursionRoots with
      | nil => exact absurd first some
      | cons root rest =>
        rw [first] at fresh
        have result := @nextOperation_stacked _ started root rest
          (entries ++ [.received self (.start mode filters refresh)]) (startedMode ▸ none)
          (roots.trans first) (fun other member => fresh other (mem_cons_of_mem _ member))
          (stacked_of_unmarked (fresh root mem_cons_self))
        simpa using result
  | @turn _ root roots dir rest dirs outputs visited middle active front next turn mode _ _
      middleRoots =>
      have first : self.recursionRoots.head? = some root := by rw [front]; rfl
      have unmarked (other : RecursionRoot) (member : other ∈ roots) : Unmarked other :=
        lined.later other (by rw [front]; exact member)
      have dirsStacked := stacked root first
      have visit : dir.doVisit = true := by
        by_contra seen
        have isMarker := (dirsStacked [] dir rest next (by simpa using seen)).1
        exact lined.listing active root first dir (by rw [next]; rfl) isMarker
      rw [next] at dirsStacked
      have turned := turn.stacked first next visit dirsStacked
      rw [← mode] at turned
      obtain ⟨left, removals⟩ := nextOperation_stacked (mode ▸ active) middleRoots unmarked turned
      refine ⟨by simpa using left, fun earlier path name later whole => ?_⟩
      obtain ⟨between, rfl, only⟩ := append_split_right (turn.no_removal path name) whole
      simpa using removals between path name later only

theorem ordered_run {trace : List (RemoteRecursiveOperation Time × RecursiveEvent Time)}
    (run : Run (recursiveStep sanitizeFilename) {} trace self)
    (fromUser : ∀ taken ∈ trace, FromUser taken.2) :
    Lined self ∧ FrontStacked (journal sanitizeFilename trace) self := by
  refine @Run.trace_invariant_of_forall _ _ _ _ _ _
    (fun trace (self : RemoteRecursiveOperation Time) =>
      Lined self ∧ FrontStacked (journal sanitizeFilename trace) self)
    (fun _ event => FromUser event) ?_ ?_ run fromUser
  · refine ⟨⟨by simp, by simp, by simp⟩, ?_⟩
    intro root first
    cases first
  · rintro trace self event _ ⟨lined, stacked⟩ fromUser ⟨⟩
    have response := @respond_cases _ sanitizeFilename self event
    refine ⟨lined.respond fromUser response, ?_⟩
    have after := (response.stacked lined fromUser stacked).1
    simpa [journal, journalStep] using after

theorem journal_split {trace : List (RemoteRecursiveOperation Time × RecursiveEvent Time)}
    {before after : Journal Time} {output : RecursiveOutput}
    (split : journal sanitizeFilename trace = before ++ .issued output :: after) :
    ∃ earlier taken later first rest, trace = earlier ++ taken :: later ∧
      (respond sanitizeFilename taken.1 taken.2).2 = first ++ output :: rest ∧
      before = journal sanitizeFilename earlier ++
        .received taken.1 taken.2 :: first.map .issued := by
  induction trace generalizing before with
  | nil => simp [journal] at split
  | cons taken trace ih =>
    unfold journal at split
    rw [flatMap_cons] at split
    rcases append_split split with ⟨between, here⟩ | ⟨between, rfl, later⟩
    · cases before with
      | nil => cases (cons.inj here).1
      | cons first before =>
        obtain ⟨rfl, outputs⟩ := cons.inj here
        obtain ⟨issued, more, whole, rfl, rest⟩ := map_eq_append_iff.mp outputs
        obtain ⟨next, others, rfl, same, _⟩ := map_eq_cons_iff.mp rest
        cases same
        exact ⟨[], taken, trace, issued, others, rfl, whole, rfl⟩
    · obtain ⟨earlier, next, others, first, rest, rfl, whole, rfl⟩ := ih later
      exact ⟨taken :: earlier, next, others, first, rest, rfl, whole, by simp [journal]⟩

/-- Before the remove command for a directory it was answered, and if that was with
a listing of a new path, then since that answer every file it showed was deleted and
every subdirectory was handled, as far as the filters let them pass. -/
def ContentsFirst (before : Journal Time) (path : CServerPath) (name : WString) : Prop :=
  ∃ earlier self event dir later,
    before = earlier ++ .received self event :: later ∧ frontDir self = some dir ∧
    dir.parent = path ∧ dir.subdir = name ∧
    ((∃ listing, event = .listing (some listing)) ∨ ∃ error, event = .listingFailed error) ∧
    ∀ listing, event = .listing (some listing) → FirstVisit self listing.path →
      ∀ entry ∈ listing.entries, skipped self.filters dir listing.path.getPath entry = false →
        (entry.isDir = true → entry.isLink = false → Handled later listing.path entry.name) ∧
        (entry.isDir = false ∨ entry.isLink = true →
          ∃ files, .issued (.delete listing.path files) ∈ later ∧ entry.name ∈ files)

theorem Settled.contentsFirst {before : Journal Time}
    (settled : Settled before [] path name) : ContentsFirst before path name := by
  obtain ⟨earlier, self, event, dir, later, split, front, parent, subdir, delete, answer,
    cleaned⟩ := settled
  refine ⟨earlier, self, event, dir, later, split, front, parent, subdir, answer,
    fun listing same first entry member shown => ⟨fun isDir notLink => ?_, fun file => ?_⟩⟩
  · have into : entered self dir listing.path entry = true := by
      simp [entered, shown, isDir, notLink]
    rcases (cleaned listing same first).subdirs entry member into with handled | ⟨_, inNil, _⟩
    · exact handled
    · cases inNil
  · refine (cleaned listing same first).files entry member ?_
    rcases file with isFile | isLink
    · simp [asFile, shown, isFile]
    · simp [asFile, shown, isLink, delete]

def rootDirectory : CServerPath :=
  { data := some { segments := [], pathPrefix := none }, type := .unix }

def oneSubdir : CDirectoryListing Unit :=
  { path := { data := some { segments := [wide "d"], pathPrefix := none }, type := .unix }
    entries := [{ name := wide "s", isDir := true }] }

def rootOfOne : RecursionRoot :=
  RecursionRoot.addDirToVisit { remoteStartDir := rootDirectory, allowParent := false }
    rootDirectory (wide "d")

def deletion (filters : ActiveFilters Unit) : List (RecursiveEvent Unit) :=
  [.addRecursionRoot rootOfOne, .start .delete filters false, .listing (some oneSubdir)]

theorem deletion_fromUser {filters : ActiveFilters Unit} {event : RecursiveEvent Unit}
    (member : event ∈ deletion filters) : FromUser event := by
  simp only [deletion, mem_cons, not_mem_nil, or_false] at member
  rcases member with rfl | rfl | rfl
  · refine ⟨rfl, ?_, ?_, ?_⟩ <;> intro dir inRoot <;> cases mem_singleton.mp inRoot
    · rfl
    · rfl
    · exact .inl rfl
  · trivial
  · trivial

end RemoteRecursiveOperation

end FileZilla
