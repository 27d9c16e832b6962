import FileZilla.CommonUi.RemoteRecursiveOperation

namespace FileZilla

open List

namespace RemoteRecursiveOperation

universe u

variable {Time : Type u} {sanitizeFilename : WString → WString}
  (self : RemoteRecursiveOperation Time)

def entered (dir : NewDir) (path : CServerPath)
    (entry : CDirentry Time) : Bool :=
  !skipped self.filters dir path.getPath entry &&
    (entry.isDir && (!entry.isLink || self.operationMode ≠ .delete))

def asFile (dir : NewDir) (path : CServerPath)
    (entry : CDirentry Time) : Bool :=
  !skipped self.filters dir path.getPath entry &&
    !(entry.isDir && (!entry.isLink || self.operationMode ≠ .delete))

def entryOutputs (dir : NewDir)
    (path : CServerPath) (entry : CDirentry Time) : List RecursiveOutput :=
  if skipped self.filters dir path.getPath entry then
    []
  else
    (if asFile self dir path entry ∧
        (self.operationMode = .transfer ∨ self.operationMode = .transferFlatten) then
      [.handleFile entry.name dir.localDir path entry.size]
    else
      []) ++ chmodEntry self.operationMode self.chmodData path entry

variable (self : RemoteRecursiveOperation Time) (dir : NewDir) (path : CServerPath)
  (progress : EntriesProgress) (entry : CDirentry Time) (entries : List (CDirentry Time))
  (start : EntriesProgress)

theorem processEntry_dirsToVisit :
    (processEntry sanitizeFilename self path dir progress entry).dirsToVisit =
      if entered self dir path entry && dir.recurse then
        entryDir sanitizeFilename self.operationMode path dir entry :: progress.dirsToVisit
      else
        progress.dirsToVisit := by
  unfold processEntry entered
  generalize skipped self.filters dir path.getPath entry = hidden
  generalize (entry.isDir && (!entry.isLink || decide (self.operationMode ≠ .delete))) = into
  cases hidden with
  | true => rfl
  | false =>
    cases into with
    | true => cases dir.recurse <;> rfl
    | false => cases self.operationMode <;> rfl

theorem processEntry_filesToDelete :
    (processEntry sanitizeFilename self path dir progress entry).filesToDelete =
      if asFile self dir path entry ∧ self.operationMode = .delete then
        progress.filesToDelete ++ [entry.name]
      else
        progress.filesToDelete := by
  unfold processEntry asFile
  generalize skipped self.filters dir path.getPath entry = hidden
  generalize (entry.isDir && (!entry.isLink || decide (self.operationMode ≠ .delete))) = into
  cases hidden with
  | true => simp
  | false =>
    cases into with
    | true => cases dir.recurse <;> simp
    | false => cases self.operationMode <;> rfl

theorem processEntry_outputs :
    (processEntry sanitizeFilename self path dir progress entry).outputs =
      progress.outputs ++ entryOutputs self dir path entry := by
  unfold processEntry entryOutputs asFile
  generalize skipped self.filters dir path.getPath entry = hidden
  generalize (entry.isDir && (!entry.isLink || decide (self.operationMode ≠ .delete))) = into
  cases hidden with
  | true => simp
  | false =>
    cases into with
    | true => cases dir.recurse <;> rfl
    | false => cases self.operationMode <;> simp

theorem foldr_dirsToVisit :
    (entries.foldr (fun entry progress =>
        processEntry sanitizeFilename self path dir progress entry) start).dirsToVisit =
      (entries.filter fun entry => entered self dir path entry && dir.recurse).map
        (entryDir sanitizeFilename self.operationMode path dir) ++ start.dirsToVisit := by
  induction entries with
  | nil => rfl
  | cons entry entries ih =>
    rw [foldr_cons, processEntry_dirsToVisit, ih, filter_cons]
    split <;> rfl

theorem foldr_filesToDelete (delete : self.operationMode = .delete) :
    (entries.foldr (fun entry progress =>
        processEntry sanitizeFilename self path dir progress entry) start).filesToDelete =
      start.filesToDelete ++
        ((entries.filter (asFile self dir path)).map CDirentry.name).reverse := by
  induction entries with
  | nil => simp
  | cons entry entries ih =>
    rw [foldr_cons, processEntry_filesToDelete, ih, filter_cons]
    by_cases file : asFile self dir path entry
    case pos => simp [file, delete]
    case neg => simp [file]

theorem foldr_outputs :
    (entries.foldr (fun entry progress =>
        processEntry sanitizeFilename self path dir progress entry) start).outputs =
      start.outputs ++ entries.reverse.flatMap (entryOutputs self dir path) := by
  induction entries with
  | nil => simp
  | cons entry entries ih =>
    rw [foldr_cons, processEntry_outputs, ih, reverse_cons, flatMap_append,
      flatMap_singleton, append_assoc]

def deleteFiles (self : RemoteRecursiveOperation Time) (dir : NewDir)
    (listing : CDirectoryListing Time) : List RecursiveOutput :=
  let files :=
    ((listing.entries.filter (asFile self dir listing.path)).map CDirentry.name).reverse
  if self.operationMode = .delete ∧ !files.isEmpty then [.delete listing.path files] else []

theorem processEntries_dirsToVisit (self : RemoteRecursiveOperation Time)
    (listing : CDirectoryListing Time) (dirs : List NewDir) (dir : NewDir) :
    (processEntries sanitizeFilename self listing dirs dir).dirsToVisit =
      (listing.entries.filter fun entry =>
        entered self dir listing.path entry && dir.recurse).map
          (entryDir sanitizeFilename self.operationMode listing.path dir) ++ dirs := by
  dsimp only [processEntries]
  rw [foldl_reverse]
  split <;> exact foldr_dirsToVisit _ _ _ _ _

theorem processEntries_outputs
    (listing : CDirectoryListing Time) (dirs : List NewDir) (dir : NewDir) :
    (processEntries sanitizeFilename self listing dirs dir).outputs =
      listing.entries.reverse.flatMap (entryOutputs self dir listing.path) ++
        deleteFiles self dir listing := by
  dsimp only [processEntries, deleteFiles]
  rw [foldl_reverse]
  by_cases delete : self.operationMode = .delete
  case pos =>
    rw [foldr_filesToDelete self dir _ _ _ delete]
    split
    case isTrue some => rw [foldr_outputs, if_pos (by simpa using some)]; rfl
    case isFalse none => rw [foldr_outputs, if_neg (by simpa using none)]; simp
  case neg =>
    rw [if_neg (by simp [delete]), if_neg (by simp [delete]), foldr_outputs]
    simp

def frontDir (self : RemoteRecursiveOperation Time) : Option NewDir :=
  self.recursionRoots.head?.bind (·.dirsToVisit.head?)

def IsMarker (mode : OperationMode) (dir : NewDir) : Prop :=
  mode = .delete ∧ dir.doVisit = false ∧ dir.recurse = true

theorem nextDir_eq (mode : OperationMode) (refresh : Bool) (dirs : List NewDir) :
    ∃ markers rest, dirs = markers ++ rest ∧ (∀ marker ∈ markers, IsMarker mode marker) ∧
      (nextDir mode refresh dirs).1 = rest ∧
      (∀ dir ∈ rest.head?, ¬ IsMarker mode dir) ∧
      (nextDir mode refresh dirs).2 =
        (markers.map fun marker => .removeDir marker.parent marker.subdir) ++
          rest.head?.toList.map fun dir =>
            .list dir.parent dir.subdir refresh (dir.link ≠ .notLink) := by
  induction dirs with
  | nil => exact ⟨[], [], rfl, by simp, rfl, by simp, rfl⟩
  | cons dir dirs ih =>
    dsimp only [nextDir]
    split
    case isTrue marker =>
      obtain ⟨markers, rest, split, all, first, head, outputs⟩ := ih
      refine ⟨dir :: markers, rest, by rw [split]; rfl, ?_, first, head, ?_⟩
      · simp only [mem_cons, forall_eq_or_imp]
        exact ⟨⟨marker.1, by simpa using marker.2.1, marker.2.2⟩, all⟩
      · rw [outputs]
        rfl
    case isFalse listed =>
      refine ⟨[], dir :: dirs, rfl, by simp, rfl, ?_, rfl⟩
      rintro _ ⟨⟩ ⟨delete, seen, recurse⟩
      exact listed ⟨delete, by simp [seen], recurse⟩

/-- Nothing that is queued is to be removed yet. -/
def Unmarked (root : RecursionRoot) : Prop :=
  ∀ dir ∈ root.dirsToVisit, dir.doVisit = true

theorem Unmarked.not_marker {root : RecursionRoot} (unmarked : Unmarked root)
    {mode : OperationMode} {dir : NewDir} (member : dir ∈ root.dirsToVisit) :
    ¬ IsMarker mode dir := by
  rintro ⟨_, seen, _⟩
  rw [unmarked dir member] at seen
  cases seen

def listDir (refresh : Bool) (dir : NewDir) : RecursiveOutput :=
  .list dir.parent dir.subdir refresh (dir.link ≠ .notLink)

def removeMarkers (markers : List NewDir) : List RecursiveOutput :=
  markers.map fun marker => .removeDir marker.parent marker.subdir

theorem nextRoot_unmarked (mode : OperationMode) (refresh : Bool)
    {roots : List RecursionRoot} (unmarked : ∀ root ∈ roots, Unmarked root) :
    nextRoot mode refresh roots = (roots.dropWhile (·.dirsToVisit.isEmpty),
        ((roots.dropWhile (·.dirsToVisit.isEmpty)).head?.bind
          (·.dirsToVisit.head?)).toList.map (listDir refresh)) := by
  induction roots with
  | nil => rfl
  | cons root roots ih =>
    have later := ih fun other member => unmarked other (mem_cons_of_mem _ member)
    dsimp only [nextRoot]
    cases dirs : root.dirsToVisit with
    | nil =>
      simp only [nextDir, dirs, isEmpty_nil, if_true, later, nil_append,
        dropWhile_cons]
    | cons dir rest =>
      have seen : dir.doVisit = true :=
        unmarked root mem_cons_self dir (dirs ▸ mem_cons_self)
      simp [nextDir, seen, dirs, listDir]
      rw [← dirs]

/-- What `NextOperation` leaves of the roots and what it issues after the removals. -/
inductive Next (self : RemoteRecursiveOperation Time) (root : RecursionRoot)
    (roots : List RecursionRoot) :
    List NewDir → RemoteRecursiveOperation Time → List RecursiveOutput → Prop
  | here {dir : NewDir} {rest : List NewDir} :
      ¬ IsMarker self.operationMode dir → Next self root roots (dir :: rest)
        { self with recursionRoots := { root with dirsToVisit := dir :: rest } :: roots }
        [listDir self.refresh dir]
  | later {next : RecursionRoot} {others : List RecursionRoot} {dir : NewDir}
      {rest : List NewDir} :
      next :: others <:+ roots → next.dirsToVisit = dir :: rest →
      Next self root roots [] { self with recursionRoots := next :: others }
        [listDir self.refresh dir]
  | finished :
      (∀ next ∈ roots, next.dirsToVisit = []) →
      Next self root roots [] self.stopRecursiveOperation [.operationFinished]

theorem nextOperation_eq {self : RemoteRecursiveOperation Time} {root : RecursionRoot}
    {roots : List RecursionRoot} (active : self.operationMode ≠ .none)
    (here : self.recursionRoots = root :: roots) (unmarked : ∀ other ∈ roots, Unmarked other) :
    ∃ markers rest outputs, root.dirsToVisit = markers ++ rest ∧
      (∀ marker ∈ markers, IsMarker self.operationMode marker) ∧
      (nextOperation self).2 = removeMarkers markers ++ outputs ∧
      Next self root roots rest (nextOperation self).1 outputs := by
  obtain ⟨markers, rest, split, all, first, head, outputs⟩ :=
    nextDir_eq self.operationMode self.refresh root.dirsToVisit
  refine ⟨markers, rest, ?_⟩
  unfold nextOperation
  rw [if_neg active, here]
  dsimp only [nextRoot]
  rw [first, outputs, nextRoot_unmarked _ _ unmarked]
  cases rest with
  | cons dir rest =>
    exact ⟨_, split, all, rfl, .here (head dir rfl)⟩
  | nil =>
    cases later : roots.dropWhile (·.dirsToVisit.isEmpty) with
    | nil =>
      refine ⟨[.operationFinished], split, all, by simp [removeMarkers], .finished ?_⟩
      intro next member
      simpa using dropWhile_eq_nil_iff.mp later next member
    | cons next others =>
      have suffix : next :: others <:+ roots := later ▸ dropWhile_suffix _
      have filled := head?_dropWhile_not (·.dirsToVisit.isEmpty) roots
      rw [later] at filled
      cases dirs : next.dirsToVisit with
      | nil => simp [dirs] at filled
      | cons dir rest =>
        refine ⟨[listDir self.refresh dir], split, all, ?_, ?_⟩
        · simp [removeMarkers, dirs]
        · exact .later suffix dirs

/-! What an answer to the list command for the front directory does before the
next operation: its outputs, the directories left and the paths visited. -/

/-- A link that was found is only looked at. -/
def lookedAt (root : RecursionRoot) (dir : NewDir) (path : CServerPath) : Prop :=
  (dir.link ≠ .notLink ∧ dir.recurse = false) ∨ (insertVisited root.visitedDirs path).2 = false

inductive Turn (sanitizeFilename : WString → WString)
    (self : RemoteRecursiveOperation Time) (root : RecursionRoot) (dir : NewDir)
    (rest : List NewDir) :
    RecursiveEvent Time → List RecursiveOutput → List NewDir → List CServerPath → Prop
  | rejected {listing : CDirectoryListing Time} :
      listing.failed = false → (belowRecursionRoot root listing.path dir).1 = false →
      Turn sanitizeFilename self root dir rest (.listing (some listing)) [] rest root.visitedDirs
  | lookedAt {listing : CDirectoryListing Time} :
      listing.failed = false → (belowRecursionRoot root listing.path dir).1 = true →
      lookedAt root dir listing.path →
      Turn sanitizeFilename self root dir rest (.listing (some listing)) []
        (removeLater self.operationMode (belowRecursionRoot root listing.path dir).2 rest)
        root.visitedDirs
  | empty {listing : CDirectoryListing Time} :
      listing.failed = false → (belowRecursionRoot root listing.path dir).1 = true →
      ¬ lookedAt root dir listing.path → listing.entries = [] → self.operationMode = .transfer →
      Turn sanitizeFilename self root dir rest (.listing (some listing))
        [.handleEmptyDirectory dir.localDir, .handleDirListingEnd] rest
        (insertVisited root.visitedDirs listing.path).1
  | entries {listing : CDirectoryListing Time} :
      listing.failed = false → (belowRecursionRoot root listing.path dir).1 = true →
      ¬ lookedAt root dir listing.path →
      ¬ (listing.entries = [] ∧ self.operationMode = .transfer) →
      Turn sanitizeFilename self root dir rest (.listing (some listing))
        (listing.entries.reverse.flatMap (entryOutputs self dir listing.path) ++
          deleteFiles self dir listing ++ [.handleDirListingEnd])
        ((listing.entries.filter fun entry =>
            entered self dir listing.path entry && dir.recurse).map
            (entryDir sanitizeFilename self.operationMode listing.path
              (belowRecursionRoot root listing.path dir).2) ++
          removeLater self.operationMode (belowRecursionRoot root listing.path dir).2 rest)
        (insertVisited root.visitedDirs listing.path).1
  | retry {error : Nat} :
      isCanceled error = false → isCritical error = false → dir.secondTry = false →
      Turn sanitizeFilename self root dir rest (.listingFailed error) []
        ({ dir with secondTry := true } :: rest) root.visitedDirs
  | failed {error : Nat} :
      isCanceled error = false → (isCritical error = true ∨ dir.secondTry = true) →
      Turn sanitizeFilename self root dir rest (.listingFailed error)
        (if self.operationMode = .list then [.handleListingFailed] else [])
        (removeLater self.operationMode dir rest) root.visitedDirs
  | notDirectory {site : Bool} {outputs : List RecursiveOutput} :
      (∀ output ∈ outputs, output = .delete dir.parent [dir.subdir] ∨
        ∃ localPath, output = .handleInvalidDirLink dir.subdir localPath dir.parent) →
      Turn sanitizeFilename self root dir rest (.linkIsNotDir site) outputs rest root.visitedDirs

inductive Response (sanitizeFilename : WString → WString) (self : RemoteRecursiveOperation Time) :
    RecursiveEvent Time → RemoteRecursiveOperation Time → List RecursiveOutput → Prop
  | added {root : RecursionRoot} :
      Response sanitizeFilename self (.addRecursionRoot root) (self.addRecursionRoot root) []
  | quiet {event : RecursiveEvent Time} {after : RemoteRecursiveOperation Time} :
      after.operationMode = self.operationMode → after.recursionRoots = self.recursionRoots →
      Response sanitizeFilename self event after []
  | stopped {event : RecursiveEvent Time} {after : RemoteRecursiveOperation Time} :
      after.operationMode = .none → after.recursionRoots = [] →
      Response sanitizeFilename self event after []
  | started {mode : OperationMode} {filters : ActiveFilters Time} {refresh : Bool}
      {started : RemoteRecursiveOperation Time} :
      self.operationMode = .none → started.operationMode = mode →
      started.filters = filters → started.recursionRoots = self.recursionRoots →
      self.recursionRoots ≠ [] →
      Response sanitizeFilename self (.start mode filters refresh) (nextOperation started).1
        (nextOperation started).2
  | turn {event : RecursiveEvent Time} {root : RecursionRoot} {roots : List RecursionRoot}
      {dir : NewDir} {rest dirs : List NewDir} {outputs : List RecursiveOutput}
      {visited : List CServerPath} {middle : RemoteRecursiveOperation Time} :
      self.operationMode ≠ .none → self.recursionRoots = root :: roots →
      root.dirsToVisit = dir :: rest →
      Turn sanitizeFilename self root dir rest event outputs dirs visited →
      middle.operationMode = self.operationMode → middle.filters = self.filters →
      middle.refresh = self.refresh → middle.recursionRoots =
        { root with visitedDirs := visited, dirsToVisit := dirs } :: roots →
      Response sanitizeFilename self event (nextOperation middle).1
        (outputs ++ (nextOperation middle).2)

theorem belowRecursionRoot_same (root : RecursionRoot) (path : CServerPath) (dir : NewDir) :
    ∃ startDir, (belowRecursionRoot root path dir).2 = { dir with startDir } := by
  unfold belowRecursionRoot
  split
  case isTrue => exact ⟨dir.startDir, rfl⟩
  case isFalse =>
    split
    case isTrue => exact ⟨dir.startDir, rfl⟩
    case isFalse =>
      split
      case isTrue => exact ⟨dir.startDir, rfl⟩
      case isFalse =>
        split
        case isTrue => exact ⟨path, rfl⟩
        case isFalse => exact ⟨dir.startDir, rfl⟩

theorem processListing_turn (self : RemoteRecursiveOperation Time)
    {listing : CDirectoryListing Time} (root : RecursionRoot) (roots : List RecursionRoot)
    (dir : NewDir) (rest : List NewDir) (fine : listing.failed = false) :
    ∃ outputs dirs visited middle,
      Turn sanitizeFilename self root dir rest (.listing (some listing)) outputs dirs visited ∧
      middle.operationMode = self.operationMode ∧ middle.filters = self.filters ∧
      middle.refresh = self.refresh ∧
      middle.recursionRoots =
        { root with visitedDirs := visited, dirsToVisit := dirs } :: roots ∧
      processListing sanitizeFilename self listing root roots dir rest =
        ((nextOperation middle).1, outputs ++ (nextOperation middle).2) := by
  obtain ⟨startDir, same⟩ := belowRecursionRoot_same root listing.path dir
  unfold processListing
  rcases located : belowRecursionRoot root listing.path dir with ⟨below, found⟩
  rw [located] at same
  cases same
  dsimp only
  cases below with
  | false =>
    exact ⟨_, _, _, self.setFront root roots rest, .rejected fine (by rw [located]), rfl, rfl,
      rfl, rfl, rfl⟩
  | true =>
    rw [if_neg (by simp)]
    have below : (belowRecursionRoot root listing.path dir).1 = true := by rw [located]
    have looked := @Turn.lookedAt _ sanitizeFilename self root dir rest listing fine below
    have entered := @Turn.entries _ sanitizeFilename self root dir rest listing fine below
    rw [located] at looked entered
    split
    case isTrue link =>
      exact ⟨_, _, _, self.setFront root roots _,
        looked (.inl ⟨link.1, by simpa using link.2⟩), rfl, rfl, rfl, rfl, rfl⟩
    case isFalse noLink =>
      rcases inserted : insertVisited root.visitedDirs listing.path with ⟨visited, fresh⟩
      dsimp only
      cases fresh with
      | false =>
        exact ⟨_, _, _, self.setFront root roots _, looked (.inr (by rw [inserted])), rfl,
          rfl, rfl, rfl, rfl⟩
      | true =>
        have notLooked : ¬ lookedAt root dir listing.path := by
          rintro (⟨link, flat⟩ | seen)
          · exact noLink ⟨link, by simp [flat]⟩
          · rw [inserted] at seen
            cases seen
        have empty := @Turn.empty _ sanitizeFilename self root dir rest listing fine below
          notLooked
        have entered := entered notLooked
        rw [inserted] at empty entered
        rw [if_neg (by simp)]
        split
        case isTrue nothing =>
          refine ⟨_, _, _, setFront
            { self with processedDirectories := self.processedDirectories + 1 }
            { root with visitedDirs := visited } roots _,
            empty (by simpa using nothing.1) nothing.2, rfl, rfl, rfl, ?_, rfl⟩
          rw [nothing.2]
          rfl
        case isFalse something =>
          have collected := @processEntries_dirsToVisit _ sanitizeFilename
            { self with processedDirectories := self.processedDirectories + 1 } listing
            (removeLater self.operationMode { dir with startDir } rest)
            { dir with startDir }
          refine ⟨_, _, _, setFront
            { self with
              processedDirectories := self.processedDirectories + 1
              processedFiles := (processEntries sanitizeFilename
                { self with processedDirectories := self.processedDirectories + 1 }
                listing (removeLater self.operationMode { dir with startDir } rest)
                { dir with startDir }).processedFiles }
            { root with visitedDirs := visited } roots _,
            entered (by simpa using something), rfl, rfl, rfl, rfl, ?_⟩
          unfold andThen
          rw [processEntries_outputs, collected]
          rfl

theorem respond_cases (self : RemoteRecursiveOperation Time) (event : RecursiveEvent Time) :
    Response sanitizeFilename self event (respond sanitizeFilename self event).1
      (respond sanitizeFilename self event).2 := by
  cases event with
  | addRecursionRoot root => exact .added
  | setChmodData data => exact .quiet rfl rfl
  | stop => exact .stopped rfl rfl
  | start mode filters refresh =>
    dsimp only [respond, startRecursiveOperation]
    split
    case isTrue => exact .quiet rfl rfl
    case isFalse idle =>
      split
      case isTrue => exact .quiet rfl rfl
      case isFalse =>
        split
        case isTrue => exact .quiet rfl rfl
        case isFalse some =>
          exact .started (by simpa using idle) rfl rfl rfl (by simpa using some)
  | listing listing =>
    cases listing with
    | none => exact .stopped rfl rfl
    | some listing =>
      dsimp only [respond, processDirectoryListing]
      split
      case h_1 => exact .quiet rfl rfl
      case h_2 => exact .quiet rfl rfl
      case h_3 root roots front active =>
        split
        case isTrue => exact .quiet rfl rfl
        case isFalse fine =>
          split
          case h_1 => exact .stopped rfl rfl
          case h_2 dir rest next =>
            obtain ⟨outputs, dirs, visited, middle, turn, mode, filters, refresh,
              middleRoots, same⟩ := @processListing_turn _ sanitizeFilename self listing
                root roots dir rest (by simpa using fine)
            rw [same]
            exact .turn active front next turn mode filters refresh middleRoots
  | listingFailed error =>
    dsimp only [respond, listingFailed]
    split
    case h_1 => exact .quiet rfl rfl
    case h_2 => exact .quiet rfl rfl
    case h_3 root roots front active =>
      split
      case isTrue => exact .stopped rfl rfl
      case isFalse running =>
        have running : isCanceled error = false := by simpa using running
        split
        case h_1 => exact .stopped rfl rfl
        case h_2 dir rest next =>
          split
          case isTrue again =>
            rw [Bool.and_eq_true, Bool.not_eq_true', Bool.not_eq_true'] at again
            exact @Response.turn _ sanitizeFilename self _ root roots dir rest _ [] _ _ active front
              next (.retry running again.1 again.2) rfl rfl rfl rfl
          case isFalse final =>
            refine .turn active front next (.failed running ?_) rfl rfl rfl rfl
            cases critical : isCritical error with
            | true => exact .inl rfl
            | false => exact .inr (by simpa [critical] using final)
  | linkIsNotDir site =>
    dsimp only [respond, linkIsNotDir]
    split
    case h_1 => exact .quiet rfl rfl
    case h_2 => exact .quiet rfl rfl
    case h_3 root roots front active =>
      split
      case h_1 => exact .stopped rfl rfl
      case h_2 dir rest next =>
        refine .turn active front next (.notDirectory fun output member => ?_) rfl rfl rfl rfl
        split at member
        case isTrue => cases member
        case isFalse =>
          split at member
          case isTrue =>
            split at member
            case isTrue => cases member
            case isFalse => exact .inl (mem_singleton.mp member)
          case isFalse =>
            split at member
            case isTrue => exact .inr ⟨_, mem_singleton.mp member⟩
            case isFalse => cases member

def eventTrace (sanitizeFilename : WString → WString) :
    RemoteRecursiveOperation Time → List (RecursiveEvent Time) →
      List (RemoteRecursiveOperation Time × RecursiveEvent Time)
  | _, [] => []
  | self, event :: events =>
    (self, event) :: eventTrace sanitizeFilename (respond sanitizeFilename self event).1 events

theorem eventTrace_run (self : RemoteRecursiveOperation Time)
    (events : List (RecursiveEvent Time)) :
    ∃ final, Run (recursiveStep sanitizeFilename) self
      (eventTrace sanitizeFilename self events) final := by
  induction events generalizing self with
  | nil => exact ⟨self, .refl⟩
  | cons event events ih =>
    obtain ⟨final, run⟩ := ih (respond sanitizeFilename self event).1
    exact ⟨final, Run.cons rfl run⟩

theorem mem_eventTrace {self : RemoteRecursiveOperation Time}
    {events : List (RecursiveEvent Time)}
    {taken : RemoteRecursiveOperation Time × RecursiveEvent Time}
    (member : taken ∈ eventTrace sanitizeFilename self events) : taken.2 ∈ events := by
  induction events generalizing self with
  | nil => cases member
  | cons event events ih =>
    rcases mem_cons.mp member with rfl | later
    · exact mem_cons_self
    · exact mem_cons_of_mem _ (ih later)

end RemoteRecursiveOperation

end FileZilla
