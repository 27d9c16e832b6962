import FileZilla.CommonUi.RecursionStep

namespace FileZilla

open List

namespace RemoteRecursiveOperation

universe u

variable {Time : Type u} {sanitizeFilename : WString → WString}

/-! What every state keeps about the roots: only the front one has directories
that are to be removed, and its first directory is being listed. -/

structure Lined (operation : RemoteRecursiveOperation Time) : Prop where
  later : ∀ root ∈ operation.recursionRoots.tail, Unmarked root
  idle : operation.operationMode = .none → ∀ root ∈ operation.recursionRoots, Unmarked root
  listing : operation.operationMode ≠ .none → ∀ root ∈ operation.recursionRoots.head?,
    ∀ dir ∈ root.dirsToVisit.head?, ¬ IsMarker operation.operationMode dir

structure Queued (root : RecursionRoot) : Prop where
  visited : root.visitedDirs = []
  start : ∀ dir ∈ root.dirsToVisit, dir.startDir.empty = true
  fresh : Unmarked root
  parent : ∀ dir ∈ root.dirsToVisit,
    dir.parent = root.remoteStartDir ∨ dir.parent.isSubdirOf root.remoteStartDir = true

def FromUser : RecursiveEvent Time → Prop
  | .addRecursionRoot root => Queued root
  | _ => True

variable {self after : RemoteRecursiveOperation Time} {root : RecursionRoot}
  {roots : List RecursionRoot} {rest : List NewDir} {outputs : List RecursiveOutput}

theorem Next.lined (active : self.operationMode ≠ .none)
    (unmarked : ∀ other ∈ roots, Unmarked other) (next : Next self root roots rest after outputs)
    : Lined after := by
  cases next with
  | here notMarker =>
    refine ⟨unmarked, fun idle => absurd idle active, ?_⟩
    rintro _ _ ⟨⟩ _ ⟨⟩
    exact notMarker
  | later suffix dirs =>
    have others (other : RecursionRoot) (member : other ∈ _) : Unmarked other :=
      unmarked other (suffix.subset member)
    refine ⟨fun other member => others other (mem_cons_of_mem _ member),
      fun idle => absurd idle active, ?_⟩
    rintro _ other ⟨⟩ dir first
    exact (others _ mem_cons_self).not_marker (mem_of_head? first)
  | finished => exact ⟨by simp [stopRecursiveOperation], by simp [stopRecursiveOperation],
      by simp [stopRecursiveOperation]⟩

theorem nextOperation_lined (active : self.operationMode ≠ .none)
    (front : self.recursionRoots = root :: roots) (unmarked : ∀ other ∈ roots, Unmarked other) :
    Lined (nextOperation self).1 := by
  obtain ⟨_, _, _, _, _, _, next⟩ := nextOperation_eq active front unmarked
  exact next.lined active unmarked

theorem addRecursionRoot_roots (self : RemoteRecursiveOperation Time) (root : RecursionRoot) :
    ((self.addRecursionRoot root).recursionRoots = self.recursionRoots ∨
      (self.addRecursionRoot root).recursionRoots = self.recursionRoots ++ [root]) ∧
    (self.addRecursionRoot root).operationMode = self.operationMode := by
  unfold addRecursionRoot
  split
  case isTrue => exact ⟨.inl rfl, rfl⟩
  case isFalse => exact ⟨.inr rfl, rfl⟩

variable {event : RecursiveEvent Time}

theorem Lined.respond (lined : Lined self) (fromUser : FromUser event)
    (response : Response sanitizeFilename self event after outputs) : Lined after := by
  cases response with
  | @added root =>
    obtain ⟨roots, mode⟩ := addRecursionRoot_roots self root
    rcases roots with same | more
    · refine ⟨?_, ?_, ?_⟩
      · rw [same]
        exact lined.later
      · rw [same, mode]
        exact lined.idle
      · rw [same, mode]
        exact lined.listing
    · refine ⟨?_, ?_, ?_⟩
      · rw [more]
        intro other member
        cases roots : self.recursionRoots with
        | nil =>
          rw [roots] at member
          cases member
        | cons first rest =>
          rw [roots] at member
          rcases mem_append.mp member with old | new
          · exact lined.later other (by rw [roots]; exact old)
          · cases mem_singleton.mp new
            exact fromUser.fresh
      · rw [more, mode]
        intro idle other member
        rcases mem_append.mp member with old | new
        · exact lined.idle idle other old
        · cases mem_singleton.mp new
          exact fromUser.fresh
      · rw [more, mode]
        intro active other first dir head
        cases roots : self.recursionRoots with
        | nil =>
          rw [roots] at first
          cases first
          exact fromUser.fresh.not_marker (mem_of_head? head)
        | cons front rest =>
          rw [roots] at first
          exact lined.listing active other (by rw [roots]; exact first) dir head
  | quiet mode roots =>
    refine ⟨?_, ?_, ?_⟩
    · rw [roots]
      exact lined.later
    · rw [roots, mode]
      exact lined.idle
    · rw [roots, mode]
      exact lined.listing
  | stopped mode roots =>
    refine ⟨?_, ?_, ?_⟩ <;> rw [roots] <;> simp
  | @started mode filters refresh started idle startedMode _ roots some =>
    have fresh := lined.idle idle
    cases first : self.recursionRoots with
    | nil => exact absurd first some
    | cons root rest =>
      by_cases none : mode = .none
      case pos =>
        have same : (nextOperation started).1 = started := by
          rw [nextOperation, if_pos (startedMode.trans none)]
        rw [same]
        refine ⟨?_, ?_, fun active => absurd (startedMode.trans none) active⟩
        · rw [roots]
          exact lined.later
        · rw [roots]
          exact fun _ => fresh
      case neg =>
        refine nextOperation_lined (startedMode ▸ none) (roots.trans first) ?_
        exact fun other member => fresh other (first ▸ mem_cons_of_mem _ member)
  | turn active front next turn mode filters refresh roots =>
    refine nextOperation_lined (mode ▸ active) roots fun other member => ?_
    exact lined.later other (by rw [front]; exact member)

def containing : RecursiveOutput → Option CServerPath
  | .removeDir path _ | .delete path _ | .chmod path _ _ | .handleFile _ _ path _
  | .handleInvalidDirLink _ _ path => some path
  | _ => none

def LinkTarget (trace : List (RemoteRecursiveOperation Time × RecursiveEvent Time))
    (target : CServerPath) : Prop :=
  ∃ taken ∈ trace, ∃ dir listing, frontDir taken.1 = some dir ∧ dir.link = .queued ∧
    taken.2 = .listing (some listing) ∧ listing.path = target

variable {trace : List (RemoteRecursiveOperation Time × RecursiveEvent Time)}

theorem LinkTarget.mono {taken : RemoteRecursiveOperation Time × RecursiveEvent Time}
    {target : CServerPath} (linked : LinkTarget trace target) :
    LinkTarget (trace ++ [taken]) target := by
  obtain ⟨earlier, member, rest⟩ := linked
  exact ⟨earlier, mem_append_left _ member, rest⟩

def Within (start : CServerPath) (targets : CServerPath → Prop) (path : CServerPath) : Prop :=
  path = start ∨ path.isSubdirOf start = true ∨
    ∃ target, targets target ∧ (path = target ∨ path.isSubdirOf target = true)

structure Placed (start : CServerPath) (targets : CServerPath → Prop) (dir : NewDir) :
    Prop where
  parent : Within start targets dir.parent
  startDir : dir.startDir.empty = true ∨ targets dir.startDir

variable {path : CServerPath} {targets : CServerPath → Prop}

theorem Within.mono {start : CServerPath} {more : CServerPath → Prop}
    (within : Within start targets path) (weaker : ∀ target, targets target → more target) :
    Within start more path := by
  rcases within with same | below | ⟨target, isTarget, at_⟩
  · exact .inl same
  · exact .inr (.inl below)
  · exact .inr (.inr ⟨target, weaker target isTarget, at_⟩)

variable {dir : NewDir}

theorem Placed.mono {start : CServerPath} {more : CServerPath → Prop}
    (placed : Placed start targets dir) (weaker : ∀ target, targets target → more target) :
    Placed start more dir :=
  ⟨placed.parent.mono weaker, placed.startDir.imp_right (weaker _)⟩

theorem belowRecursionRoot_within (placed : Placed root.remoteStartDir targets dir)
    (linked : dir.link = .queued → targets path)
    (below : (belowRecursionRoot root path dir).1 = true) :
    Within root.remoteStartDir targets path ∧
    Placed root.remoteStartDir targets (belowRecursionRoot root path dir).2 := by
  unfold belowRecursionRoot at below ⊢
  split at below
  case isTrue inherited =>
    rw [if_pos inherited]
    rcases placed.startDir with none | isTarget
    · rw [none] at inherited
      cases inherited
    · exact ⟨.inr (.inr ⟨_, isTarget, .inr below⟩), placed⟩
  case isFalse inherited =>
    rw [if_neg inherited]
    split at below
    case isTrue inside =>
      rw [if_pos inside]
      exact ⟨.inr (.inl inside), placed⟩
    case isFalse notInside =>
      rw [if_neg notInside]
      split at below
      case isTrue same =>
        rw [if_pos same]
        rw [Bool.and_eq_true, CServerPath.equal_iff] at same
        exact ⟨.inl same.1, placed⟩
      case isFalse notSame =>
        rw [if_neg notSame]
        split at below
        case isTrue link =>
          rw [if_pos link]
          exact ⟨.inr (.inr ⟨path, linked link, .inl rfl⟩), ⟨placed.parent, .inr (linked link)⟩⟩
        case isFalse => cases below

theorem mem_removeLater {mode : OperationMode} {other : NewDir}
    (member : other ∈ removeLater mode dir rest) :
    other = { dir with doVisit := false } ∨ other ∈ rest := by
  unfold removeLater at member
  split at member
  case isTrue => exact mem_cons.mp member
  case isFalse => exact .inr member

variable {output : RecursiveOutput}

theorem mem_entryOutputs {entry : CDirentry Time}
    (member : output ∈ entryOutputs self dir path entry) :
    output = .handleFile entry.name dir.localDir path entry.size ∨
      ∃ permissions, output = .chmod path entry.name permissions := by
  unfold entryOutputs at member
  split at member
  case isTrue => cases member
  case isFalse =>
    rcases mem_append.mp member with file | permissions
    · split at file
      case isTrue => exact .inl (mem_singleton.mp file)
      case isFalse => cases file
    · unfold chmodEntry at permissions
      split at permissions
      case h_2 => cases permissions
      case h_1 =>
        split at permissions
        case isTrue => exact .inr ⟨_, mem_singleton.mp permissions⟩
        case isFalse => cases permissions

theorem containing_entryOutputs {entry : CDirentry Time}
    (member : output ∈ entryOutputs self dir path entry) : containing output = some path := by
  rcases mem_entryOutputs member with rfl | ⟨permissions, rfl⟩ <;> rfl

theorem containing_deleteFiles {listing : CDirectoryListing Time}
    (member : output ∈ deleteFiles self dir listing) :
    containing output = some listing.path := by
  dsimp only [deleteFiles] at member
  split at member
  case isTrue =>
    cases mem_singleton.mp member
    rfl
  case isFalse => cases member

theorem Turn.within {dirs : List NewDir} {visited : List CServerPath}
    (turn : Turn sanitizeFilename self root dir rest event outputs dirs visited)
    (placed : ∀ other ∈ dir :: rest, Placed root.remoteStartDir targets other)
    (linked : dir.link = .queued → ∀ listing, event = .listing (some listing) →
      targets listing.path) :
    (∀ output ∈ outputs, ∀ path, containing output = some path →
      Within root.remoteStartDir targets path) ∧
    ∀ other ∈ dirs, Placed root.remoteStartDir targets other := by
  have first := placed dir mem_cons_self
  have others (other : NewDir) (member : other ∈ rest) :=
    placed other (mem_cons_of_mem _ member)
  have kept {next : NewDir} (nextPlaced : Placed root.remoteStartDir targets next)
      (other : NewDir) (member : other ∈ removeLater self.operationMode next rest) :
      Placed root.remoteStartDir targets other := by
    rcases mem_removeLater member with rfl | old
    · exact ⟨nextPlaced.parent, nextPlaced.startDir⟩
    · exact others other old
  cases turn with
  | rejected => exact ⟨by simp, others⟩
  | lookedAt _ below _ =>
    have found := belowRecursionRoot_within first (fun link => linked link _ rfl) below
    exact ⟨by simp, kept found.2⟩
  | empty => exact ⟨by simp [containing], others⟩
  | @entries listing _ below _ _ =>
    obtain ⟨within, found⟩ :=
      belowRecursionRoot_within first (fun link => linked link _ rfl) below
    refine ⟨fun output member path concerns => ?_, fun other member => ?_⟩
    · have same : containing output = some listing.path ∨ output = .handleDirListingEnd := by
        rcases mem_append.mp member with made | last
        · rcases mem_append.mp made with direct | deleted
          · obtain ⟨entry, _, inEntry⟩ := mem_flatMap.mp direct
            exact .inl (containing_entryOutputs inEntry)
          · exact .inl (containing_deleteFiles deleted)
        · exact .inr (mem_singleton.mp last)
      rcases same with same | rfl
      · cases same.symm.trans concerns
        exact within
      · cases concerns
    · rcases mem_append.mp member with pushed | old
      · obtain ⟨entry, _, rfl⟩ := mem_map.mp pushed
        exact ⟨within, found.startDir⟩
      · exact kept found other old
  | retry =>
    refine ⟨by simp, fun other member => ?_⟩
    rcases mem_cons.mp member with rfl | old
    · exact ⟨first.parent, first.startDir⟩
    · exact others other old
  | failed =>
    refine ⟨fun output member path concerns => ?_, kept first⟩
    split at member
    case isTrue =>
      cases mem_singleton.mp member
      cases concerns
    case isFalse => cases member
  | notDirectory about =>
    refine ⟨fun output member path concerns => ?_, others⟩
    rcases about output member with rfl | ⟨localPath, rfl⟩
    · cases concerns
      exact first.parent
    · cases concerns
      exact first.parent

def AllPlaced (targets : CServerPath → Prop) (roots : List RecursionRoot) : Prop :=
  ∀ root ∈ roots, ∀ dir ∈ root.dirsToVisit, Placed root.remoteStartDir targets dir

theorem containing_removeMarkers {markers : List NewDir} (member : output ∈ removeMarkers markers)
    (concerns : containing output = some path) :
    ∃ marker ∈ markers, marker.parent = path := by
  obtain ⟨marker, isMarker, rfl⟩ := mem_map.mp member
  cases concerns
  exact ⟨marker, isMarker, rfl⟩

theorem Next.containing_none (next : Next self root roots rest after outputs)
    (member : output ∈ outputs) : containing output = none := by
  cases next <;> cases mem_singleton.mp member <;> rfl

theorem Next.allPlaced {markers : List NewDir} (next : Next self root roots rest after outputs)
    (split : root.dirsToVisit = markers ++ rest) (placed : AllPlaced targets (root :: roots)) :
    AllPlaced targets after.recursionRoots := by
  intro other member dir inOther
  cases next with
  | here =>
    rcases mem_cons.mp member with rfl | old
    · refine placed root mem_cons_self dir ?_
      rw [split]
      exact mem_append_right _ inOther
    · exact placed other (mem_cons_of_mem _ old) dir inOther
  | later suffix =>
    exact placed other (mem_cons_of_mem _ (suffix.subset member)) dir inOther
  | finished => cases member

theorem nextOperation_within (active : self.operationMode ≠ .none)
    (front : self.recursionRoots = root :: roots) (unmarked : ∀ other ∈ roots, Unmarked other)
    (placed : AllPlaced targets (root :: roots)) :
    (∀ output ∈ (nextOperation self).2, ∀ path, containing output = some path →
      Within root.remoteStartDir targets path) ∧
    AllPlaced targets (nextOperation self).1.recursionRoots := by
  obtain ⟨markers, rest, outputs, split, _, same, next⟩ := nextOperation_eq active front unmarked
  refine ⟨fun output member path concerns => ?_, next.allPlaced split placed⟩
  rw [same] at member
  rcases mem_append.mp member with removed | listed
  · obtain ⟨marker, isMarker, rfl⟩ := containing_removeMarkers removed concerns
    refine (placed root mem_cons_self marker ?_).parent
    rw [split]
    exact mem_append_left _ isMarker
  · rw [next.containing_none listed] at concerns
    cases concerns

theorem allPlaced_addRecursionRoot (placed : AllPlaced targets self.recursionRoots)
    (queued : Queued root) :
    AllPlaced targets (self.addRecursionRoot root).recursionRoots := by
  rcases (addRecursionRoot_roots self root).1 with same | more
  · rw [same]
    exact placed
  · rw [more]
    intro other member dir inOther
    rcases mem_append.mp member with old | new
    · exact placed other old dir inOther
    · cases mem_singleton.mp new
      refine ⟨?_, .inl (queued.start dir inOther)⟩
      rcases queued.parent dir inOther with same | below
      · exact .inl same
      · exact .inr (.inl below)

theorem Response.within (response : Response sanitizeFilename self event after outputs)
    (lined : Lined self) (fromUser : FromUser event)
    (placed : AllPlaced (LinkTarget trace) self.recursionRoots) :
    (∀ output ∈ outputs, ∀ path, containing output = some path →
      ∃ root ∈ self.recursionRoots.head?,
        Within root.remoteStartDir (LinkTarget (trace ++ [(self, event)])) path) ∧
    AllPlaced (LinkTarget (trace ++ [(self, event)])) after.recursionRoots := by
  have placed : AllPlaced (LinkTarget (trace ++ [(self, event)])) self.recursionRoots :=
    fun root member dir inRoot =>
      (placed root member dir inRoot).mono fun _ => LinkTarget.mono
  cases response with
  | added => exact ⟨by simp, allPlaced_addRecursionRoot placed fromUser⟩
  | quiet _ roots => exact ⟨by simp, roots ▸ placed⟩
  | stopped _ roots =>
    refine ⟨by simp, ?_⟩
    rw [roots]
    intro root member
    cases member
  | @started mode filters refresh started idle startedMode _ roots some =>
    cases first : self.recursionRoots with
    | nil => exact absurd first some
    | cons root rest =>
      by_cases none : mode = .none
      case pos =>
        rw [nextOperation, if_pos (startedMode.trans none), roots]
        exact ⟨by simp, placed⟩
      case neg =>
        have unmarked (other : RecursionRoot) (member : other ∈ rest) : Unmarked other :=
          lined.idle idle other (first ▸ mem_cons_of_mem _ member)
        rw [first] at placed
        obtain ⟨within, later⟩ := @nextOperation_within _ started root rest _
          (startedMode ▸ none) (roots.trans first) unmarked placed
        exact ⟨fun output member path concerns =>
          ⟨root, rfl, within output member path concerns⟩, later⟩
  | @turn _ root roots dir rest dirs outputs visited middle active front next turn mode _ _
      middleRoots =>
      rw [front] at placed ⊢
      have rootPlaced := placed root mem_cons_self
      rw [next] at rootPlaced
      have linked (link : dir.link = .queued) (listing : CDirectoryListing Time)
          (same : event = .listing (some listing)) :
          LinkTarget (trace ++ [(self, event)]) listing.path := by
        refine ⟨(self, event), mem_append_right _ mem_cons_self, dir, listing, ?_,
          link, same, rfl⟩
        simp [frontDir, front, next]
      obtain ⟨turnWithin, turnPlaced⟩ := turn.within rootPlaced linked
      have unmarked (other : RecursionRoot) (member : other ∈ roots) : Unmarked other :=
        lined.later other (by rw [front]; exact member)
      have middlePlaced : AllPlaced (LinkTarget (trace ++ [(self, event)]))
          ({ root with visitedDirs := visited, dirsToVisit := dirs } :: roots) := by
        intro other member other' inOther
        rcases mem_cons.mp member with rfl | old
        · exact turnPlaced other' inOther
        · exact placed other (mem_cons_of_mem _ old) other' inOther
      obtain ⟨nextWithin, later⟩ :=
        nextOperation_within (mode ▸ active) middleRoots unmarked middlePlaced
      refine ⟨fun output member path concerns => ⟨root, rfl, ?_⟩, later⟩
      rcases mem_append.mp member with made | issued
      · exact turnWithin output made path concerns
      · exact nextWithin output issued path concerns

theorem located_run (run : Run (recursiveStep sanitizeFilename) {} trace self)
    (fromUser : ∀ taken ∈ trace, FromUser taken.2) :
    Lined self ∧ AllPlaced (LinkTarget trace) self.recursionRoots := by
  refine @Run.trace_invariant_of_forall _ _ _ _ _ _
    (fun trace (self : RemoteRecursiveOperation Time) =>
      Lined self ∧ AllPlaced (LinkTarget trace) self.recursionRoots)
    (fun _ event => FromUser event) ?_ ?_ run fromUser
  · refine ⟨⟨by simp, by simp, by simp⟩, ?_⟩
    intro root member
    cases member
  · rintro trace self event _ ⟨lined, placed⟩ fromUser ⟨⟩
    have response := @respond_cases _ sanitizeFilename self event
    exact ⟨lined.respond fromUser response, (response.within lined fromUser placed).2⟩

theorem outputs_within (run : Run (recursiveStep sanitizeFilename) {} trace self)
    (fromUser : ∀ taken ∈ trace, FromUser taken.2)
    {before after : List (RemoteRecursiveOperation Time × RecursiveEvent Time)}
    {taken : RemoteRecursiveOperation Time × RecursiveEvent Time}
    (split : trace = before ++ taken :: after)
    (member : output ∈ (respond sanitizeFilename taken.1 taken.2).2)
    (concerns : containing output = some path) :
    ∃ root ∈ taken.1.recursionRoots.head?,
      Within root.remoteStartDir (LinkTarget (before ++ [taken])) path := by
  subst split
  obtain ⟨lined, placed⟩ := located_run run.before fun earlier inBefore =>
    fromUser earlier (mem_append_left _ inBefore)
  have response := @respond_cases _ sanitizeFilename taken.1 taken.2
  exact (response.within lined (fromUser taken (by simp)) placed).1 output member path concerns

end RemoteRecursiveOperation

end FileZilla
