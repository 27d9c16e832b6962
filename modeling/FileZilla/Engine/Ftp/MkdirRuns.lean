import FileZilla.Engine.Ftp.Mkdir
import FileZilla.Engine.ServerPathFilename

namespace FileZilla

namespace FtpMkdir

open CServerPath (GoodSegment)

def unixPath (names : List WString) : CServerPath where
  data := some { segments := names, pathPrefix := .none }
  type := .unix

open List

section Paths

variable {names above : List WString} {name : WString}

@[simp] theorem empty_unixPath : (unixPath names).empty = false := rfl

@[simp] theorem segments_unixPath : (unixPath names).segments = names := rfl

theorem unixPath_injective {left right : List WString} (same : unixPath left = unixPath right) :
    left = right :=
  congrArg CServerPath.segments same

theorem hasParent_unixPath : (unixPath names).hasParent = !names.isEmpty := rfl

@[simp] theorem getParent_concat : (unixPath (above ++ [name])).getParent = unixPath above := by
  have parent : (unixPath (above ++ [name])).hasParent = true := by
    rw [hasParent_unixPath]
    simp
  refine (CServerPath.getParent_of_hasParent parent).trans ?_
  simp [CServerPath.parentData, CServerPath.parentVolume, unixPath]

@[simp] theorem getLastSegment_concat : (unixPath (above ++ [name])).getLastSegment = name := by
  have parent : (unixPath (above ++ [name])).hasParent = true := by
    rw [hasParent_unixPath]
    simp
  simp [CServerPath.getLastSegment, parent]

@[simp] theorem addSegment_unixPath :
    (unixPath above).addSegment name = some (unixPath (above ++ [name])) := rfl

theorem foldlM_addSegment (below : List WString) :
    below.foldlM CServerPath.addSegment (unixPath above) = some (unixPath (above ++ below)) := by
  induction below generalizing above with
  | nil => rw [append_nil]; rfl
  | cons name below induction =>
    rw [foldlM_cons, addSegment_unixPath]
    exact induction.trans (by rw [append_assoc]; rfl)

def Good (names : List WString) : Prop :=
  ∀ segment ∈ names, GoodSegment .unix segment

theorem Good.clean (good : Good names) : CServerPath.Clean .unix names :=
  fun segment member => ⟨(good segment member).filled, (good segment member).clean rfl⟩

theorem Good.plain (good : Good names) :
    ∀ segment ∈ names, segment ≠ wide "." ∧ segment ≠ wide ".." :=
  fun segment member => (good segment member).noDots rfl

theorem Good.left {below : List WString} (good : Good (above ++ below)) : Good above :=
  fun segment member => good segment (mem_append_left _ member)

theorem isSeparator_unix : CServerPath.isSeparator .unix = (· == '/'.toNat) := by
  funext char
  exact Bool.or_false _

theorem getPath_unixPath (good : Good names) :
    (unixPath names).getPath = '/'.toNat :: CServerPath.joinSegments .unix names := by
  have wellFormed : CServerPath.WellFormed .unix { segments := names, pathPrefix := .none } :=
    ⟨⟨good, rfl⟩, fun rootless => absurd rootless (by decide)⟩
  refine (CServerPath.getPath_open ⟨by decide, by decide⟩ wellFormed).trans ?_
  simp [CServerPath.rootSeparator, CServerPath.separator, traits, wide]

theorem target_getPath (server : ServerState) (good : Good names) :
    server.target (unixPath names).getPath = names := by
  rw [ServerState.target, getPath_unixPath good, head?_cons, if_pos rfl,
    piecesBetween_cons (by rfl), ← isSeparator_unix,
    CServerPath.pieces_joined (fun segment member => (good.clean segment member).1)
      (fun segment member => (good.clean segment member).2),
    resolve_plain good.plain, nil_append]

theorem target_name (server : ServerState) (good : GoodSegment .unix name) :
    server.target name = server.working ++ [name] := by
  have clean := good.clean rfl
  rw [isSeparator_unix] at clean
  have relative : ¬name.head? = some '/'.toNat := by
    intro absolute
    have separator := clean _ (mem_of_mem_head? absolute)
    cases separator
  rw [ServerState.target, if_neg relative, piecesBetween_of_clean good.filled clean]
  refine resolve_plain (fun component member => ?_) _
  rw [mem_singleton.mp member]
  exact good.noDots rfl

end Paths

section Answers

open CFtpMkdirOpData (positive isAlreadyExistsResponse saidBy)

variable {allowed : List WString → Bool} {server next : ServerState} {argument response : WString}

theorem answered_cwd (answered : server.answered allowed (.cwd argument) response = some next) :
    (server.tree.IsDirectory (server.target argument) ∧ positive response = true ∧
        next.working = server.target argument) ∨
      (positive response = false ∧ next = server) := by
  simp only [ServerState.answered] at answered
  split at answered
  case isTrue inside =>
    obtain ⟨success, rfl⟩ := some_of_guard answered
    exact .inl ⟨inside, success, rfl⟩
  case isFalse =>
    obtain ⟨failure, rfl⟩ := some_of_refusal answered
    exact .inr ⟨Bool.eq_false_iff.mpr failure, rfl⟩

theorem answered_mkd (answered : server.answered allowed (.mkd argument) response = some next) :
    (positive response = true ∧ next.working = server.working ∧
        next.tree.IsDirectory (server.target argument)) ∨
      (positive response = false ∧ next = server ∧
        server.tree.kind (server.target argument) ≠ none) ∨
      (positive response = false ∧ next = server ∧
        ServerState.tellsExisting response = false) := by
  simp only [ServerState.answered] at answered
  split at answered
  case isTrue free =>
    split at answered
    case isTrue makes =>
      obtain ⟨success, rfl⟩ := some_of_guard answered
      exact .inl ⟨success, rfl, DirectoryTree.isDirectory_made makes.1 free⟩
    case isFalse =>
      obtain ⟨refused, rfl⟩ := some_of_refusal answered
      rw [Bool.or_eq_true, not_or] at refused
      exact .inr (.inr ⟨Bool.eq_false_iff.mpr refused.1, rfl,
        Bool.eq_false_iff.mpr refused.2⟩)
  case isFalse present =>
    obtain ⟨failure, answered⟩ := of_refusal answered
    obtain ⟨-, rfl⟩ := some_of_guard answered
    exact .inr (.inl ⟨Bool.eq_false_iff.mpr failure, rfl, present⟩)

theorem tellsExisting_of_isAlreadyExists {path : CServerPath}
    (said : isAlreadyExistsResponse response path = true) :
    ServerState.tellsExisting response = true := by
  unfold ServerState.tellsExisting
  dsimp only
  simp only [isAlreadyExistsResponse, saidBy, Bool.or_eq_true, Bool.and_eq_true,
    decide_eq_true_eq] at said
  rcases said with (((same | same) | said) | said) | said
  · rw [same]
    decide
  · rw [same]
    decide
  · rw [said.2, Bool.true_or, Bool.true_or]
  · rw [said.2, Bool.or_true, Bool.true_or]
  · rw [said.2, Bool.or_true]

theorem exists_answer (allowed : List WString → Bool) (server : ServerState) (command : Command) :
    ∃ response next, server.answered allowed command response = some next := by
  cases command with
  | cwd argument =>
    simp only [ServerState.answered]
    by_cases inside : server.tree.IsDirectory (server.target argument)
    · refine ⟨wide "250 ", { server with working := server.target argument, inside }, ?_⟩
      rw [dif_pos inside]
      exact if_pos (by decide)
    · refine ⟨wide "550 ", server, ?_⟩
      rw [dif_neg inside]
      exact if_neg (by decide)
  | mkd argument =>
    simp only [ServerState.answered]
    by_cases free : server.tree.kind (server.target argument) = none
    · by_cases makes : server.tree.IsDirectory (server.target argument).dropLast ∧
          allowed (server.target argument).dropLast = true
      · let made := server.tree.makeDirectory (server.target argument) makes.1 free
        have inside : made.IsDirectory server.working :=
          DirectoryTree.isDirectory_makeDirectory server.inside
        refine ⟨wide "257 ", { server with tree := made, inside }, ?_⟩
        rw [dif_pos free, dif_pos makes]
        exact if_pos (by decide)
      · refine ⟨wide "550 ", server, ?_⟩
        rw [dif_pos free, dif_neg makes]
        exact if_neg (by decide)
    · refine ⟨wide "550 already exists", server, ?_⟩
      rw [dif_neg free, if_neg (by decide)]
      exact if_pos (by decide)

end Answers

/-- `path_` is `currentMkdPath_` with the segments behind it, from the last one to the first. -/
def Extended (op : CFtpMkdirOpData) : Prop :=
  op.segments_.reverse.foldlM CServerPath.addSegment op.currentMkdPath_ = some op.path_

instance (op : CFtpMkdirOpData) : Decidable (Extended op) :=
  inferInstanceAs (Decidable (_ = _))

structure At (above below : List WString) (op : CFtpMkdirOpData) : Prop where
  path : op.path_ = unixPath (above ++ below)
  current : op.currentMkdPath_ = unixPath above
  segments : op.segments_ = below.reverse

theorem At.extended {above below : List WString} {op : CFtpMkdirOpData}
    (position : At above below op) : Extended op := by
  rw [Extended, position.segments, position.current, position.path, reverse_reverse]
  exact foldlM_addSegment below

namespace CFtpMkdirOpData

/-- The command that `Send` sends after the initial state -/
def pending (self : CFtpMkdirOpData) : Command :=
  match self.opState with
  | .mkdsub => .mkd (self.segments_.getLastD [])
  | .tryfull => .mkd self.path_.getPath
  | _ => .cwd self.currentMkdPath_.getPath

def left (self : CFtpMkdirOpData) : Nat :=
  match self.opState with
  | .init => 3 * self.path_.segments.length + 1
  | .findparent => 3 * self.currentMkdPath_.segments.length + 2 * self.segments_.length + 1
  | .mkdsub => 2 * self.segments_.length
  | .cwdsub => 2 * self.segments_.length + 1
  | .tryfull => 1

end CFtpMkdirOpData

def Known (currentPath_ : CServerPath) (server : ServerState) : Prop :=
  currentPath_.empty = true ∨ currentPath_ = unixPath server.working

section Standing

variable (names : List WString) (shownAsFile : CServerPath → WString → Bool)

inductive Ready (op : CFtpMkdirOpData) (server : ServerState) : Prop
  | start (state : op.opState = .init) (path : op.path_ = unixPath names)
      (none : op.segments_ = [])
  | finding {above below : List WString} (state : op.opState = .findparent)
      (whole : names = above ++ below) (more : below ≠ []) (position : At above below op)
  | making {above below : List WString} (state : op.opState = .mkdsub)
      (whole : names = above ++ below) (more : below ≠ []) (position : At above below op)
      (working : server.working = above)
  | entering {above below : List WString} (state : op.opState = .cwdsub)
      (whole : names = above ++ below) (more : below ≠ []) (position : At above below op)
  | full (state : op.opState = .tryfull) (path : op.path_ = unixPath names)
      (extended : names ≠ [] → Extended op)

/-- The directory is there, or a file that the directory cache does not show. -/
def Made (server : ServerState) : Prop :=
  server.tree.IsDirectory names ∨
    (server.tree.kind names = some .file ∧
      shownAsFile (unixPath names).getParent (unixPath names).getLastSegment = false)

structure Ended (code : Code) (op : CFtpMkdirOpData) (server : ServerState) : Prop where
  result : code = .ok ∨ code = .error
  path : op.path_ = unixPath names
  extended : op.opState ≠ .init → names ≠ [] → Extended op
  made : code = .ok → Made names shownAsFile server

inductive Goes (budget : Nat) : Code → CFtpMkdirOpData → CServerPath → ServerState → Prop
  | on {op : CFtpMkdirOpData} {currentPath_ : CServerPath} {server : ServerState}
      (known : Known currentPath_ server) (ready : Ready names op server)
      (started : op.opState ≠ .init) (less : op.left ≤ budget) :
      Goes budget .continued op currentPath_ server
  | ended {code : Code} {op : CFtpMkdirOpData} {currentPath_ : CServerPath}
      {server : ServerState} (known : Known currentPath_ server)
      (ended : Ended names shownAsFile code op server) : Goes budget code op currentPath_ server

end Standing

section Calls

variable {names above below : List WString} {shownAsFile : CServerPath → WString → Bool}
  {allowed : List WString → Bool} {op : CFtpMkdirOpData} {currentPath_ : CServerPath}
  {server next : ServerState} {response : WString}

theorem sendInit_goes (state : op.opState = .init) (path : op.path_ = unixPath names)
    (none : op.segments_ = []) (known : Known currentPath_ server) :
    Goes names shownAsFile op.left (op.sendInit currentPath_).1 (op.sendInit currentPath_).2
      currentPath_ server := by
  have kept : (op.findCommonParent currentPath_).path_ = unixPath names ∧
      (op.findCommonParent currentPath_).segments_ = [] ∧ op.left = 3 * names.length + 1 := by
    refine ⟨?_, ?_, by simp [CFtpMkdirOpData.left, state, path]⟩
    · rw [← path]
      unfold CFtpMkdirOpData.findCommonParent
      split_ifs <;> rfl
    · rw [← none]
      unfold CFtpMkdirOpData.findCommonParent
      split_ifs <;> rfl
  obtain ⟨samePath, noSegments, left⟩ := kept
  rw [left]
  unfold CFtpMkdirOpData.sendInit
  split
  case isTrue present =>
    simp only [Bool.and_eq_true, Bool.not_eq_true', Bool.or_eq_true] at present
    obtain ⟨filled, above⟩ := present
    have current : currentPath_ = unixPath server.working := by
      rcases known with missing | same
      · cases filled.symm.trans missing
      · exact same
    refine .ended known ⟨.inl rfl, path, fun started => absurd state started, fun _ => .inl ?_⟩
    rw [current, path] at above
    rcases above with same | below
    · rw [← unixPath_injective (CServerPath.equal_iff.mp same)]
      exact server.inside
    · obtain ⟨-, -, -, extended, different⟩ := CServerPath.isSubdirOf_eq_true_iff.mp below
      refine DirectoryTree.isDirectory_above ?_ extended (different rfl)
      rw [server.inside]
      simp
  case isFalse =>
    generalize op.findCommonParent currentPath_ = found at samePath noSegments
    obtain ⟨_, path_, _, _, segments_⟩ := found
    dsimp only at samePath noSegments ⊢
    subst samePath noSegments
    rw [hasParent_unixPath]
    rcases eq_nil_or_concat names with rfl | ⟨above, name, rfl⟩
    · exact .on known (.full rfl rfl (absurd rfl)) (by simp) (Nat.le_refl 1)
    · rw [concat_eq_append]
      have filled : (above ++ [name]).isEmpty = false := by simp
      simp only [filled, Bool.not_false, Bool.not_true, Bool.false_eq_true, if_false,
        getParent_concat, getLastSegment_concat, nil_append, length_append,
        length_singleton]
      split
      case isTrue same =>
        have current := CServerPath.equal_iff.mp same
        have working : server.working = above := by
          rcases known with missing | known
          · rw [← current] at missing
            cases missing
          · exact (unixPath_injective (current.trans known)).symm
        refine .on known (.making rfl rfl (by simp) ⟨rfl, rfl, rfl⟩ working) (by simp) ?_
        simp only [CFtpMkdirOpData.left, length_singleton]
        omega
      case isFalse =>
        refine .on known (.finding rfl rfl (by simp) ⟨rfl, rfl, rfl⟩) (by simp) ?_
        simp only [CFtpMkdirOpData.left, length_singleton, segments_unixPath]
        omega

/-- The server is in `currentMkdPath_` if `CWD` succeeded, and did nothing else. -/
theorem cwd_answered (good : Good above) (position : At above below op)
    (answered : server.answered allowed (.cwd op.currentMkdPath_.getPath) response = some next) :
    (CFtpMkdirOpData.positive response = true ∧ next.working = above) ∨
      (CFtpMkdirOpData.positive response = false ∧ next = server) := by
  rcases answered_cwd answered with ⟨-, success, working⟩ | failure
  · rw [position.current, target_getPath server good] at working
    exact .inl ⟨success, working⟩
  · exact .inr failure

theorem parseFindparent_goes (good : Good names) (state : op.opState = .findparent)
    (whole : names = above ++ below) (more : below ≠ []) (position : At above below op)
    (known : Known currentPath_ server)
    (answered : server.answered allowed (.cwd op.currentMkdPath_.getPath) response = some next) :
    Goes names shownAsFile (op.left - 1) .continued (op.parseFindparent currentPath_ response).1
      (op.parseFindparent currentPath_ response).2 next := by
  have left : op.left = 3 * above.length + 2 * below.length + 1 := by
    simp [CFtpMkdirOpData.left, state, position.current, position.segments]
  have some := length_pos_iff.mpr more
  have full : Ready names { op with opState := .tryfull } next :=
    .full rfl (position.path.trans (by rw [whole])) fun _ => position.extended
  rw [left]
  unfold CFtpMkdirOpData.parseFindparent
  rw [whole] at good
  rcases cwd_answered good.left position answered with ⟨success, working⟩ | ⟨failure, rfl⟩
  · rw [if_pos success]
    refine .on (.inr ?_) (.making rfl whole more ⟨position.1, position.2, position.3⟩ working)
      (by simp) ?_
    · rw [position.current, working]
    · simp only [CFtpMkdirOpData.left, position.segments, length_reverse]
      omega
  · rw [if_neg (Bool.eq_false_iff.mp failure)]
    split
    case isTrue =>
      refine .on known full (by simp) ?_
      simp only [CFtpMkdirOpData.left]
      omega
    case isFalse =>
      split
      case isFalse =>
        refine .on known full (by simp) ?_
        simp only [CFtpMkdirOpData.left]
        omega
      case isTrue parent =>
        rcases eq_nil_or_concat above with rfl | ⟨upper, name, rfl⟩
        · rw [position.current] at parent
          cases parent
        · rw [concat_eq_append] at position whole
          have higher : At upper (name :: below)
              { op with
                segments_ := op.segments_ ++ [op.currentMkdPath_.getLastSegment]
                currentMkdPath_ := op.currentMkdPath_.getParent } := by
            refine ⟨?_, ?_, ?_⟩
            · exact position.path.trans (by simp)
            · exact (congrArg CServerPath.getParent position.current).trans getParent_concat
            · dsimp only
              rw [position.current, position.segments, getLastSegment_concat,
                reverse_cons]
          refine .on known (.finding state (by simp [whole]) (by simp) higher)
            (by simp [state]) ?_
          have length : (upper.concat name).length = upper.length + 1 := by simp
          have remaining := congrArg List.length higher.segments
          have depth := congrArg (fun path => path.segments.length) higher.current
          simp only [CFtpMkdirOpData.left, state]
          simp only [length_reverse, length_cons, segments_unixPath]
            at remaining depth
          omega

theorem made_goes {name : WString} {rest : List WString} {made : CFtpMkdirOpData}
    (whole : names = above ++ name :: rest) (position : At (above ++ [name]) rest made)
    (started : made.opState ≠ .init) (known : Known currentPath_ next)
    (last : rest = [] → Made names shownAsFile next) :
    Goes names shownAsFile (2 * rest.length + 1)
      (if made.segments_ = [] then (Code.ok, made)
        else (.continued, { made with opState := .cwdsub })).1
      (if made.segments_ = [] then (Code.ok, made)
        else (.continued, { made with opState := .cwdsub })).2 currentPath_ next := by
  have segments := position.segments
  by_cases done : rest = []
  · rw [done, reverse_nil] at segments
    rw [if_pos segments]
    have path : made.path_ = unixPath names := position.path.trans (by simp [whole])
    exact .ended known ⟨.inl rfl, path, fun _ _ => position.extended, fun _ => last done⟩
  · rw [if_neg (by rw [segments]; simpa using done)]
    refine .on known (.entering rfl (whole.trans (by simp)) done
      ⟨position.1, position.2, position.3⟩) (by simp) ?_
    simp only [CFtpMkdirOpData.left, segments, length_reverse]
    omega

theorem parseMkdsub_goes (good : Good names) (state : op.opState = .mkdsub)
    (whole : names = above ++ below) (more : below ≠ []) (position : At above below op)
    (working : server.working = above) (known : Known currentPath_ server)
    (answered : server.answered allowed (.mkd (op.segments_.getLastD [])) response = some next) :
    Goes names shownAsFile (op.left - 1)
      (op.parseMkdsub (shownAsFile op.currentMkdPath_ (op.segments_.getLastD [])) response).1
      (op.parseMkdsub (shownAsFile op.currentMkdPath_ (op.segments_.getLastD [])) response).2
      currentPath_ next := by
  obtain ⟨name, rest, rfl⟩ := exists_cons_of_ne_nil more
  have segments : op.segments_ = rest.reverse ++ [name] :=
    position.segments.trans reverse_cons
  have back : op.segments_.getLastD [] = name := by
    rw [segments]
    simp
  have left : op.left - 1 = 2 * rest.length + 1 := by
    simp only [CFtpMkdirOpData.left, state, segments, length_append, length_reverse,
      length_singleton]
    omega
  have started : op.opState ≠ .init := by
    rw [state]
    decide
  have failed (known : Known currentPath_ next) :
      Goes names shownAsFile (2 * rest.length + 1) .error op currentPath_ next :=
    .ended known ⟨.inr rfl, position.path.trans (by rw [whole]), fun _ _ => position.extended,
      fun ok => absurd ok (by decide)⟩
  -- What is done for a segment that the server has.
  have advanced : At (above ++ [name]) rest
      { op with
        currentMkdPath_ := (op.currentMkdPath_.addSegment name).getD op.currentMkdPath_
        segments_ := op.segments_.dropLast } := by
    refine ⟨?_, ?_, ?_⟩
    · exact position.path.trans (by simp)
    · rw [position.current, addSegment_unixPath, Option.getD_some]
    · rw [segments, dropLast_concat]
  have goodName : GoodSegment .unix name := good name (by simp [whole])
  rw [back] at answered ⊢
  rw [left]
  unfold CFtpMkdirOpData.parseMkdsub
  rw [if_neg (by rw [segments]; simp), back]
  have target : server.target name = above ++ [name] := by
    rw [target_name server goodName, working]
  have entry (last : rest = []) : names = above ++ [name] := by
    rw [whole, last]
  rcases answered_mkd answered with ⟨success, kept, directory⟩ | ⟨failure, rfl, present⟩ |
    ⟨failure, rfl, untold⟩
  · have known : Known currentPath_ next := by
      unfold Known at known ⊢
      rwa [kept]
    simp only [success, Bool.not_true, Bool.false_and, Bool.false_eq_true, if_false]
    refine made_goes whole advanced started known fun last => .inl ?_
    rw [entry last, ← target]
    exact directory
  · simp only [failure, Bool.not_false, Bool.true_and]
    split
    case isTrue => exact failed known
    case isFalse =>
      split
      case isTrue => exact failed known
      case isFalse unknown =>
        refine made_goes whole advanced started known fun last => ?_
        rw [target, ← entry last] at present
        cases kind : next.tree.kind names with
        | none => exact absurd kind present
        | some entryKind =>
          cases entryKind with
          | directory => exact .inl kind
          | file =>
            refine .inr ⟨kind, ?_⟩
            rw [entry last, getParent_concat, getLastSegment_concat, ← position.current]
            exact Bool.eq_false_iff.mpr unknown
  · have unsaid : CFtpMkdirOpData.isAlreadyExistsResponse response op.path_ = false := by
      refine Bool.eq_false_iff.mpr fun said => ?_
      rw [tellsExisting_of_isAlreadyExists said] at untold
      cases untold
    simp only [failure, unsaid, Bool.not_false, Bool.and_self, if_true]
    exact failed known

theorem parseResponse_goes (good : Good names) (ready : Ready names op server)
    (started : op.opState ≠ .init) (known : Known currentPath_ server)
    (answered : server.answered allowed op.pending response = some next) :
    Goes names shownAsFile (op.left - 1) (op.parseResponse shownAsFile currentPath_ response).1
      (op.parseResponse shownAsFile currentPath_ response).2.1
      (op.parseResponse shownAsFile currentPath_ response).2.2 next := by
  unfold CFtpMkdirOpData.pending at answered
  unfold CFtpMkdirOpData.parseResponse
  cases ready with
  | start state => exact absurd state started
  | finding state whole more position =>
    rw [state] at answered ⊢
    exact parseFindparent_goes good state whole more position known answered
  | making state whole more position working =>
    rw [state] at answered ⊢
    exact parseMkdsub_goes good state whole more position working known answered
  | @entering above below state whole more position =>
    rw [state] at answered ⊢
    have left : op.left = 2 * below.length + 1 := by
      simp [CFtpMkdirOpData.left, state, position.segments]
    have some := length_pos_iff.mpr more
    have goodAbove : Good above := by
      rw [whole] at good
      exact good.left
    rw [left]
    dsimp only
    rcases cwd_answered goodAbove position answered with ⟨success, working⟩ | ⟨failure, rfl⟩
    · rw [if_pos success]
      refine .on (.inr ?_) (.making rfl whole more ⟨position.1, position.2, position.3⟩ working)
        (by simp) ?_
      · rw [position.current, working]
      · simp [CFtpMkdirOpData.left, position.segments]
    · rw [if_neg (Bool.eq_false_iff.mp failure)]
      refine .on known (.full rfl (position.path.trans (by rw [whole]))
        fun _ => position.extended) (by simp) ?_
      simp only [CFtpMkdirOpData.left]
      omega
  | full state path extended =>
    rw [state] at answered ⊢
    dsimp only at answered ⊢
    have target : server.target op.path_.getPath = names := by
      rw [path, target_getPath server good]
    rcases answered_mkd answered with ⟨success, kept, directory⟩ | ⟨failure, rfl, -⟩ |
      ⟨failure, rfl, -⟩
    · rw [if_pos success]
      have known : Known currentPath_ next := by
        unfold Known at known ⊢
        rwa [kept]
      rw [target] at directory
      exact .ended known ⟨.inl rfl, path, fun _ => extended, fun _ => .inl directory⟩
    all_goals
      rw [if_neg (Bool.eq_false_iff.mp failure)]
      exact .ended known ⟨.inr rfl, path, fun _ => extended, fun ok => absurd ok (by decide)⟩

end Calls

open Session

section Runs

variable (names : List WString) (shownAsFile : CServerPath → WString → Bool)

inductive Standing (op : CFtpMkdirOpData) (server : ServerState) : Phase → Prop
  | sending (ready : Ready names op server) : Standing op server .sending
  | awaiting (ready : Ready names op server) (started : op.opState ≠ .init) :
      Standing op server (.awaiting op.pending)
  | done {code : Code} (ended : Ended names shownAsFile code op server) :
      Standing op server (.done code)

/-- How many commands may still be sent in a phase -/
def Phase.left (op : CFtpMkdirOpData) : Phase → Nat
  | sending => op.left
  | awaiting _ => op.left - 1
  | done _ => 0

def Phase.stepsLeft (op : CFtpMkdirOpData) : Phase → Nat
  | sending => 2 * op.left + (if op.opState = .init then 1 else 0)
  | awaiting _ => 2 * (op.left - 1) + 1
  | done _ => 0

structure Held (taken : Nat) (self : Session) : Prop where
  known : Known self.currentPath_ self.server
  standing : Standing names shownAsFile self.op self.server self.phase
  commands : self.commands.length + self.phase.left self.op ≤ 3 * names.length + 1
  steps : taken + self.phase.stepsLeft self.op ≤ 6 * names.length + 3

variable {names shownAsFile}
  {allowed : List WString → Bool} {self next : Session} {taken budget : Nat}

theorem Ready.left_pos {op : CFtpMkdirOpData} {server : ServerState}
    (ready : Ready names op server) : 0 < op.left := by
  cases ready with
  | start state => simp [CFtpMkdirOpData.left, state]
  | finding state => simp [CFtpMkdirOpData.left, state]
  | making state _ more position =>
    have some := length_pos_iff.mpr more
    simp only [CFtpMkdirOpData.left, state, position.segments, length_reverse]
    omega
  | entering state => simp [CFtpMkdirOpData.left, state]
  | full state => simp [CFtpMkdirOpData.left, state]

open Phase

theorem Goes.held {code : Code} {op : CFtpMkdirOpData} {currentPath_ : CServerPath}
    {server : ServerState} {commands : List Command}
    (goes : Goes names shownAsFile budget code op currentPath_ server)
    (sent : commands.length + budget ≤ 3 * names.length + 1)
    (steps : taken + 2 * budget ≤ 6 * names.length + 3) :
    Held names shownAsFile taken
      { op, currentPath_, server, phase := Phase.next code, commands } := by
  cases goes with
  | on known ready started less =>
    refine ⟨known, .sending ready, ?_, ?_⟩
    · simp only [Phase.next, left]
      omega
    · simp only [Phase.next, stepsLeft, if_neg started]
      omega
  | ended known ended =>
    have phase : next code = .done code := by
      rcases ended.result with rfl | rfl <;> rfl
    rw [phase]
    exact ⟨known, .done ended, Nat.le_of_add_right_le sent, Nat.le_of_add_right_le steps⟩

theorem send_pending {op : CFtpMkdirOpData} (started : op.opState ≠ .init)
    (currentPath_ : CServerPath) :
    ∃ current, op.send false currentPath_ = (.command op.pending, op, current) ∧
      (current = currentPath_ ∨ current = currentPath_.clear) := by
  unfold CFtpMkdirOpData.send CFtpMkdirOpData.pending
  rw [if_neg (by decide)]
  cases state : op.opState with
  | init => exact absurd state started
  | findparent => exact ⟨_, rfl, .inr rfl⟩
  | mkdsub => exact ⟨_, rfl, .inl rfl⟩
  | cwdsub => exact ⟨_, rfl, .inr rfl⟩
  | tryfull => exact ⟨_, rfl, .inl rfl⟩

theorem send_held (held : Held names shownAsFile taken self)
    (sent : self.step allowed shownAsFile .send = some next) :
    Held names shownAsFile (taken + 1) next := by
  obtain ⟨op, currentPath_, server, phase, commands⟩ := self
  obtain ⟨known, standing, count, steps⟩ := held
  dsimp only at known standing count steps
  cases standing with
  | awaiting ready started => cases sent
  | done ended => cases sent
  | sending ready =>
    simp only [left, stepsLeft] at count steps
    simp only [step] at sent
    by_cases started : op.opState = .init
    · have init : op.send false currentPath_ =
          (.result (op.sendInit currentPath_).1, (op.sendInit currentPath_).2, currentPath_) := by
        rw [CFtpMkdirOpData.send, if_neg (by decide), started]
      rw [init] at sent
      cases sent
      rw [if_pos started] at steps
      cases ready with
      | start state path unfilled =>
        exact (sendInit_goes state path unfilled known).held count (by omega)
      | finding state => cases state.symm.trans started
      | making state => cases state.symm.trans started
      | entering state => cases state.symm.trans started
      | full state => cases state.symm.trans started
    · obtain ⟨current, call, place⟩ := send_pending started currentPath_
      rw [call] at sent
      cases sent
      have positive := ready.left_pos
      rw [if_neg started] at steps
      refine ⟨?_, .awaiting ready started, ?_, ?_⟩
      · rcases place with same | cleared
        · rw [same]
          exact known
        · rw [cleared]
          exact .inl rfl
      · simp only [left, length_append, length_singleton]
        omega
      · simp only [stepsLeft]
        omega

theorem reply_held {response : WString} (good : Good names)
    (held : Held names shownAsFile taken self)
    (replied : self.step allowed shownAsFile (.reply response) = some next) :
    Held names shownAsFile (taken + 1) next := by
  obtain ⟨op, currentPath_, server, phase, commands⟩ := self
  obtain ⟨known, standing, count, steps⟩ := held
  dsimp only at known standing count steps
  cases standing with
  | sending ready => cases replied
  | done ended => cases replied
  | awaiting ready started =>
    simp only [left, stepsLeft] at count steps
    simp only [step] at replied
    obtain ⟨after, answered, rfl⟩ := Option.map_eq_some_iff.mp replied
    exact (parseResponse_goes good ready started known answered).held count (by omega)

theorem start_held {path currentPath_ : CServerPath} {server : ServerState}
    (path_ : path = unixPath names) (known : Known currentPath_ server) :
    Held names shownAsFile 0 { op := { path_ := path }, currentPath_, server } := by
  refine ⟨known, .sending (.start rfl path_ rfl), ?_, ?_⟩
  · simp [left, CFtpMkdirOpData.left, path_]
  · simp [stepsLeft, CFtpMkdirOpData.left, path_]
    omega

theorem run_held {start : Session} {trace : List (Session × Event)} (good : Good names)
    (held : Held names shownAsFile 0 start)
    (run : Run (step allowed shownAsFile) start trace self) :
    Held names shownAsFile trace.length self := by
  induction run with
  | refl => exact held
  | @step trace state next event _ taken induction =>
    rw [length_append, length_singleton]
    cases event with
    | send => exact send_held induction taken
    | reply response => exact reply_held good induction taken

end Runs

structure MakesDirectory (allowed : List WString → Bool)
    (shownAsFile : CServerPath → WString → Bool) (path : CServerPath)
    (trace : List (Session × Event)) (self : Session) : Prop where
  commands : self.commands.length ≤ 3 * path.segments.length + 1
  steps : trace.length ≤ 6 * path.segments.length + 3
  /-- Before the end there is always a next step. -/
  goesOn : (∃ code, (code = .ok ∨ code = .error) ∧ self.phase = .done code) ∨
    ∃ event next, self.step allowed shownAsFile event = some next
  extended : self.op.path_ = path ∧
    (self.op.opState ≠ .init → path.hasParent = true → Extended self.op)
  relative : self.op.opState = .mkdsub → (∀ code, self.phase ≠ .done code) →
    self.op.currentMkdPath_ = unixPath self.server.working
  made : self.phase = .done .ok → Made path.segments shownAsFile self.server

theorem Ready.path {names : List WString} {op : CFtpMkdirOpData} {server : ServerState}
    (ready : Ready names op server) : op.path_ = unixPath names := by
  cases ready with
  | start _ path _ => exact path
  | finding _ whole _ position => exact position.path.trans (by rw [whole])
  | making _ whole _ position => exact position.path.trans (by rw [whole])
  | entering _ whole _ position => exact position.path.trans (by rw [whole])
  | full _ path _ => exact path

theorem Ready.extended {names : List WString} {op : CFtpMkdirOpData} {server : ServerState}
    (ready : Ready names op server) (started : op.opState ≠ .init) (some : names ≠ []) :
    Extended op := by
  cases ready with
  | start state => exact absurd state started
  | finding _ _ _ position => exact position.extended
  | making _ _ _ position => exact position.extended
  | entering _ _ _ position => exact position.extended
  | full _ _ extended => exact extended some

theorem Ready.relative {names : List WString} {op : CFtpMkdirOpData} {server : ServerState}
    (ready : Ready names op server) (relative : op.opState = .mkdsub) :
    op.currentMkdPath_ = unixPath server.working := by
  cases ready with
  | start state => cases state.symm.trans relative
  | finding state => cases state.symm.trans relative
  | making _ _ _ position working => rw [position.current, working]
  | entering state => cases state.symm.trans relative
  | full state => cases state.symm.trans relative

theorem Held.makesDirectory {names : List WString} {shownAsFile : CServerPath → WString → Bool}
    {allowed : List WString → Bool} {trace : List (Session × Event)} {self : Session}
    (held : Held names shownAsFile trace.length self) :
    MakesDirectory allowed shownAsFile (unixPath names) trace self := by
  obtain ⟨op, currentPath_, server, phase, commands⟩ := self
  obtain ⟨known, standing, count, steps⟩ := held
  dsimp only at known standing count steps
  have some (parent : (unixPath names).hasParent = true) : names ≠ [] := by
    rintro rfl
    cases parent
  have sent := Nat.le_of_add_right_le count
  have few := Nat.le_of_add_right_le steps
  cases standing with
  | sending ready =>
    refine ⟨sent, few, .inr ?_, ⟨ready.path, fun started parent => ?_⟩, ?_, ?_⟩
    · rcases call : op.send false currentPath_ with ⟨code | command, after, current⟩
      · exact ⟨.send, _, by simp only [step, call]; rfl⟩
      · exact ⟨.send, _, by simp only [step, call]; rfl⟩
    · exact ready.extended started (some parent)
    · exact fun relative _ => ready.relative relative
    · exact fun done => absurd done (by simp)
  | awaiting ready started =>
    refine ⟨sent, few, .inr ?_, ⟨ready.path, fun _ parent => ?_⟩, ?_, ?_⟩
    · obtain ⟨response, next, answered⟩ := exists_answer allowed server op.pending
      exact ⟨.reply response, _, by simp only [step, answered, Option.map_some]; rfl⟩
    · exact ready.extended started (some parent)
    · exact fun relative _ => ready.relative relative
    · exact fun done => absurd done (by simp)
  | @done code ended =>
    refine ⟨sent, few, .inl ⟨code, ended.result, rfl⟩,
      ⟨ended.path, fun started parent => ended.extended started (some parent)⟩, ?_, ?_⟩
    · exact fun _ going => absurd rfl (going code)
    · intro done
      cases done
      exact ended.made rfl

/-- The session before the first call, with a current path that is known or not -/
def Session.start (path currentPath_ : CServerPath) (server : ServerState) : Session where
  op := { path_ := path }
  currentPath_
  server

theorem run_makesDirectory {allowed : List WString → Bool}
    {shownAsFile : CServerPath → WString → Bool} {path currentPath_ : CServerPath}
    {server : ServerState} {trace : List (Session × Event)} {self : Session}
    (unix : path.type = .unix) (filled : path.empty = false)
    (wellFormed : ∀ data ∈ path.data, CServerPath.WellFormed path.type data)
    (known : Known currentPath_ server)
    (run : Run (step allowed shownAsFile) (start path currentPath_ server)
      trace self) :
    MakesDirectory allowed shownAsFile path trace self := by
  obtain ⟨_ | ⟨names, volume⟩, type⟩ := path
  · cases filled
  · dsimp only at unix
    subst unix
    have good := wellFormed _ rfl
    have unprefixed : volume = none := good.volume
    subst unprefixed
    exact (run_held good.segments (start_held rfl known) run).makesDirectory

def exampleServer : ServerState where
  tree :=
    { kind := fun path =>
        if path = [] ∨ path = [wide "pub"] then some .directory
        else if path = [wide "note"] then some .file
        else none
      top := rfl
      closed := by
        intro path name entry
        cases path with
        | nil => rfl
        | cons first rest => simp at entry }
  working := []
  inside := rfl

theorem run_makesDirectory_example :
    ∃ trace self, self.phase = .done .ok ∧
      MakesDirectory (fun _ => true) (fun _ _ => false)
        (unixPath [wide "pub", wide "a", wide "b"]) trace self := by
  obtain ⟨trace, self, run, done⟩ :=
    @exists_run_of_execute _ _ (step (fun _ => true) (fun _ _ => false))
      (start (unixPath [wide "pub", wide "a", wide "b"]) (unixPath []) exampleServer)
      [.send, .send, .reply (wide "550 Failed"), .send, .reply (wide "250 OK"),
        .send, .reply (wide "257 Created"), .send, .reply (wide "250 OK"),
        .send, .reply (wide "257 Created")]
      (fun _ self => decide (self.phase = .done .ok)) (by decide)
  refine ⟨trace, self, of_decide_eq_true done, ?_⟩
  have known : Known (unixPath []) exampleServer := .inr rfl
  refine run_makesDirectory rfl rfl ?_ known run
  rintro data ⟨rfl⟩
  refine ⟨⟨?_, rfl⟩, fun rootless => absurd rootless (by decide)⟩
  intro segment member
  refine CServerPath.goodSegment_of_other (by decide) ?_ ?_ ?_
  all_goals
    revert segment
    decide

/-- The server answers that there is an entry of this name, which is a file; and the path of the
top, which has no parent, is sent as it is. -/
theorem run_makesDirectory_fails :
    (∃ trace self, Run (step (fun _ => true) (fun _ _ => false))
        (start (unixPath [wide "note"]) (unixPath []) exampleServer) trace self ∧
      self.phase = .done .ok ∧ ¬self.server.tree.IsDirectory [wide "note"]) ∧
    ∃ trace self, Run (step (fun _ => true) (fun _ _ => false))
        (start (unixPath []) .none exampleServer) trace self ∧
      self.phase = .sending ∧ self.op.opState = .tryfull ∧ ¬Extended self.op := by
  constructor
  · obtain ⟨trace, self, run, file⟩ :=
      @exists_run_of_execute _ _ (step (fun _ => true) (fun _ _ => false))
        (start (unixPath [wide "note"]) (unixPath []) exampleServer)
        [.send, .send, .reply (wide "550 note: already exists")]
        (fun _ self => decide (self.phase = .done .ok ∧
          ¬self.server.tree.IsDirectory [wide "note"])) (by decide)
    exact ⟨trace, self, run, of_decide_eq_true file⟩
  · obtain ⟨trace, self, run, whole⟩ :=
      @exists_run_of_execute _ _ (step (fun _ => true) (fun _ _ => false))
        (start (unixPath []) .none exampleServer) [.send]
        (fun _ self => decide (self.phase = .sending ∧ self.op.opState = .tryfull ∧
          ¬Extended self.op)) (by decide)
    exact ⟨trace, self, run, of_decide_eq_true whole⟩

end FtpMkdir

end FileZilla
