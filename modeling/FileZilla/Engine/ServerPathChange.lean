import FileZilla.Guards
import FileZilla.Engine.ServerPath
import FileZilla.Pieces

namespace FileZilla

open List Option

namespace CServerPath

def volume (path : CServerPath) : Option WString :=
  path.data.bind (·.pathPrefix)

def getParent (path : CServerPath) : CServerPath :=
  path.makeParent

variable (type : ServerType)

/-- `SegmentizeAddSegment`; the flag tells that the next segment is appended to the last one. -/
def segmentizeAddSegment (segments : List WString × Bool)
    (segment : WString) : List WString × Bool :=
  let self := traits type
  if self.hasDots = true ∧ segment = wide "." then segments
  else if self.hasDots = true ∧ segment = wide ".." then (segments.1.dropLast, segments.2)
  else
    let appendNext := self.separatorEscape.isSome && segment.getLast? == self.separatorEscape
    let segment := if appendNext then segment.dropLast ++ self.separators.take 1 else segment
    if segments.2 then
      (segments.1.dropLast ++ [segments.1.getLastD [] ++ segment], appendNext)
    else (segments.1 ++ [segment], appendNext)

/-- `Segmentize`; it skips empty segments and fails if one is still to be appended. -/
def segmentize (text : WString) (segments : List WString) :
    Option (List WString) :=
  let result := (piecesBetween (isSeparator type) text).foldl (segmentizeAddSegment type)
    (segments, false)
  if result.2 then .none else .some result.1

/-- `ExtractFile`: the directory and the file -/
def extractFile (dir : WString) : Option (WString × WString) :=
  let rest := dir.rdropWhile fun char => !isSeparator type char
  let file := dir.rtakeWhile fun char => !isSeparator type char
  if rest ≠ [] ∧ file = [] then .none else .some (rest, file)

def rfind (char : WChar) (text : WString) : Option Nat :=
  (text.reverse.findIdx? (· == char)).map (text.length - 1 - ·)

/-- What a branch of `DoChangePath` has found: the path before the remaining text `dir` is
added to it, and the file. -/
structure Change where
  data : CServerPathData
  dir : WString
  file : WString := []

def splitFile (isFile : Bool) (data : CServerPathData) (dir : WString) :
    Option Change :=
  if isFile then (extractFile type dir).map fun (dir, file) => { data, dir, file }
  else .some { data, dir }

variable (wasEmpty : Bool) (data : CServerPathData)

def changeVms (dir : WString) (isFile : Bool) :
    Option Change :=
  match dir.findIdx? (· == '['.toNat) with
  | .none =>
    if (rfind ']'.toNat dir).isSome then .none
    else if isFile then if wasEmpty then .none else .some { data, dir := [], file := dir }
    else .some { data, dir }
  | .some pos1 =>
    match rfind ']'.toNat dir with
    | .none => .none
    | .some pos2 =>
      if pos2 ≤ pos1 + 1 then .none
      else if isFile = decide (pos2 = dir.length - 1) then .none
      else
        .some {
          data := {
            segments := []
            pathPrefix := if pos1 ≠ 0 then .some (dir.take pos1) else data.pathPrefix }
          dir := (dir.take pos2).drop (pos1 + 1)
          file := if isFile then dir.drop (pos2 + 1) else [] }

def dosDrive (dir : WString) :
    Option (WString × Bool) :=
  let sep := (dir.findIdx? (isSeparator type)).getD dir.length
  match dir.findIdx? (· == ':'.toNat) with
  | .none => .some (dir, false)
  | .some colon =>
    if colon = 0 ∨ sep < colon then .none
    else if colon + 1 < sep then
      -- relative to the last working dir of the given drive
      if data.segments.head? = .some (dir.take (colon + 1)) then
        .some (dir.drop (colon + 1), false)
      else .none
    else .some (dir, colon + 1 == sep)

def changeDos (dir : WString) (isFile : Bool) :
    Option Change :=
  match dosDrive type data dir with
  | .none => .none
  | .some (dir, isAbsolute) =>
    if isAbsolute then splitFile type isFile { data with segments := [] } dir
    else if isSeparator type (dir.headD 0) then
      -- relative to the root of the current drive
      match data.segments with
      | [] => .none
      | first :: _ => splitFile type isFile { data with segments := [first] } (dir.drop 1)
    else splitFile type isFile data dir

def mvsDoubleQuote : WChar := 0xDC

/-- The text without the quotation that some servers send in the reply to PWD -/
def withoutDoubleQuotes (dir : WString) : WString :=
  (dir.dropWhile (· == mvsDoubleQuote)).rdropWhile (· == mvsDoubleQuote)

/-- The end of the branch for MVS, with or without a member of a partitioned dataset -/
def mvsMember (dir : WString) (isFile : Bool) :
    Option Change :=
  if dir.getLast? = .some ')'.toNat then
    if !isFile then .none
    else
      match dir.findIdx? (· == '('.toNat) with
      | .none => .none
      | .some pos =>
        if !wasEmpty && data.pathPrefix.isNone && !(dir.take pos).isEmpty then .none
        else
          .some {
            data := { data with pathPrefix := .none }
            dir := dir.take pos
            file := dir.dropLast.drop (pos + 1) }
  else if !wasEmpty && data.pathPrefix.isNone && (dir.contains '.'.toNat || !isFile) then .none
  else if isFile then splitFile .mvs true { data with pathPrefix := .some (wide ".") } dir
  else if dir.getLast? = .some '.'.toNat then
    .some { data := { data with pathPrefix := .some (wide ".") }, dir }
  else .some { data := { data with pathPrefix := .none }, dir }

def changeMvs (dir : WString) (isFile : Bool) :
    Option Change :=
  let dir := withoutDoubleQuotes dir
  if dir = [] then .none
  else if dir.head? = .some '\''.toNat then
    if dir.getLast? = .some '\''.toNat then
      mvsMember wasEmpty { data with segments := [] } (dir.drop 1).dropLast isFile
    else .none
  else if dir.getLast? = .some '\''.toNat then .none
  else if wasEmpty then .none
  else mvsMember wasEmpty data dir isFile

def changeHpNonstop (dir : WString) (isFile : Bool) : Option Change :=
  if dir.head? = .some '\\'.toNat then
    splitFile .hpnonstop isFile { data with segments := [] } dir
  else splitFile .hpnonstop isFile data dir

def changeVxworks (dir : WString) (isFile : Bool) :
    Option Change :=
  if dir.head? ≠ .some ':'.toNat then
    if wasEmpty then .none else splitFile .vxworks isFile data dir
  else
    match (dir.drop 1).findIdx? (· == ':'.toNat) with
    | .none => .none
    | .some length =>
      if length = 0 then .none
      else
        splitFile .vxworks isFile { segments := [], pathPrefix := .some (dir.take (length + 2)) }
          (dir.drop (length + 2))

def changeCygwin (dir : WString) (isFile : Bool) :
    Option Change :=
  if isSeparator .cygwin (dir.headD 0) then
    if dir[1]? = .some '/'.toNat then
      splitFile .cygwin isFile { segments := [], pathPrefix := .some (wide "/") } (dir.drop 1)
    else splitFile .cygwin isFile { segments := [], pathPrefix := .none } dir
  else if wasEmpty then .none
  else splitFile .cygwin isFile data dir

def changeDefault (wasEmpty : Bool) (data : CServerPathData)
    (dir : WString) (isFile : Bool) : Option Change :=
  if isSeparator type (dir.headD 0) then splitFile type isFile { data with segments := [] } dir
  else if wasEmpty then .none
  else splitFile type isFile data dir

/-- The branches of `DoChangePath`. That some of them check for a missing segment is left
out: the types they are for have no root, and the check after them covers it. -/
def findChange (wasEmpty : Bool) (data : CServerPathData) (dir : WString)
    (isFile : Bool) : Option Change :=
  match type with
  | .vms => changeVms wasEmpty data dir isFile
  | .dos | .dosFwdSlashes => changeDos type data dir isFile
  | .mvs => changeMvs wasEmpty data dir isFile
  | .hpnonstop => changeHpNonstop data dir isFile
  | .vxworks => changeVxworks wasEmpty data dir isFile
  | .cygwin => changeCygwin wasEmpty data dir isFile
  | .unix | .zvm | .dosVirtual => changeDefault type wasEmpty data dir isFile

/-- What `m_data.get()` makes of a path without data -/
def noData : CServerPathData where
  segments := []
  pathPrefix := .none

/-- `DoChangePath`: the path and the file that it leaves if it succeeds -/
def changePath (self : CServerPath) (subdir : WString) (isFile : Bool := false) :
    Option (CServerPath × WString) :=
  if subdir = [] then if self.empty || isFile then .none else .some (self, subdir)
  else
    (findChange self.type self.empty (self.data.getD noData) subdir isFile).bind fun change =>
      (segmentize self.type change.dir change.data.segments).bind fun segments =>
        if (traits self.type).hasRoot = false ∧ segments = [] then .none
        else if isFile = true ∧ (traits self.type).hasDots = true ∧
            (change.file = wide ".." ∨ change.file = wide ".") then .none
        else
          .some ({ self with data := .some { change.data with segments } },
            if isFile then change.file else subdir)

def setPath (self : CServerPath) (newPath : WString) (isFile : Bool := false) :
    Option (CServerPath × WString) :=
  if newPath = [] then .none else self.clear.changePath newPath isFile

inductive Obtained : CServerPath → Prop
  | empty (type : ServerType) : Obtained { data := .none, type }
  | setPath {path next : CServerPath} {newPath file : WString} {isFile : Bool}
      (obtained : Obtained path) (set : path.setPath newPath isFile = .some (next, file)) :
      Obtained next
  | changePath {path next : CServerPath} {subdir file : WString} {isFile : Bool}
      (obtained : Obtained path) (changed : path.changePath subdir isFile = .some (next, file)) :
      Obtained next
  | getParent {path : CServerPath} (obtained : Obtained path) : Obtained path.getParent

structure GoodSegment (type : ServerType) (segment : WString) : Prop where
  filled : segment ≠ []
  noDots : (traits type).hasDots = true → segment ≠ wide "." ∧ segment ≠ wide ".."
  whole : ∀ escape ∈ (traits type).separatorEscape, segment.getLast? ≠ .some escape
  clean : (traits type).separatorEscape = .none → ∀ char ∈ segment, isSeparator type char = false

variable {type : ServerType}

theorem separatorEscape_eq_none (other : type ≠ .vms) :
    (traits type).separatorEscape = .none := by
  cases type <;> first | rfl | exact absurd rfl other

variable {segment : WString}

theorem goodSegment_vms :
    GoodSegment .vms segment ↔ segment ≠ [] ∧ segment.getLast? ≠ .some '^'.toNat := by
  constructor
  · exact fun good => ⟨good.filled, good.whole _ rfl⟩
  · rintro ⟨filled, whole⟩
    refine ⟨filled, fun dots => absurd dots (by decide), ?_, fun none => absurd none (by decide)⟩
    rintro escape ⟨⟩
    exact whole

theorem goodSegment_of_other (other : type ≠ .vms) (filled : segment ≠ [])
    (noDots : (traits type).hasDots = true → segment ≠ wide "." ∧ segment ≠ wide "..")
    (clean : ∀ char ∈ segment, isSeparator type char = false) : GoodSegment type segment := by
  refine ⟨filled, noDots, ?_, fun _ => clean⟩
  rw [separatorEscape_eq_none other]
  exact fun escape isEscape => absurd isEscape (by simp)

/-- Without an escape character a segment is added, ignored or taken as going up. -/
def addComponent (hasDots : Bool) (segments : List WString) (segment : WString) :
    List WString :=
  if hasDots = true ∧ segment = wide "." then segments
  else if hasDots = true ∧ segment = wide ".." then segments.dropLast
  else segments ++ [segment]

theorem segmentizeAddSegment_plain (other : type ≠ .vms) (segments : List WString)
    (segment : WString) :
    segmentizeAddSegment type (segments, false) segment =
      (addComponent (traits type).hasDots segments segment, false) := by
  simp only [segmentizeAddSegment, addComponent, separatorEscape_eq_none other,
    isSome_none, Bool.false_and, Bool.false_eq_true, if_false]
  split
  case isTrue => rfl
  case isFalse => split <;> rfl

theorem segmentize_plain (other : type ≠ .vms) (text : WString) (segments : List WString) :
    segmentize type text segments = .some ((piecesBetween (isSeparator type) text).foldl
        (addComponent (traits type).hasDots) segments) := by
  have folded : ∀ pieces segments,
      foldl (segmentizeAddSegment type) (segments, false) pieces =
        (foldl (addComponent (traits type).hasDots) segments pieces, false) := by
    intro pieces
    induction pieces with
    | nil => exact fun _ => rfl
    | cons piece pieces induction =>
      intro segments
      rw [foldl_cons, segmentizeAddSegment_plain other, induction]
      rfl
  rw [segmentize, folded]
  rfl

theorem segmentizeAddSegment_of_good (good : GoodSegment type segment) (segments : List WString) :
    segmentizeAddSegment type (segments, false) segment = (segments ++ [segment], false) := by
  have single : ¬ ((traits type).hasDots = true ∧ segment = wide ".") :=
    fun ⟨dots, same⟩ => (good.noDots dots).1 same
  have double : ¬ ((traits type).hasDots = true ∧ segment = wide "..") :=
    fun ⟨dots, same⟩ => (good.noDots dots).2 same
  have whole : ((traits type).separatorEscape.isSome &&
      segment.getLast? == (traits type).separatorEscape) = false := by
    cases escape : (traits type).separatorEscape with
    | none => rfl
    | some char =>
      rw [isSome_some, Bool.true_and]
      exact beq_eq_false_iff_ne.mpr (good.whole char escape)
  simp only [segmentizeAddSegment, if_neg single, if_neg double, whole]
  rfl

theorem segmentize_of_good {text : WString}
    (good : ∀ piece ∈ piecesBetween (isSeparator type) text, GoodSegment type piece)
    (segments : List WString) :
    segmentize type text segments =
      .some (segments ++ piecesBetween (isSeparator type) text) := by
  have folded : ∀ pieces, (∀ piece ∈ pieces, GoodSegment type piece) → ∀ segments,
      foldl (segmentizeAddSegment type) (segments, false) pieces =
        (segments ++ pieces, false) := by
    intro pieces
    induction pieces with
    | nil => exact fun _ segments => by rw [append_nil]; rfl
    | cons piece pieces induction =>
      intro good segments
      rw [foldl_cons, segmentizeAddSegment_of_good (good piece mem_cons_self),
        induction (fun piece member => good piece (mem_cons_of_mem _ member)),
        append_assoc]
      rfl
  rw [segmentize, folded _ good]
  rfl

variable {segments : List WString}

theorem addComponent_good (other : type ≠ .vms)
    (good : ∀ segment ∈ segments, GoodSegment type segment) (filled : segment ≠ [])
    (clean : ∀ char ∈ segment, isSeparator type char = false) :
    ∀ added ∈ addComponent (traits type).hasDots segments segment, GoodSegment type added := by
  unfold addComponent
  split
  case isTrue => exact good
  case isFalse notSelf =>
    split
    case isTrue => exact fun added member => good added (dropLast_subset _ member)
    case isFalse notParent =>
      intro added member
      rcases mem_append.mp member with earlier | last
      · exact good added earlier
      · rw [mem_singleton.mp last]
        exact goodSegment_of_other other filled
          (fun dots => ⟨fun same => notSelf ⟨dots, same⟩, fun same => notParent ⟨dots, same⟩⟩)
          clean

theorem segmentizeAddSegment_vms {segments : List WString × Bool}
    (good : ∀ segment ∈ segments.1, GoodSegment .vms segment) (filled : segment ≠ []) :
    ∀ added ∈ (segmentizeAddSegment .vms segments segment).1, GoodSegment .vms added := by
  have last : ∀ {earlier : WString}, (earlier ++ (if ((traits .vms).separatorEscape.isSome &&
      segment.getLast? == (traits .vms).separatorEscape) = true
      then segment.dropLast ++ (traits .vms).separators.take 1 else segment)).getLast? ≠
        .some '^'.toNat := by
    intro earlier
    split
    case isTrue =>
      rw [← append_assoc]
      change (_ ++ ['.'.toNat]).getLast? ≠ _
      rw [getLast?_concat]
      decide
    case isFalse plain =>
      rw [getLast?_append_of_ne_nil _ filled]
      intro same
      exact plain (by rw [same]; rfl)
  have nonempty : ∀ {text : WString}, text.getLast? ≠ .some '^'.toNat →
      (text ≠ [] → GoodSegment .vms text) := fun ends filled => goodSegment_vms.mpr ⟨filled, ends⟩
  have filledAgain : (if ((traits .vms).separatorEscape.isSome &&
      segment.getLast? == (traits .vms).separatorEscape) = true
      then segment.dropLast ++ (traits .vms).separators.take 1 else segment) ≠ [] := by
    split
    case isTrue => exact append_ne_nil_of_right_ne_nil _ (by decide)
    case isFalse => exact filled
  intro added member
  have noDots : (traits .vms).hasDots = false := rfl
  simp only [segmentizeAddSegment, noDots, Bool.false_eq_true, false_and, if_false] at member
  split at member
  case isTrue =>
    rcases mem_append.mp member with earlier | new
    · exact good added (dropLast_subset _ earlier)
    · rw [mem_singleton.mp new]
      exact nonempty last (append_ne_nil_of_right_ne_nil _ filledAgain)
  case isFalse =>
    rcases mem_append.mp member with earlier | new
    · exact good added earlier
    · rw [mem_singleton.mp new]
      exact nonempty (@last []) filledAgain

theorem segmentize_good {text : WString} {next : List WString}
    (good : ∀ segment ∈ segments, GoodSegment type segment)
    (segmentized : segmentize type text segments = .some next) :
    ∀ segment ∈ next, GoodSegment type segment := by
  have pieces : ∀ piece ∈ piecesBetween (isSeparator type) text,
      piece ≠ [] ∧ ∀ char ∈ piece, isSeparator type char = false := fun piece member =>
    ⟨ne_nil_of_mem_pieces member, clean_of_mem_pieces member⟩
  by_cases vms : type = .vms
  · subst vms
    have folded : ∀ parts : List WString, (∀ piece ∈ parts, piece ≠ []) → ∀ state,
        (∀ segment ∈ state.1, GoodSegment .vms segment) →
        ∀ segment ∈ (parts.foldl (segmentizeAddSegment .vms) state).1,
          GoodSegment .vms segment := by
      intro parts
      induction parts with
      | nil => exact fun _ _ good => good
      | cons piece parts induction =>
        intro filled state good
        exact induction (fun piece member => filled piece (mem_cons_of_mem _ member)) _
          (segmentizeAddSegment_vms good (filled piece mem_cons_self))
    unfold segmentize at segmentized
    dsimp only at segmentized
    obtain ⟨-, rfl⟩ := some_of_refusal segmentized
    exact folded _ (fun piece member => (pieces piece member).1) _ good
  · rw [segmentize_plain vms] at segmentized
    cases segmentized
    have folded : ∀ parts : List WString,
        (∀ piece ∈ parts, piece ≠ [] ∧ ∀ char ∈ piece, isSeparator type char = false) →
        ∀ segments, (∀ segment ∈ segments, GoodSegment type segment) →
        ∀ segment ∈ parts.foldl (addComponent (traits type).hasDots) segments,
          GoodSegment type segment := by
      intro parts
      induction parts with
      | nil => exact fun _ _ good => good
      | cons piece parts induction =>
        intro plain segments good
        have head := plain piece mem_cons_self
        exact induction (fun piece member => plain piece (mem_cons_of_mem _ member)) _
          (addComponent_good vms good head.1 head.2)
    exact folded _ pieces _ good

def GoodVolume (type : ServerType) (volume : Option WString) : Prop :=
  match type with
  | .vms => ∀ name ∈ volume, name ≠ [] ∧ '['.toNat ∉ name
  | .mvs => volume = .none ∨ volume = .some (wide ".")
  | .vxworks =>
    ∃ name, name ≠ [] ∧ ':'.toNat ∉ name ∧ volume = .some (wide ":" ++ name ++ wide ":")
  | .cygwin => volume = .none ∨ volume = .some (wide "/")
  | _ => volume = .none

structure GoodData (type : ServerType) (data : CServerPathData) : Prop where
  segments : ∀ segment ∈ data.segments, GoodSegment type segment
  volume : GoodVolume type data.pathPrefix

structure WellFormed (type : ServerType) (data : CServerPathData) : Prop
    extends GoodData type data where
  rooted : (traits type).hasRoot = false → data.segments ≠ []

variable {isFile : Bool} {data : CServerPathData} {dir : WString} {change : Change}

theorem splitFile_data (split : splitFile type isFile data dir = .some change) :
    change.data = data := by
  unfold splitFile at split
  split at split
  case isTrue =>
    obtain ⟨parts, _, rfl⟩ := map_eq_some_iff.mp split
    rfl
  case isFalse =>
    cases split
    rfl

theorem goodData_splitFile (good : GoodData type data)
    (split : splitFile type isFile data dir = .some change) : GoodData type change.data := by
  rw [splitFile_data split]
  exact good

theorem GoodData.withSegments (good : GoodData type data) (subset : segments ⊆ data.segments) :
    GoodData type { data with segments } :=
  ⟨fun segment member => good.segments segment (subset member), good.volume⟩

theorem goodData_root {volume : Option WString} (good : GoodVolume type volume) :
    GoodData type { segments := [], pathPrefix := volume } :=
  ⟨fun _ member => absurd member not_mem_nil, good⟩

variable {wasEmpty : Bool}

theorem changeVms_good (good : GoodData .vms data)
    (changed : changeVms wasEmpty data dir isFile = .some change) :
    GoodData .vms change.data := by
  unfold changeVms at changed
  split at changed
  case h_1 =>
    obtain ⟨-, changed⟩ := of_refusal changed
    split at changed
    case isTrue =>
      obtain ⟨-, rfl⟩ := some_of_refusal changed
      exact good
    case isFalse =>
      cases changed
      exact good
  case h_2 pos1 opened =>
    split at changed
    case h_1 => contradiction
    case h_2 pos2 closed =>
      obtain ⟨behind, changed⟩ := of_refusal changed
      obtain ⟨-, rfl⟩ := some_of_refusal changed
      apply goodData_root
      split
      case isTrue filled =>
        rintro name ⟨⟩
        obtain ⟨inside, _, before⟩ := findIdx?_eq_some_iff_getElem.mp opened
        refine ⟨?_, fun member => ?_⟩
        · rw [← length_pos_iff, length_take]
          omega
        · obtain ⟨index, less, same⟩ := mem_take_iff_getElem.mp member
          exact absurd (before index (by omega)) (by rw [same]; decide)
      case isFalse => exact good.volume

theorem changeDos_good (good : GoodData type data)
    (changed : changeDos type data dir isFile = .some change) : GoodData type change.data := by
  unfold changeDos at changed
  split at changed
  case h_1 => contradiction
  case h_2 rest absolute _ =>
    split at changed
    case isTrue =>
      exact goodData_splitFile (good.withSegments (nil_subset _)) changed
    case isFalse =>
      split at changed
      case isTrue =>
        split at changed
        case h_1 => contradiction
        case h_2 first others segments =>
          refine goodData_splitFile (good.withSegments ?_) changed
          rw [segments]
          exact cons_subset_cons _ (nil_subset _)
      case isFalse => exact goodData_splitFile good changed

theorem mvsMember_good (good : ∀ segment ∈ data.segments, GoodSegment .mvs segment)
    (changed : mvsMember wasEmpty data dir isFile = .some change) :
    GoodData .mvs change.data := by
  unfold mvsMember at changed
  split at changed
  case isTrue =>
    obtain ⟨-, changed⟩ := of_refusal changed
    split at changed
    case h_1 => contradiction
    case h_2 =>
      obtain ⟨-, rfl⟩ := some_of_refusal changed
      exact ⟨good, .inl rfl⟩
  case isFalse =>
    obtain ⟨-, changed⟩ := of_refusal changed
    split at changed
    case isTrue =>
      refine goodData_splitFile ?_ changed
      exact ⟨good, .inr rfl⟩
    case isFalse =>
      split at changed
      case isTrue =>
        cases changed
        exact ⟨good, .inr rfl⟩
      case isFalse =>
        cases changed
        exact ⟨good, .inl rfl⟩

theorem changeMvs_good (good : GoodData .mvs data)
    (changed : changeMvs wasEmpty data dir isFile = .some change) :
    GoodData .mvs change.data := by
  unfold changeMvs at changed
  dsimp only at changed
  obtain ⟨-, changed⟩ := of_refusal changed
  split at changed
  case isTrue =>
    obtain ⟨-, changed⟩ := of_guard changed
    exact mvsMember_good (fun _ member => absurd member not_mem_nil) changed
  case isFalse =>
    obtain ⟨-, changed⟩ := of_refusal changed
    obtain ⟨-, changed⟩ := of_refusal changed
    exact mvsMember_good good.segments changed

theorem changeVxworks_good (good : wasEmpty = false → GoodData .vxworks data)
    (changed : changeVxworks wasEmpty data dir isFile = .some change) :
    GoodData .vxworks change.data := by
  unfold changeVxworks at changed
  split at changed
  case isTrue =>
    obtain ⟨filled, changed⟩ := of_refusal changed
    exact goodData_splitFile (good (Bool.eq_false_iff.mpr filled)) changed
  case isFalse colon =>
    split at changed
    case h_1 => contradiction
    case h_2 length found =>
      obtain ⟨named, changed⟩ := of_refusal changed
      refine goodData_splitFile (goodData_root ?_) changed
      obtain ⟨rest, rfl⟩ : ∃ rest, dir = ':'.toNat :: rest := by
        cases dir with
        | nil => cases found
        | cons first rest =>
          exact ⟨rest, by rw [some.inj (not_not.mp colon)]⟩
      rw [drop_one, tail_cons] at found
      obtain ⟨inside, isColon, before⟩ := findIdx?_eq_some_iff_getElem.mp found
      refine ⟨rest.take length, ?_, fun member => ?_, ?_⟩
      · rw [← length_pos_iff, length_take]
        omega
      · obtain ⟨index, less, same⟩ := mem_take_iff_getElem.mp member
        exact absurd (before index (by omega)) (by rw [same]; decide)
      · rw [take_succ_cons, take_succ_eq_append_getElem inside, beq_iff_eq.mp isColon]
        rfl

theorem changeCygwin_good (good : GoodData .cygwin data)
    (changed : changeCygwin wasEmpty data dir isFile = .some change) :
    GoodData .cygwin change.data := by
  unfold changeCygwin at changed
  split at changed
  case isTrue =>
    split at changed
    case isTrue => exact goodData_splitFile (goodData_root (.inr rfl)) changed
    case isFalse => exact goodData_splitFile (goodData_root (.inl rfl)) changed
  case isFalse =>
    obtain ⟨-, changed⟩ := of_refusal changed
    exact goodData_splitFile good changed

theorem changeDefault_good (good : GoodData type data)
    (changed : changeDefault type wasEmpty data dir isFile = .some change) :
    GoodData type change.data := by
  unfold changeDefault at changed
  split at changed
  case isTrue => exact goodData_splitFile (good.withSegments (nil_subset _)) changed
  case isFalse =>
    obtain ⟨-, changed⟩ := of_refusal changed
    exact goodData_splitFile good changed

theorem changeHpNonstop_good (good : GoodData .hpnonstop data)
    (changed : changeHpNonstop data dir isFile = .some change) :
    GoodData .hpnonstop change.data := by
  unfold changeHpNonstop at changed
  split at changed
  case isTrue => exact goodData_splitFile (good.withSegments (nil_subset _)) changed
  case isFalse => exact goodData_splitFile good changed

theorem goodVolume_none (other : type ≠ .vxworks) : GoodVolume type .none := by
  cases type
  case vxworks => exact absurd rfl other
  case vms => exact fun _ member => absurd member (by simp)
  case mvs | cygwin => exact .inl rfl
  all_goals rfl

variable {path : CServerPath}

theorem findChange_good (good : ∀ data ∈ path.data, GoodData path.type data)
    (changed : findChange path.type path.empty (path.data.getD noData) dir isFile =
      .some change) : GoodData path.type change.data := by
  obtain ⟨data, type⟩ := path
  have known : type = .vxworks ∨ GoodData type (data.getD noData) := by
    cases data with
    | none =>
      by_cases vxworks : type = .vxworks
      · exact .inl vxworks
      · exact .inr (goodData_root (goodVolume_none vxworks))
    | some data => exact .inr (good data rfl)
  cases type
  case vxworks =>
    refine changeVxworks_good (fun filled => ?_) changed
    cases data with
    | none => cases filled
    | some data => exact good data rfl
  all_goals replace known := known.resolve_left (by decide)
  case vms => exact changeVms_good known changed
  case dos => exact changeDos_good known changed
  case dosFwdSlashes => exact changeDos_good known changed
  case mvs => exact changeMvs_good known changed
  case hpnonstop => exact changeHpNonstop_good known changed
  case cygwin => exact changeCygwin_good known changed
  all_goals exact changeDefault_good known changed

theorem changePath_wellFormed {next : CServerPath} {subdir file : WString}
    (wellFormed : ∀ data ∈ path.data, WellFormed path.type data)
    (changed : path.changePath subdir isFile = .some (next, file)) :
    next.type = path.type ∧ ∀ data ∈ next.data, WellFormed next.type data := by
  unfold changePath at changed
  split at changed
  case isTrue =>
    obtain ⟨-, changed⟩ := of_refusal changed
    cases changed
    exact ⟨rfl, wellFormed⟩
  case isFalse =>
    obtain ⟨change, found, segmentized⟩ := bind_eq_some_iff.mp changed
    obtain ⟨segments, added, checked⟩ := bind_eq_some_iff.mp segmentized
    have good := findChange_good (fun data inside => (wellFormed data inside).toGoodData) found
    obtain ⟨rooted, checked⟩ := of_refusal checked
    obtain ⟨-, checked⟩ := of_refusal checked
    cases checked
    refine ⟨rfl, ?_⟩
    rintro data ⟨⟩
    exact {
      segments := segmentize_good good.segments added
      volume := good.volume
      rooted := fun rootless none => rooted ⟨rootless, none⟩ }

theorem makeParent_wellFormed (wellFormed : ∀ data ∈ path.data, WellFormed path.type data) :
    ∀ data ∈ path.makeParent.data, WellFormed path.makeParent.type data := by
  unfold makeParent
  split
  case h_1 => exact fun _ member => absurd member (by simp [clear])
  case h_2 data present =>
    have before := wellFormed data present
    split
    case isTrue => exact fun _ member => absurd member (by simp [clear])
    case isFalse parent =>
      rintro _ ⟨⟩
      refine {
        segments := fun segment member =>
          before.segments segment (dropLast_subset _ member)
        volume := ?_
        rooted := fun rootless none => ?_ }
      · dsimp only
        split
        case isTrue mvs =>
          rw [mvs]
          exact .inr rfl
        case isFalse => exact before.volume
      · simp only [hasParent, present, rootless, Bool.not_false, if_true,
          Bool.not_eq_true', decide_eq_false_iff_not, not_not] at parent
        have length := congrArg length none
        rw [length_dropLast, length_nil] at length
        omega

theorem Obtained.wellFormed (obtained : Obtained path) :
    ∀ data ∈ path.data, WellFormed path.type data := by
  induction obtained with
  | empty type => exact fun _ member => absurd member (by simp)
  | setPath _ set _ =>
    obtain ⟨-, set⟩ := of_refusal set
    exact (changePath_wellFormed (fun _ member => absurd member (by simp [clear])) set).2
  | changePath _ changed induction => exact (changePath_wellFormed induction changed).2
  | getParent _ induction => exact makeParent_wellFormed induction

end CServerPath

end FileZilla
