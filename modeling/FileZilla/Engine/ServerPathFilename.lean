import FileZilla.Engine.ServerPathResolve

namespace FileZilla

open List Option

namespace CServerPath

variable {type : ServerType} {segments : List WString} {file : WString}

def separator (type : ServerType) : WChar :=
  (traits type).separators.headD 0

theorem isSeparator_separator (type : ServerType) :
    isSeparator type (separator type) = true := by
  cases type <;> decide

theorem take_separators (type : ServerType) :
    (traits type).separators.take 1 = [separator type] := by
  cases type <;> rfl

def terminated (type : ServerType) (segments : List WString) : WString :=
  segments.flatMap (· ++ [separator type])

def Unescaped (type : ServerType) (text : WString) : Prop :=
  (traits type).separatorEscape.isSome = true → ∀ char ∈ text, isSeparator type char = false

theorem escapeSeparators_unescaped {text : WString} (unescaped : Unescaped type text) :
    escapeSeparators type text = text := by
  by_cases vms : type = .vms
  · subst vms
    have clean := unescaped rfl
    have kept : ∀ char ∈ text, (if char = '.'.toNat then
        ['^'.toNat, '.'.toNat] else [char]) = [char] := by
      intro char member
      refine if_neg ?_
      rintro rfl
      cases clean _ member
    change text.flatMap (fun char => if char = '.'.toNat then
        ['^'.toNat, '.'.toNat] else [char]) = text
    rw [flatMap_congr kept, flatMap_singleton']
  · rw [escapeSeparators, separatorEscape_eq_none vms]

theorem joinSegments_terminated (filled : segments ≠ [])
    (unescaped : ∀ segment ∈ segments, Unescaped type segment) :
    joinSegments type segments ++ [separator type] = terminated type segments := by
  induction segments with
  | nil => exact absurd rfl filled
  | cons segment rest induction =>
    have first := escapeSeparators_unescaped (unescaped segment mem_cons_self)
    cases rest with
    | nil => simp [joinSegments, terminated, first]
    | cons other rest =>
      have others := induction (by simp)
        (fun segment member => unescaped segment (mem_cons_of_mem _ member))
      rw [joinSegments, first, take_separators, append_assoc, append_assoc, others]
      simp [terminated]
      simp

theorem pieces_terminated (good : ∀ segment ∈ segments, segment ≠ [])
    (clean : ∀ segment ∈ segments, ∀ char ∈ segment, isSeparator type char = false) :
    piecesBetween (isSeparator type) (terminated type segments) = segments := by
  have pieces := piecesBetween_terminated (isSeparator_separator type) good clean []
  rw [append_nil] at pieces
  exact pieces.trans (append_nil _)

theorem pieces_joined (good : ∀ segment ∈ segments, segment ≠ [])
    (clean : ∀ segment ∈ segments, ∀ char ∈ segment, isSeparator type char = false) :
    piecesBetween (isSeparator type) (joinSegments type segments) = segments := by
  by_cases filled : segments = []
  · subst filled
    rfl
  · have whole := piecesBetween_append (isSeparator_separator type) (joinSegments type segments) []
    rw [joinSegments_terminated filled fun segment member _ => clean segment member,
      pieces_terminated good clean] at whole
    rw [piecesBetween_nil, append_nil] at whole
    exact whole.symm

variable {dir : WString} {data : CServerPathData}

theorem rdropWhile_append_of_all {drops : WChar → Bool} (all : ∀ char ∈ file, drops char = true) :
    (dir ++ file).rdropWhile drops = dir.rdropWhile drops := by
  induction file using reverseRecOn with
  | nil => rw [append_nil]
  | append_singleton init last induction =>
    rw [← append_assoc, rdropWhile_concat_pos drops _ last (all last (by simp))]
    exact induction fun char member => all char (mem_append_left _ member)

theorem extractFile_append (filled : file ≠ [])
    (clean : ∀ char ∈ file, isSeparator type char = false)
    (ends : ∀ char ∈ dir.getLast?, isSeparator type char = true) :
    extractFile type (dir ++ file) = .some (dir, file) := by
  have plain : ∀ char ∈ file, (!isSeparator type char) = true := by
    intro char member
    rw [clean char member]
    rfl
  have rest : (dir ++ file).rdropWhile (fun char => !isSeparator type char) = dir := by
    rw [rdropWhile_append_of_all plain, rdropWhile_eq_self_iff]
    intro filled
    rw [ends _ (getLast_mem_getLast? filled)]
    decide
  have last : (dir ++ file).rtakeWhile (fun char => !isSeparator type char) = file := by
    have whole : (dir ++ file).rdropWhile (fun char => !isSeparator type char) ++
        (dir ++ file).rtakeWhile (fun char => !isSeparator type char) = dir ++ file :=
      rdropWhile_append_rtakeWhile
    rw [rest] at whole
    exact append_cancel_left whole
  simp only [extractFile, rest, last, filled, and_false, if_false]

theorem terminated_ends : ∀ char ∈ (terminated type segments).getLast?,
    isSeparator type char = true := by
  intro char last
  rcases eq_nil_or_concat segments with rfl | ⟨init, segment, rfl⟩
  · cases last
  · rw [concat_eq_append, terminated, flatMap_append, flatMap_singleton,
      ← append_assoc, getLast?_concat] at last
    cases last
    exact isSeparator_separator type

theorem setPath_of_findChange {volume : Option WString} {text : WString}
    (wellFormed : WellFormed type { segments, pathPrefix := volume }) (filled : text ≠ [])
    (noDots : file ≠ wide "." ∧ file ≠ wide "..") (found : findChange type true noData text true =
      .some { data := { segments := [], pathPrefix := volume }, dir, file })
    (pieces : piecesBetween (isSeparator type) dir = segments) :
    setPath { data := .none, type } text true =
      .some ({ data := .some { segments, pathPrefix := volume }, type }, file) := by
  have good : ∀ piece ∈ piecesBetween (isSeparator type) dir, GoodSegment type piece := by
    rw [pieces]
    exact wellFormed.segments
  have rooted : ¬ ((traits type).hasRoot = false ∧ segments = []) :=
    fun both => wellFormed.rooted both.1 both.2
  have notDots : ¬ (true = true ∧ (traits type).hasDots = true ∧
      (file = wide ".." ∨ file = wide ".")) :=
    fun both => both.2.2.elim noDots.2 noDots.1
  rw [setPath, if_neg filled, changePath, if_neg filled]
  change (findChange type true noData text true).bind _ = _
  rw [found, bind_some]
  dsimp only [clear]
  rw [segmentize_of_good good, bind_some, pieces, nil_append]
  exact (if_neg rooted).trans (if_neg notDots)

def Clean (type : ServerType) (segments : List WString) : Prop :=
  ∀ segment ∈ segments, segment ≠ [] ∧ ∀ char ∈ segment, isSeparator type char = false

theorem Clean.unescaped (clean : Clean type segments) :
    ∀ segment ∈ segments, Unescaped type segment :=
  fun segment member _ => (clean segment member).2

theorem joinSegments_concat {last : WString} (clean : Clean type (segments ++ [last])) :
    joinSegments type (segments ++ [last]) = terminated type segments ++ last := by
  have whole := joinSegments_terminated (by simp) clean.unescaped
  rw [terminated, flatMap_append, flatMap_singleton, ← append_assoc] at whole
  exact append_cancel_right whole

def rootSeparator (type : ServerType) : WString :=
  if (traits type).hasRoot = true ∧ type ≠ .vxworks then [separator type] else []

def directoryText (type : ServerType) (data : CServerPathData) : WString :=
  data.pathPrefix.getD [] ++ rootSeparator type ++ terminated type data.segments

def Open (type : ServerType) : Prop :=
  type ≠ .vms ∧ type ≠ .mvs

theorem getPath_open (isOpen : Open type) (wellFormed : WellFormed type data) :
    getPath { data := .some data, type } =
      data.pathPrefix.getD [] ++ rootSeparator type ++ joinSegments type data.segments ++
        (if (type = .dos ∨ type = .dosFwdSlashes) ∧ data.segments.length = 1
          then [separator type] else []) := by
  have volume := wellFormed.volume
  have rooted := wellFormed.rooted
  obtain ⟨segments, pathPrefix⟩ := data
  cases type
  case vms => exact absurd rfl isOpen.1
  case mvs => exact absurd rfl isOpen.2
  case vxworks =>
    obtain ⟨name, -, -, named⟩ := volume
    dsimp only at named
    subst named
    cases segments <;> simp [getPath, traits, rootSeparator, joinSegments]
  case cygwin =>
    rcases volume with missing | share
    · dsimp only at missing
      subst missing
      cases segments <;> simp [getPath, traits, rootSeparator, joinSegments, separator, wide]
    · dsimp only at share
      subst share
      cases segments <;> simp [getPath, traits, rootSeparator, joinSegments, separator, wide]
  all_goals
    cases volume
    cases segments with
    | nil => first
      | exact absurd rfl (rooted rfl)
      | simp [getPath, traits, rootSeparator, joinSegments, separator, wide]
    | cons first rest => simp [getPath, traits, rootSeparator, separator, wide]

theorem filenameSeparator_ended {path : CServerPath} {directory : WString} {char : WChar}
    (ends : isSeparator path.type char = true) :
    path.filenameSeparator (directory ++ [char]) = [] := by
  have last : (directory ++ [char]).getLastD 0 = char := by simp
  unfold filenameSeparator
  rw [last, ends]
  cases path.type <;> simp

theorem filenameSeparator_open {path : CServerPath} (isOpen : Open path.type)
    (filled : path.segments ≠ []) {directory : WString} {char : WChar}
    (ends : isSeparator path.type char = false) :
    path.filenameSeparator (directory ++ [char]) = [separator path.type] := by
  have last : (directory ++ [char]).getLastD 0 = char := by simp
  have nonempty : (directory ++ [char]).isEmpty = false := by simp
  unfold filenameSeparator
  rw [last, ends, nonempty, take_separators]
  split
  case h_1 => simp [filled]
  case h_2 vms => exact absurd vms isOpen.1
  case h_3 mvs => exact absurd mvs isOpen.2
  case h_4 => rfl

theorem formatFilename_unenclosed (isOpen : Open type) (filled : file ≠ []) :
    formatFilename { data := .some data, type } file = getPath { data := .some data, type } ++
        filenameSeparator { data := .some data, type } (getPath { data := .some data, type }) ++
        file := by
  cases type
  case vms => exact absurd rfl isOpen.1
  case mvs => exact absurd rfl isOpen.2
  all_goals simp [formatFilename, filled, traits]

theorem WellFormed.clean {data : CServerPathData} (wellFormed : WellFormed type data)
    (other : type ≠ .vms) : Clean type data.segments := fun segment member =>
  ⟨(wellFormed.segments segment member).filled,
    (wellFormed.segments segment member).clean (separatorEscape_eq_none other)⟩

theorem formatFilename_open (isOpen : Open type) (filled : file ≠ [])
    (wellFormed : WellFormed type data) :
    formatFilename { data := .some data, type } file = directoryText type data ++ file := by
  have clean := wellFormed.clean isOpen.1
  rw [formatFilename_unenclosed isOpen filled, getPath_open isOpen wellFormed, directoryText]
  congr 1
  obtain ⟨segments, volume⟩ := data
  rcases eq_nil_or_concat segments with rfl | ⟨init, last, rfl⟩
  · have noDrive : ¬ ((type = .dos ∨ type = .dosFwdSlashes) ∧ ([] : List WString).length = 1) :=
      fun both => absurd both.2 (by decide)
    rw [if_neg noDrive]
    simp only [joinSegments, terminated, flatMap_nil, append_nil]
    by_cases vxworks : type = .vxworks
    · subst vxworks
      simp [filenameSeparator, CServerPath.segments]
    · have root : (traits type).hasRoot = true := by
        rw [← Bool.not_eq_false]
        exact fun rootless => wellFormed.rooted rootless rfl
      rw [rootSeparator, if_pos ⟨root, vxworks⟩,
        filenameSeparator_ended (isSeparator_separator type), append_nil]
  · rw [concat_eq_append] at clean ⊢
    obtain ⟨lastFilled, lastClean⟩ := clean last (by simp)
    obtain ⟨before, char, rfl⟩ := (eq_nil_or_concat last).resolve_left lastFilled
    rw [concat_eq_append] at clean lastClean ⊢
    have written : terminated type (init ++ [before ++ [char]]) =
        terminated type init ++ (before ++ [char] ++ [separator type]) := by
      rw [terminated, flatMap_append, flatMap_singleton]
      rfl
    rw [joinSegments_concat clean, written]
    split
    case isTrue =>
      rw [filenameSeparator_ended (isSeparator_separator type)]
      simp only [append_assoc, append_nil]
    case isFalse =>
      have ends : isSeparator type char = false := lastClean char (by simp)
      have appended := @filenameSeparator_open
        { data := .some { segments := init ++ [before ++ [char]], pathPrefix := volume }, type }
        isOpen (by simp [CServerPath.segments])
        (volume.getD [] ++ rootSeparator type ++ (terminated type init ++ before)) char ends
      simp only [append_assoc, append_nil] at appended ⊢
      rw [appended]

theorem ends_append {left right : WString} {holds : WChar → Prop}
    (leftEnds : ∀ char ∈ left.getLast?, holds char)
    (rightEnds : ∀ char ∈ right.getLast?, holds char) :
    ∀ char ∈ (left ++ right).getLast?, holds char := by
  intro char last
  rcases eq_nil_or_concat right with rfl | ⟨init, final, rfl⟩
  · rw [append_nil] at last
    exact leftEnds char last
  · rw [concat_eq_append] at last rightEnds
    rw [← append_assoc, getLast?_concat] at last
    exact rightEnds char (by rw [getLast?_concat]; exact last)

theorem splitFile_terminated {data : CServerPathData} {volume : WString} (filled : file ≠ [])
    (clean : ∀ char ∈ file, isSeparator type char = false)
    (ends : ∀ char ∈ volume.getLast?, isSeparator type char = true) :
    splitFile type true data (volume ++ terminated type segments ++ file) =
      .some { data, dir := volume ++ terminated type segments, file } := by
  rw [splitFile, if_pos rfl, extractFile_append filled clean (ends_append ends terminated_ends)]
  rfl

theorem pieces_root (clean : Clean type segments) :
    piecesBetween (isSeparator type) ([separator type] ++ terminated type segments) = segments := by
  rw [singleton_append, piecesBetween_cons (isSeparator_separator type)]
  exact pieces_terminated (fun segment member => (clean segment member).1)
    (fun segment member => (clean segment member).2)

theorem head_terminated (clean : Clean type segments) (filled : file ≠ [])
    (cleanFile : ∀ char ∈ file, isSeparator type char = false) :
    ∃ first rest, terminated type segments ++ file = first :: rest ∧
      isSeparator type first = false := by
  cases segments with
  | nil =>
    obtain ⟨first, rest, rfl⟩ := exists_cons_of_ne_nil filled
    exact ⟨first, rest, rfl, cleanFile first mem_cons_self⟩
  | cons segment segments =>
    obtain ⟨segmentFilled, segmentClean⟩ := clean segment mem_cons_self
    obtain ⟨first, rest, rfl⟩ := exists_cons_of_ne_nil segmentFilled
    exact ⟨first, _, rfl, segmentClean first mem_cons_self⟩

def IsDrive (segment : WString) : Prop :=
  ∃ name, name ≠ [] ∧ ':'.toNat ∉ name ∧ segment = name ++ wide ":"

structure Driven (segments : List WString) (file : WString) : Prop where
  head : ∀ segment ∈ segments.head?, ':'.toNat ∉ segment ∨ IsDrive segment
  tail : ∀ segment ∈ segments.tail, ':'.toNat ∉ segment
  file : ':'.toNat ∉ file

theorem dosDrive_terminated (dos : type = .dos ∨ type = .dosFwdSlashes)
    (rooted : segments ≠ []) (clean : Clean type segments) (driven : Driven segments file) :
    ∃ isAbsolute, dosDrive type noData (terminated type segments ++ file) =
      .some (terminated type segments ++ file, isAbsolute) := by
  obtain ⟨first, rest, rfl⟩ := exists_cons_of_ne_nil rooted
  have colon : isSeparator type ':'.toNat = false := by
    rcases dos with rfl | rfl <;> decide
  have written : terminated type (first :: rest) ++ file =
      first ++ separator type :: (terminated type rest ++ file) := by
    simp [terminated]
  have separatorAt : (terminated type (first :: rest) ++ file).findIdx? (isSeparator type) =
      .some first.length := by
    rw [written]
    exact findIdx_clean_append (clean first mem_cons_self).2 (isSeparator_separator type)
  rcases driven.head first rfl with plain | ⟨name, named, colonFree, rfl⟩
  · have noColon : (terminated type (first :: rest) ++ file).findIdx? (· == ':'.toNat) = .none := by
      rw [findIdx?_eq_none_iff]
      intro char member
      rw [beq_eq_false_iff_ne]
      rintro rfl
      rw [written] at member
      rcases mem_append.mp member with here | later
      · exact plain here
      · rcases mem_cons.mp later with same | behind
        · rw [same, isSeparator_separator] at colon
          cases colon
        · rcases mem_append.mp behind with inside | last
          · obtain ⟨segment, member, within⟩ := mem_flatMap.mp inside
            rcases mem_append.mp within with inSegment | ended
            · exact driven.tail segment member inSegment
            · rw [mem_singleton.mp ended, isSeparator_separator] at colon
              cases colon
          · exact driven.file last
    exact ⟨false, by rw [dosDrive, noColon]⟩
  · have colonAt : (terminated type ((name ++ wide ":") :: rest) ++ file).findIdx?
        (· == ':'.toNat) = .some name.length := by
      rw [written, append_assoc]
      refine findIdx_clean_append (fun char member => ?_) rfl
      rw [beq_eq_false_iff_ne]
      rintro rfl
      exact colonFree member
    have positive := length_pos_iff.mpr named
    have length : (name ++ wide ":").length = name.length + 1 := length_append
    refine ⟨true, ?_⟩
    rw [dosDrive, colonAt, separatorAt, getD_some, length]
    dsimp only
    rw [if_neg (by omega), if_neg (by omega)]
    simp

theorem changeDos_terminated (dos : type = .dos ∨ type = .dosFwdSlashes) (filled : file ≠ [])
    (rooted : segments ≠ []) (clean : Clean type segments)
    (cleanFile : ∀ char ∈ file, isSeparator type char = false) (driven : Driven segments file) :
    changeDos type noData (terminated type segments ++ file) true =
      .some { data := noData, dir := terminated type segments, file } := by
  have noEnds : ∀ char ∈ ([] : WString).getLast?, isSeparator type char = true :=
    fun _ last => absurd last (by simp)
  have plain := @splitFile_terminated type segments file noData [] filled cleanFile noEnds
  obtain ⟨isAbsolute, drive⟩ := dosDrive_terminated dos rooted clean driven
  obtain ⟨first, rest, written, notSeparator⟩ := head_terminated clean filled cleanFile
  have relative : ¬ isSeparator type ((terminated type segments ++ file).headD 0) = true := by
    rw [written, headD_cons, notSeparator]
    decide
  rw [changeDos, drive]
  dsimp only
  split
  case isTrue => exact plain
  case isFalse => exact plain

theorem changeVxworks_terminated {name : WString} (named : name ≠ [])
    (colonFree : ':'.toNat ∉ name) (text : WString) :
    changeVxworks true noData (wide ":" ++ name ++ wide ":" ++ text) true =
      splitFile .vxworks true { segments := [], pathPrefix := .some (wide ":" ++ name ++ wide ":") }
        text := by
  have colonAt : (name ++ ':'.toNat :: text).findIdx? (· == ':'.toNat) = .some name.length := by
    refine findIdx_clean_append (fun char member => ?_) rfl
    rw [beq_eq_false_iff_ne]
    rintro rfl
    exact colonFree member
  have written : wide ":" ++ name ++ wide ":" ++ text =
      ':'.toNat :: (name ++ ':'.toNat :: text) := by
    simp [wide]
  have taken : (':'.toNat :: (name ++ ':'.toNat :: text)).take (name.length + 2) =
      wide ":" ++ name ++ wide ":" := by
    simp [wide, take_append, take_of_length_le]
  have dropped : (':'.toNat :: (name ++ ':'.toNat :: text)).drop (name.length + 2) = text := by
    simp [drop_append]
  have device : ¬ (':'.toNat :: (name ++ ':'.toNat :: text)).head? ≠ .some ':'.toNat :=
    not_not.mpr rfl
  have found : ¬ name.length = 0 := fun none => named (eq_nil_of_length_eq_zero none)
  rw [written, changeVxworks, if_neg device, drop_one, tail_cons, colonAt]
  dsimp only
  rw [if_neg found, taken, dropped]

theorem findChange_open (isOpen : Open type) (filled : file ≠ [])
    (wellFormed : WellFormed type data) (clean : ∀ char ∈ file, isSeparator type char = false)
    (driven : type = .dos ∨ type = .dosFwdSlashes → Driven data.segments file) :
    ∃ dir, findChange type true noData (directoryText type data ++ file) true =
        .some { data := { segments := [], pathPrefix := data.pathPrefix }, dir, file } ∧
      piecesBetween (isSeparator type) dir = data.segments := by
  have cleanSegments := wellFormed.clean isOpen.1
  have rooted := wellFormed.rooted
  have volume := wellFormed.volume
  have pieces := pieces_terminated (fun segment member => (cleanSegments segment member).1)
    (fun segment member => (cleanSegments segment member).2)
  have root := pieces_root cleanSegments
  have rootEnds : ∀ char ∈ [separator type].getLast?, isSeparator type char = true := by
    rintro char ⟨⟩
    exact isSeparator_separator type
  have noEnds : ∀ char ∈ ([] : WString).getLast?, isSeparator type char = true :=
    fun _ last => absurd last (by simp)
  have plain := @splitFile_terminated type data.segments file noData [] filled clean noEnds
  have rootedSplit := @splitFile_terminated type data.segments file noData [separator type] filled
    clean rootEnds
  obtain ⟨segments, volume'⟩ := data
  cases type
  case vms => exact absurd rfl isOpen.1
  case mvs => exact absurd rfl isOpen.2
  case unix | zvm | dosVirtual =>
    cases volume
    exact ⟨_, rootedSplit, root⟩
  case hpnonstop =>
    cases volume
    refine ⟨_, ?_, pieces⟩
    change changeHpNonstop noData (terminated .hpnonstop segments ++ file) true = _
    unfold changeHpNonstop
    split
    case isTrue => exact plain
    case isFalse => exact plain
  case vxworks =>
    obtain ⟨name, named, colonFree, volumeEq⟩ := volume
    dsimp only at volumeEq
    subst volumeEq
    refine ⟨_, ?_, pieces⟩
    have found := changeVxworks_terminated named colonFree (terminated .vxworks segments ++ file)
    have split := @splitFile_terminated .vxworks segments file
      { segments := [], pathPrefix := .some (wide ":" ++ name ++ wide ":") } [] filled clean
      noEnds
    rw [nil_append] at split
    rw [split] at found
    have text : directoryText .vxworks
        { segments, pathPrefix := .some (wide ":" ++ name ++ wide ":") } ++ file =
        wide ":" ++ name ++ wide ":" ++ (terminated .vxworks segments ++ file) := by
      simp [directoryText, rootSeparator]
    rw [text]
    exact found
  case cygwin =>
    obtain ⟨first, rest, written, notSeparator⟩ := head_terminated cleanSegments filled clean
    rcases volume with missing | share
    · dsimp only at missing
      subst missing
      refine ⟨_, ?_, root⟩
      change changeCygwin true noData ('/'.toNat :: (terminated .cygwin segments ++ file)) true = _
      have single : ¬ ('/'.toNat :: (terminated .cygwin segments ++ file))[1]? =
          .some '/'.toNat := by
        rw [written]
        intro double
        rw [some.inj double] at notSeparator
        cases notSeparator
      have isRoot : isSeparator .cygwin
          (('/'.toNat :: (terminated .cygwin segments ++ file)).headD 0) = true := rfl
      rw [changeCygwin, if_pos isRoot, if_neg single]
      exact rootedSplit
    · dsimp only at share
      subst share
      exact ⟨_, @splitFile_terminated .cygwin segments file
        { segments := [], pathPrefix := .some (wide "/") } _ filled clean rootEnds, root⟩
  case dos =>
    cases volume
    exact ⟨_, changeDos_terminated (.inl rfl) filled (rooted rfl) cleanSegments clean
      (driven (.inl rfl)), pieces⟩
  case dosFwdSlashes =>
    cases volume
    exact ⟨_, changeDos_terminated (.inr rfl) filled (rooted rfl) cleanSegments clean
      (driven (.inr rfl)), pieces⟩

theorem drop_past (before after : WString) (char : WChar) :
    (before ++ char :: after).drop (before.length + 1) = after := by
  induction before with
  | nil => rfl
  | cons first before induction => exact induction

theorem rfind_append {before after : WString} {char : WChar} (absent : char ∉ after) :
    rfind char (before ++ char :: after) = .some before.length := by
  have reversed : (before ++ char :: after).reverse = after.reverse ++ char :: before.reverse := by
    simp
  have found : (before ++ char :: after).reverse.findIdx? (· == char) = .some after.length := by
    have clean : ∀ other ∈ after.reverse, (other == char) = false := by
      intro other member
      rw [beq_eq_false_iff_ne]
      rintro rfl
      exact absent (mem_reverse.mp member)
    have position := @findIdx_clean_append _ (· == char) _ before.reverse _ clean
      (beq_self_eq_true char)
    rw [reversed, position, length_reverse]
  rw [rfind, found, map_some, length_append, length_cons]
  congr 1
  omega

theorem joinSegments_ne_nil (rooted : segments ≠ []) (clean : Clean type segments) :
    joinSegments type segments ≠ [] := by
  obtain ⟨init, last, rfl⟩ := (eq_nil_or_concat segments).resolve_left rooted
  rw [concat_eq_append] at clean ⊢
  rw [joinSegments_concat clean]
  exact append_ne_nil_of_right_ne_nil _ (clean last (by simp)).1

theorem formatFilename_vms (filled : file ≠ []) (rooted : data.segments ≠ []) :
    formatFilename { data := .some data, type := .vms } file =
      data.pathPrefix.getD [] ++ '['.toNat :: (joinSegments .vms data.segments ++
        ']'.toNat :: file) := by
  have nonempty : data.segments.isEmpty = false := by simpa using rooted
  simp [formatFilename, filled, getPath, nonempty, traits, filenameSeparator, wide]

theorem changeVms_formatted {volume : Option WString} {joined : WString} (filled : file ≠ [])
    (joinedFilled : joined ≠ []) (volumeGood : GoodVolume .vms volume)
    (unclosed : ']'.toNat ∉ file) :
    changeVms true noData (volume.getD [] ++ '['.toNat :: (joined ++ ']'.toNat :: file)) true =
      .some { data := { segments := [], pathPrefix := volume }, dir := joined, file } := by
  have volumeClean : ∀ char ∈ volume.getD [], (char == '['.toNat) = false := by
    intro char member
    rw [beq_eq_false_iff_ne]
    rintro rfl
    cases volume with
    | none => exact absurd member not_mem_nil
    | some name => exact (volumeGood name rfl).2 member
  have opened := @findIdx_clean_append _ (· == '['.toNat) _ (joined ++ ']'.toNat :: file)
    '['.toNat volumeClean rfl
  have closed := @rfind_append (volume.getD [] ++ '['.toNat :: joined) file ']'.toNat unclosed
  rw [append_assoc, cons_append] at closed
  have joinedPositive := length_pos_iff.mpr joinedFilled
  have filePositive := length_pos_iff.mpr filled
  have length : (volume.getD [] ++ '['.toNat :: joined).length =
      (volume.getD []).length + 1 + joined.length := by
    rw [length_append, length_cons]
    omega
  have whole : (volume.getD [] ++ '['.toNat :: (joined ++ ']'.toNat :: file)).length =
      (volume.getD []).length + 1 + joined.length + 1 + file.length := by
    simp only [length_append, length_cons]
    omega
  have inside : ((volume.getD [] ++ '['.toNat :: (joined ++ ']'.toNat :: file)).take
      ((volume.getD []).length + 1 + joined.length)).drop ((volume.getD []).length + 1) =
      joined := by
    rw [← length, ← cons_append, ← append_assoc, take_left']
    · simp
    · rfl
  have behind : (volume.getD [] ++ '['.toNat :: (joined ++ ']'.toNat :: file)).drop
      ((volume.getD []).length + 1 + joined.length + 1) = file := by
    rw [← length, ← cons_append, ← append_assoc]
    exact drop_past _ _ _
  have notLast : ¬ true = decide ((volume.getD []).length + 1 + joined.length =
      (volume.getD []).length + 1 + joined.length + 1 + file.length - 1) := by
    rw [decide_eq_false (by omega)]
    decide
  unfold changeVms
  rw [opened, closed, length, whole]
  dsimp only
  rw [if_neg (by omega), if_neg notLast, inside, behind]
  cases volume with
  | none => rfl
  | some name =>
    have named : name.length ≠ 0 := fun none =>
      (volumeGood name rfl).1 (eq_nil_of_length_eq_zero none)
    simp [named]

theorem not_mem_joinSegments {char : WChar} (rooted : segments ≠ []) (clean : Clean type segments)
    (other : char ≠ separator type) (absent : ∀ segment ∈ segments, char ∉ segment) :
    char ∉ joinSegments type segments := by
  intro member
  have inside : char ∈ terminated type segments := by
    rw [← joinSegments_terminated rooted clean.unescaped]
    exact mem_append_left _ member
  obtain ⟨segment, inSegments, within⟩ := mem_flatMap.mp inside
  rcases mem_append.mp within with inSegment | ended
  · exact absent segment inSegments inSegment
  · exact other (mem_singleton.mp ended)

theorem getPath_mvs (rooted : data.segments ≠ []) :
    getPath { data := .some data, type := .mvs } =
      '\''.toNat :: (joinSegments .mvs data.segments ++ data.pathPrefix.getD []) ++
        ['\''.toNat] := by
  have nonempty : data.segments.isEmpty = false := by simpa using rooted
  simp [getPath, nonempty, traits]

theorem formatFilename_mvs (filled : file ≠ []) (rooted : data.segments ≠ []) :
    formatFilename { data := .some data, type := .mvs } file =
      '\''.toNat :: (joinSegments .mvs data.segments ++ data.pathPrefix.getD [] ++
        (if data.pathPrefix = .none then wide "(" ++ file ++ wide ")" else file)) ++
          ['\''.toNat] := by
  have inside : ((traits .mvs).leftEnclosure.isSome &&
      (traits .mvs).filenameInsideEnclosure) = true := rfl
  rw [formatFilename, getPath_mvs rooted]
  dsimp only
  rw [if_neg filled, inside, if_pos rfl, dropLast_concat]
  simp [traits, filenameSeparator]

theorem changeMvs_quoted (text : WString) :
    changeMvs true noData ('\''.toNat :: text ++ ['\''.toNat]) true =
      mvsMember true noData text true := by
  have unquoted : withoutDoubleQuotes ('\''.toNat :: text ++ ['\''.toNat]) =
      '\''.toNat :: text ++ ['\''.toNat] := by
    have first : ('\''.toNat :: text ++ ['\''.toNat]).dropWhile (· == mvsDoubleQuote) =
        '\''.toNat :: text ++ ['\''.toNat] := by
      rw [cons_append, dropWhile_cons]
      rfl
    rw [withoutDoubleQuotes, first]
    exact rdropWhile_concat_neg _ _ _ (by decide)
  have filled : ¬ '\''.toNat :: text ++ ['\''.toNat] = [] := by simp
  have opens : ('\''.toNat :: text ++ ['\''.toNat]).head? = .some '\''.toNat := rfl
  have closes : ('\''.toNat :: text ++ ['\''.toNat]).getLast? = .some '\''.toNat :=
    getLast?_concat
  have inside : (('\''.toNat :: text ++ ['\''.toNat]).drop 1).dropLast = text := by simp
  simp only [changeMvs, unquoted, filled, if_false, opens, closes, if_true, inside]
  rfl

theorem mvsMember_directory (filled : file ≠ []) (clean : ∀ char ∈ file, isSeparator .mvs char = false)
    (closed : file.getLast? ≠ .some ')'.toNat) :
    mvsMember true noData (terminated .mvs segments ++ file) true =
      .some { data := { segments := [], pathPrefix := .some (wide ".") }
              dir := terminated .mvs segments, file } := by
  have noEnds : ∀ char ∈ ([] : WString).getLast?, isSeparator .mvs char = true :=
    fun _ last => absurd last (by simp)
  have split := @splitFile_terminated .mvs segments file
    { segments := [], pathPrefix := .some (wide ".") } [] filled clean noEnds
  have last : ¬ (terminated .mvs segments ++ file).getLast? = .some ')'.toNat := by
    rwa [getLast?_append_of_ne_nil _ filled]
  rw [mvsMember, if_neg last]
  exact split

theorem mvsMember_member {joined : WString} (absent : '('.toNat ∉ joined) :
    mvsMember true noData (joined ++ (wide "(" ++ file ++ wide ")")) true =
      .some { data := noData, dir := joined, file } := by
  have written : joined ++ (wide "(" ++ file ++ wide ")") =
      joined ++ '('.toNat :: (file ++ [')'.toNat]) := by simp [wide]
  have closes : (joined ++ '('.toNat :: (file ++ [')'.toNat])).getLast? = .some ')'.toNat := by
    rw [← cons_append, ← append_assoc, getLast?_concat]
  have opened : (joined ++ '('.toNat :: (file ++ [')'.toNat])).findIdx? (· == '('.toNat) =
      .some joined.length := by
    refine findIdx_clean_append (fun char member => ?_) rfl
    rw [beq_eq_false_iff_ne]
    rintro rfl
    exact absent member
  have directory : (joined ++ '('.toNat :: (file ++ [')'.toNat])).take joined.length = joined :=
    take_left
  have member : (joined ++ '('.toNat :: (file ++ [')'.toNat])).dropLast.drop (joined.length + 1) =
      file := by
    rw [← cons_append, ← append_assoc, dropLast_concat]
    exact drop_past _ _ _
  rw [written, mvsMember, if_pos closes, opened]
  dsimp only
  rw [directory, member]
  rfl

def reservedInFile : ServerType → WString
  | .vms => wide "]"
  | .mvs => wide ".)"
  | .dos => wide "\\/:"
  | .dosFwdSlashes => wide "/\\:"
  | .unix | .vxworks | .zvm | .hpnonstop | .dosVirtual | .cygwin => []

/-- The characters that the segments must not have, besides those that they cannot have -/
def reservedInSegments : ServerType → WString
  | .vms => wide "."
  | .mvs => wide "("
  | .dos | .dosFwdSlashes => wide ":"
  | .unix | .vxworks | .zvm | .hpnonstop | .dosVirtual | .cygwin => []

structure Unambiguous (path : CServerPath) (file : WString) : Prop where
  filled : file ≠ []
  noDots : file ≠ wide "." ∧ file ≠ wide ".."
  separators : path.type ≠ .vms → ∀ char ∈ file, isSeparator path.type char = false
  reserved : ∀ char ∈ file, char ∉ reservedInFile path.type
  segments : ∀ segment ∈ path.segments.drop (drives path.type),
    ∀ char ∈ segment, char ∉ reservedInSegments path.type
  drive : ∀ segment ∈ path.segments.take (drives path.type), ':'.toNat ∉ segment ∨ IsDrive segment

theorem Unambiguous.driven (unambiguous : Unambiguous { data := .some data, type } file)
    (dos : type = .dos ∨ type = .dosFwdSlashes) : Driven data.segments file := by
  have single : drives type = 1 := if_pos dos
  have segments := unambiguous.segments
  have drive := unambiguous.drive
  dsimp only at segments drive
  rw [single] at segments drive
  refine ⟨fun segment head => drive segment ?_, fun segment member inside => ?_, fun inside => ?_⟩
  · change segment ∈ data.segments.take 1
    rw [take_one, head]
    exact mem_singleton_self segment
  · rw [← drop_one] at member
    refine segments segment member _ inside ?_
    rcases dos with rfl | rfl <;> decide
  · have reserved : ':'.toNat ∈ reservedInFile type := by
      rcases dos with rfl | rfl <;> decide
    exact unambiguous.reserved _ inside reserved

theorem setPath_formatFilename_vms (wellFormed : WellFormed .vms data)
    (unambiguous : Unambiguous { data := .some data, type := .vms } file) :
    setPath { data := .none, type := .vms }
        (formatFilename { data := .some data, type := .vms } file) true =
      .some ({ data := .some data, type := .vms }, file) := by
  have rooted := wellFormed.rooted rfl
  have clean : Clean .vms data.segments := by
    refine fun segment member => ⟨(wellFormed.segments segment member).filled, ?_⟩
    intro char inside
    have plain := unambiguous.segments segment member char inside
    rw [← Bool.not_eq_true]
    exact fun separator => plain (contains_iff_mem.mp separator)
  have reserved : ']'.toNat ∈ reservedInFile .vms := by decide
  have unclosed : ']'.toNat ∉ file := fun inside => unambiguous.reserved _ inside reserved
  have found := changeVms_formatted unambiguous.filled (joinSegments_ne_nil rooted clean)
    wellFormed.volume unclosed
  rw [formatFilename_vms unambiguous.filled rooted]
  exact setPath_of_findChange wellFormed (by simp) unambiguous.noDots found
    (pieces_joined (fun segment member => (clean segment member).1)
      (fun segment member => (clean segment member).2))

theorem setPath_formatFilename_mvs (wellFormed : WellFormed .mvs data)
    (unambiguous : Unambiguous { data := .some data, type := .mvs } file) :
    setPath { data := .none, type := .mvs }
        (formatFilename { data := .some data, type := .mvs } file) true =
      .some ({ data := .some data, type := .mvs }, file) := by
  have rooted := wellFormed.rooted rfl
  have clean := wellFormed.clean (by decide)
  have filled := unambiguous.filled
  have good : ∀ segment ∈ data.segments, segment ≠ [] := fun segment member =>
    (clean segment member).1
  have plain : ∀ segment ∈ data.segments, ∀ char ∈ segment, isSeparator .mvs char = false :=
    fun segment member => (clean segment member).2
  have text := formatFilename_mvs filled rooted
  obtain ⟨segments, volume⟩ := data
  rcases wellFormed.volume with missing | directory
  · dsimp only at missing
    subst missing
    have reserved : '('.toNat ∈ reservedInSegments .mvs := by decide
    have absent : '('.toNat ∉ joinSegments .mvs segments :=
      not_mem_joinSegments rooted clean (by decide) fun segment member inside =>
        unambiguous.segments segment member _ inside reserved
    have found := (changeMvs_quoted _).trans (@mvsMember_member file _ absent)
    rw [text, if_pos rfl, getD_none, append_nil]
    exact setPath_of_findChange wellFormed (by simp) unambiguous.noDots found
      (pieces_joined good plain)
  · dsimp only at directory
    subst directory
    have reserved : ')'.toNat ∈ reservedInFile .mvs := by decide
    have closed : file.getLast? ≠ .some ')'.toNat := fun last =>
      unambiguous.reserved _ (mem_of_getLast? last) reserved
    have other : ServerType.mvs ≠ .vms := by decide
    have cleanFile : ∀ char ∈ file, isSeparator .mvs char = false := unambiguous.separators other
    have found := (changeMvs_quoted _).trans
      (@mvsMember_directory segments file filled cleanFile closed)
    rw [← joinSegments_terminated rooted clean.unescaped] at found
    have directory : ¬ some (wide ".") = .none := by decide
    rw [text, if_neg directory]
    refine setPath_of_findChange wellFormed (by simp) unambiguous.noDots found ?_
    rw [joinSegments_terminated rooted clean.unescaped]
    exact pieces_terminated good plain

/-- A file name with its path is taken apart into the path and the name. -/
theorem setPath_formatFilename {path : CServerPath} (obtained : Obtained path)
    (present : path.empty = false) (unambiguous : Unambiguous path file) :
    path.clear.setPath (path.formatFilename file) true = .some (path, file) := by
  have wellFormed := obtained.wellFormed
  obtain ⟨_ | data, type⟩ := path
  · cases present
  replace wellFormed : WellFormed type data := wellFormed data rfl
  by_cases vms : type = .vms
  · subst vms
    exact setPath_formatFilename_vms wellFormed unambiguous
  · by_cases mvs : type = .mvs
    · subst mvs
      exact setPath_formatFilename_mvs wellFormed unambiguous
    · have filled := unambiguous.filled
      obtain ⟨dir, found, pieces⟩ := findChange_open ⟨vms, mvs⟩ filled wellFormed
        (unambiguous.separators vms) unambiguous.driven
      rw [formatFilename_open ⟨vms, mvs⟩ filled wellFormed]
      exact setPath_of_findChange wellFormed (append_ne_nil_of_right_ne_nil _ filled)
        unambiguous.noDots found pieces

theorem setPath_formatFilename_dos :
    (pathOf .dos .none ["c:", "bar"]).clear.setPath
        ((pathOf .dos .none ["c:", "bar"]).formatFilename (wide "a.txt")) true =
      .some (pathOf .dos .none ["c:", "bar"], wide "a.txt") := by
  have set : (pathOf .dos .none []).clear.setPath (wide "c:\\bar") =
      .some (pathOf .dos .none ["c:", "bar"], wide "c:\\bar") := by decide
  refine setPath_formatFilename (.setPath (.empty .dos) set) rfl ?_
  refine ⟨by decide, by decide, fun _ => by decide, by decide, by decide, ?_⟩
  intro segment member
  refine .inr ⟨wide "c", by decide, by decide, ?_⟩
  exact mem_singleton.mp member

/-- No file name is added to a path and a file name to no path. -/
theorem setPath_formatFilename_missing :
    (pathOf .unix .none ["home"]).clear.setPath
        ((pathOf .unix .none ["home"]).formatFilename []) true = .none ∧
      (pathOf .unix .none []).clear.clear.setPath
        ((pathOf .unix .none []).clear.formatFilename (wide "a")) true = .none := by
  decide

end CServerPath

end FileZilla
