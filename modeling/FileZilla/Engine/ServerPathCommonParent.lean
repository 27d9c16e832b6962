import FileZilla.Engine.ServerPathParents

namespace FileZilla

open List

namespace CServerPath

/-- The loop of `GetCommonParent`, which starts with no segments; without a root it fails if
already the first ones differ. -/
def commonSegments (hasRoot : Bool) (found : List WString) :
    List WString → List WString → Option (List WString)
  | segment :: left, other :: right =>
    if segment ≠ other then
      if !hasRoot && found.isEmpty then .none else .some found
    else commonSegments hasRoot (found ++ [segment]) left right
  | _, _ => .some found

def getCommonParent (self path : CServerPath) : CServerPath :=
  if self.equal path then self
  else
    match self.data, path.data with
    | .some ld, .some rd =>
      let suffixed := (traits self.type).prefixmode = 1
      if self.type ≠ path.type ∨
          (traits self.type).prefixmode = 0 ∧ ld.pathPrefix ≠ rd.pathPrefix then none
      else if !self.hasParent then if path.isSubdirOf self then self else none
      else if !path.hasParent then if self.isSubdirOf path then path else none
      else
        let left := if suffixed ∧ ld.pathPrefix = .none then ld.segments.dropLast else ld.segments
        let right := if suffixed ∧ rd.pathPrefix = .none then rd.segments.dropLast else rd.segments
        match commonSegments (traits self.type).hasRoot [] left right with
        | .none => none
        | .some segments =>
          { self with
            data := .some {
              segments
              pathPrefix := if suffixed then self.getParent.volume else ld.pathPrefix } }
    | _, _ => none

variable {type : ServerType}

theorem commonSegments_eq (hasRoot : Bool) (found left right : List WString) :
    commonSegments hasRoot found left right =
      if hasRoot = false ∧ found ++ commonPrefix left right = [] ∧ left ≠ [] ∧ right ≠ [] then
        .none
      else .some (found ++ commonPrefix left right) := by
  induction left generalizing found right with
  | nil => simp [commonSegments]
  | cons segment left induction =>
    cases right with
    | nil => simp [commonSegments]
    | cons other right =>
      by_cases same : segment = other
      · subst same
        rw [commonSegments, if_neg (not_not.mpr rfl), induction, commonPrefix_cons]
        simp
      · rw [commonSegments, if_pos same, commonPrefix_of_ne same]
        simp

/-- The segments that name directories: a dataset without suffix has none below it. -/
def directories (type : ServerType) (data : CServerPathData) : List WString :=
  if type = .mvs ∧ data.pathPrefix = .none then data.segments.dropLast else data.segments

theorem directories_extended (data : CServerPathData) :
    directories type data <+: data.segments := by
  unfold directories
  split
  case isTrue => exact dropLast_prefix _
  case isFalse => exact prefix_rfl

theorem extends_dropLast {α : Type} {shorter list : List α} (shortened : shorter <+: list)
    (different : shorter ≠ list) : shorter <+: list.dropLast := by
  rcases eq_nil_or_concat list with rfl | ⟨init, last, rfl⟩
  · exact absurd (prefix_nil.mp shortened) different
  · rw [concat_eq_append] at shortened different ⊢
    rw [dropLast_concat]
    exact (prefix_concat_iff.mp shortened).resolve_left different

def IsAtOrAbove (ancestor path : CServerPath) : Prop :=
  ancestor = path ∨ IsAncestor ancestor path

theorem getParent_type (path : CServerPath) : path.getParent.type = path.type := by
  unfold getParent makeParent
  split
  case h_1 => rfl
  case h_2 => split <;> rfl

variable {path : CServerPath}

theorem IsAncestor.type_eq {ancestor : CServerPath} (above : IsAncestor ancestor path) :
    ancestor.type = path.type := by
  obtain ⟨n, rfl⟩ := above
  induction n generalizing path with
  | zero => exact getParent_type path
  | succ n induction =>
    rw [Function.iterate_succ_apply, induction]
    exact getParent_type path

theorem IsAtOrAbove.type_eq {ancestor : CServerPath} (above : IsAtOrAbove ancestor path) :
    ancestor.type = path.type := by
  rcases above with rfl | above
  · rfl
  · exact above.type_eq

variable {left right : CServerPath}

theorem IsAtOrAbove.antisymm (filled : left.empty = false) (filledRight : right.empty = false)
    (below : IsAtOrAbove left right) (above : IsAtOrAbove right left) : left = right := by
  rcases below with same | below
  · exact same
  · rcases above with same | above
    · exact same.symm
    · have sameType := below.type_eq
      obtain ⟨_ | ld, type⟩ := left
      · cases filled
      obtain ⟨_ | rd, otherType⟩ := right
      · cases filledRight
      obtain rfl : type = otherType := sameType
      have shorter := isAncestor_iff.mp below
      have longer := isAncestor_iff.mp above
      exact absurd (shorter.1.eq_of_length_le longer.1.length_le) shorter.2.1

variable {directory : CServerPathData}

theorem directoryAbove_iff {data : CServerPathData} (wellFormed : WellFormed type data) :
    IsAtOrAbove { data := .some directory, type } { data := .some data, type } ∧
        parentVolume type directory.pathPrefix = directory.pathPrefix ↔
      directory.segments <+: directories type data ∧
        ((traits type).hasRoot = false → directory.segments ≠ []) ∧
        directory.pathPrefix = parentVolume type data.pathPrefix := by
  constructor
  · rintro ⟨same | above, container⟩
    · cases same
      have plain : ¬ (type = .mvs ∧ directory.pathPrefix = .none) := by
        rintro ⟨rfl, missing⟩
        rw [missing] at container
        cases container
      rw [directories, if_neg plain]
      exact ⟨prefix_rfl, wellFormed.rooted, container.symm⟩
    · obtain ⟨shorter, different, rooted, volume⟩ := isAncestor_iff.mp above
      refine ⟨?_, rooted, volume⟩
      unfold directories
      split
      case isTrue => exact extends_dropLast shorter different
      case isFalse => exact shorter
  · rintro ⟨shorter, rooted, volume⟩
    refine ⟨?_, by rw [volume, parentVolume_parentVolume]⟩
    by_cases whole : directory.segments = data.segments
    · left
      have kept : data.pathPrefix = parentVolume type data.pathPrefix := by
        unfold parentVolume
        split
        case isTrue mvs =>
          subst mvs
          refine wellFormed.volume.resolve_left fun missing => ?_
          rw [whole, directories, if_pos ⟨rfl, missing⟩] at shorter
          have length := shorter.length_le
          rw [length_dropLast] at length
          exact wellFormed.rooted rfl (eq_nil_of_length_eq_zero (by omega))
        case isFalse => rfl
      obtain ⟨segments, volume'⟩ := directory
      cases whole
      rw [← kept] at volume
      cases volume
      rfl
    · exact .inr (isAncestor_iff.mpr
        ⟨shorter.trans (directories_extended data), whole, rooted, volume⟩)

theorem directory_of_shared {left right : CServerPathData} (different : left ≠ right)
    (aboveLeft : IsAtOrAbove { data := .some directory, type } { data := .some left, type })
    (aboveRight : IsAtOrAbove { data := .some directory, type } { data := .some right, type }) :
    parentVolume type directory.pathPrefix = directory.pathPrefix := by
  rcases aboveLeft with same | above
  · cases same
    rcases aboveRight with same | above
    · cases same
      exact absurd rfl different
    · rw [(isAncestor_iff.mp above).2.2.2, parentVolume_parentVolume]
  · rw [(isAncestor_iff.mp above).2.2.2, parentVolume_parentVolume]

theorem shared_iff {left right : CServerPathData} (wellFormed : WellFormed type left)
    (wellFormedRight : WellFormed type right) (different : left ≠ right) :
    IsAtOrAbove { data := .some directory, type } { data := .some left, type } ∧
        IsAtOrAbove { data := .some directory, type } { data := .some right, type } ↔
      directory.segments <+: commonPrefix (directories type left) (directories type right) ∧
        ((traits type).hasRoot = false → directory.segments ≠ []) ∧
        directory.pathPrefix = parentVolume type left.pathPrefix ∧
        directory.pathPrefix = parentVolume type right.pathPrefix := by
  rw [extends_commonPrefix_iff]
  constructor
  · rintro ⟨aboveLeft, aboveRight⟩
    have container := directory_of_shared different aboveLeft aboveRight
    obtain ⟨shorter, rooted, volume⟩ := (directoryAbove_iff wellFormed).mp ⟨aboveLeft, container⟩
    obtain ⟨shorterRight, -, volumeRight⟩ :=
      (directoryAbove_iff wellFormedRight).mp ⟨aboveRight, container⟩
    exact ⟨⟨shorter, shorterRight⟩, rooted, volume, volumeRight⟩
  · rintro ⟨⟨shorter, shorterRight⟩, rooted, volume, volumeRight⟩
    exact ⟨((directoryAbove_iff wellFormed).mpr ⟨shorter, rooted, volume⟩).1,
      ((directoryAbove_iff wellFormedRight).mpr ⟨shorterRight, rooted, volumeRight⟩).1⟩

theorem directories_ne_nil {data : CServerPathData}
    (parent : hasParent { data := .some data, type } = true) : directories type data ≠ [] := by
  obtain ⟨filled, rooted⟩ := hasParent_iff.mp parent
  unfold directories
  split
  case isTrue mvs =>
    obtain ⟨rfl, -⟩ := mvs
    exact rooted rfl
  case isFalse => exact filled

theorem prefixmode_eq_zero : (traits type).prefixmode = 0 ↔ type ≠ .mvs := by
  cases type <;> decide

theorem getCommonParent_of_parents {left right : CServerPathData} (different : left ≠ right)
    (parent : hasParent { data := .some left, type } = true)
    (parentRight : hasParent { data := .some right, type } = true) :
    getCommonParent { data := .some left, type } { data := .some right, type } =
      let common := commonPrefix (directories type left) (directories type right)
      if parentVolume type left.pathPrefix = parentVolume type right.pathPrefix ∧
          ((traits type).hasRoot = false → common ≠ []) then
        { data := .some {
            segments := common, pathPrefix := parentVolume type left.pathPrefix }
          type }
      else none := by
  have notEqual : equal { data := .some left, type } { data := .some right, type } = false :=
    equal_eq_false.mpr fun same => different (Option.some.inj (congrArg data same))
  have parentLeft := getParent_of_hasParent parent
  have filled := directories_ne_nil parent
  have filledRight := directories_ne_nil parentRight
  have kept : (if type = .mvs then parentVolume type left.pathPrefix else left.pathPrefix) =
      parentVolume type left.pathPrefix := by
    unfold parentVolume
    split <;> rfl
  have volumes : (¬ type = .mvs ∧ ¬ left.pathPrefix = right.pathPrefix) ↔
      ¬ parentVolume type left.pathPrefix = parentVolume type right.pathPrefix := by
    unfold parentVolume
    split
    case isTrue mvs => exact iff_of_false (fun both => both.1 mvs) (fun differ => differ rfl)
    case isFalse other => exact and_iff_right other
  have folded : ∀ data : CServerPathData, (if type = .mvs ∧ data.pathPrefix = .none
      then data.segments.dropLast else data.segments) = directories type data := fun _ => rfl
  have segments := commonSegments_eq (traits type).hasRoot [] (directories type left)
    (directories type right)
  simp only [nil_append, filled, filledRight, ne_eq, not_false_iff, and_true] at segments
  simp only [getCommonParent, notEqual, parent, parentRight, parentLeft, volume, parentData,
    prefixmode_eq_one, prefixmode_eq_zero, ne_eq, not_true, false_or, Bool.not_true,
    Bool.false_eq_true, if_false, Option.bind_some, kept, volumes, folded]
  rw [segments]
  generalize commonPrefix (directories type left) (directories type right) = common
  by_cases same : parentVolume type left.pathPrefix = parentVolume type right.pathPrefix
  · by_cases missing : (traits type).hasRoot = false ∧ common = []
    · simp [same, missing]
    · have rooted : (traits type).hasRoot = false → ¬ common = [] := not_and.mp missing
      rw [if_neg (not_not.mpr same), if_neg missing, if_pos ⟨same, rooted⟩]
  · rw [if_pos same, if_neg fun both => same both.1]

/-- What the common parent of two paths is: the nearest path that is at or above both of them,
if there is one. -/
structure NearestShared (result path other : CServerPath) : Prop where
  missing : result.empty = true → ∀ shared, shared.empty = false →
    ¬ (IsAtOrAbove shared path ∧ IsAtOrAbove shared other)
  left : result.empty = false → IsAtOrAbove result path
  right : result.empty = false → IsAtOrAbove result other
  nearest : result.empty = false → ∀ shared, shared.empty = false → IsAtOrAbove shared path →
    IsAtOrAbove shared other → IsAtOrAbove shared result

theorem nearestShared_left (filled : left.empty = false) (above : IsAtOrAbove left right) :
    NearestShared left left right where
  missing none := absurd (filled.symm.trans none) (by decide)
  left _ := .inl rfl
  right _ := above
  nearest _ _ _ aboveLeft _ := aboveLeft

theorem NearestShared.swap {result : CServerPath} (nearest : NearestShared result left right) :
    NearestShared result right left where
  missing none path filled above := nearest.missing none path filled above.symm
  left := nearest.right
  right := nearest.left
  nearest none path filled above aboveOther := nearest.nearest none path filled aboveOther above

theorem nearestShared_none
    (missing : ∀ path, path.empty = false → ¬ (IsAtOrAbove path left ∧ IsAtOrAbove path right)) :
    NearestShared none left right where
  missing _ := missing
  left filled := absurd filled (by decide)
  right filled := absurd filled (by decide)
  nearest filled := absurd filled (by decide)

variable {other : CServerPath}

theorem eq_of_isAtOrAbove_orphan (orphan : path.hasParent = false) (filled : other.empty = false)
    (above : IsAtOrAbove other path) : other = path := by
  rcases above with same | above
  · exact same
  · rw [isAncestor_iff_parent, getParent_of_orphan orphan] at above
    rcases above with rfl | above
    · exact absurd filled (by simp [empty, clear])
    · exact absurd above (not_isAncestor_clear filled)

theorem nearestShared_orphan (different : left ≠ right) (filled : left.empty = false)
    (orphan : left.hasParent = false)
    (below : right.isSubdirOf left = true ↔ IsAncestor left right) :
    NearestShared (if right.isSubdirOf left then left else none) left right := by
  split
  case isTrue subdir => exact nearestShared_left filled (.inr (below.mp subdir))
  case isFalse apart =>
    refine nearestShared_none fun path present above => ?_
    obtain rfl := eq_of_isAtOrAbove_orphan orphan present above.1
    rcases above.2 with same | above
    · exact different same
    · exact apart (below.mpr above)

theorem nearestShared_parents {left right : CServerPathData} (wellFormed : WellFormed type left)
    (wellFormedRight : WellFormed type right) (different : left ≠ right)
    (parent : hasParent { data := .some left, type } = true)
    (parentRight : hasParent { data := .some right, type } = true) :
    NearestShared (getCommonParent { data := .some left, type } { data := .some right, type })
      { data := .some left, type } { data := .some right, type } := by
  have shared := fun directory => @shared_iff _ directory _ _ wellFormed wellFormedRight different
  have data : ∀ path : CServerPath, path.empty = false →
      IsAtOrAbove path { data := .some left, type } →
      ∃ directory, path = { data := .some directory, type } := by
    rintro ⟨_ | directory, pathType⟩ filled above
    · cases filled
    · obtain rfl : pathType = type := above.type_eq
      exact ⟨directory, rfl⟩
  rw [getCommonParent_of_parents different parent parentRight]
  dsimp only
  split
  case isTrue found =>
    obtain ⟨volumes, rooted⟩ := found
    have above := (shared { segments := _, pathPrefix := _ }).mpr
      ⟨prefix_rfl, rooted, rfl, volumes⟩
    refine ⟨fun none => absurd none (by simp [empty]), fun _ => above.1, fun _ => above.2, ?_⟩
    intro _ path filled aboveLeft aboveRight
    obtain ⟨directory, rfl⟩ := data path filled aboveLeft
    obtain ⟨shorter, filled, volume, -⟩ := (shared directory).mp ⟨aboveLeft, aboveRight⟩
    by_cases whole : directory.segments =
        commonPrefix (directories type left) (directories type right)
    · left
      rw [← whole, ← volume]
    · refine .inr (isAncestor_iff.mpr ⟨shorter, whole, filled, ?_⟩)
      rw [parentVolume_parentVolume]
      exact volume
  case isFalse missing =>
    refine nearestShared_none fun path filled above => ?_
    obtain ⟨directory, rfl⟩ := data path filled above.1
    obtain ⟨shorter, rooted, volume, volumeRight⟩ := (shared directory).mp above
    refine missing ⟨volume.symm.trans volumeRight, fun rootless none => rooted rootless ?_⟩
    rw [none] at shorter
    exact prefix_nil.mp shorter

theorem getCommonParent_self (path : CServerPath) : path.getCommonParent path = path := by
  rw [getCommonParent, if_pos (equal_iff.mpr rfl)]

theorem not_shared {left right : CServerPathData} {otherType : ServerType}
    (apart : type ≠ otherType ∨ type ≠ .mvs ∧ left.pathPrefix ≠ right.pathPrefix)
    (filled : path.empty = false) :
    ¬ (IsAtOrAbove path { data := .some left, type } ∧
      IsAtOrAbove path { data := .some right, type := otherType }) := by
  rintro ⟨aboveLeft, aboveRight⟩
  have sameType : type = otherType := aboveLeft.type_eq.symm.trans aboveRight.type_eq
  subst sameType
  obtain ⟨other, volumes⟩ := apart.resolve_left fun different => different rfl
  have volume : ∀ data : CServerPathData, IsAtOrAbove path { data := .some data, type } →
      path.volume = data.pathPrefix := by
    intro data above
    obtain ⟨_ | directory, pathType⟩ := path
    · cases filled
    · obtain rfl : pathType = type := above.type_eq
      rcases above with same | above
      · cases same
        rfl
      · have inherited := (isAncestor_iff.mp above).2.2.2
        rw [parentVolume, if_neg other] at inherited
        exact inherited
  exact volumes ((volume left aboveLeft).symm.trans (volume right aboveRight))

theorem getCommonParent_nearest (obtained : Obtained path) (obtainedOther : Obtained other)
    (filled : path.empty = false) (filledOther : other.empty = false) :
    NearestShared (path.getCommonParent other) path other := by
  by_cases same : path = other
  · subst same
    rw [getCommonParent_self]
    exact nearestShared_left filled (.inl rfl)
  have wellFormed := obtained.wellFormed
  have wellFormedOther := obtainedOther.wellFormed
  obtain ⟨_ | left, type⟩ := path
  · cases filled
  obtain ⟨_ | right, otherType⟩ := other
  · cases filledOther
  by_cases apart : type ≠ otherType ∨ type ≠ .mvs ∧ left.pathPrefix ≠ right.pathPrefix
  · have none : getCommonParent { data := .some left, type }
        { data := .some right, type := otherType } = none := by
      simp only [getCommonParent, equal_eq_false.mpr same, Bool.false_eq_true, if_false,
        prefixmode_eq_zero, if_pos apart]
    rw [none]
    exact nearestShared_none fun _ present => not_shared apart present
  · obtain rfl : type = otherType := by_contra fun different => apart (.inl different)
    cases parent : hasParent { data := .some left, type } with
    | false =>
      have exit : getCommonParent { data := .some left, type } { data := .some right, type } =
          if isSubdirOf { data := .some right, type } { data := .some left, type } then
            { data := .some left, type } else none := by
        simp only [getCommonParent, equal_eq_false.mpr same, Bool.false_eq_true, if_false,
          prefixmode_eq_zero, if_neg apart, parent, Bool.not_false, if_true]
      rw [exit]
      exact nearestShared_orphan same filled parent
        (isSubdirOf_iff_isAncestor rfl filledOther filled wellFormed)
    | true =>
      cases parentRight : hasParent { data := .some right, type } with
      | false =>
        have exit : getCommonParent { data := .some left, type } { data := .some right, type } =
            if isSubdirOf { data := .some left, type } { data := .some right, type } then
              { data := .some right, type } else none := by
          simp only [getCommonParent, equal_eq_false.mpr same, Bool.false_eq_true, if_false,
            prefixmode_eq_zero, if_neg apart, parent, parentRight, Bool.not_true,
            Bool.not_false, if_true]
        rw [exit]
        exact (nearestShared_orphan (Ne.symm same) filledOther parentRight
          (isSubdirOf_iff_isAncestor rfl filled filledOther wellFormedOther)).swap
      | true =>
        exact nearestShared_parents (wellFormed left rfl) (wellFormedOther right rfl)
          (fun equal => same (by rw [equal])) parent parentRight

theorem getCommonParent_empty (filled : path.empty = false)
    (none : (path.getCommonParent other).empty = true) :
    path.getCommonParent other = CServerPath.none := by
  revert none
  unfold getCommonParent
  dsimp only
  split
  case isTrue => exact fun none => absurd (filled.symm.trans none) (by decide)
  case isFalse =>
    split
    case h_2 => exact fun _ => rfl
    case h_1 ld rd _ present =>
      split
      case isTrue => exact fun _ => rfl
      case isFalse =>
        split
        case isTrue =>
          split
          case isTrue => exact fun none => absurd (filled.symm.trans none) (by decide)
          case isFalse => exact fun _ => rfl
        case isFalse =>
          split
          case isTrue =>
            split
            case isTrue =>
              intro none
              rw [empty, present] at none
              contradiction
            case isFalse => exact fun _ => rfl
          case isFalse =>
            split
            case h_1 => exact fun _ => rfl
            case h_2 => exact fun none => absurd none (by simp [empty])

theorem NearestShared.eq {first second : CServerPath} (nearest : NearestShared first path other)
    (another : NearestShared second path other) (filled : first.empty = false) :
    first = second := by
  have present : second.empty = false := Bool.eq_false_iff.mpr fun none =>
    another.missing none first filled ⟨nearest.left filled, nearest.right filled⟩
  exact IsAtOrAbove.antisymm filled present
    (another.nearest present first filled (nearest.left filled) (nearest.right filled))
    (nearest.nearest filled second present (another.left present) (another.right present))

/-- The common parent is the nearest path at or above both, in whatever order they are. -/
theorem getCommonParent_greatest {path other : CServerPath} (obtained : Obtained path)
    (obtainedOther : Obtained other) (filled : path.empty = false)
    (filledOther : other.empty = false) :
    NearestShared (path.getCommonParent other) path other ∧
      path.getCommonParent other = other.getCommonParent path := by
  have nearest := getCommonParent_nearest obtained obtainedOther filled filledOther
  have reverse := (getCommonParent_nearest obtainedOther obtained filledOther filled).swap
  refine ⟨nearest, ?_⟩
  cases found : (path.getCommonParent other).empty with
  | false => exact nearest.eq reverse found
  | true =>
    cases foundReverse : (other.getCommonParent path).empty with
    | false => exact (reverse.eq nearest foundReverse).symm
    | true =>
      rw [getCommonParent_empty filled found, getCommonParent_empty filledOther foundReverse]

theorem getCommonParent_greatest_home :
    NearestShared (unixHome.getCommonParent unixRoot) unixHome unixRoot ∧
      unixHome.getCommonParent unixRoot = unixRoot.getCommonParent unixHome :=
  getCommonParent_greatest obtained_unixHome obtained_unixRoot rfl rfl

end CServerPath

end FileZilla
