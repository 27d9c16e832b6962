import Mathlib.Logic.Function.Iterate
import FileZilla.CommonPrefix
import FileZilla.Engine.ServerPathChange

namespace FileZilla

open List

namespace CServerPath

/-- Going to the parent of `path` at least once leads to `ancestor`. -/
def IsAncestor (ancestor path : CServerPath) : Prop :=
  ∃ n, ancestor = (getParent^[n + 1]) path

def parentVolume (type : ServerType) (volume : Option WString) : Option WString :=
  if type = .mvs then .some (wide ".") else volume

variable {type : ServerType}

@[simp] theorem parentVolume_parentVolume (volume : Option WString) :
    parentVolume type (parentVolume type volume) = parentVolume type volume := by
  unfold parentVolume
  split <;> rfl

def parentData (type : ServerType) (data : CServerPathData) : CServerPathData where
  segments := data.segments.dropLast
  pathPrefix := parentVolume type data.pathPrefix

variable {data : CServerPathData}

theorem hasParent_iff :
    hasParent { data := .some data, type } = true ↔
      data.segments ≠ [] ∧ ((traits type).hasRoot = false → data.segments.dropLast ≠ []) := by
  obtain ⟨segments, volume⟩ := data
  cases root : (traits type).hasRoot with
  | true => simp [hasParent, root]
  | false =>
    rcases segments with - | ⟨first, - | ⟨second, rest⟩⟩ <;> simp [hasParent, root]

theorem getParent_of_hasParent (parent : hasParent { data := .some data, type } = true) :
    getParent { data := .some data, type } = { data := .some (parentData type data), type } := by
  simp only [getParent, makeParent, parent, Bool.not_true, Bool.false_eq_true, if_false]
  rfl

variable {path : CServerPath}

theorem getParent_of_orphan (orphan : path.hasParent = false) :
    path.getParent = path.clear := by
  obtain ⟨_ | data, type⟩ := path
  · rfl
  · simp only [getParent, makeParent, orphan, Bool.not_false, if_true]

theorem getParent_clear (path : CServerPath) : path.clear.getParent = path.clear := rfl

variable {ancestor : CServerPath}

theorem not_isAncestor_clear (filled : ancestor.empty = false) :
    ¬ IsAncestor ancestor path.clear := by
  rintro ⟨n, rfl⟩
  rw [Function.iterate_fixed (getParent_clear path)] at filled
  cases filled

theorem isAncestor_iff_parent :
    IsAncestor ancestor path ↔
      ancestor = path.getParent ∨ IsAncestor ancestor path.getParent := by
  constructor
  · rintro ⟨n, rfl⟩
    cases n with
    | zero => exact .inl rfl
    | succ n => exact .inr ⟨n, rfl⟩
  · rintro (rfl | ⟨n, rfl⟩)
    · exact ⟨0, rfl⟩
    · exact ⟨n + 1, rfl⟩

theorem isAncestor_iff {ancestor : CServerPathData} :
    IsAncestor { data := .some ancestor, type } { data := .some data, type } ↔
      ancestor.segments <+: data.segments ∧ ancestor.segments ≠ data.segments ∧
        ((traits type).hasRoot = false → ancestor.segments ≠ []) ∧
        ancestor.pathPrefix = parentVolume type data.pathPrefix := by
  obtain ⟨segments, volume⟩ := data
  induction segments using reverseRecOn generalizing volume with
  | nil =>
    have orphan : hasParent { data := .some { segments := [], pathPrefix := volume }, type } =
        false := Bool.eq_false_iff.mpr fun parent => (hasParent_iff.mp parent).1 rfl
    rw [isAncestor_iff_parent, getParent_of_orphan orphan]
    constructor
    · rintro (same | above)
      · cases same
      · exact absurd above (not_isAncestor_clear rfl)
    · rintro ⟨shorter, different, -⟩
      exact absurd (prefix_nil.mp shorter) different
  | append_singleton segments last induction =>
    rw [isAncestor_iff_parent, prefix_concat_iff]
    by_cases parent : hasParent
        { data := .some { segments := segments ++ [last], pathPrefix := volume }, type } = true
    · have rooted := (hasParent_iff.mp parent).2
      rw [dropLast_concat] at rooted
      rw [getParent_of_hasParent parent, parentData, dropLast_concat, induction,
        parentVolume_parentVolume]
      constructor
      · rintro (same | ⟨shorter, -, filled, sameVolume⟩)
        · cases same
          exact ⟨.inr prefix_rfl, by simp, rooted, rfl⟩
        · refine ⟨.inr shorter, fun same => ?_, filled, sameVolume⟩
          have length := shorter.length_le
          rw [same] at length
          simp only [length_append, length_singleton] at length
          omega
      · rintro ⟨whole | shorter, different, filled, sameVolume⟩
        · exact absurd whole different
        · by_cases same : ancestor.segments = segments
          · left
            rw [← same, ← sameVolume]
          · exact .inr ⟨shorter, same, filled, sameVolume⟩
    · rw [getParent_of_orphan (Bool.eq_false_iff.mpr parent)]
      have orphan : (traits type).hasRoot = false ∧ segments = [] := by
        by_contra other
        refine parent (hasParent_iff.mpr ⟨by simp, fun root none => other ⟨root, ?_⟩⟩)
        rwa [dropLast_concat] at none
      constructor
      · rintro (same | above)
        · cases same
        · exact absurd above (not_isAncestor_clear rfl)
      · rintro ⟨whole | shorter, different, filled, -⟩
        · exact absurd whole different
        · rw [orphan.2] at shorter
          exact absurd (prefix_nil.mp shorter) (filled orphan.1)

theorem segmentsBelow_iff {allowEqual : Bool} {left right : List WString} :
    segmentsBelow (fun left right => left == right) allowEqual left right = true ↔
      right <+: left ∧ (allowEqual = false → right ≠ left) := by
  induction left generalizing right with
  | nil =>
    cases right <;> simp [segmentsBelow]
  | cons segment left induction =>
    cases right with
    | nil => simp [segmentsBelow]
    | cons other right =>
      by_cases same : segment = other
      · subst same
        simp only [segmentsBelow, beq_self_eq_true, if_true, induction,
          cons_prefix_cons, true_and, ne_eq, cons.injEq]
      · have reversed : other ≠ segment := fun equal => same equal.symm
        simp [segmentsBelow, same, reversed, cons_prefix_cons]

theorem prefixmode_eq_one : (traits type).prefixmode = 1 ↔ type = .mvs := by
  cases type <;> decide

theorem samePrefix_iff {left right : Option WString} :
    samePrefix (fun left right => left == right) left right = true ↔ left = right := by
  cases left <;> cases right <;> simp [samePrefix]

theorem isSubdirOf_eq_true_iff {other : CServerPathData} {allowEqual : Bool} :
    isSubdirOf { data := .some data, type } { data := .some other, type } allowEqual = true ↔
      hasParent { data := .some data, type } = true ∧
      (type ≠ .mvs → data.pathPrefix = other.pathPrefix) ∧
      (type = .mvs → other.pathPrefix ≠ .none) ∧
      other.segments <+: data.segments ∧ (allowEqual = false → other.segments ≠ data.segments) := by
  have notNone : other.pathPrefix ≠ .none ↔ other.pathPrefix.isNone = false := by
    cases other.pathPrefix <;> simp
  simp only [isSubdirOf, isSubdirOfBy, ne_eq, not_true, if_false, notNone]
  cases parent : hasParent { data := .some data, type } with
  | false => simp
  | true =>
    by_cases mvs : type = .mvs
    · subst mvs
      have mode : (traits .mvs).prefixmode = 1 := rfl
      cases volume : other.pathPrefix.isNone <;> simp [mode, segmentsBelow_iff]
    · have mode : ¬ (traits type).prefixmode = 1 := fun mode => mvs (prefixmode_eq_one.mp mode)
      by_cases same : data.pathPrefix = other.pathPrefix
      · have samely := samePrefix_iff.mpr same
        rw [same] at samely
        simp [mode, mvs, samely, same, segmentsBelow_iff]
      · have differs := Bool.eq_false_iff.mpr fun samely => same (samePrefix_iff.mp samely)
        simp [mode, mvs, differs, same]

theorem isSubdirOf_iff_isAncestor (sameType : path.type = ancestor.type)
    (filled : path.empty = false) (filledAncestor : ancestor.empty = false)
    (wellFormed : ∀ data ∈ ancestor.data, WellFormed ancestor.type data) :
    path.isSubdirOf ancestor = true ↔ IsAncestor ancestor path := by
  obtain ⟨_ | data, type⟩ := path
  · cases filled
  obtain ⟨_ | other, otherType⟩ := ancestor
  · cases filledAncestor
  obtain rfl : type = otherType := sameType
  have good := wellFormed other rfl
  have volumes : ((type ≠ .mvs → data.pathPrefix = other.pathPrefix) ∧
      (type = .mvs → other.pathPrefix ≠ .none)) ↔
      other.pathPrefix = parentVolume type data.pathPrefix := by
    unfold parentVolume
    by_cases mvs : type = .mvs
    · subst mvs
      rcases good.volume with missing | directory
      · simp [missing]
      · simp [directory]
    · simp [mvs, eq_comm]
  rw [isSubdirOf_eq_true_iff, isAncestor_iff, ← volumes, hasParent_iff]
  constructor
  · rintro ⟨-, inside, named, shorter, different⟩
    exact ⟨shorter, different rfl, good.rooted, inside, named⟩
  · rintro ⟨shorter, different, rooted, inside, named⟩
    refine ⟨⟨?_, fun rootless none => ?_⟩, inside, named, shorter, fun _ => different⟩
    · intro none
      rw [none] at shorter different
      exact different (prefix_nil.mp shorter)
    · refine rooted rootless ?_
      rcases eq_nil_or_concat data.segments with missing | ⟨init, last, segments⟩
      · rw [missing] at shorter
        exact prefix_nil.mp shorter
      · rw [concat_eq_append] at segments
        rw [segments, dropLast_concat] at none
        rw [segments, none] at shorter different
        rcases prefix_concat_iff.mp shorter with whole | less
        · exact absurd whole different
        · exact prefix_nil.mp less

/-- The pairs for which `IsSubdirOf` goes wrong if it is to allow equality: it has answered
before it gets to compare, or it ignores a missing suffix of the left path. -/
structure MistakenEquality (path other : CServerPath) : Prop where
  segments : path.segments = other.segments
  cases : (path = other ∧ (path.hasParent = false ∨ path.type = .mvs ∧ path.volume = .none)) ∨
    (path.type = .mvs ∧ path.volume = .none ∧ other.volume ≠ .none ∧ path.hasParent = true)

theorem isSubdirOf_allowEqual_iff {other : CServerPath} (sameType : path.type = other.type)
    (filled : path.empty = false) (filledOther : other.empty = false)
    (wellFormed : ∀ data ∈ path.data, WellFormed path.type data)
    (wellFormedOther : ∀ data ∈ other.data, WellFormed other.type data) :
    (path.isSubdirOf other true = true ↔ path.isSubdirOf other = true ∨ path = other) ↔
      ¬ MistakenEquality path other := by
  obtain ⟨_ | data, type⟩ := path
  · cases filled
  obtain ⟨_ | rest, otherType⟩ := other
  · cases filledOther
  obtain rfl : type = otherType := sameType
  have volumes : ∀ some ∈ [data, rest],
      type = .mvs → some.pathPrefix = .none ∨ some.pathPrefix = .some (wide ".") := by
    rintro _ member rfl
    rcases mem_pair.mp member with rfl | rfl
    · exact (wellFormed _ rfl).volume
    · exact (wellFormedOther _ rfl).volume
  obtain ⟨segments, volume⟩ := data
  obtain ⟨others, otherVolume⟩ := rest
  have mistaken : MistakenEquality { data := .some { segments, pathPrefix := volume }, type }
      { data := .some { segments := others, pathPrefix := otherVolume }, type } ↔
      segments = others ∧
        ((volume = otherVolume ∧
          (hasParent { data := .some { segments, pathPrefix := volume }, type } = false ∨
            type = .mvs ∧ volume = .none)) ∨
        (type = .mvs ∧ volume = .none ∧ otherVolume ≠ .none ∧
          hasParent { data := .some { segments, pathPrefix := volume }, type } = true)) := by
    constructor
    · rintro ⟨same, cases⟩
      refine ⟨same, cases.imp_left ?_⟩
      rintro ⟨equal, which⟩
      cases equal
      exact ⟨rfl, which⟩
    · rintro ⟨rfl, cases⟩
      refine ⟨rfl, cases.imp_left ?_⟩
      rintro ⟨rfl, which⟩
      exact ⟨rfl, which⟩
  rw [mistaken, isSubdirOf_eq_true_iff, isSubdirOf_eq_true_iff]
  simp only [CServerPath.mk.injEq, Option.some.injEq, CServerPathData.mk.injEq, and_true]
  by_cases same : segments = others
  · subst same
    by_cases mvs : type = .mvs
    · have left : volume = .none ∨ volume = .some (wide ".") := volumes _ mem_cons_self mvs
      have right : otherVolume = .none ∨ otherVolume = .some (wide ".") :=
        volumes _ (mem_cons_of_mem _ mem_cons_self) mvs
      subst mvs
      rcases left with rfl | rfl <;> rcases right with rfl | rfl <;> simp
    · by_cases equal : volume = otherVolume
      · subst equal
        simp [mvs]
      · simp [equal, mvs]
  · have reversed : others ≠ segments := fun equal => same equal.symm
    simp [same, reversed]

/-- What `IsSubdirOf` and `IsParentOf` are to say of two paths -/
structure AgreesWithParents (path other : CServerPath) : Prop where
  strict : path.isSubdirOf other = true ↔ IsAncestor other path
  allowEqual : path.isSubdirOf other true = true ↔ IsAncestor other path ∨ path = other
  converse : ∀ allowEqual, other.isParentOf path allowEqual = path.isSubdirOf other allowEqual

/-- The tests agree with the parents except for some that are to allow equality. -/
theorem isSubdirOf_agrees_iff {path other : CServerPath} (obtained : Obtained path)
    (obtainedOther : Obtained other) (filled : path.empty = false)
    (filledOther : other.empty = false) (sameType : path.type = other.type) :
    AgreesWithParents path other ↔ ¬ MistakenEquality path other := by
  have strict := isSubdirOf_iff_isAncestor sameType filled filledOther obtainedOther.wellFormed
  have loose := isSubdirOf_allowEqual_iff sameType filled filledOther obtained.wellFormed
    obtainedOther.wellFormed
  rw [strict] at loose
  constructor
  · exact fun agrees => loose.mp agrees.allowEqual
  · exact fun right => ⟨strict, loose.mpr right, fun _ => rfl⟩

def unixRoot : CServerPath where
  data := some { segments := [], pathPrefix := .none }
  type := .unix

theorem obtained_unixRoot : Obtained unixRoot := by
  have set : setPath { data := .none, type := .unix } (wide "/") =
      .some (unixRoot, wide "/") := by decide
  exact .setPath (.empty .unix) set

def unixHome : CServerPath where
  data := some { segments := [wide "home"], pathPrefix := .none }
  type := .unix

theorem obtained_unixHome : Obtained unixHome := by
  have changed : unixRoot.changePath (wide "home") = .some (unixHome, wide "home") := by decide
  exact .changePath obtained_unixRoot changed

theorem isSubdirOf_agrees_iff_home : AgreesWithParents unixHome unixRoot := by
  refine (isSubdirOf_agrees_iff obtained_unixHome obtained_unixRoot rfl rfl rfl).mpr ?_
  exact fun mistaken => absurd mistaken.segments (by decide)

/-- `IsSubdirOf` denies that the root directory is equal to itself. -/
theorem isSubdirOf_not_agrees :
    Obtained unixRoot ∧ unixRoot.empty = false ∧ ¬ AgreesWithParents unixRoot unixRoot := by
  refine ⟨obtained_unixRoot, rfl, fun agrees => ?_⟩
  exact absurd (agrees.allowEqual.mpr (.inr rfl)) (by decide)

end CServerPath

end FileZilla
