import FileZilla.Engine.ServerPath
import FileZilla.Stricmp

namespace FileZilla

open Option

namespace CServerPath

/-! The comparisons of server paths next to `operator<`, and how the four of them agree. -/

def compareSegments : List WString → List WString → Ordering
  | [], [] => .eq
  | _ :: _, [] => .gt
  | [], _ :: _ => .lt
  | segment :: left, other :: right => (compare segment other).then (compareSegments left right)

/-- `compare_case` and `compare_nocase` differ in how they compare the prefixes. -/
def comparePaths (comparePrefix : WString → WString → Ordering) (self op : CServerPath) :
    Ordering :=
  match self.data, op.data with
  | .none, .none => .eq
  | .none, .some _ => .lt
  | .some _, .none => .gt
  | .some ld, .some rd =>
    (compare self.type.value op.type.value).then
      (match ld.pathPrefix, rd.pathPrefix with
        | .some _, .none => .gt
        | .none, .some _ => .lt
        | .none, .none => compareSegments ld.segments rd.segments
        | .some left, .some right =>
          (comparePrefix left right).then (compareSegments ld.segments rd.segments))

def compareCase : CServerPath → CServerPath → Ordering :=
  comparePaths compare

variable (towlower : WChar → WChar)

def compareNocase : CServerPath → CServerPath → Ordering :=
  comparePaths (stricmp towlower)

def equalNocase (self op : CServerPath) : Bool :=
  match self.data, op.data with
  | .none, .none => true
  | .some ld, .some rd =>
    self.type == op.type && ld.segments.length == rd.segments.length &&
      samePrefix (fun left right => stricmp towlower left right == .eq)
        ld.pathPrefix rd.pathPrefix &&
      (ld.segments.zip rd.segments).all fun segments =>
        stricmp towlower segments.1 segments.2 == .eq
  | _, _ => false

def NulFree (path : CServerPath) : Prop :=
  ∀ data ∈ path.data,
    (∀ pathPrefix ∈ data.pathPrefix, 0 ∉ pathPrefix) ∧ ∀ segment ∈ data.segments, 0 ∉ segment

structure Consistent (first second third : CServerPath) : Prop where
  trichotomy :
    (less first second = true ∧ less second first = false ∧ equal first second = false) ∨
    (less first second = false ∧ less second first = true ∧ equal first second = false) ∨
    (less first second = false ∧ less second first = false ∧ equal first second = true)
  lessTrans : less first second = true → less second third = true → less first third = true
  caseEqual : compareCase first second = .eq ↔ equal first second = true
  nocaseEqual : compareNocase towlower first second = .eq ↔
    equalNocase towlower first second = true
  caseSwap : compareCase second first = (compareCase first second).swap
  nocaseSwap : compareNocase towlower second first = (compareNocase towlower first second).swap
  caseTrans : (compareCase first second).isLE → (compareCase second third).isLE →
    (compareCase first third).isLE
  nocaseTrans : (compareNocase towlower first second).isLE →
    (compareNocase towlower second third).isLE → (compareNocase towlower first third).isLE

/-- The paths are equal but for case, and not all of their segments are equal. -/
def SegmentsDifferInCase (left right : CServerPath) : Prop :=
  left.type = right.type ∧
    left.data.map (·.pathPrefix.map (foldCase towlower)) =
      right.data.map (·.pathPrefix.map (foldCase towlower)) ∧
    left.segments.map (foldCase towlower) = right.segments.map (foldCase towlower) ∧
    left.segments ≠ right.segments

theorem compareSegments_eq (left right : List WString) :
    compareSegments left right = compare left right := by
  induction left generalizing right with
  | nil => cases right <;> rfl
  | cons segment left induction =>
    cases right with
    | nil => rfl
    | cons other right => rw [compareSegments, List.compare_cons_cons, induction]

/-- The parts of a path in the order in which it is compared, with the prefix as `change`
leaves it -/
def compareKey (change : WString → WString) (path : CServerPath) :
    Option (Nat × Option WString × List WString) :=
  path.data.map fun data =>
    (path.type.value, data.pathPrefix.map change, data.segments)

attribute [local instance] lexOrd

variable {left right : CServerPath}

theorem comparePaths_eq {comparePrefix : WString → WString → Ordering}
    {change : WString → WString}
    (agrees : ∀ ld ∈ left.data, ∀ rd ∈ right.data, ∀ first ∈ ld.pathPrefix,
      ∀ second ∈ rd.pathPrefix,
        comparePrefix first second = compare (change first) (change second)) :
    comparePaths comparePrefix left right = compareOn (compareKey change) left right := by
  obtain ⟨_ | ld, leftType⟩ := left
  · obtain ⟨_ | rd, rightType⟩ := right
    · rfl
    · rfl
  · obtain ⟨_ | rd, rightType⟩ := right
    · rfl
    · obtain ⟨leftSegments, _ | first⟩ := ld
      · obtain ⟨rightSegments, _ | second⟩ := rd
        · simp only [comparePaths, compareSegments_eq]
          rfl
        · rfl
      · obtain ⟨rightSegments, _ | second⟩ := rd
        · rfl
        · have same := agrees _ rfl _ rfl first rfl second rfl
          simp only [comparePaths, compareSegments_eq, same]
          rfl

theorem compareCase_eq (left right : CServerPath) :
    compareCase left right = compareOn (compareKey id) left right :=
  comparePaths_eq fun _ _ _ _ _ _ _ _ => rfl

theorem compareKey_eq_iff {change : WString → WString} (present : left.empty = false) :
    compareKey change left = compareKey change right ↔
      right.empty = false ∧ left.type = right.type ∧
        left.data.map (·.pathPrefix.map change) = right.data.map (·.pathPrefix.map change) ∧
          left.segments = right.segments := by
  obtain ⟨_ | ld, leftType⟩ := left
  · cases present
  · obtain ⟨_ | rd, rightType⟩ := right
    · simp [compareKey, empty]
    · have type : leftType.value = rightType.value ↔ leftType = rightType :=
        ⟨ServerType.value_injective, congrArg _⟩
      simp [compareKey, empty, segments, type]

theorem compareCase_eq_iff (present : left.empty = false) :
    compareCase left right = .eq ↔ equal left right = true := by
  have keys : compareCase left right = .eq ↔ compareKey id left = compareKey id right := by
    rw [compareCase_eq]
    exact Std.LawfulEqOrd.compare_eq_iff_eq
  rw [keys, compareKey_eq_iff present, equal_iff]
  obtain ⟨_ | ld, leftType⟩ := left
  · cases present
  · obtain ⟨_ | rd, rightType⟩ := right
    · simp [empty]
    · obtain ⟨leftSegments, leftPrefix⟩ := ld
      obtain ⟨rightSegments, rightPrefix⟩ := rd
      simp only [empty, segments, isNone_some, true_and, map_id, id_eq,
        map_some, mk.injEq, some.injEq, CServerPathData.mk.injEq]
      constructor
      · rintro ⟨type, pathPrefix, segments⟩
        exact ⟨⟨segments, pathPrefix⟩, type⟩
      · rintro ⟨⟨segments, pathPrefix⟩, type⟩
        exact ⟨type, pathPrefix, segments⟩

theorem orderKey_eq_iff (present : left.empty = false) (cleanLeft : left.NulFree)
    (cleanRight : right.NulFree) :
    orderKey left = orderKey right ↔ left = right := by
  refine ⟨fun same => ?_, congrArg orderKey⟩
  obtain ⟨_ | ld, leftType⟩ := left
  · cases present
  · obtain ⟨_ | rd, rightType⟩ := right
    · exact absurd same (some_ne_none _)
    · obtain ⟨leftSegments, leftPrefix⟩ := ld
      obtain ⟨rightSegments, rightPrefix⟩ := rd
      have whole : ∀ {segments : List WString}, (∀ segment ∈ segments, 0 ∉ segment) →
          segments.map cString = segments := by
        intro segments clean
        refine (List.map_congr_left fun segment member => ?_).trans (List.map_id segments)
        exact cString_of_not_mem (clean segment member)
      simp only [orderKey, map_some, some.injEq, Prod.mk.injEq] at same
      obtain ⟨pathPrefix, type, segments⟩ := same
      have equalSegments : leftSegments = rightSegments :=
        (whole (cleanLeft _ rfl).2).symm.trans (segments.trans (whole (cleanRight _ rfl).2))
      rw [pathPrefix, ServerType.value_injective type, equalSegments]

theorem less_trichotomy (present : left.empty = false) (cleanLeft : left.NulFree)
    (cleanRight : right.NulFree) :
    (less left right = true ∧ less right left = false ∧ equal left right = false) ∨
    (less left right = false ∧ less right left = true ∧ equal left right = false) ∨
    (less left right = false ∧ less right left = false ∧ equal left right = true) := by
  have same : order left right = .eq ↔ left = right :=
    order_eq_iff.trans (orderKey_eq_iff present cleanLeft cleanRight)
  have swapped : order right left = (order left right).swap := Std.OrientedCmp.eq_swap
  rw [less_eq, less_eq, swapped]
  cases ordered : order left right with
  | lt =>
    have different : left ≠ right := fun equal => by simp [same.mpr equal] at ordered
    exact .inl ⟨rfl, rfl, equal_eq_false.mpr different⟩
  | gt =>
    have different : left ≠ right := fun equal => by simp [same.mpr equal] at ordered
    exact .inr (.inl ⟨rfl, rfl, equal_eq_false.mpr different⟩)
  | eq => exact .inr (.inr ⟨rfl, rfl, equal_iff.mpr (same.mp ordered)⟩)

section
variable {towlower} (zero : ∀ char, towlower char = 0 → char = 0)
variable {left right : CServerPath}
include zero

theorem compareNocase_eq (clean : left.NulFree) :
    compareNocase towlower left right = compareOn (compareKey (foldCase towlower)) left right :=
  comparePaths_eq fun ld present _ _ first isPrefix _ _ =>
    stricmp_eq_compare zero ((clean ld present).1 first isPrefix)

theorem compareNocase_eq_iff (present : left.empty = false) (clean : left.NulFree) :
    compareNocase towlower left right = .eq ↔
      right.empty = false ∧ left.type = right.type ∧
        left.data.map (·.pathPrefix.map (foldCase towlower)) =
          right.data.map (·.pathPrefix.map (foldCase towlower)) ∧
        left.segments = right.segments := by
  rw [compareNocase_eq zero clean, ← compareKey_eq_iff present]
  exact Std.LawfulEqOrd.compare_eq_iff_eq

theorem all_stricmp {left right : List WString} (clean : ∀ segment ∈ left, 0 ∉ segment) :
    (left.length = right.length ∧
      ((left.zip right).all fun segments =>
        stricmp towlower segments.1 segments.2 == .eq) = true) ↔
      left.map (foldCase towlower) = right.map (foldCase towlower) := by
  induction left generalizing right with
  | nil => cases right <;> simp
  | cons segment left induction =>
    cases right with
    | nil => simp
    | cons other right =>
      have rest := @induction right fun segment member =>
        clean segment (List.mem_cons_of_mem _ member)
      have first := @stricmp_eq_iff _ zero _ other (clean segment List.mem_cons_self)
      simp only [List.length_cons, Nat.add_right_cancel_iff, List.zip_cons_cons,
        List.all_cons, Bool.and_eq_true, beq_iff_eq, List.map_cons, List.cons.injEq]
      rw [← first, ← rest]
      tauto

theorem equalNocase_iff (present : left.empty = false) (clean : left.NulFree) :
    equalNocase towlower left right = true ↔
      right.empty = false ∧ left.type = right.type ∧
        left.data.map (·.pathPrefix.map (foldCase towlower)) =
          right.data.map (·.pathPrefix.map (foldCase towlower)) ∧
        left.segments.map (foldCase towlower) = right.segments.map (foldCase towlower) := by
  obtain ⟨_ | ld, leftType⟩ := left
  · cases present
  · obtain ⟨_ | rd, rightType⟩ := right
    · simp [equalNocase, empty]
    · have cleanData := clean ld rfl
      have prefixes : samePrefix (fun left right => stricmp towlower left right == .eq)
          ld.pathPrefix rd.pathPrefix = true ↔
          ld.pathPrefix.map (foldCase towlower) = rd.pathPrefix.map (foldCase towlower) := by
        cases first : ld.pathPrefix with
        | none => cases rd.pathPrefix <;> simp [samePrefix]
        | some pathPrefix =>
          have same := @stricmp_eq_iff _ zero pathPrefix
          cases rd.pathPrefix with
          | none => simp [samePrefix]
          | some other => simp [samePrefix, same (cleanData.1 pathPrefix first)]
      have same := @all_stricmp _ zero ld.segments rd.segments cleanData.2
      simp only [equalNocase, Bool.and_eq_true, beq_iff_eq, empty, isNone_some, true_and,
        map_some, some.injEq, segments, prefixes, ← same]
      tauto

theorem nocaseEqual_iff (present : left.empty = false) (clean : left.NulFree) :
    (compareNocase towlower left right = .eq ↔ equalNocase towlower left right = true) ↔
      ¬ SegmentsDifferInCase towlower left right := by
  rw [compareNocase_eq_iff zero present clean, equalNocase_iff zero present clean,
    SegmentsDifferInCase]
  have filled : left.data.map (·.pathPrefix.map (foldCase towlower)) =
      right.data.map (·.pathPrefix.map (foldCase towlower)) → right.empty = false := by
    intro same
    have both := congrArg isNone same
    rw [isNone_map, isNone_map] at both
    exact both.symm.trans present
  constructor
  · rintro agrees ⟨type, pathPrefix, folded, different⟩
    exact different (agrees.mpr ⟨filled pathPrefix, type, pathPrefix, folded⟩).2.2.2
  · intro notOnlyCase
    constructor
    · rintro ⟨other, type, pathPrefix, same⟩
      exact ⟨other, type, pathPrefix, congrArg _ same⟩
    · rintro ⟨other, type, pathPrefix, folded⟩
      refine ⟨other, type, pathPrefix, ?_⟩
      by_contra different
      exact notOnlyCase ⟨type, pathPrefix, folded, different⟩

/-- The orders agree with each other and with equality, except for how `compare_nocase`
compares segments. -/
theorem orderings_consistent_iff {first second third : CServerPath}
    (filled : first.empty = false) (cleanFirst : first.NulFree) (cleanSecond : second.NulFree) :
    Consistent towlower first second third ↔ ¬ SegmentsDifferInCase towlower first second := by
  have nocase := @nocaseEqual_iff _ zero first second filled cleanFirst
  constructor
  · exact fun consistent => nocase.mp consistent.nocaseEqual
  · intro notOnlyCase
    have caseKey := compareCase_eq
    have nocaseFirst := fun right => @compareNocase_eq _ zero first right cleanFirst
    have nocaseSecond := fun right => @compareNocase_eq _ zero second right cleanSecond
    exact {
      trichotomy := less_trichotomy filled cleanFirst cleanSecond
      lessTrans := less_strictWeakOrder.trans first second third
      caseEqual := compareCase_eq_iff filled
      nocaseEqual := nocase.mpr notOnlyCase
      caseSwap := by
        rw [caseKey, caseKey]
        exact @Std.OrientedCmp.eq_swap _ (compareOn (compareKey id)) _ _ _
      nocaseSwap := by
        rw [nocaseFirst, nocaseSecond]
        exact @Std.OrientedCmp.eq_swap _ (compareOn (compareKey (foldCase towlower))) _ _ _
      caseTrans := by
        rw [caseKey, caseKey, caseKey]
        exact @Std.TransCmp.isLE_trans _ (compareOn (compareKey id)) _ _ _ _
      nocaseTrans := by
        rw [nocaseFirst, nocaseSecond, nocaseFirst]
        exact @Std.TransCmp.isLE_trans _ (compareOn (compareKey (foldCase towlower))) _ _ _ _ }

end

def below (name : String) : CServerPath where
  data := some { segments := [wide name], pathPrefix := .none }
  type := .unix

theorem orderings_consistent_iff_names :
    Consistent asciiTolower (below "a") (below "b") (below "c") := by
  refine (orderings_consistent_iff asciiTolower_zero rfl ?_ ?_).mpr ?_
  · rintro data ⟨⟩
    exact ⟨fun _ present => absurd present (by simp), by decide⟩
  · rintro data ⟨⟩
    exact ⟨fun _ present => absurd present (by simp), by decide⟩
  · rintro ⟨-, -, folded, -⟩
    cases folded

/-- `/A` and `/a` are equal without regard to case and compare as different. -/
theorem orderings_not_consistent :
    ¬ Consistent asciiTolower (below "A") (below "a") (below "a") := by
  intro consistent
  have different := consistent.nocaseEqual.mpr (by decide)
  cases different

end CServerPath

end FileZilla
