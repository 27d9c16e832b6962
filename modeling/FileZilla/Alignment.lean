import Mathlib.Data.List.Nodup

namespace FileZilla

open List

universe u v

variable {Left : Type u} {Right : Type v}

/-! Two lists laid side by side by comparing their heads: equal heads share a
row, and the smaller head of two gets a row of its own. -/

inductive Row (Left : Type u) (Right : Type v) where
  | both (left : Left) (right : Right)
  | left (left : Left)
  | right (right : Right)

namespace Row

def left? : Row Left Right → Option Left
  | .both entry _ => some entry
  | .left entry => some entry
  | .right _ => none

def right? : Row Left Right → Option Right
  | .both _ entry => some entry
  | .left _ => none
  | .right entry => some entry

end Row

def align (cmp : Left → Right → Ordering) :
    List Left → List Right → List (Row Left Right)
  | [], rights => rights.map .right
  | left :: lefts, [] => (left :: lefts).map .left
  | left :: lefts, right :: rights =>
    match cmp left right with
    | .lt => .left left :: align cmp lefts (right :: rights)
    | .eq => .both left right :: align cmp lefts rights
    | .gt => .right right :: align cmp (left :: lefts) rights
termination_by lefts rights => lefts.length + rights.length

section Align

variable {cmp : Left → Right → Ordering}
variable {left : Left} {right : Right} {lefts : List Left} {rights : List Right}

@[simp] theorem align_nil_left : align cmp [] rights = rights.map .right := by
  rw [align]

@[simp] theorem align_nil_right : align cmp lefts [] = lefts.map .left := by
  cases lefts with
  | nil => rw [align_nil_left]; rfl
  | cons left lefts => rw [align]

theorem align_lt (less : cmp left right = .lt) :
    align cmp (left :: lefts) (right :: rights) =
      .left left :: align cmp lefts (right :: rights) := by
  rw [align, less]

theorem align_eq (equal : cmp left right = .eq) :
    align cmp (left :: lefts) (right :: rights) = .both left right :: align cmp lefts rights := by
  rw [align, equal]

theorem align_gt (greater : cmp left right = .gt) :
    align cmp (left :: lefts) (right :: rights) =
      .right right :: align cmp (left :: lefts) rights := by
  rw [align, greater]

end Align

section Rows

variable (cmp : Left → Right → Ordering)

theorem lefts_align (lefts : List Left) (rights : List Right) :
    (align cmp lefts rights).filterMap Row.left? = lefts := by
  fun_induction align cmp lefts rights with
  | case1 rights =>
    rw [filterMap_map]
    exact filterMap_eq_nil_iff.mpr fun _ _ => rfl
  | case2 left lefts =>
    rw [filterMap_map]
    exact filterMap_some
  | case3 left lefts right rights less induction => exact congrArg _ induction
  | case4 left lefts right rights equal induction => exact congrArg _ induction
  | case5 left lefts right rights greater induction => exact induction

theorem rights_align (lefts : List Left) (rights : List Right) :
    (align cmp lefts rights).filterMap Row.right? = rights := by
  fun_induction align cmp lefts rights with
  | case1 rights =>
    rw [filterMap_map]
    exact filterMap_some
  | case2 left lefts =>
    rw [filterMap_map]
    exact filterMap_eq_nil_iff.mpr fun _ _ => rfl
  | case3 left lefts right rights less induction => exact induction
  | case4 left lefts right rights equal induction => exact congrArg _ induction
  | case5 left lefts right rights greater induction => exact congrArg _ induction

variable {cmp}
variable {lefts : List Left} {rights : List Right} {left : Left} {right : Right}

theorem left_mem_of_both (shared : .both left right ∈ align cmp lefts rights) :
    left ∈ lefts := by
  rw [← lefts_align cmp lefts rights]
  exact mem_filterMap.mpr ⟨_, shared, rfl⟩

theorem right_mem_of_both (shared : .both left right ∈ align cmp lefts rights) :
    right ∈ rights := by
  rw [← rights_align cmp lefts rights]
  exact mem_filterMap.mpr ⟨_, shared, rfl⟩

theorem row_unique {Entry : Type*} {rows : List (Row Left Right)}
    {side : Row Left Right → Option Entry} {entry : Entry} {first second : Row Left Right}
    (distinct : (rows.filterMap side).Nodup)
    (firstMember : first ∈ rows) (firstEntry : side first = some entry)
    (secondMember : second ∈ rows) (secondEntry : side second = some entry) :
    first = second := by
  induction rows with
  | nil => cases firstMember
  | cons row rows induction =>
    cases shown : side row with
    | none =>
      rw [filterMap_cons_none shown] at distinct
      refine induction distinct ?_ ?_
      · refine (mem_cons.mp firstMember).resolve_left fun same => ?_
        rw [same, shown] at firstEntry
        cases firstEntry
      · refine (mem_cons.mp secondMember).resolve_left fun same => ?_
        rw [same, shown] at secondEntry
        cases secondEntry
    | some value =>
      rw [filterMap_cons_some shown, nodup_cons] at distinct
      obtain ⟨absent, distinct⟩ := distinct
      have later : ∀ {other}, other ∈ rows → side other = some entry → value ≠ entry := by
        intro other member found same
        exact absent (mem_filterMap.mpr ⟨other, member, same ▸ found⟩)
      rcases mem_cons.mp firstMember with rfl | firstMember
      · rcases mem_cons.mp secondMember with rfl | secondMember
        · rfl
        · exact absurd (Option.some.inj (shown.symm.trans firstEntry))
            (later secondMember secondEntry)
      · rcases mem_cons.mp secondMember with same | secondMember
        · rw [same] at secondEntry
          exact absurd (Option.some.inj (shown.symm.trans secondEntry))
            (later firstMember firstEntry)
        · exact induction distinct firstMember secondMember

theorem equal_of_both (shared : .both left right ∈ align cmp lefts rights) :
    cmp left right = .eq := by
  fun_induction align cmp lefts rights with
  | case1 rights => simp at shared
  | case2 head lefts => simp at shared
  | case3 head lefts other rights less induction =>
    exact induction (by simpa using shared)
  | case4 head lefts other rights equal induction =>
    rcases mem_cons.mp shared with same | later
    · cases same
      exact equal
    · exact induction later
  | case5 head lefts other rights greater induction =>
    exact induction (by simpa using shared)

end Rows

def Complete (cmp : Left → Right → Ordering) (lefts : List Left) (rights : List Right) : Prop :=
  ∀ left ∈ lefts, ∀ right ∈ rights,
    cmp left right = .eq → .both left right ∈ align cmp lefts rights

section Complete

variable {cmp : Left → Right → Ordering}
variable {left : Left} {right : Right} {lefts : List Left} {rights : List Right}

theorem complete_nil_left : Complete cmp [] rights :=
  fun _ member => by cases member

theorem complete_nil_right : Complete cmp lefts [] :=
  fun _ _ _ member => by cases member

theorem complete_cons_lt (fresh : left ∉ lefts) (less : cmp left right = .lt) :
    Complete cmp (left :: lefts) (right :: rights) ↔
      (∀ other ∈ rights, cmp left other ≠ .eq) ∧
        Complete cmp lefts (right :: rights) := by
  unfold Complete
  rw [align_lt less]
  constructor
  · intro complete
    refine ⟨fun other member equal => ?_, fun entry entryMember other member equal => ?_⟩
    · have shared := complete left (.head _) other (.tail _ member) equal
      exact fresh (left_mem_of_both (by simpa using shared))
    · have shared := complete entry (.tail _ entryMember) other member equal
      simpa using shared
  · rintro ⟨alone, complete⟩ entry entryMember other member equal
    rcases mem_cons.mp entryMember with rfl | entryMember
    · rcases mem_cons.mp member with rfl | member
      · rw [less] at equal
        cases equal
      · exact absurd equal (alone other member)
    · exact .tail _ (complete entry entryMember other member equal)

theorem complete_cons_gt (fresh : right ∉ rights) (greater : cmp left right = .gt) :
    Complete cmp (left :: lefts) (right :: rights) ↔
      (∀ other ∈ lefts, cmp other right ≠ .eq) ∧
        Complete cmp (left :: lefts) rights := by
  unfold Complete
  rw [align_gt greater]
  constructor
  · intro complete
    refine ⟨fun other member equal => ?_, fun entry entryMember other member equal => ?_⟩
    · have shared := complete other (.tail _ member) right (.head _) equal
      exact fresh (right_mem_of_both (by simpa using shared))
    · have shared := complete entry entryMember other (.tail _ member) equal
      simpa using shared
  · rintro ⟨alone, complete⟩ entry entryMember other member equal
    rcases mem_cons.mp member with rfl | member
    · rcases mem_cons.mp entryMember with rfl | entryMember
      · rw [greater] at equal
        cases equal
      · exact absurd equal (alone entry entryMember)
    · exact .tail _ (complete entry entryMember other member equal)

theorem complete_cons_eq (equal : cmp left right = .eq)
    (leftAlone : ∀ other ∈ rights, cmp left other ≠ .eq)
    (rightAlone : ∀ other ∈ lefts, cmp other right ≠ .eq) :
    Complete cmp (left :: lefts) (right :: rights) ↔ Complete cmp lefts rights := by
  unfold Complete
  rw [align_eq equal]
  constructor
  · intro complete entry entryMember other member same
    have shared := complete entry (.tail _ entryMember) other (.tail _ member) same
    refine (mem_cons.mp shared).resolve_left fun head => ?_
    cases head
    exact leftAlone right member equal
  · intro complete entry entryMember other member same
    rcases mem_cons.mp entryMember with rfl | entryMember
    · rcases mem_cons.mp member with rfl | member
      · exact .head _
      · exact absurd same (leftAlone other member)
    · rcases mem_cons.mp member with rfl | member
      · exact absurd same (rightAlone entry entryMember)
      · exact .tail _ (complete entry entryMember other member same)

/-- No entry has two partners. -/
structure OneToOne (cmp : Left → Right → Ordering)
    (lefts : List Left) (rights : List Right) : Prop where
  left : ∀ right ∈ rights, ∀ first ∈ lefts, ∀ second ∈ lefts,
    cmp first right = .eq → cmp second right = .eq → first = second
  right : ∀ left ∈ lefts, ∀ first ∈ rights, ∀ second ∈ rights,
    cmp left first = .eq → cmp left second = .eq → first = second

theorem oneToOne_of_complete (leftDistinct : lefts.Nodup) (rightDistinct : rights.Nodup)
    (complete : Complete cmp lefts rights) : OneToOne cmp lefts rights where
  left right member first firstMember second secondMember firstEqual secondEqual := by
    have distinct : ((align cmp lefts rights).filterMap Row.right?).Nodup := by
      rw [rights_align]
      exact rightDistinct
    have same := row_unique distinct (complete first firstMember right member firstEqual) rfl
      (complete second secondMember right member secondEqual) rfl
    cases same
    rfl
  right left member first firstMember second secondMember firstEqual secondEqual := by
    have distinct : ((align cmp lefts rights).filterMap Row.left?).Nodup := by
      rw [lefts_align]
      exact leftDistinct
    have same := row_unique distinct (complete left member first firstMember firstEqual) rfl
      (complete left member second secondMember secondEqual) rfl
    cases same
    rfl

structure Guided (cmp : Left → Right → Ordering)
    (lefts : List Left) (rights : List Right) : Prop where
  onLeft : lefts.Pairwise fun earlier later =>
    ∀ right ∈ rights, cmp later right = .eq → cmp earlier right = .lt
  onRight : rights.Pairwise fun earlier later =>
    ∀ left ∈ lefts, cmp left later = .eq → cmp left earlier = .gt

theorem Guided.tail_left (guided : Guided cmp (left :: lefts) rights) :
    Guided cmp lefts rights where
  onLeft := guided.onLeft.tail
  onRight := guided.onRight.imp fun before entry member => before entry (.tail _ member)

theorem Guided.tail_right (guided : Guided cmp lefts (right :: rights)) :
    Guided cmp lefts rights where
  onLeft := guided.onLeft.imp fun before entry member => before entry (.tail _ member)
  onRight := guided.onRight.tail

theorem complete_of_guided (guided : Guided cmp lefts rights) :
    Complete cmp lefts rights := by
  fun_induction align cmp lefts rights with
  | case1 rights => exact complete_nil_left
  | case2 left lefts => exact complete_nil_right
  | case3 left lefts right rights less induction =>
    intro entry entryMember other member equal
    rw [align_lt less]
    rcases mem_cons.mp entryMember with rfl | entryMember
    · -- the head's partner would have to stand behind a head it is before
      rcases mem_cons.mp member with rfl | member
      · rw [less] at equal
        cases equal
      · have greater := rel_of_pairwise_cons guided.onRight member _ (.head _) equal
        rw [less] at greater
        cases greater
    · exact .tail _ (induction guided.tail_left entry entryMember other member equal)
  | case4 left lefts right rights equalHeads induction =>
    intro entry entryMember other member equal
    rw [align_eq equalHeads]
    rcases mem_cons.mp entryMember with rfl | entryMember
    · rcases mem_cons.mp member with rfl | member
      · exact .head _
      · have greater := rel_of_pairwise_cons guided.onRight member _ (.head _) equal
        rw [equalHeads] at greater
        cases greater
    · rcases mem_cons.mp member with rfl | member
      · have less := rel_of_pairwise_cons guided.onLeft entryMember _ (.head _) equal
        rw [equalHeads] at less
        cases less
      · exact .tail _ (induction guided.tail_left.tail_right entry entryMember other member equal)
  | case5 left lefts right rights greater induction =>
    intro entry entryMember other member equal
    rw [align_gt greater]
    rcases mem_cons.mp member with rfl | member
    · rcases mem_cons.mp entryMember with rfl | entryMember
      · rw [greater] at equal
        cases equal
      · have less := rel_of_pairwise_cons guided.onLeft entryMember _ (.head _) equal
        rw [greater] at less
        cases less
    · exact .tail _ (induction guided.tail_right entry entryMember other member equal)

theorem complete_cons_right_iff (distinct : lefts.Nodup) (fresh : right ∉ rights)
    (alone : ∀ left ∈ lefts, cmp left right ≠ .eq) (guided : Guided cmp lefts rights) :
    Complete cmp lefts (right :: rights) ↔
      ∀ left ∈ lefts.takeWhile (cmp · right == .lt), ∀ other ∈ rights, cmp left other ≠ .eq := by
  induction lefts with
  | nil => exact iff_of_true complete_nil_left fun _ member => by cases member
  | cons left lefts induction =>
    obtain ⟨leftFresh, distinct⟩ := nodup_cons.mp distinct
    obtain ⟨headAlone, restAlone⟩ := forall_mem_cons.mp alone
    cases order : cmp left right with
    | lt =>
      rw [complete_cons_lt leftFresh order, takeWhile_cons_of_pos (by simp [order]),
        forall_mem_cons]
      exact and_congr_right' (induction distinct restAlone guided.tail_left)
    | eq => exact absurd order headAlone
    | gt =>
      rw [complete_cons_gt fresh order, takeWhile_cons_of_neg (by simp [order])]
      exact iff_of_true ⟨restAlone, complete_of_guided guided⟩ fun _ member => by cases member

theorem complete_cons_left_iff (distinct : rights.Nodup) (fresh : left ∉ lefts)
    (alone : ∀ right ∈ rights, cmp left right ≠ .eq) (guided : Guided cmp lefts rights) :
    Complete cmp (left :: lefts) rights ↔
      ∀ right ∈ rights.takeWhile (cmp left · == .gt), ∀ other ∈ lefts, cmp other right ≠ .eq := by
  induction rights with
  | nil => exact iff_of_true complete_nil_right fun _ member => by cases member
  | cons right rights induction =>
    obtain ⟨rightFresh, distinct⟩ := nodup_cons.mp distinct
    obtain ⟨headAlone, restAlone⟩ := forall_mem_cons.mp alone
    cases order : cmp left right with
    | lt =>
      rw [complete_cons_lt fresh order, takeWhile_cons_of_neg (by simp [order])]
      exact iff_of_true ⟨restAlone, complete_of_guided guided⟩ fun _ member => by cases member
    | eq => exact absurd order headAlone
    | gt =>
      rw [complete_cons_gt rightFresh order,
        takeWhile_cons_of_pos (by simp [order]), forall_mem_cons]
      exact and_congr_right' (induction distinct restAlone guided.tail_right)

end Complete

/-! Lists sorted by the comparison that aligns them. The comparison need not be
transitive, only equal entries must compare alike with all others. -/

structure Congruent {Entry : Type u} (cmp : Entry → Entry → Ordering) : Prop where
  swap : ∀ first second, cmp first second = (cmp second first).swap
  congr : ∀ {first second} other, cmp first second = .eq → cmp first other = cmp second other

section Sorted

variable {Entry : Type u} {cmp : Entry → Entry → Ordering} {lefts rights : List Entry}

theorem Congruent.symm (congruent : Congruent cmp) {first second : Entry}
    (equal : cmp first second = .eq) : cmp second first = .eq := by
  rw [congruent.swap, equal]
  rfl

theorem Congruent.self (congruent : Congruent cmp) (entry : Entry) :
    cmp entry entry = .eq := by
  have swapped := congruent.swap entry entry
  cases order : cmp entry entry with
  | eq => rfl
  | lt => rw [order] at swapped; cases swapped
  | gt => rw [order] at swapped; cases swapped

theorem Congruent.congr_right (congruent : Congruent cmp) {first second : Entry}
    (other : Entry) (equal : cmp first second = .eq) : cmp other first = cmp other second := by
  rw [congruent.swap other first, congruent.swap other second, congruent.congr other equal]

theorem guided_of_sorted (congruent : Congruent cmp)
    (leftDistinct : lefts.Nodup) (rightDistinct : rights.Nodup)
    (leftSorted : lefts.Pairwise (cmp · · ≠ .gt)) (rightSorted : rights.Pairwise (cmp · · ≠ .gt))
    (oneToOne : OneToOne cmp lefts rights) : Guided cmp lefts rights where
  onLeft := by
    refine (leftSorted.and leftDistinct).imp_of_mem ?_
    rintro earlier later earlierMember laterMember ⟨ordered, different⟩ right member equal
    have order : cmp earlier right = cmp earlier later :=
      (congruent.congr_right earlier equal).symm
    cases compared : cmp earlier later with
    | lt => rw [order, compared]
    | eq =>
      exact absurd (oneToOne.left right member earlier earlierMember later laterMember
        (order.trans compared) equal) different
    | gt => exact absurd compared ordered
  onRight := by
    refine (rightSorted.and rightDistinct).imp_of_mem ?_
    rintro earlier later earlierMember laterMember ⟨ordered, different⟩ left member equal
    have order : cmp left earlier = (cmp earlier later).swap :=
      (congruent.congr earlier equal).trans (congruent.swap later earlier)
    cases compared : cmp earlier later with
    | lt => rw [order, compared]; rfl
    | eq =>
      refine absurd (oneToOne.right left member earlier earlierMember later laterMember
        ?_ equal) different
      rw [order, compared]
      rfl
    | gt => exact absurd compared ordered

end Sorted

end FileZilla
