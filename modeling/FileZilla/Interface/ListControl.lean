import Mathlib.Algebra.Order.Ring.Int
import Mathlib.Data.List.Basic

namespace FileZilla

/-! A list control, as the number of its rows and the selected ones among them, and how the queue
moves the selection when rows come or go. -/

structure ListControl where
  itemCount : Nat
  selected : Nat → Bool
  inside : ∀ {row}, selected row → row < itemCount

namespace ListControl

variable (self : ListControl)

open List

def getSelectedItemCount : Nat :=
  (range self.itemCount).countP self.selected

/-- `GetNextItem` for selected rows, where none stands for -1. -/
def getNextItem (item : Int) : Option Nat :=
  (range self.itemCount).find? fun row => decide (item < row) && self.selected row

/-- `SetItemState` for `wxLIST_STATE_SELECTED`; nothing is set outside of the list. -/
def setItemState (item : Int) (state : Bool) : ListControl where
  itemCount := self.itemCount
  selected row :=
    if (row : Int) = item then state && decide (row < self.itemCount) else self.selected row
  inside {row} chosen := by
    split at chosen
    case isTrue => simpa using (Bool.and_eq_true_iff.mp chosen).2
    case isFalse => exact self.inside chosen

def setItemCount (count : Nat) : ListControl where
  itemCount := count
  selected row := decide (row < count) && self.selected row
  inside chosen := by simpa using (Bool.and_eq_true_iff.mp chosen).1

/-- The loops over the selected rows; each row comes after the last one, so that `rounds` is
enough with the number of rows. -/
def whileSelected {State : Type} (control : State → ListControl) (body : Nat → State → State) :
    (rounds : Nat) → State → Option Nat → State
  | 0, state, _ => state
  | _ + 1, state, none => state
  | rounds + 1, state, some item =>
    let state := body item state
    whileSelected control body rounds state ((control state).getNextItem item)

def setAll (state : Bool) (items : List Nat) (self : ListControl) : ListControl :=
  items.foldl (fun control item => control.setItemState item state) self

def setBefore (state : Bool) (row : Int) :
    ListControl → List Nat → ListControl × List Nat
  | control, [] => (control, [])
  | control, front :: queue =>
    if front < row then setBefore state row (control.setItemState front state) queue
    else (control, front :: queue)

def takeFront (state : Bool) (row : Int) (control : ListControl) :
    List Nat → ListControl × List Nat
  | [] => (control.setItemState row state, [])
  | front :: queue =>
    if front = row then (control, queue)
    else (control.setItemState row state, front :: queue)

def settle (state : Bool) (row : Int) (control : ListControl) (queue : List Nat) :
    ListControl × List Nat :=
  let (control, queue) := setBefore state row control queue
  takeFront (!state) row control queue

def moveUp (item : Nat) : ListControl × Option Nat → ListControl × Option Nat
  | (control, some prevItem) =>
    if prevItem + 1 ≠ item then
      ((control.setItemState (prevItem + 1) true).setItemState item false, some item)
    else (control, some item)
  | (control, none) => (control.setItemState item false, some item)

/-- The last selected row moves up by one, unless it is the last row. -/
def selectLast (itemCount : Nat) : ListControl × Option Nat → ListControl
  | (control, some prevItem) =>
    if prevItem < (itemCount : Int) - 1 then control.setItemState (prevItem + 1) true
    else control
  | (control, none) => control

def itemAdded (added : Nat) : ListControl :=
  if self.getSelectedItemCount = 0 then self
  else
    let moved :=
      whileSelected Prod.fst moveUp self.itemCount (self, none) (self.getNextItem (added - 1))
    (selectLast self.itemCount moved).setItemState added false

def itemRangeAdded (added count : Nat) : ListControl :=
  if self.getSelectedItemCount = 0 then self
  else
    let body (item : Nat) (state : ListControl × List Nat) : ListControl × List Nat :=
      let (control, itemsToSelect) := settle true item state.1 state.2
      (control,
        if item + count < control.itemCount then itemsToSelect ++ [item + count]
        else itemsToSelect)
    let (control, itemsToSelect) :=
      whileSelected Prod.fst body self.itemCount (self, []) (self.getNextItem (added - 1))
    control.setAll true itemsToSelect

def itemRangeRemoved (removed count : Int) : ListControl :=
  if self.getSelectedItemCount = 0 then self
  else
    let self := self.setItemState removed false
    let body (item : Nat) (state : ListControl × List Nat) : ListControl × List Nat :=
      let (control, itemsToUnselect) := settle false (item - count) state.1 state.2
      (control, itemsToUnselect ++ [item])
    let (control, itemsToUnselect) :=
      whileSelected Prod.fst body self.itemCount (self, []) (self.getNextItem (removed - 1))
    control.setAll false itemsToUnselect

variable {control : ListControl}

theorem selected_setItemState {item : Int} {state : Bool} {row : Nat} :
    (control.setItemState item state).selected row ↔
      if (row : Int) = item then state ∧ row < control.itemCount else control.selected row := by
  unfold setItemState
  split
  case isTrue same => simp [same]
  case isFalse other => simp [other]

theorem setAll_itemCount (state : Bool) (items : List Nat) (control : ListControl) :
    (control.setAll state items).itemCount = control.itemCount := by
  induction items generalizing control with
  | nil => rfl
  | cons item items same => exact same (control.setItemState item state)

theorem selected_setAll {state : Bool} {items : List Nat} {row : Nat} :
    (control.setAll state items).selected row ↔
      if row ∈ items then state ∧ row < control.itemCount else control.selected row := by
  induction items generalizing control with
  | nil => simp [setAll]
  | cons item items chosen =>
    refine (@chosen (control.setItemState item state)).trans ?_
    by_cases later : row ∈ items
    case pos => simp [later, setItemState]
    case neg =>
      rw [if_neg later, selected_setItemState]
      simp [later]

theorem selected_setItemCount {count row : Nat} :
    (control.setItemCount count).selected row ↔ row < count ∧ control.selected row := by
  simp [setItemCount]

theorem unselected_of_count (none : control.getSelectedItemCount = 0) (row : Nat) :
    ¬control.selected row := by
  intro chosen
  refine absurd chosen (countP_eq_zero.mp none row ?_)
  exact mem_range.mpr (control.inside chosen)

theorem getNextItem_cases (control : ListControl) (item : Int) :
    (control.getNextItem item = none ∧ ∀ row : Nat, item < row → ¬control.selected row) ∨
      ∃ next : Nat, control.getNextItem item = some next ∧ item < next ∧
        control.selected next ∧ ∀ row : Nat, item < row → row < next → ¬control.selected row := by
  cases found : control.getNextItem item with
  | none =>
    refine .inl ⟨rfl, fun row after chosen => ?_⟩
    have missing := find?_eq_none.mp found row (mem_range.mpr (control.inside chosen))
    exact missing (by simp [after, chosen])
  | some next =>
    obtain ⟨holds, front, rest, rows, earlier⟩ := find?_eq_some_iff_append.mp found
    simp only [Bool.and_eq_true, decide_eq_true_eq] at holds
    refine .inr ⟨next, rfl, holds.1, holds.2, fun row after before chosen => ?_⟩
    have member : row ∈ front := by
      have listed := mem_range.mpr (control.inside chosen)
      have sorted := pairwise_lt_range (n := control.itemCount)
      rw [rows] at listed sorted
      rcases mem_append.mp listed with here | later
      · exact here
      · have above := (pairwise_append.mp sorted).2.1
        rcases mem_cons.mp later with same | later
        · omega
        · have bound := (pairwise_cons.mp above).1 row later
          omega
    have refused := earlier row member
    simp [after, chosen] at refused

theorem whileSelected_invariant {State : Type} {list : State → ListControl}
    {body : Nat → State → State} {count : Nat} {Seen : Nat → State → Prop}
    (same : ∀ row state, Seen row state → (list state).itemCount = count)
    (skip : ∀ row state, Seen row state → ¬(list state).selected row → Seen (row + 1) state)
    (treat : ∀ row state, Seen row state → (list state).selected row →
      Seen (row + 1) (body row state))
    {rounds row : Nat} {state : State} (enough : count ≤ row + rounds) (inside : row ≤ count)
    (seen : Seen row state) :
    Seen count (whileSelected list body rounds state ((list state).getNextItem (row - 1))) := by
  induction rounds generalizing row state with
  | zero =>
    obtain rfl : row = count := by omega
    exact seen
  | succ rounds next =>
    have skipTo (later : Nat) (least : row ≤ later)
        (none : ∀ between : Nat, row ≤ between → between < later →
          ¬(list state).selected between) : Seen later state := by
      induction later, least using Nat.le_induction with
      | base => exact seen
      | succ later least reached =>
        refine skip later state (reached fun between after before => ?_)
          (none later least (Nat.lt_succ_self later))
        exact none between after (Nat.lt_succ_of_lt before)
    rcases (list state).getNextItem_cases (row - 1) with ⟨found, none⟩ | found
    · rw [found]
      exact skipTo count inside fun between after _ => none between (by omega)
    · obtain ⟨item, found, after, chosen, none⟩ := found
      have reached := skipTo item (by omega)
        fun between after before => none between (by omega) before
      have within := (list state).inside chosen
      rw [same item state reached] at within
      have remaining : count ≤ item + 1 + rounds := by omega
      have treated := next remaining within (treat item state reached chosen)
      rw [Nat.cast_succ, Int.add_sub_cancel] at treated
      rw [found]
      exact treated

theorem setBefore_eq {state : Bool} {row : Int} {queue : List Nat}
    (sorted : queue.Pairwise (· < ·)) :
    setBefore state row control queue =
      (control.setAll state (queue.filter fun item : Nat => item < row),
        queue.filter fun item : Nat => row ≤ item) := by
  induction queue generalizing control with
  | nil => rfl
  | cons front queue before =>
    obtain ⟨first, sorted⟩ := pairwise_cons.mp sorted
    rw [setBefore]
    split
    case isTrue less =>
      rw [before sorted]
      simp [less, setAll]
    case isFalse reached =>
      have rest : queue.filter (fun item : Nat => decide ((item : Int) < row)) = [] := by
        rw [filter_eq_nil_iff]
        intro item member
        have above := first item member
        simp only [decide_eq_true_eq]
        omega
      have all : queue.filter (fun item : Nat => decide (row ≤ (item : Int))) = queue := by
        rw [filter_eq_self]
        intro item member
        have above := first item member
        simp only [decide_eq_true_eq]
        omega
      simp [reached, rest, all, setAll, not_lt.mp reached]

theorem takeFront_cases {state : Bool} {row : Int} {queue : List Nat}
    (sorted : queue.Pairwise (· < ·)) (reached : ∀ item ∈ queue, row ≤ (item : Int)) :
    (∃ first rest, queue = first :: rest ∧ (first : Int) = row ∧
      takeFront state row control queue = (control, rest)) ∨
    ((∀ item ∈ queue, row < (item : Int)) ∧
      takeFront state row control queue = (control.setItemState row state, queue)) := by
  cases queue with
  | nil => exact .inr ⟨fun item member => absurd member (by simp), rfl⟩
  | cons first rest =>
    by_cases same : (first : Int) = row
    case pos => exact .inl ⟨first, rest, rfl, same, if_pos same⟩
    case neg =>
      refine .inr ⟨fun item member => ?_, if_neg same⟩
      have least := reached first mem_cons_self
      rcases mem_cons.mp member with rfl | later
      · omega
      · have above := (pairwise_cons.mp sorted).1 item later
        omega

structure Settled (state : Bool) (row : Int) (control : ListControl) (queue : List Nat)
    (settled : ListControl × List Nat) : Prop where
  itemCount : settled.1.itemCount = control.itemCount
  earlier : ∀ item : Nat, item ∈ queue → item < row →
    (settled.1.selected item ↔ state ∧ item < control.itemCount)
  missing : ∀ item : Nat, item ∉ queue → item = row →
    (settled.1.selected item ↔ state = false ∧ item < control.itemCount)
  other : ∀ item : Nat, (item ∈ queue → row ≤ item) → (item ∉ queue → item ≠ row) →
    (settled.1.selected item ↔ control.selected item)
  pending : ∀ item : Nat, item ∈ settled.2 ↔ item ∈ queue ∧ row < item
  sorted : settled.2.Pairwise (· < ·)

theorem settled_settle {state : Bool} {row : Int} {queue : List Nat}
    (sorted : queue.Pairwise (· < ·)) :
    Settled state row control queue (settle state row control queue) := by
  have remaining : (queue.filter fun item : Nat => row ≤ item).Pairwise (· < ·) := sorted.filter _
  have member (item : Nat) : item ∈ queue.filter (fun item : Nat => row ≤ item) ↔
      item ∈ queue ∧ row ≤ item := by
    rw [mem_filter, decide_eq_true_eq]
  have before (item : Nat) : item ∈ queue.filter (fun item : Nat => item < row) ↔
      item ∈ queue ∧ item < row := by
    rw [mem_filter, decide_eq_true_eq]
  rw [settle, setBefore_eq sorted]
  dsimp only
  generalize queue.filter (fun item : Nat => row ≤ item) = later at *
  generalize queue.filter (fun item : Nat => item < row) = front at *
  rcases @takeFront_cases (control.setAll state front) (!state) row later remaining
      (fun item inside => ((member item).mp inside).2) with
    ⟨first, rest, rfl, same, taken⟩ | ⟨above, taken⟩
  · have listed := (member first).mp mem_cons_self
    have after (item : Nat) : item ∈ rest ↔ item ∈ queue ∧ row < item := by
      have increasing := (pairwise_cons.mp remaining).1 item
      have inside := member item
      rw [mem_cons] at inside
      constructor
      · intro found
        have greater := increasing found
        exact ⟨(inside.mp (.inr found)).1, by omega⟩
      · rintro ⟨found, greater⟩
        rcases inside.mpr ⟨found, by omega⟩ with rfl | found
        · omega
        · exact found
    rw [taken]
    exact
      { itemCount := setAll_itemCount state front control
        earlier := fun item found less => by
          rw [selected_setAll, if_pos ((before item).mpr ⟨found, less⟩)]
        missing := fun item absent equal => by
          obtain rfl : item = first := by omega
          exact absurd listed.1 absent
        other := fun item least _ => by
          rw [selected_setAll, if_neg]
          intro found
          have inside := (before item).mp found
          have reached := least inside.1
          omega
        pending := after
        sorted := (pairwise_cons.mp remaining).2 }
  · rw [taken]
    exact
      { itemCount := setAll_itemCount state front control
        earlier := fun item found less => by
          rw [selected_setItemState, if_neg (by omega), selected_setAll,
            if_pos ((before item).mpr ⟨found, less⟩)]
        missing := fun item _ equal => by
          rw [selected_setItemState, if_pos equal, setAll_itemCount]
          simp
        other := fun item least different => by
          have apart : (item : Int) ≠ row := by
            intro equal
            by_cases found : item ∈ queue
            case pos =>
              have greater := above item ((member item).mpr ⟨found, equal.ge⟩)
              omega
            case neg => exact different found equal
          rw [selected_setItemState, if_neg apart, selected_setAll, if_neg]
          intro found
          have inside := (before item).mp found
          have reached := least inside.1
          omega
        pending := fun item => by
          rw [member item]
          constructor
          · exact fun found => ⟨found.1, above item ((member item).mpr found)⟩
          · exact fun found => ⟨found.1, le_of_lt found.2⟩
        sorted := remaining }

/-- While the rows from `removed` on move down, those below `row` have been seen. -/
structure Removing (old : ListControl) (removed count row : Nat)
    (state : ListControl × List Nat) : Prop where
  itemCount : state.1.itemCount = old.itemCount
  start : removed ≤ row
  later : ∀ item, row ≤ item → (state.1.selected item ↔ old.selected item)
  sorted : state.2.Pairwise (· < ·)
  pending : ∀ item ∈ state.2, item < row ∧ state.1.selected item
  settled : ∀ item < row, state.1.selected item ∧ item ∉ state.2 ↔
    item < removed ∧ old.selected item ∨
      item + count < row ∧ removed ≤ item + count ∧ old.selected (item + count)

namespace Removing

variable {old : ListControl} {removed count row : Nat} {state : ListControl × List Nat}

theorem begins (old : ListControl) (removed count : Nat) :
    Removing old removed count removed (old, []) where
  itemCount := rfl
  start := Nat.le_refl removed
  later _ _ := Iff.rfl
  sorted := Pairwise.nil
  pending item member := absurd member (by simp)
  settled item below := by
    constructor
    · exact fun chosen => .inl ⟨below, chosen.1⟩
    · rintro (⟨-, chosen⟩ | ⟨less, least, -⟩)
      · exact ⟨chosen, by simp⟩
      · omega

theorem skip (seen : Removing old removed count row state) (unselected : ¬state.1.selected row)
    (some : 0 < count) : Removing old removed count (row + 1) state where
  __ := seen
  start := Nat.le_succ_of_le seen.start
  later item below := seen.later item (Nat.le_of_succ_le below)
  pending item member :=
    ⟨Nat.lt_succ_of_lt (seen.pending item member).1, (seen.pending item member).2⟩
  settled item below := by
    rcases Nat.lt_succ_iff_lt_or_eq.mp below with earlier | rfl
    · rw [seen.settled item earlier]
      refine or_congr_right ⟨?_, ?_⟩
      · rintro ⟨less, rest⟩
        exact ⟨Nat.lt_succ_of_lt less, rest⟩
      · rintro ⟨less, least, chosen⟩
        refine ⟨?_, least, chosen⟩
        rcases Nat.lt_succ_iff_lt_or_eq.mp less with less | same
        · exact less
        · rw [same, ← seen.later row (Nat.le_refl row)] at chosen
          exact absurd chosen unselected
    · constructor
      · exact fun chosen => absurd chosen.1 unselected
      · have start := seen.start
        rintro (⟨less, -⟩ | ⟨less, -⟩)
        · omega
        · omega

theorem treat (seen : Removing old removed count row state) (chosen : state.1.selected row)
    (some : 0 < count) {settled : ListControl × List Nat}
    (done : Settled false ((row : Int) - count) state.1 state.2 settled) :
    Removing old removed count (row + 1) (settled.1, settled.2 ++ [row]) where
  itemCount := done.itemCount.trans seen.itemCount
  start := Nat.le_succ_of_le seen.start
  later item below := by
    rw [← seen.later item (Nat.le_of_succ_le below)]
    refine done.other item (fun member => ?_) (fun _ => by omega)
    have less := (seen.pending item member).1
    omega
  sorted := by
    rw [pairwise_append]
    refine ⟨done.sorted, pairwise_singleton _ _, ?_⟩
    intro item member last isLast
    obtain rfl := mem_singleton.mp isLast
    exact (seen.pending item ((done.pending item).mp member).1).1
  pending item member := by
    rcases mem_append.mp member with member | last
    · obtain ⟨found, above⟩ := (done.pending item).mp member
      obtain ⟨less, selected⟩ := seen.pending item found
      refine ⟨Nat.lt_succ_of_lt less, ?_⟩
      exact (done.other item (fun _ => le_of_lt above) (fun absent => absurd found absent)).mpr
        selected
    · obtain rfl := mem_singleton.mp last
      refine ⟨Nat.lt_succ_self item, ?_⟩
      refine (done.other item (fun member => ?_) (fun _ => by omega)).mpr chosen
      exact absurd (seen.pending item member).1 (Nat.lt_irrefl item)
  settled item below := by
    have start := seen.start
    have within := state.1.inside chosen
    rw [mem_append, mem_singleton, not_or]
    rcases Nat.lt_succ_iff_lt_or_eq.mp below with earlier | rfl
    · have before := seen.settled item earlier
      have moved : (item < removed ∧ old.selected item ∨
          item + count < row + 1 ∧ removed ≤ item + count ∧ old.selected (item + count)) ↔
          (state.1.selected item ∧ item ∉ state.2) ∨ item + count = row := by
        rw [before, or_assoc]
        refine or_congr_right ⟨?_, ?_⟩
        · rintro ⟨less, rest⟩
          exact (Nat.lt_succ_iff_lt_or_eq.mp less).imp_left fun less => ⟨less, rest⟩
        · rintro (⟨less, rest⟩ | same)
          · exact ⟨Nat.lt_succ_of_lt less, rest⟩
          · rw [same, ← seen.later row (Nat.le_refl row)]
            exact ⟨Nat.lt_succ_self row, start, chosen⟩
      rw [moved, done.pending item]
      by_cases found : item ∈ state.2
      case pos =>
        simp only [found, true_and, not_true, and_false, false_or]
        rcases lt_trichotomy (item : Int) (row - count) with less | same | greater
        · rw [done.earlier item found less]
          simp only [Bool.false_eq_true, false_and, false_iff]
          omega
        · rw [done.other item (fun _ => same.ge) (fun absent => absurd found absent)]
          have selected := (seen.pending item found).2
          simp only [selected, true_and]
          omega
        · constructor
          · rintro ⟨-, notAbove, -⟩
            exact absurd greater notAbove
          · omega
      case neg =>
        simp only [found, false_and, not_false_eq_true, true_and, and_true]
        by_cases same : (item : Int) = row - count
        case pos =>
          rw [done.missing item found same]
          simp only [true_and]
          omega
        case neg =>
          rw [done.other item (fun member => absurd member found) (fun _ => same)]
          constructor
          · exact fun selected => .inl selected.1
          · rintro (selected | equal)
            · exact ⟨selected, by omega⟩
            · omega
    · constructor
      · exact fun selected => absurd rfl selected.2.2
      · rintro (⟨less, -⟩ | ⟨less, -⟩)
        · omega
        · omega

theorem finish {control : ListControl}
    (seen : Removing (control.setItemState removed false) removed count control.itemCount state)
    {row : Nat} (inside : row < control.itemCount) :
    (state.1.setAll false state.2).selected row ↔
      row < removed ∧ control.selected row ∨
        removed < row + count ∧ control.selected (row + count) := by
  have settled := seen.settled row inside
  have cleared (item : Nat) : (control.setItemState removed false).selected item ↔
      item ≠ removed ∧ control.selected item := by
    rw [selected_setItemState]
    by_cases same : item = removed
    case pos => simp [same]
    case neg =>
      have other : (item : Int) ≠ removed := by omega
      simp [same, other]
  have unlisted : (state.1.setAll false state.2).selected row ↔
      state.1.selected row ∧ row ∉ state.2 := by
    rw [selected_setAll]
    split
    case isTrue member => simp [member]
    case isFalse absent => simp [absent]
  rw [unlisted, settled, cleared, cleared]
  constructor
  · rintro (⟨before, -, chosen⟩ | ⟨-, least, different, chosen⟩)
    · exact .inl ⟨before, chosen⟩
    · exact .inr ⟨by omega, chosen⟩
  · rintro (⟨before, chosen⟩ | ⟨after, chosen⟩)
    · exact .inl ⟨before, before.ne, chosen⟩
    · exact .inr ⟨control.inside chosen, after.le, after.ne', chosen⟩

end Removing

theorem selected_itemRangeRemoved (control : ListControl) (removed : Nat) {count : Nat}
    (some : 0 < count) (bound : removed ≤ control.itemCount) {row : Nat}
    (inside : row < control.itemCount) :
    (control.itemRangeRemoved removed count).selected row ↔
      row < removed ∧ control.selected row ∨
        removed < row + count ∧ control.selected (row + count) := by
  unfold itemRangeRemoved
  split
  case isTrue none =>
    have unselected := unselected_of_count none
    simp [unselected]
  case isFalse =>
    have enough : control.itemCount ≤ removed + control.itemCount := Nat.le_add_left _ _
    have seen := whileSelected_invariant (fun _ _ seen => seen.itemCount)
      (fun _ _ seen unselected => Removing.skip seen unselected some)
      (fun _ _ seen chosen => seen.treat chosen some (settled_settle seen.sorted))
      enough bound (Removing.begins (control.setItemState removed false) removed count)
    exact seen.finish inside

/-- The row is selected once the selected rows from `added` on that are below `row` have moved. -/
def Moved (old : ListControl) (added count row item : Nat) : Prop :=
  item < added ∧ old.selected item ∨
    added + count ≤ item ∧ item < row + count ∧ old.selected (item - count)

theorem moved_succ {old : ListControl} {added count row item : Nat} (start : added ≤ row) :
    Moved old added count (row + 1) item ↔
      Moved old added count row item ∨ item = row + count ∧ old.selected row := by
  unfold Moved
  rw [or_assoc]
  refine or_congr_right ⟨?_, ?_⟩
  · rintro ⟨least, less, chosen⟩
    by_cases same : item = row + count
    case pos =>
      subst same
      rw [Nat.add_sub_cancel] at chosen
      exact .inr ⟨rfl, chosen⟩
    case neg => exact .inl ⟨least, by omega, chosen⟩
  · rintro (⟨least, less, chosen⟩ | ⟨rfl, chosen⟩)
    · exact ⟨least, by omega, chosen⟩
    · refine ⟨by omega, by omega, ?_⟩
      rwa [Nat.add_sub_cancel]

theorem moved_begins {old : ListControl} {added count item : Nat} :
    Moved old added count added item ↔ item < added ∧ old.selected item := by
  unfold Moved
  constructor
  · rintro (before | ⟨least, less, -⟩)
    · exact before
    · omega
  · exact .inl

/-- While the rows from `added` on move up, those below `row` have been seen; `pending` are the
rows that are still to be selected. -/
structure Adding (old : ListControl) (added count row : Nat) (control : ListControl)
    (pending : Nat → Prop) : Prop where
  itemCount : control.itemCount = old.itemCount
  start : added ≤ row
  later : ∀ item, row ≤ item → (control.selected item ↔ old.selected item)
  settled : ∀ item < old.itemCount,
    item < row ∧ control.selected item ∨ pending item ↔ Moved old added count row item

namespace Adding

variable {old control : ListControl} {added count row : Nat} {pending : Nat → Prop}

theorem begins (old : ListControl) (added count : Nat) :
    Adding old added count added old fun _ => False where
  itemCount := rfl
  start := Nat.le_refl added
  later _ _ := Iff.rfl
  settled item _ := by rw [moved_begins, or_false]

theorem skip (seen : Adding old added count row control pending)
    (unselected : ¬control.selected row) :
    Adding old added count (row + 1) control pending where
  itemCount := seen.itemCount
  start := Nat.le_succ_of_le seen.start
  later item below := seen.later item (Nat.le_of_succ_le below)
  settled item within := by
    have notMoved : ¬(item = row + count ∧ old.selected row) :=
      fun moved => unselected ((seen.later row (Nat.le_refl row)).mpr moved.2)
    rw [moved_succ seen.start, ← seen.settled item within, or_iff_left notMoved]
    refine or_congr_left ⟨?_, ?_⟩
    · rintro ⟨below, chosen⟩
      rcases Nat.lt_succ_iff_lt_or_eq.mp below with less | rfl
      · exact ⟨less, chosen⟩
      · exact absurd chosen unselected
    · exact fun chosen => ⟨Nat.lt_succ_of_lt chosen.1, chosen.2⟩

theorem treat (seen : Adding old added count row control pending) (chosen : control.selected row)
    {after : ListControl} {pendingAfter : Nat → Prop}
    (itemCount : after.itemCount = control.itemCount)
    (later : ∀ item, row < item → (after.selected item ↔ control.selected item))
    (here : after.selected row ↔ pending row)
    (before : ∀ item < row, (after.selected item ↔ control.selected item ∨ pending item))
    (kept : ∀ item < control.itemCount,
      pendingAfter item ↔ row < item ∧ pending item ∨ item = row + count) :
    Adding old added count (row + 1) after pendingAfter where
  itemCount := itemCount.trans seen.itemCount
  start := Nat.le_succ_of_le seen.start
  later item below := (later item below).trans (seen.later item (Nat.le_of_succ_le below))
  settled item within := by
    have oldChosen := (seen.later row (Nat.le_refl row)).mp chosen
    rw [moved_succ seen.start, ← seen.settled item within,
      kept item (within.trans_eq seen.itemCount.symm)]
    rcases lt_trichotomy item row with less | rfl | greater
    · rw [before item less]
      simp only [less, Nat.lt_succ_of_lt less, true_and, oldChosen, and_true]
      have notAfter : ¬row < item := by omega
      simp only [notAfter, false_and, false_or]
    · simp only [here, Nat.lt_irrefl, false_and, false_or, Nat.lt_succ_self, true_and, oldChosen,
        and_true]
    · have notBelow : ¬item < row + 1 := by omega
      have notBefore : ¬item < row := by omega
      simp only [notBelow, notBefore, false_and, false_or, greater, true_and, oldChosen, and_true]

theorem finish (seen : Adding old added count old.itemCount control pending) {row : Nat}
    (inside : row < old.itemCount) :
    control.selected row ∨ pending row ↔
      row < added ∧ old.selected row ∨ added + count ≤ row ∧ old.selected (row - count) := by
  have settled := seen.settled row inside
  simp only [inside, true_and] at settled
  rw [settled, Moved]
  refine or_congr_right (and_congr_right fun _ => and_iff_right ?_)
  omega

end Adding

structure Queued (old : ListControl) (added count row : Nat) (state : ListControl × List Nat) :
    Prop where
  adding : Adding old added count row state.1 (· ∈ state.2)
  sorted : state.2.Pairwise (· < ·)
  inside : ∀ item ∈ state.2, item < old.itemCount

namespace Queued

variable {old : ListControl} {added count row : Nat} {state : ListControl × List Nat}

theorem below (seen : Queued old added count row state) {item : Nat} (member : item ∈ state.2) :
    item < row + count := by
  have start := seen.adding.start
  rcases (seen.adding.settled item (seen.inside item member)).mp (.inr member) with
    ⟨before, -⟩ | ⟨-, less, -⟩
  · omega
  · exact less

theorem begins (old : ListControl) (added count : Nat) :
    Queued old added count added (old, []) where
  adding := by simpa using Adding.begins old added count
  sorted := Pairwise.nil
  inside item member := absurd member (by simp)

theorem treat (seen : Queued old added count row state) (chosen : state.1.selected row)
    {settled : ListControl × List Nat} (done : Settled true row state.1 state.2 settled) :
    Queued old added count (row + 1) (settled.1,
        if row + count < settled.1.itemCount then settled.2 ++ [row + count] else settled.2) where
  adding := by
    refine seen.adding.treat chosen done.itemCount ?_ ?_ ?_ ?_
    · intro item after
      exact done.other item (fun _ => by omega) (fun _ => by omega)
    · by_cases found : row ∈ state.2
      case pos =>
        have same := done.other row (fun _ => le_refl _) (fun absent => absurd found absent)
        simp [same, chosen, found]
      case neg =>
        rw [done.missing row found rfl]
        simp [found]
    · intro item before
      have within := before.trans (state.1.inside chosen)
      by_cases found : item ∈ state.2
      case pos =>
        rw [done.earlier item found (by omega)]
        simp [found, within]
      case neg =>
        rw [done.other item (fun member => absurd member found) (fun _ => by omega)]
        simp [found]
    · intro item within
      have kept := done.pending item
      rw [done.itemCount]
      split
      case isTrue =>
        rw [mem_append, mem_singleton, kept, and_comm, Int.ofNat_lt]
      case isFalse outside =>
        rw [kept]
        constructor
        · rintro ⟨found, after⟩
          exact .inl ⟨by omega, found⟩
        · rintro (⟨after, found⟩ | same)
          · exact ⟨found, by omega⟩
          · omega
  sorted := by
    split
    case isTrue =>
      rw [pairwise_append]
      refine ⟨done.sorted, pairwise_singleton _ _, ?_⟩
      intro item member last isLast
      obtain rfl := mem_singleton.mp isLast
      exact seen.below ((done.pending item).mp member).1
    case isFalse => exact done.sorted
  inside item member := by
    have itemCount := done.itemCount.trans seen.adding.itemCount
    split at member
    case isTrue within =>
      rcases mem_append.mp member with member | last
      · exact seen.inside item ((done.pending item).mp member).1
      · rw [mem_singleton.mp last, ← itemCount]
        exact within
    case isFalse => exact seen.inside item ((done.pending item).mp member).1

end Queued

theorem selected_itemRangeAdded (control : ListControl) {added : Nat} (count : Nat)
    (bound : added ≤ control.itemCount) {row : Nat} (inside : row < control.itemCount) :
    (control.itemRangeAdded added count).selected row ↔
      row < added ∧ control.selected row ∨
        added + count ≤ row ∧ control.selected (row - count) := by
  unfold itemRangeAdded
  split
  case isTrue none =>
    have unselected := unselected_of_count none
    simp [unselected]
  case isFalse =>
    have enough : control.itemCount ≤ added + control.itemCount := Nat.le_add_left _ _
    have seen := whileSelected_invariant (fun _ _ seen => seen.adding.itemCount)
      (fun _ _ seen unselected =>
        Queued.mk (seen.adding.skip unselected) seen.sorted seen.inside)
      (fun _ _ seen chosen => seen.treat chosen (settled_settle seen.sorted))
      enough bound (Queued.begins control added count)
    refine Iff.trans ?_ (seen.adding.finish inside)
    dsimp only
    rw [selected_setAll]
    split
    case isTrue member =>
      refine ⟨fun _ => .inr member, fun _ => ⟨rfl, inside.trans_eq ?_⟩⟩
      exact seen.adding.itemCount.symm
    case isFalse absent => exact (or_iff_left absent).symm

/-- The last row seen, which has not been selected where it moves to yet -/
structure Following (old : ListControl) (added row : Nat) (state : ListControl × Option Nat) :
    Prop where
  adding : Adding old added 1 row state.1 fun item => state.2.map (· + 1) = some item
  before : ∀ prevItem ∈ state.2, prevItem < row

namespace Following

variable {old control : ListControl} {added row : Nat}

theorem begins (old : ListControl) (added : Nat) : Following old added added (old, none) where
  adding := by simpa using Adding.begins old added 1
  before prevItem isPrev := absurd isPrev (by simp)

theorem treat_first (seen : Following old added row (control, none))
    (chosen : control.selected row) :
    Following old added (row + 1) (moveUp row (control, none)) where
  adding := by
    refine seen.adding.treat chosen rfl ?_ ?_ ?_ ?_
    · intro item after
      rw [moveUp, selected_setItemState, if_neg (by omega)]
    · rw [moveUp, selected_setItemState, if_pos rfl]
      simp
    · intro item before
      rw [moveUp, selected_setItemState, if_neg (by omega)]
      simp
    · intro item _
      simp [moveUp, eq_comm]
  before prevItem isPrev := by
    obtain rfl : row = prevItem := Option.some.inj isPrev
    exact Nat.lt_succ_self row

theorem treat_next {prevItem : Nat} (seen : Following old added row (control, some prevItem))
    (chosen : control.selected row) :
    Following old added (row + 1) (moveUp row (control, some prevItem)) where
  adding := by
    have previous := seen.before prevItem rfl
    have within := control.inside chosen
    by_cases apart : prevItem + 1 ≠ row
    case pos =>
      rw [moveUp, if_pos apart]
      refine seen.adding.treat chosen rfl ?_ ?_ ?_ ?_
      · intro item after
        rw [selected_setItemState, if_neg (by omega), selected_setItemState, if_neg (by omega)]
      · rw [selected_setItemState, if_pos rfl]
        simp [apart]
      · intro item before
        rw [selected_setItemState, if_neg (by omega), selected_setItemState]
        by_cases same : (item : Int) = prevItem + 1
        case pos =>
          have reached : prevItem + 1 = item := by omega
          simp [same, reached]
          omega
        case neg =>
          have other : prevItem + 1 ≠ item := by omega
          simp [same, other]
      · intro item _
        simp only [Option.map_some, Option.some.injEq]
        omega
    case neg =>
      rw [moveUp, if_neg apart]
      rw [not_not] at apart
      refine seen.adding.treat chosen rfl (fun _ _ => Iff.rfl) ?_ ?_ ?_
      · simp [chosen, apart]
      · intro item before
        have other : prevItem + 1 ≠ item := by omega
        simp [other]
      · intro item _
        simp only [Option.map_some, Option.some.injEq]
        omega
  before last isLast := by
    have same : row = last := by
      rw [moveUp] at isLast
      split at isLast
      case isTrue => exact Option.some.inj isLast
      case isFalse => exact Option.some.inj isLast
    omega

theorem treat {state : ListControl × Option Nat} (seen : Following old added row state)
    (chosen : state.1.selected row) : Following old added (row + 1) (moveUp row state) := by
  obtain ⟨control, _ | prevItem⟩ := state
  · exact seen.treat_first chosen
  · exact seen.treat_next chosen

theorem finish {state : ListControl × Option Nat}
    (seen : Following old added old.itemCount state) {row : Nat} (inside : row < old.itemCount) :
    ((selectLast old.itemCount state).setItemState added false).selected row ↔
      row < added ∧ old.selected row ∨ added + 1 ≤ row ∧ old.selected (row - 1) := by
  have moved := seen.adding.finish inside
  have itemCount := seen.adding.itemCount
  have selects : (selectLast old.itemCount state).selected row ↔
      state.1.selected row ∨ state.2.map (· + 1) = some row := by
    obtain ⟨control, _ | prevItem⟩ := state
    · simp [selectLast]
    · have previous := seen.before prevItem rfl
      rw [selectLast]
      split
      case isTrue =>
        rw [selected_setItemState]
        by_cases same : (row : Int) = prevItem + 1
        case pos =>
          have reached : prevItem + 1 = row := by omega
          simp only [same, if_true, true_and, Option.map_some, reached, or_true, iff_true]
          exact inside.trans_eq itemCount.symm
        case neg =>
          have other : prevItem + 1 ≠ row := by omega
          simp [same, other]
      case isFalse =>
        have other : prevItem + 1 ≠ row := by omega
        simp [other]
  rw [selected_setItemState]
  by_cases same : (row : Int) = added
  case pos =>
    have notLess : ¬row < added := by omega
    have notMore : ¬added + 1 ≤ row := by omega
    simp [same, notLess, notMore]
  case neg => rw [if_neg same, selects, moved]

end Following

theorem selected_itemAdded (control : ListControl) {added : Nat}
    (bound : added ≤ control.itemCount) {row : Nat} (inside : row < control.itemCount) :
    (control.itemAdded added).selected row ↔
      row < added ∧ control.selected row ∨ added + 1 ≤ row ∧ control.selected (row - 1) := by
  unfold itemAdded
  split
  case isTrue none =>
    have unselected := unselected_of_count none
    simp [unselected]
  case isFalse =>
    have enough : control.itemCount ≤ added + control.itemCount := Nat.le_add_left _ _
    have seen := whileSelected_invariant (fun _ _ seen => seen.adding.itemCount)
      (fun _ _ seen unselected => Following.mk (seen.adding.skip unselected)
        fun prevItem isPrev => Nat.lt_succ_of_lt (seen.before prevItem isPrev))
      (fun _ _ seen chosen => seen.treat chosen)
      enough bound (Following.begins control added)
    exact seen.finish inside

universe u

variable {Row : Type u}

def Selects (control : ListControl) (rows : List Row) (shown : Row) : Prop :=
  ∃ index, rows[index]? = some shown ∧ control.selected index

theorem selects_iff_of_nodup {rows : List Row} {shown : Row} {index : Nat}
    (distinct : rows.Nodup) (here : rows[index]? = some shown) :
    control.Selects rows shown ↔ control.selected index := by
  constructor
  · rintro ⟨other, there, chosen⟩
    rwa [(List.getElem?_inj (List.getElem?_eq_some_iff.mp here).1 distinct).mp
      (here.trans there.symm)]
  · exact fun chosen => ⟨index, here, chosen⟩

def before (start count index : Nat) : Nat :=
  if index < start then index else index + count

theorem getElem?_before (front gone back : List Row) (index : Nat) :
    (front ++ gone ++ back)[before front.length gone.length index]? =
      (front ++ back)[index]? := by
  unfold before
  split
  case isTrue less =>
    rw [append_assoc, getElem?_append_left less, getElem?_append_left less]
  case isFalse after =>
    have length : (front ++ gone).length ≤ index + gone.length := by
      rw [length_append]
      omega
    rw [getElem?_append_right length, getElem?_append_right (not_lt.mp after),
      length_append]
    congr 1
    omega

theorem selects_follow_iff {old new : ListControl} {front gone back : List Row}
    (distinct : (front ++ gone ++ back).Nodup) :
    (∀ shown, new.Selects (front ++ back) shown ↔
        old.Selects (front ++ gone ++ back) shown ∧ shown ∉ gone) ↔
      ∀ index < (front ++ back).length,
        (new.selected index ↔ old.selected (before front.length gone.length index)) := by
  have kept : (front ++ back).Nodup := by
    refine distinct.sublist ?_
    rw [append_assoc]
    exact (Sublist.refl front).append (sublist_append_right gone back)
  have apart (shown : Row) (member : shown ∈ front ++ back) : shown ∉ gone := by
    intro inside
    obtain ⟨frontGone, -, fromBack⟩ := nodup_append.mp distinct
    obtain ⟨-, -, fromFront⟩ := nodup_append.mp frontGone
    rcases mem_append.mp member with left | right
    · exact fromFront shown left shown inside rfl
    · exact fromBack shown (mem_append_right _ inside) shown right rfl
  constructor
  · intro follow index inside
    have here := getElem?_eq_getElem inside
    have there := (getElem?_before front gone back index).trans here
    have same := follow (front ++ back)[index]
    rw [selects_iff_of_nodup kept here, selects_iff_of_nodup distinct there] at same
    exact same.trans (and_iff_left (apart _ (getElem_mem inside)))
  · intro moved shown
    by_cases member : shown ∈ front ++ back
    case pos =>
      obtain ⟨index, here⟩ := mem_iff_getElem?.mp member
      have there := (getElem?_before front gone back index).trans here
      rw [selects_iff_of_nodup kept here, selects_iff_of_nodup distinct there,
        moved index (List.getElem?_eq_some_iff.mp here).1]
      exact (and_iff_left (apart shown member)).symm
    case neg =>
      constructor
      · rintro ⟨index, here, -⟩
        exact absurd (mem_of_getElem? here) member
      · rintro ⟨⟨index, here, -⟩, notGone⟩
        have whole := mem_of_getElem? here
        simp only [mem_append] at whole member
        tauto

/-- Rows `count` apart are selected together as far as this is needed when `count` rows from
`start` on go and those from `treated` on are taken for them. -/
structure KeepsSelection (control : ListControl) (start treated count : Nat) : Prop where
  above : ∀ index < start, treated < index + count → control.selected (index + count) →
    control.selected index
  down : ∀ index, start ≤ index → index < treated → control.selected index →
    control.selected (index + count)
  up : ∀ index, start ≤ index → index < treated → control.selected (index + count) →
    index + count ≤ treated → control.selected index

theorem keepsSelection_iff {start treated count left : Nat} (some : 0 < count)
    (bound : start ≤ left) (total : control.itemCount = left + count)
    (which : treated = start ∨ treated = left) :
    (∀ index < left, ((control.itemRangeRemoved treated count).selected index ↔
      control.selected (before start count index))) ↔
      control.KeepsSelection start treated count := by
  have least : start ≤ treated := by omega
  have within : treated ≤ control.itemCount := by omega
  constructor
  · intro moved
    refine ⟨?_, ?_, ?_⟩
    · intro index less beyond chosen
      have same := moved index (by omega)
      rw [selected_itemRangeRemoved control treated some within (by omega), before,
        if_pos less] at same
      exact same.mp (.inr ⟨beyond, chosen⟩)
    · intro index after less chosen
      have same := moved index (by omega)
      rw [selected_itemRangeRemoved control treated some within (by omega), before,
        if_neg (by omega)] at same
      exact same.mp (.inl ⟨less, chosen⟩)
    · intro index after less chosen under
      have same := moved index (by omega)
      rw [selected_itemRangeRemoved control treated some within (by omega), before,
        if_neg (by omega)] at same
      rcases same.mpr chosen with found | beyond
      · exact found.2
      · omega
  · intro keeps index inside
    rw [selected_itemRangeRemoved control treated some within (by omega), before]
    split
    case isTrue less =>
      constructor
      · rintro (⟨-, chosen⟩ | ⟨beyond, chosen⟩)
        · exact chosen
        · exact keeps.above index less beyond chosen
      · exact fun chosen => .inl ⟨by omega, chosen⟩
    case isFalse after =>
      constructor
      · rintro (⟨less, chosen⟩ | ⟨-, chosen⟩)
        · exact keeps.down index (by omega) less chosen
        · exact chosen
      · intro chosen
        by_cases beyond : treated < index + count
        case pos => exact .inr ⟨beyond, chosen⟩
        case neg => exact .inl ⟨by omega, keeps.up index (by omega) (by omega) chosen (by omega)⟩

theorem selects_of_inserted {old new : ListControl} {front come back : List Row}
    (moved : ∀ index < (front ++ come ++ back).length,
      (new.selected index ↔ index < front.length ∧ old.selected index ∨
        front.length + come.length ≤ index ∧ old.selected (index - come.length)))
    (shown : Row) :
    new.Selects (front ++ come ++ back) shown ↔ old.Selects (front ++ back) shown := by
  constructor
  · rintro ⟨index, here, chosen⟩
    have inside := (List.getElem?_eq_some_iff.mp here).1
    rcases (moved index inside).mp chosen with ⟨less, chosen⟩ | ⟨least, chosen⟩
    · refine ⟨index, ?_, chosen⟩
      rw [← getElem?_before front come back, before, if_pos less]
      exact here
    · refine ⟨index - come.length, ?_, chosen⟩
      rw [← getElem?_before front come back, before, if_neg (by omega),
        Nat.sub_add_cancel (by omega)]
      exact here
  · rintro ⟨index, here, chosen⟩
    have there := (getElem?_before front come back index).trans here
    refine ⟨_, there, (moved _ (List.getElem?_eq_some_iff.mp there).1).mpr ?_⟩
    unfold before
    split
    case isTrue less => exact .inl ⟨less, chosen⟩
    case isFalse after =>
      rw [Nat.add_sub_cancel]
      exact .inr ⟨by omega, chosen⟩

end ListControl

end FileZilla
