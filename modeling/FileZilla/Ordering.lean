import Mathlib.Data.List.Basic

namespace FileZilla

universe u v

variable {Key : Type u} {Value : Type v}

/-! Comparison functions written as chains of tests, field by field, and the
maps that are ordered by them. -/

/-- Two tests on one field (`<` answers yes, `>` answers no) before the rest of
a chain. -/
def decideBy (field : Ordering) (rest : Bool) : Bool :=
  match field with
  | .lt => true
  | .gt => false
  | .eq => rest

@[simp] theorem decideBy_then (field rest : Ordering) :
    decideBy field (rest == .lt) = (field.then rest == .lt) := by
  cases field <;> rfl

/-- The comparison that a map derives from its `operator<`. -/
def compareOfLess (less : Key → Key → Bool) (left right : Key) : Ordering :=
  if less left right then .lt
  else if less right left then .gt
  else .eq

variable {cmp : Key → Key → Ordering}

open Std

/-- A comparison function is recovered from the `operator<` it induces. -/
theorem compareOfLess_eq {less : Key → Key → Bool}
    [OrientedCmp cmp] (induced : ∀ left right, less left right = (cmp left right == .lt)) :
    compareOfLess less = cmp := by
  funext left right
  have swapped : cmp right left = (cmp left right).swap := OrientedCmp.eq_swap
  rw [compareOfLess, induced, induced, swapped]
  cases cmp left right <;> rfl

/-- What makes an `operator<` usable as the order of a map. -/
structure StrictWeakOrder (less : Key → Key → Bool) : Prop where
  irrefl : ∀ key, less key key = false
  trans : ∀ first second third,
    less first second = true → less second third = true → less first third = true
  incomparable_trans : ∀ first second third,
    compareOfLess less first second = .eq → compareOfLess less second third = .eq →
    compareOfLess less first third = .eq

theorem strictWeakOrder_of_induced {less : Key → Key → Bool} [TransCmp cmp]
    (induced : ∀ left right, less left right = (cmp left right == .lt)) :
    StrictWeakOrder less where
  irrefl key := by simp [induced, ReflCmp.compare_self]
  trans first second third left right := by
    rw [induced, beq_iff_eq] at *
    exact TransCmp.lt_trans left right
  incomparable_trans first second third left right := by
    rw [compareOfLess_eq induced] at *
    exact TransCmp.eq_trans left right

/-- `map[key] = value`: an equivalent key that is already there stays. -/
def insertOrAssign {cmp : Key → Key → Ordering}
    (map : TreeMap Key Value cmp) (key : Key) (value : Value) :
    TreeMap Key Value cmp :=
  if map.contains key then
    map.modify key fun _ => value
  else
    map.insert key value

theorem getElem?_insertOrAssign [TransCmp cmp]
    (map : TreeMap Key Value cmp) (key other : Key) (value : Value) :
    (insertOrAssign map key value)[other]? =
      if cmp key other = .eq then some value else map[other]? := by
  unfold insertOrAssign
  split
  case isTrue present =>
    rw [TreeMap.getElem?_modify]
    split
    case isTrue same =>
      have found : other ∈ map := (TreeMap.mem_congr same).mp present
      obtain ⟨old, lookup⟩ := Option.isSome_iff_exists.mp
        (TreeMap.mem_iff_isSome_getElem?.mp found)
      simp [TreeMap.getElem?_congr same, lookup]
    case isFalse => rfl
  case isFalse =>
    rw [TreeMap.getElem?_insert]

end FileZilla
