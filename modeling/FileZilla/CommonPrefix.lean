import Mathlib.Data.List.Basic

namespace FileZilla

open List

universe u

variable {α : Type u} [DecidableEq α]

def commonPrefix : List α → List α → List α
  | first :: left, second :: right =>
    if first = second then first :: commonPrefix left right else []
  | _, _ => []

@[simp] theorem commonPrefix_nil (right : List α) : commonPrefix [] right = [] := rfl

@[simp] theorem commonPrefix_nil_right (left : List α) : commonPrefix left [] = [] := by
  cases left <;> rfl

theorem commonPrefix_cons (first : α) (left right : List α) :
    commonPrefix (first :: left) (first :: right) = first :: commonPrefix left right := by
  rw [commonPrefix, if_pos rfl]

theorem commonPrefix_of_ne {first second : α} (different : first ≠ second)
    (left right : List α) : commonPrefix (first :: left) (second :: right) = [] := by
  rw [commonPrefix, if_neg different]

theorem extends_commonPrefix_iff {list left right : List α} :
    list <+: commonPrefix left right ↔ list <+: left ∧ list <+: right := by
  induction left generalizing list right with
  | nil =>
    rw [commonPrefix_nil]
    constructor
    · intro extended
      rw [prefix_nil.mp extended]
      exact ⟨prefix_rfl, nil_prefix⟩
    · exact And.left
  | cons first left induction =>
    cases list with
    | nil => exact iff_of_true nil_prefix ⟨List.nil_prefix, nil_prefix⟩
    | cons head tail =>
      cases right with
      | nil =>
        rw [commonPrefix_nil_right]
        exact ⟨fun extended => absurd (prefix_nil.mp extended) (by simp),
          fun both => absurd (prefix_nil.mp both.2) (by simp)⟩
      | cons second right =>
        by_cases same : first = second
        · subst same
          rw [commonPrefix_cons]
          simp only [cons_prefix_cons, induction]
          tauto
        · rw [commonPrefix_of_ne same]
          constructor
          · exact fun extended => absurd (prefix_nil.mp extended) (by simp)
          · rintro ⟨extendsLeft, extendsRight⟩
            rw [cons_prefix_cons] at extendsLeft extendsRight
            exact absurd (extendsLeft.1.symm.trans extendsRight.1) same

end FileZilla
