import Mathlib.Data.List.DropRight

namespace FileZilla

open List

universe u

variable {α : Type u} {separates : α → Bool} {separator : α}

def piecesBetween (separates : α → Bool) (list : List α) : List (List α) :=
  (list.splitOnP separates).filter (!·.isEmpty)

@[simp] theorem piecesBetween_nil : piecesBetween separates [] = [] := rfl

variable {list piece : List α}

theorem ne_nil_of_mem_pieces (member : piece ∈ piecesBetween separates list) :
    piece ≠ [] := by
  have filled := (mem_filter.mp member).2
  rintro rfl
  cases filled

theorem clean_of_mem_splitOnP {part : List α} (member : part ∈ list.splitOnP separates) :
    ∀ element ∈ part, separates element = false := by
  induction list generalizing part with
  | nil =>
    rw [splitOnP_nil, mem_singleton] at member
    rw [member]
    exact fun element inside => absurd inside not_mem_nil
  | cons first rest induction =>
    rw [splitOnP_cons_eq_if_modifyHead] at member
    split at member
    case isTrue =>
      rcases mem_cons.mp member with rfl | later
      · exact fun element inside => absurd inside not_mem_nil
      · exact induction later
    case isFalse plain =>
      cases parts : rest.splitOnP separates with
      | nil => exact absurd parts (splitOnP_ne_nil _ _)
      | cons head tail =>
        rw [parts] at member induction
        rcases mem_cons.mp member with rfl | later
        · intro element inside
          rcases mem_cons.mp inside with rfl | behind
          · exact Bool.eq_false_iff.mpr plain
          · exact induction mem_cons_self element behind
        · exact induction (mem_cons_of_mem _ later)

theorem mem_of_mem_splitOnP {part : List α} {element : α}
    (member : part ∈ list.splitOnP separates) (inside : element ∈ part) : element ∈ list := by
  induction list generalizing part with
  | nil =>
    rw [splitOnP_nil, mem_singleton] at member
    rw [member] at inside
    exact inside
  | cons first rest induction =>
    rw [splitOnP_cons_eq_if_modifyHead] at member
    split at member
    case isTrue =>
      rcases mem_cons.mp member with rfl | later
      · exact absurd inside not_mem_nil
      · exact mem_cons_of_mem _ (induction later inside)
    case isFalse =>
      cases split : rest.splitOnP separates with
      | nil => exact absurd split (splitOnP_ne_nil _ _)
      | cons head parts =>
        rw [split, modifyHead_cons] at member
        rw [split] at induction
        rcases mem_cons.mp member with rfl | later
        · rcases mem_cons.mp inside with rfl | inside
          · exact mem_cons_self
          · exact mem_cons_of_mem _ (induction mem_cons_self inside)
        · exact mem_cons_of_mem _ (induction (mem_cons_of_mem _ later) inside)

theorem mem_of_mem_pieces {element : α}
    (member : piece ∈ piecesBetween separates list) (inside : element ∈ piece) : element ∈ list :=
  mem_of_mem_splitOnP (mem_filter.mp member).1 inside

theorem clean_of_mem_pieces (member : piece ∈ piecesBetween separates list) :
    ∀ element ∈ piece, separates element = false :=
  clean_of_mem_splitOnP (mem_filter.mp member).1

theorem piecesBetween_of_clean (filled : list ≠ [])
    (clean : ∀ element ∈ list, separates element = false) :
    piecesBetween separates list = [list] := by
  rw [piecesBetween, splitOnP_eq_singleton clean]
  simp [filled]

theorem piecesBetween_append (isSeparator : separates separator = true) (left right : List α) :
    piecesBetween separates (left ++ separator :: right) =
      piecesBetween separates left ++ piecesBetween separates right := by
  rw [piecesBetween, splitOnP_append_cons left right isSeparator, filter_append]
  rfl

theorem piecesBetween_cons (isSeparator : separates separator = true) (list : List α) :
    piecesBetween separates (separator :: list) = piecesBetween separates list :=
  piecesBetween_append isSeparator [] list

theorem piecesBetween_clean_append (isSeparator : separates separator = true)
    (filled : piece ≠ []) (clean : ∀ element ∈ piece, separates element = false) (list : List α) :
    piecesBetween separates (piece ++ separator :: list) =
      piece :: piecesBetween separates list := by
  rw [piecesBetween_append isSeparator, piecesBetween_of_clean filled clean]
  rfl

theorem piecesBetween_terminated (isSeparator : separates separator = true)
    {pieces : List (List α)} (filled : ∀ piece ∈ pieces, piece ≠ [])
    (clean : ∀ piece ∈ pieces, ∀ element ∈ piece, separates element = false) (rest : List α) :
    piecesBetween separates (pieces.flatMap (· ++ [separator]) ++ rest) =
      pieces ++ piecesBetween separates rest := by
  induction pieces with
  | nil => rfl
  | cons piece pieces induction =>
    rw [flatMap_cons, append_assoc, append_assoc, singleton_append,
      piecesBetween_clean_append isSeparator (filled piece mem_cons_self)
        (clean piece mem_cons_self),
      induction (fun piece member => filled piece (mem_cons_of_mem _ member))
        (fun piece member => clean piece (mem_cons_of_mem _ member))]
    rfl

def terminate (separator : α) (parts : List (List α)) : List α :=
  parts.flatMap (· ++ [separator])

@[simp] theorem terminate_cons (separator : α) (part : List α) (parts : List (List α)) :
    terminate separator (part :: parts) = part ++ separator :: terminate separator parts := by
  simp [terminate]

theorem extends_separator_iff {left right : List α} (clean : separator ∉ left)
    (cleanRight : separator ∉ right) {rest others : List α} :
    left ++ separator :: rest <+: right ++ separator :: others ↔ left = right ∧ rest <+: others := by
  induction left generalizing right with
  | nil =>
    cases right with
    | nil => simp [cons_prefix_cons]
    | cons second right =>
      have different : separator ≠ second := by
        rintro rfl
        exact cleanRight mem_cons_self
      simp [cons_prefix_cons, different]
  | cons first left induction =>
    cases right with
    | nil =>
      have different : first ≠ separator := by
        rintro rfl
        exact clean mem_cons_self
      simp [cons_prefix_cons, different]
    | cons second right =>
      have tails := induction (fun member => clean (mem_cons_of_mem _ member))
        (fun member => cleanRight (mem_cons_of_mem _ member))
      rw [cons_append, cons_append, cons_prefix_cons, tails, cons.injEq,
        and_assoc]

theorem extends_terminate_iff {left right : List (List α)} (clean : ∀ part ∈ left, separator ∉ part)
    (cleanRight : ∀ part ∈ right, separator ∉ part) :
    terminate separator left <+: terminate separator right ↔ left <+: right := by
  induction left generalizing right with
  | nil => exact iff_of_true nil_prefix nil_prefix
  | cons part left induction =>
    cases right with
    | nil =>
      rw [terminate_cons]
      exact iff_of_false (fun extended => absurd (prefix_nil.mp extended) (by simp))
        (fun extended => absurd (prefix_nil.mp extended) (by simp))
    | cons other right =>
      rw [terminate_cons, terminate_cons, extends_separator_iff (clean part mem_cons_self)
          (cleanRight other mem_cons_self),
        induction (fun part member => clean part (mem_cons_of_mem _ member))
          (fun part member => cleanRight part (mem_cons_of_mem _ member)),
        cons_prefix_cons]

theorem splitOnP_terminate (isSeparator : separates separator = true) {parts : List (List α)}
    (clean : ∀ part ∈ parts, ∀ element ∈ part, separates element = false) :
    (terminate separator parts).splitOnP separates = parts ++ [[]] := by
  induction parts with
  | nil => rfl
  | cons part parts induction =>
    rw [terminate_cons, splitOnP_append_cons _ _ isSeparator,
      splitOnP_eq_singleton (clean part mem_cons_self),
      induction fun part member => clean part (mem_cons_of_mem _ member)]
    rfl

theorem findIdx_clean_append {finds : α → Bool} {before rest : List α} {element : α}
    (clean : ∀ element ∈ before, finds element = false) (found : finds element = true) :
    (before ++ element :: rest).findIdx? finds = some before.length := by
  induction before with
  | nil => rw [nil_append, findIdx?_cons, found]; rfl
  | cons first before induction =>
    rw [cons_append, findIdx?_cons, clean first mem_cons_self,
      induction fun element member => clean element (mem_cons_of_mem _ member)]
    rfl

end FileZilla
