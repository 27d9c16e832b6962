import Mathlib.Data.List.Perm.Basic

namespace FileZilla

/-! Folds over a list in another order. Two steps need only commute in the states in which
they can come next to each other. -/

variable {σ α : Type}

structure Commuting (step : σ → α → σ) (fits : σ → List α → Prop) : Prop where
  perm : ∀ {state left right}, left.Perm right → fits state left → fits state right
  next : ∀ {state first rest}, fits state (first :: rest) → fits (step state first) rest
  swap : ∀ {state first second rest}, fits state (first :: second :: rest) →
    step (step state first) second = step (step state second) first

theorem Commuting.foldl_perm {step : σ → α → σ} {fits : σ → List α → Prop}
    (commuting : Commuting step fits) {left right : List α} (permuted : left.Perm right)
    {state : σ} (fitting : fits state left) : left.foldl step state = right.foldl step state := by
  induction permuted generalizing state with
  | nil => rfl
  | cons first _ induction => exact induction (commuting.next fitting)
  | swap first second rest =>
    rw [List.foldl_cons, List.foldl_cons, List.foldl_cons, List.foldl_cons,
      commuting.swap fitting]
  | trans before _ first second =>
    exact (first fitting).trans (second (commuting.perm before fitting))

theorem foldl_keeps {β : Type} {step : σ → α → σ} {observe : σ → β} {steps : List α}
    (kept : ∀ state, ∀ next ∈ steps, observe (step state next) = observe state) (state : σ) :
    observe (steps.foldl step state) = observe state := by
  induction steps generalizing state with
  | nil => rfl
  | cons next steps induction =>
    rw [List.foldl_cons, induction fun state next member =>
      kept state next (List.mem_cons_of_mem _ member)]
    exact kept state next List.mem_cons_self

end FileZilla
