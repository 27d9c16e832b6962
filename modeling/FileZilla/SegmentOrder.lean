import Mathlib.Data.List.Basic

namespace FileZilla

universe u v

open List Std

section

variable {α : Type u} {β : Type v} {cmp : α → α → Ordering} [TransCmp cmp]
  [LawfulEqCmp cmp]

omit [TransCmp cmp] in
theorem compareLex_append (init left right : List α) :
    (init ++ left).compareLex cmp (init ++ right) = left.compareLex cmp right := by
  induction init with
  | nil => rfl
  | cons first init induction =>
    have equal : cmp first first = .eq := ReflCmp.compare_self
    rw [List.cons_append, List.cons_append, List.compareLex_cons_cons, equal, induction]
    rfl

omit [TransCmp cmp] in
variable {left right : List α}

theorem compareLex_extends (extended : left <+: right) (different : left ≠ right) :
    left.compareLex cmp right = .lt := by
  obtain ⟨rest, rfl⟩ := extended
  have whole := @compareLex_append _ cmp _ left [] rest
  rw [append_nil] at whole
  rw [whole]
  cases rest with
  | nil => exact absurd (append_nil left).symm different
  | cons first rest => exact List.compareLex_nil_cons

theorem between_append {init middle : List α}
    (above : ((init ++ left).compareLex cmp middle).isLE)
    (below : (middle.compareLex cmp (init ++ right)).isLE) :
    ∃ rest, middle = init ++ rest ∧ (left.compareLex cmp rest).isLE ∧
      (rest.compareLex cmp right).isLE := by
  induction init generalizing middle with
  | nil => exact ⟨middle, rfl, above, below⟩
  | cons first init induction =>
    cases middle with
    | nil =>
      rw [List.cons_append, List.compareLex_cons_nil] at above
      cases above
    | cons head middle =>
      rw [List.cons_append, List.compareLex_cons_cons] at above below
      obtain ⟨least, above⟩ := Ordering.isLE_then_iff_and.mp above
      obtain ⟨most, below⟩ := Ordering.isLE_then_iff_and.mp below
      have same : first = head :=
        LawfulEqCmp.eq_of_compare (OrientedCmp.isLE_antisymm least most)
      subst same
      have equal : cmp first first = .eq := ReflCmp.compare_self
      rw [equal] at above below
      obtain ⟨rest, rfl, above, below⟩ := induction (above.resolve_left (by decide))
        (below.resolve_left (by decide))
      exact ⟨rest, rfl, above, below⟩

omit [TransCmp cmp] [LawfulEqCmp cmp] in
theorem exists_difference (shorter : left.length ≤ right.length) (apart : ¬ left <+: right) :
    ∃ init first second rest others, left = init ++ first :: rest ∧
      right = init ++ second :: others ∧ first ≠ second := by
  induction left generalizing right with
  | nil => exact absurd nil_prefix apart
  | cons first left induction =>
    cases right with
    | nil => exact absurd shorter (Nat.not_succ_le_zero _)
    | cons second right =>
      by_cases same : first = second
      · subst same
        have tails : ¬ left <+: right := fun extended =>
          apart (cons_prefix_cons.mpr ⟨rfl, extended⟩)
        obtain ⟨init, x, y, rest, others, rfl, rfl, different⟩ :=
          induction (Nat.le_of_succ_le_succ shorter) tails
        exact ⟨first :: init, x, y, rest, others, rfl, rfl, different⟩
      · exact ⟨[], first, second, left, right, rfl, rfl, same⟩

end

section

variable {α : Type u} {β : Type v}

structure Below (kind : α → β) (left right : List α) : Prop where
  filled : left ≠ []
  extends' : left.map kind <+: right.map kind
  longer : left.length < right.length

structure KeepsTogether (cmp : α → α → Ordering) (kind : α → β) (good : List α → Prop)
    (left right : List α) : Prop where
  some : left.compareLex cmp right = .lt ∨ right.compareLex cmp left = .lt ∨
    left.map kind = right.map kind
  notBoth : left.compareLex cmp right = .lt → ¬ right.compareLex cmp left = .lt
  notLess : left.map kind = right.map kind → ¬ left.compareLex cmp right = .lt
  notGreater : left.map kind = right.map kind → ¬ right.compareLex cmp left = .lt
  after : Below kind left right → left.compareLex cmp right = .lt
  between : Below kind left right → ∀ middle, good middle → left.compareLex cmp middle = .lt →
    middle.compareLex cmp right = .lt → Below kind left middle

end

section

variable {α : Type u} {β : Type v} {cmp : α → α → Ordering} [TransCmp cmp]
  [LawfulEqCmp cmp] {kind : α → β} {good : List α → Prop} {left right : List α}

theorem below_of_between (extended : left <+: right) (filled : left ≠ []) {middle : List α}
    (above : left.compareLex cmp middle = .lt) (under : middle.compareLex cmp right = .lt) :
    Below kind left middle := by
  have aboveLe : ((left ++ []).compareLex cmp middle).isLE := by
    rw [append_nil, above]
    rfl
  have underLe : (middle.compareLex cmp right).isLE := by
    rw [under]
    rfl
  obtain ⟨rest, rfl⟩ := extended
  obtain ⟨others, rfl, -, -⟩ := between_append aboveLe underLe
  refine ⟨filled, ?_, ?_⟩
  · rw [map_append]
    exact prefix_append _ _
  · have more : others ≠ [] := by
      rintro rfl
      have equal : left.compareLex cmp left = .eq := ReflCmp.compare_self
      rw [append_nil, equal] at above
      cases above
    have positive := length_pos_iff.mpr more
    rw [length_append]
    omega

theorem keepsTogether_of_extends (exact' : left.map kind <+: right.map kind → left <+: right)
    (exactBack : left.map kind = right.map kind → left = right) :
    KeepsTogether cmp kind good left right := by
  have swapped : right.compareLex cmp left = (left.compareLex cmp right).swap :=
    OrientedCmp.eq_swap
  have self : left.compareLex cmp left = .eq := ReflCmp.compare_self
  refine {
    some := ?_
    notBoth := fun less greater => ?_
    notLess := fun same less => ?_
    notGreater := fun same greater => ?_
    after := fun below => ?_
    between := fun below middle _ above under =>
      below_of_between (exact' below.extends') below.filled above under }
  · cases order : left.compareLex cmp right with
    | lt => exact .inl rfl
    | gt =>
      rw [order] at swapped
      exact .inr (.inl swapped)
    | eq => exact .inr (.inr (by rw [LawfulEqCmp.eq_of_compare order]))
  · rw [swapped, less] at greater
    cases greater
  · rw [← exactBack same, self] at less
    cases less
  · rw [← exactBack same, self] at greater
    cases greater
  · refine compareLex_extends (exact' below.extends') fun same => ?_
    have longer := below.longer
    rw [same] at longer
    exact Nat.lt_irrefl _ longer

theorem extends_of_keepsTogether (together : KeepsTogether cmp kind good left right)
    (extended : left.map kind <+: right.map kind) (cut : good (right.take left.length)) :
    left <+: right := by
  by_contra apart
  have shorter : left.length ≤ right.length := by
    have length := extended.length_le
    rwa [length_map, length_map] at length
  have filled : left ≠ [] := by
    rintro rfl
    exact apart nil_prefix
  by_cases longer : left.length < right.length
  · have below : Below kind left right := ⟨filled, extended, longer⟩
    have less := together.after below
    obtain ⟨init, first, second, rest, others, rfl, rfl, different⟩ :=
      exists_difference shorter apart
    rw [compareLex_append, List.compareLex_cons_cons] at less
    have lower : cmp first second = .lt := by
      cases order : cmp first second with
      | lt => rfl
      | eq => exact absurd (LawfulEqCmp.eq_of_compare order) different
      | gt =>
        rw [order] at less
        cases less
    have taken : (init ++ second :: others).take (init ++ first :: rest).length =
        init ++ second :: others.take rest.length := by
      simp [take_append, take_of_length_le]
    have above : (init ++ first :: rest).compareLex cmp
        ((init ++ second :: others).take (init ++ first :: rest).length) = .lt := by
      rw [taken, compareLex_append, List.compareLex_cons_cons, lower]
      rfl
    have under : ((init ++ second :: others).take (init ++ first :: rest).length).compareLex cmp
        (init ++ second :: others) = .lt := by
      refine compareLex_extends ( take_prefix _ _) fun same => ?_
      have length := congrArg length same
      rw [length_take] at length
      omega
    have between := (together.between below _ cut above under).longer
    rw [length_take] at between
    omega
  · have same : left.map kind = right.map kind :=
      extended.eq_of_length (by rw [length_map, length_map]; omega)
    rcases together.some with less | greater | -
    · exact together.notLess same less
    · exact together.notGreater same greater
    · have swapped : right.compareLex cmp left = (left.compareLex cmp right).swap :=
        OrientedCmp.eq_swap
      cases order : left.compareLex cmp right with
      | lt => exact together.notLess same order
      | gt =>
        rw [order] at swapped
        exact together.notGreater same swapped
      | eq =>
        rw [LawfulEqCmp.eq_of_compare order] at apart
        exact apart prefix_rfl

theorem keepsTogether_iff (cut : left.map kind <+: right.map kind →
    good (right.take left.length)) :
    KeepsTogether cmp kind good left right ↔
      (left.map kind <+: right.map kind → left <+: right) := by
  constructor
  · exact fun together extended => extends_of_keepsTogether together extended (cut extended)
  · intro exact'
    refine keepsTogether_of_extends exact' fun same => ?_
    have extended : left.map kind <+: right.map kind := ⟨[], (append_nil _).trans same⟩
    refine (exact' extended).eq_of_length ?_
    have length := congrArg length same
    rwa [length_map, length_map] at length

end

end FileZilla
