import FileZilla.Text

namespace FileZilla

variable (towlower : WChar → WChar)

/-- The loop of `wcsncasecmp` over at most so many characters. -/
def wcsncasecmp : Nat → WString → WString → Ordering
  | count + 1, char :: left, other :: right =>
    if towlower char ≠ towlower other then compare (towlower char) (towlower other)
    else if towlower char = 0 then .eq
    else wcsncasecmp count left right
  | _, _, _ => .eq

def stricmp (left right : WString) : Ordering :=
  (wcsncasecmp towlower (min left.length right.length) left right).then
    (compare left.length right.length)

def foldCase (text : WString) : WString :=
  text.map towlower

@[simp] theorem foldCase_nil : foldCase towlower [] = [] := rfl

@[simp] theorem foldCase_cons (char : WChar) (text : WString) :
    foldCase towlower (char :: text) = towlower char :: foldCase towlower text := rfl

@[simp] theorem length_foldCase (text : WString) :
    (foldCase towlower text).length = text.length :=
  List.length_map ..

variable {towlower}

theorem stricmp_eq_compare (zero : ∀ char, towlower char = 0 → char = 0)
    {left right : WString} (clean : 0 ∉ left) :
    stricmp towlower left right = compare (foldCase towlower left) (foldCase towlower right) := by
  induction left generalizing right with
  | nil =>
    cases right with
    | nil => rfl
    | cons other right => rfl
  | cons char left induction =>
    cases right with
    | nil => rfl
    | cons other right =>
      have rest : 0 ∉ left := fun member => clean (List.mem_cons_of_mem _ member)
      have shown : towlower char ≠ 0 := fun isZero =>
        clean (zero char isZero ▸ List.mem_cons_self)
      have lengths : compare (left.length + 1) (right.length + 1) =
          compare left.length right.length := by
        simp [Nat.compare_eq_ite_lt]
      replace induction := @induction right rest
      simp only [stricmp, List.length_cons, Nat.succ_min_succ, wcsncasecmp, foldCase_cons,
        List.compare_cons_cons, lengths] at induction ⊢
      by_cases same : towlower char = towlower other
      · rw [if_neg (not_not.mpr same), if_neg shown, induction, same]
        simp
      · rw [if_pos same]
        cases order : compare (towlower char) (towlower other) with
        | eq => exact absurd (Nat.compare_eq_eq.mp order) same
        | lt => rfl
        | gt => rfl

theorem stricmp_eq_iff (zero : ∀ char, towlower char = 0 → char = 0)
    {left right : WString} (clean : 0 ∉ left) :
    stricmp towlower left right = .eq ↔ foldCase towlower left = foldCase towlower right := by
  rw [stricmp_eq_compare zero clean]
  exact Std.LawfulEqOrd.compare_eq_iff_eq

/-- `towlower` as it treats ASCII -/
def asciiTolower (char : WChar) : WChar :=
  if 65 ≤ char ∧ char ≤ 90 then char + 32 else char

theorem asciiTolower_zero (char : WChar) (isZero : asciiTolower char = 0) : char = 0 := by
  unfold asciiTolower at isZero
  split at isZero
  case isTrue => exact absurd isZero (Nat.succ_ne_zero _)
  case isFalse => exact isZero

end FileZilla
