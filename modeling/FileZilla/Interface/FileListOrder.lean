import FileZilla.Alignment
import FileZilla.Text

namespace FileZilla

open List

namespace FileListOrder

def isDigit (char : WChar) : Bool :=
  48 ≤ char && char ≤ 57

/-- What is relied on of `towlower` in the locale of the process. -/
structure CaseFolding where
  tolower : WChar → WChar
  digit_fixed : ∀ char, isDigit char = true → tolower char = char
  digit_only : ∀ char, isDigit (tolower char) = true → isDigit char = true
  dot_fixed : tolower 46 = 46
  dot_only : ∀ char, tolower char = 46 → char = 46

/-- `towlower` as it treats ASCII -/
def asciiLower (char : Nat) : Nat :=
  if 65 ≤ char ∧ char ≤ 90 then char + 32 else char

theorem asciiLower_cases (char : Nat) :
    (65 ≤ char ∧ char ≤ 90 ∧ asciiLower char = char + 32) ∨ asciiLower char = char := by
  unfold asciiLower
  split <;> omega

theorem isDigit_iff (char : Nat) : isDigit char = true ↔ 48 ≤ char ∧ char ≤ 57 := by
  simp [isDigit]

def asciiFolding : CaseFolding where
  tolower := asciiLower
  digit_fixed char digit := by
    have range := (isDigit_iff char).mp digit
    exact (asciiLower_cases char).resolve_left (by omega)
  digit_only char digit := by
    have range := (isDigit_iff _).mp digit
    have cases := asciiLower_cases char
    exact (isDigit_iff char).mpr (by omega)
  dot_fixed := rfl
  dot_only char dot := by
    rcases asciiLower_cases char with ⟨lower, upper, folded⟩ | folded
    · have letter : @Eq Nat (asciiLower char) 46 := dot
      omega
    · exact folded.symm.trans dot

inductive NameSortMode where
  | caseInsensitive
  | caseSensitive
  | natural

variable (folding : CaseFolding)

def fold (name : WString) : WString :=
  name.map folding.tolower

def stricmp (first second : WString) : Ordering :=
  compare (fold folding first) (fold folding second)

def cmpCase (first second : WString) : Ordering :=
  compare first second

def cmpNoCase (first second : WString) : Ordering :=
  (stricmp folding first second).then (compare first second)

def textPart (name : WString) : WString :=
  name.takeWhile fun char => !isDigit char

def fromDigit (name : WString) : WString :=
  name.dropWhile fun char => !isDigit char

/-- The zeros that precede the last digit of a number without another digit
between -/
def leadingZeros (number : WString) : Nat :=
  ((number.take (number.length - 1)).takeWhile (· == 48)).length

def cmpNumber (first second : WString) : Ordering :=
  let n1 := first.drop (leadingZeros first)
  let n2 := second.drop (leadingZeros second)
  ((compare n1.length n2.length).then (compare n1 n2)).then
    (compare (leadingZeros first) (leadingZeros second))

theorem length_afterNumber {name : WString} (digit : name.any isDigit = true) :
    ((fromDigit name).dropWhile isDigit).length < name.length := by
  have shorter := length_dropWhile_le (fun char => !isDigit char) name
  cases start : fromDigit name with
  | nil =>
    have none := dropWhile_eq_nil_iff.mp start
    obtain ⟨char, member, isDigit⟩ := any_eq_true.mp digit
    have other := none char member
    rw [isDigit] at other
    cases other
  | cons char rest =>
    have first : isDigit char = true := by
      have nonempty : fromDigit name ≠ [] := start ▸ cons_ne_nil char rest
      have head := head_dropWhile_not (fun char => !isDigit char) nonempty
      change (!isDigit ((fromDigit name).head nonempty)) = false at head
      simpa [start] using head
    rw [dropWhile_cons_of_pos first]
    have restShorter := length_dropWhile_le isDigit rest
    rw [← fromDigit, start, length_cons] at shorter
    omega

def cmpNatural (str1 str2 : WString) : Ordering :=
  if str1.any isDigit && str2.any isDigit then
    -- prefixes that compare equal have one length
    ((stricmp folding (textPart str1) (textPart str2)).then
      (cmpNumber ((fromDigit str1).takeWhile isDigit) ((fromDigit str2).takeWhile isDigit))).then
      (cmpNatural ((fromDigit str1).dropWhile isDigit) ((fromDigit str2).dropWhile isDigit))
  else
    stricmp folding str1 str2
termination_by str1.length
decreasing_by
  rename_i digits
  exact length_afterNumber (by simp_all)

def getCmpFunction : NameSortMode → WString → WString → Ordering
  | .caseInsensitive => cmpNoCase folding
  | .caseSensitive => cmpCase
  | .natural => cmpNatural folding

/-! What holds of each of them: swapping the names swaps the verdict, and names
that compare equal compare alike with all others. -/

theorem then_eq {first second : Ordering} :
    first.then second = .eq ↔ first = .eq ∧ second = .eq := by
  cases first <;> simp

variable {folding}

theorem isDigit_tolower (char : WChar) : isDigit (folding.tolower char) = isDigit char := by
  cases digit : isDigit char with
  | true => rw [folding.digit_fixed char digit, digit]
  | false =>
    refine Bool.eq_false_iff.mpr fun folded => ?_
    rw [folding.digit_only char folded] at digit
    cases digit

variable (name : WString)

theorem any_isDigit_fold :
    (fold folding name).any isDigit = name.any isDigit := by
  rw [fold, any_map]
  exact congrArg name.any (funext isDigit_tolower)

variable {first second : WString}

theorem any_isDigit_congr (same : fold folding first = fold folding second) :
    first.any isDigit = second.any isDigit := by
  rw [← any_isDigit_fold first, same, any_isDigit_fold]

theorem textPart_fold :
    textPart (fold folding name) = fold folding (textPart name) := by
  rw [textPart, fold, takeWhile_map]
  exact congrArg (map _ <| name.takeWhile ·)
    (funext fun char => congrArg not (isDigit_tolower char))

theorem fromDigit_fold :
    fromDigit (fold folding name) = fold folding (fromDigit name) := by
  rw [fromDigit, fold, dropWhile_map]
  exact congrArg (map _ <| name.dropWhile ·)
    (funext fun char => congrArg not (isDigit_tolower char))

variable (folding) in
theorem takeWhile_isDigit_fold :
    (fold folding name).takeWhile isDigit = name.takeWhile isDigit := by
  induction name with
  | nil => rfl
  | cons char name induction =>
    change takeWhile isDigit (folding.tolower char :: fold folding name) = _
    cases digit : isDigit char with
    | true =>
      rw [folding.digit_fixed char digit, takeWhile_cons_of_pos digit,
        takeWhile_cons_of_pos digit, induction]
    | false =>
      have folded := (@isDigit_tolower folding char).trans digit
      rw [takeWhile_cons_of_neg (by simp [folded]),
        takeWhile_cons_of_neg (by simp [digit])]

theorem dropWhile_isDigit_fold :
    (fold folding name).dropWhile isDigit = fold folding (name.dropWhile isDigit) := by
  rw [fold, dropWhile_map]
  exact congrArg (map _ <| name.dropWhile ·) (funext isDigit_tolower)

theorem stricmp_eq :
    stricmp folding first second = .eq ↔ fold folding first = fold folding second :=
  Std.LawfulEqOrd.compare_eq_iff_eq

open Std.OrientedOrd

theorem stricmp_swap (first second : WString) :
    stricmp folding first second = (stricmp folding second first).swap :=
  eq_swap

theorem take_leadingZeros (number : WString) :
    number.take (leadingZeros number) =
      (number.take (number.length - 1)).takeWhile (· == 48) := by
  have prefixOf := ( List.takeWhile_prefix (l := number.take (number.length - 1)) (· == 48)).trans
    ( List.take_prefix _ _)
  exact (prefix_iff_eq_take.mp prefixOf).symm

theorem take_leadingZeros_eq_replicate (number : WString) :
    number.take (leadingZeros number) = List.replicate (leadingZeros number) 48 := by
  refine eq_replicate_iff.mpr ⟨?_, fun char member => ?_⟩
  · rw [take_leadingZeros]
    rfl
  · rw [take_leadingZeros] at member
    exact (eq_of_beq (mem_takeWhile_imp (p := (· == 48)) member))

theorem cmpNumber_eq (equal : cmpNumber first second = .eq) :
    first = second := by
  obtain ⟨⟨-, digits⟩, zeros⟩ := (then_eq.trans (and_congr_left' then_eq)).mp equal
  have sameZeros : leadingZeros first = leadingZeros second := Nat.compare_eq_eq.mp zeros
  have sameDigits := Std.LawfulEqOrd.compare_eq_iff_eq.mp digits
  calc
    first = first.take (leadingZeros first) ++ first.drop (leadingZeros first) :=
      (take_append_drop _ _).symm
    _ = second.take (leadingZeros second) ++ second.drop (leadingZeros second) := by
      rw [take_leadingZeros_eq_replicate, take_leadingZeros_eq_replicate, sameDigits, sameZeros]
    _ = second := take_append_drop _ _

theorem cmpNumber_swap (first second : WString) :
    cmpNumber first second = (cmpNumber second first).swap := by
  unfold cmpNumber
  rw [Ordering.swap_then, Ordering.swap_then, ← eq_swap,
    ← eq_swap, ← eq_swap]

theorem cmpNatural_digits (first second : WString)
    (digits : (first.any isDigit && second.any isDigit) = true) :
    cmpNatural folding first second = ((stricmp folding (textPart first) (textPart second)).then
        (cmpNumber ((fromDigit first).takeWhile isDigit)
          ((fromDigit second).takeWhile isDigit))).then
        (cmpNatural folding ((fromDigit first).dropWhile isDigit)
          ((fromDigit second).dropWhile isDigit)) := by
  rw [cmpNatural, if_pos digits]

theorem cmpNatural_plain (first second : WString)
    (plain : ¬(first.any isDigit && second.any isDigit) = true) :
    cmpNatural folding first second = stricmp folding first second := by
  rw [cmpNatural, if_neg plain]

theorem cmpNatural_swap (first second : WString) :
    cmpNatural folding first second = (cmpNatural folding second first).swap := by
  fun_induction cmpNatural folding first second with
  | case1 first second digits induction =>
    rw [cmpNatural_digits second first (by rwa [Bool.and_comm] at digits), Ordering.swap_then,
      Ordering.swap_then, ← stricmp_swap, ← cmpNumber_swap, induction]
  | case2 first second digits =>
    rw [cmpNatural_plain second first (by rwa [Bool.and_comm] at digits)]
    exact stricmp_swap first second

theorem fold_eq_parts :
    fold folding name = fold folding (textPart name) ++ ((fromDigit name).takeWhile isDigit ++
        fold folding ((fromDigit name).dropWhile isDigit)) := by
  have number : fold folding ((fromDigit name).takeWhile isDigit) =
      (fromDigit name).takeWhile isDigit := by
    refine (map_congr_left fun char member => ?_).trans (map_id _)
    exact folding.digit_fixed char (mem_takeWhile_imp member)
  calc
    fold folding name = fold folding (textPart name ++ fromDigit name) := by
      rw [textPart, fromDigit, takeWhile_append_dropWhile]
    _ = fold folding (textPart name) ++ (fold folding ((fromDigit name).takeWhile isDigit) ++
          fold folding ((fromDigit name).dropWhile isDigit)) := by
      simp only [fold, ← map_append, takeWhile_append_dropWhile]
    _ = _ := by rw [number]

theorem cmpNatural_eq (equal : cmpNatural folding first second = .eq) :
    fold folding first = fold folding second := by
  fun_induction cmpNatural folding first second with
  | case1 first second digits induction =>
    obtain ⟨⟨text, number⟩, rest⟩ := (then_eq.trans (and_congr_left' then_eq)).mp equal
    rw [fold_eq_parts first, fold_eq_parts second, stricmp_eq.mp text, cmpNumber_eq number,
      induction rest]
  | case2 first second digits => exact stricmp_eq.mp equal

theorem cmpNatural_congr (other : WString) (same : fold folding first = fold folding second) :
    cmpNatural folding first other = cmpNatural folding second other := by
  fun_induction cmpNatural folding first other generalizing second with
  | case1 first other digits induction =>
    rw [any_isDigit_congr same] at digits
    have text : fold folding (textPart first) = fold folding (textPart second) := by
      rw [← textPart_fold, same, textPart_fold]
    have rest : fold folding (fromDigit first) = fold folding (fromDigit second) := by
      rw [← fromDigit_fold, same, fromDigit_fold]
    have number : (fromDigit first).takeWhile isDigit = (fromDigit second).takeWhile isDigit := by
      rw [← takeWhile_isDigit_fold folding (fromDigit first), rest, takeWhile_isDigit_fold]
    have after : fold folding ((fromDigit first).dropWhile isDigit) =
        fold folding ((fromDigit second).dropWhile isDigit) := by
      rw [← dropWhile_isDigit_fold, rest, dropWhile_isDigit_fold]
    rw [cmpNatural_digits second other digits, number, stricmp, text, induction after]
    rfl
  | case2 first other digits =>
    rw [any_isDigit_congr same] at digits
    rw [cmpNatural_plain second other digits, stricmp, same]
    rfl

variable (folding) in
theorem getCmpFunction_congruent (mode : NameSortMode) :
    Congruent (getCmpFunction folding mode) := by
  cases mode with
  | caseInsensitive =>
    refine ⟨fun first second => ?_, fun other equal => ?_⟩
    · change (stricmp folding first second).then _ = ((stricmp folding second first).then _).swap
      rw [Ordering.swap_then, ← stricmp_swap, ← eq_swap]
    · rw [Std.LawfulEqOrd.compare_eq_iff_eq.mp (then_eq.mp equal).2]
  | caseSensitive =>
    refine ⟨fun first second => eq_swap, fun other equal => ?_⟩
    rw [Std.LawfulEqOrd.compare_eq_iff_eq.mp equal]
  | natural =>
    exact ⟨cmpNatural_swap, fun other equal => cmpNatural_congr other (cmpNatural_eq equal)⟩

/-- The natural comparison is not transitive. -/
example : [(wide "a1", wide "a-1"), (wide "a-1", wide "a."), (wide "a.", wide "a1")].all
    (fun pair => cmpNatural asciiFolding pair.1 pair.2 == .lt) = true := by
  decide +kernel

theorem fold_eq_of_getCmpFunction_eq {mode : NameSortMode}
    (equal : getCmpFunction folding mode first second = .eq) :
    fold folding first = fold folding second := by
  cases mode with
  | caseInsensitive => exact stricmp_eq.mp (then_eq.mp equal).1
  | caseSensitive => rw [Std.LawfulEqOrd.compare_eq_iff_eq.mp equal]
  | natural => exact cmpNatural_eq equal

theorem eq_dotdot {mode : NameSortMode} {name : WString}
    (equal : getCmpFunction folding mode name (wide "..") = .eq) : name = wide ".." := by
  have folded : fold folding name = [folding.tolower 46, folding.tolower 46] :=
    fold_eq_of_getCmpFunction_eq equal
  rw [folding.dot_fixed, fold, map_eq_cons_iff] at folded
  obtain ⟨first, rest, rfl, firstDot, folded⟩ := folded
  obtain ⟨second, rest, rfl, secondDot, folded⟩ := map_eq_cons_iff.mp folded
  rw [folding.dot_only first firstDot, folding.dot_only second secondDot,
    map_eq_nil_iff.mp folded]
  rfl

end FileListOrder

end FileZilla
