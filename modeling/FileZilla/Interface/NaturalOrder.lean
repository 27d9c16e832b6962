import Mathlib.Algebra.Order.Ring.Int
import FileZilla.Interface.FileListOrder

namespace FileZilla.FileListOrder

variable {folding : CaseFolding} {first second : WString}

def numberKey (number : WString) : List Nat :=
  let digits := number.drop (leadingZeros number)
  0 :: digits.length :: (digits ++ [leadingZeros number])

def textKey (text : List Nat) : List Nat :=
  text.map (· + 1)

variable (folding) in
def naturalKey (name : WString) : List Nat :=
  if name.any isDigit then
    textKey (fold folding (textPart name)) ++ (numberKey ((fromDigit name).takeWhile isDigit) ++
      naturalKey ((fromDigit name).dropWhile isDigit))
  else textKey (fold folding name)
termination_by name.length
decreasing_by
  rename_i digits
  exact length_afterNumber digits

variable (folding) in
/-- Where one name goes on with a number, the other goes on with a character that sorts before the
digits and has no more digits. -/
def NumberAgainst (first second : WString) : Prop :=
  ∃ same digit rest other char more, first = same ++ digit :: rest ∧ second = other ++ char :: more ∧
    fold folding same = fold folding other ∧ isDigit digit = true ∧
    (∀ last ∈ same.getLast?, isDigit last = false) ∧
    folding.tolower char < 48 ∧ (char :: more).any isDigit = false

variable (folding) in
def Conflicting (first second : WString) : Prop :=
  NumberAgainst folding first second ∨ NumberAgainst folding second first

theorem compare_succ (left right : Nat) : compare (left + 1) (right + 1) = compare left right := by
  simp [Nat.compare_eq_ite_lt]

open List

theorem compare_textKey (left right : List Nat) :
    compare (textKey left) (textKey right) = compare left right := by
  induction left generalizing right with
  | nil => cases right <;> rfl
  | cons char left induction =>
    cases right with
    | nil => rfl
    | cons other right =>
      change compare ((char + 1) :: textKey left) ((other + 1) :: textKey right) = _
      rw [List.compare_cons_cons, List.compare_cons_cons, compare_succ, induction]

theorem compare_textKey_number (left right more others : List Nat) :
    compare (textKey left ++ 0 :: more) (textKey right ++ 0 :: others) =
      (compare left right).then (compare (0 :: more) (0 :: others)) := by
  induction left generalizing right with
  | nil => cases right <;> rfl
  | cons char left induction =>
    cases right with
    | nil => rfl
    | cons other right =>
      change compare ((char + 1) :: (textKey left ++ 0 :: more))
        ((other + 1) :: (textKey right ++ 0 :: others)) = _
      rw [List.compare_cons_cons, List.compare_cons_cons, compare_succ, induction,
        Ordering.then_assoc]

theorem compare_append {left right : List Nat} (same : left.length = right.length)
    (more others : List Nat) :
    compare (left ++ more) (right ++ others) = (compare left right).then (compare more others) := by
  induction left generalizing right with
  | nil =>
    cases length_eq_zero_iff.mp same.symm
    rfl
  | cons char left induction =>
    cases right with
    | nil => cases same
    | cons other right =>
      rw [List.cons_append, List.cons_append, List.compare_cons_cons, List.compare_cons_cons,
        induction (Nat.succ.inj same), Ordering.then_assoc]

theorem compare_numberKey (number other more others : List Nat) :
    compare (numberKey number ++ more) (numberKey other ++ others) =
      (cmpNumber number other).then (compare more others) := by
  unfold numberKey cmpNumber
  dsimp only
  simp only [List.cons_append, List.append_assoc, List.nil_append, List.compare_cons_cons,
    Ordering.then_assoc]
  cases lengths : compare (number.drop (leadingZeros number)).length
      (other.drop (leadingZeros other)).length with
  | lt => rfl
  | gt => rfl
  | eq => rw [compare_append (Nat.compare_eq_eq.mp lengths), List.compare_cons_cons]; rfl

theorem compare_textKey_plain {digit : Nat} {text rest other more : List Nat}
    (later : ∀ char others, other = text ++ char :: others → digit < char) :
    compare (textKey text ++ 0 :: more) (textKey other) = compare (text ++ digit :: rest) other := by
  induction text generalizing other with
  | nil =>
    cases other with
    | nil => rfl
    | cons char others =>
      have before : compare digit char = .lt := Nat.compare_eq_lt.mpr (later char others rfl)
      change compare (0 :: more) ((char + 1) :: textKey others) = compare (digit :: rest) _
      rw [List.compare_cons_cons, List.compare_cons_cons, before]
      rfl
  | cons char text induction =>
    cases other with
    | nil => rfl
    | cons next others =>
      change compare ((char + 1) :: (textKey text ++ 0 :: more)) ((next + 1) :: textKey others) =
        compare (char :: (text ++ digit :: rest)) _
      rw [List.compare_cons_cons, List.compare_cons_cons, compare_succ]
      cases head : compare char next with
      | lt => rfl
      | gt => rfl
      | eq =>
        cases Nat.compare_eq_eq.mp head
        exact induction fun behind tail same => later behind tail (congrArg (char :: ·) same)

variable {name number other text rest : WString}

theorem naturalKey_digits (digits : name.any isDigit = true) :
    naturalKey folding name =
      textKey (fold folding (textPart name)) ++ (numberKey ((fromDigit name).takeWhile isDigit) ++
        naturalKey folding ((fromDigit name).dropWhile isDigit)) := by
  rw [naturalKey, if_pos digits]

theorem naturalKey_plain (plain : name.any isDigit = false) :
    naturalKey folding name = textKey (fold folding name) := by
  rw [naturalKey, if_neg (by simp [plain])]

theorem name_parts (name : WString) :
    textPart name ++ ((fromDigit name).takeWhile isDigit ++ (fromDigit name).dropWhile isDigit) =
      name := by
  rw [takeWhile_append_dropWhile, textPart, fromDigit, takeWhile_append_dropWhile]

theorem exists_number (digits : name.any isDigit = true) :
    ∃ digit rest, name = textPart name ++ digit :: rest ∧ isDigit digit = true := by
  obtain ⟨char, member, isDigit⟩ := any_eq_true.mp digits
  have head := head?_dropWhile_not (fun char => !FileListOrder.isDigit char) name
  cases start : name.dropWhile fun char => !FileListOrder.isDigit char with
  | nil => simpa [isDigit] using dropWhile_eq_nil_iff.mp start char member
  | cons digit rest =>
    rw [start] at head
    refine ⟨digit, rest, ?_, by simpa using head⟩
    rw [← start, textPart, takeWhile_append_dropWhile]

theorem textual_textPart (name : WString) : ∀ char ∈ textPart name, isDigit char = false :=
  fun char member => by simpa using mem_takeWhile_imp member

theorem stricmp_plain (digits : first.any isDigit = true) (plain : second.any isDigit = false)
    (alike : ¬NumberAgainst folding first second) :
    stricmp folding first second =
      compare (naturalKey folding first) (naturalKey folding second) := by
  obtain ⟨digit, rest, start, isDigit⟩ := exists_number digits
  have folded : fold folding first = fold folding (textPart first) ++ digit :: fold folding rest := by
    conv_lhs => rw [start, fold, map_append, map_cons, folding.digit_fixed digit isDigit]
    rfl
  rw [naturalKey_digits digits, naturalKey_plain plain, stricmp, folded]
  refine (compare_textKey_plain fun char others same => ?_).symm
  obtain ⟨other, tail, rfl, equal, more⟩ := map_eq_append_iff.mp same
  obtain ⟨raw, behind, rfl, rfl, -⟩ := map_eq_cons_iff.mp more
  have plainTail : (raw :: behind).any FileListOrder.isDigit = false := by
    rw [any_append, Bool.or_eq_false_iff] at plain
    exact plain.2
  have notDigit : FileListOrder.isDigit (folding.tolower raw) = false := by
    rw [isDigit_tolower]
    exact (Bool.or_eq_false_iff.mp plainTail).1
  by_contra early
  refine alike ⟨textPart first, digit, rest, other, raw, behind, start, rfl, equal.symm, isDigit,
    fun last member => textual_textPart first last (mem_of_getLast? member), ?_, plainTail⟩
  have range := (isDigit_iff digit).mp isDigit
  have outside := mt (isDigit_iff _).mpr (Bool.eq_false_iff.mp notDigit)
  refine Nat.lt_of_not_le fun late => ?_
  omega

theorem NumberAgainst.lift (against : NumberAgainst folding ((fromDigit first).dropWhile isDigit)
      ((fromDigit second).dropWhile isDigit))
    (text : fold folding (textPart first) = fold folding (textPart second))
    (number : (fromDigit first).takeWhile isDigit = (fromDigit second).takeWhile isDigit) :
    NumberAgainst folding first second := by
  obtain ⟨same, digit, rest, other, char, more, left, right, equal, isDigit, textual, behind⟩ :=
    against
  refine ⟨textPart first ++ ((fromDigit first).takeWhile FileListOrder.isDigit ++ same), digit, rest,
    textPart second ++ ((fromDigit second).takeWhile FileListOrder.isDigit ++ other), char, more,
    ?_, ?_, ?_, isDigit, ?_, behind⟩
  · rw [append_assoc, append_assoc, ← left, name_parts]
  · rw [append_assoc, append_assoc, ← right, name_parts]
  · simp only [fold, map_append] at text equal ⊢
    rw [text, equal, number]
  · have head := head?_dropWhile_not FileListOrder.isDigit (fromDigit first)
    rw [left] at head
    cases same with
    | nil => cases isDigit.symm.trans head
    | cons start same => simpa [getLast?_append] using textual

theorem then_congr {first rest other : Ordering} (same : first = .eq → rest = other) :
    first.then rest = first.then other := by
  cases first with
  | eq => exact same rfl
  | lt => rfl
  | gt => rfl

theorem cmpNatural_eq_compare (alike : ¬Conflicting folding first second) :
    cmpNatural folding first second =
      compare (naturalKey folding first) (naturalKey folding second) := by
  fun_induction cmpNatural folding first second with
  | case1 first second digits induction =>
    obtain ⟨firstDigits, secondDigits⟩ := Bool.and_eq_true_iff.mp digits
    rw [naturalKey_digits firstDigits, naturalKey_digits secondDigits]
    refine Eq.trans ?_ (compare_textKey_number _ _ _ _).symm
    refine Eq.trans ?_ (congrArg (Ordering.then _) (compare_numberKey _ _ _ _).symm)
    rw [← Ordering.then_assoc]
    refine then_congr fun equal => ?_
    obtain ⟨text, number⟩ := then_eq.mp equal
    have text := stricmp_eq.mp text
    have number := cmpNumber_eq number
    refine induction fun conflict => alike ?_
    exact conflict.imp (·.lift text number) (·.lift text.symm number.symm)
  | case2 first second digits =>
    cases firstDigits : first.any isDigit with
    | true =>
      have plain : second.any isDigit = false := by simpa [firstDigits] using digits
      exact stricmp_plain firstDigits plain fun against => alike (.inl against)
    | false =>
      cases secondDigits : second.any isDigit with
      | true =>
        rw [stricmp_swap, stricmp_plain secondDigits firstDigits fun against => alike (.inr against),
          ← Std.OrientedOrd.eq_swap]
      | false =>
        rw [naturalKey_plain firstDigits, naturalKey_plain secondDigits, compare_textKey]
        rfl

def numericValue : WString → Nat
  | [] => 0
  | digit :: rest => (digit - 48) * 10 ^ rest.length + numericValue rest

theorem numericValue_lt (digits : ∀ char ∈ number, isDigit char = true) :
    numericValue number < 10 ^ number.length := by
  induction number with
  | nil => exact Nat.one_pos
  | cons digit rest induction =>
    have below := induction fun char member => digits char (mem_cons_of_mem _ member)
    have range := (isDigit_iff digit).mp (digits digit mem_cons_self)
    calc (digit - 48) * 10 ^ rest.length + numericValue rest
      _ < (digit - 48) * 10 ^ rest.length + 10 ^ rest.length := Nat.add_lt_add_left below _
      _ = (digit - 48 + 1) * 10 ^ rest.length := (Nat.succ_mul _ _).symm
      _ ≤ 10 * 10 ^ rest.length := Nat.mul_le_mul_right _ (by omega)
      _ = 10 ^ (rest.length + 1) := (Nat.pow_succ' ..).symm

theorem compare_digits (same : number.length = other.length)
    (digits : ∀ char ∈ number ++ other, isDigit char = true)
    (less : numericValue number < numericValue other) : compare number other = .lt := by
  induction number generalizing other with
  | nil => cases length_eq_zero_iff.mp same.symm; cases less
  | cons digit number induction =>
    cases other with
    | nil => cases same
    | cons next other =>
      replace same := Nat.succ.inj same
      have range := (isDigit_iff digit).mp (digits digit (by simp))
      have otherRange := (isDigit_iff next).mp (digits next (by simp))
      have below : numericValue other < 10 ^ number.length :=
        same ▸ numericValue_lt fun char member => digits char (by simp [member])
      rw [numericValue, numericValue, ← same] at less
      rw [List.compare_cons_cons]
      generalize 10 ^ number.length = power at *
      rcases Nat.lt_trichotomy digit next with before | rfl | after
      · rw [Nat.compare_eq_lt.mpr before]
        rfl
      · rw [Nat.compare_eq_eq.mpr rfl]
        exact induction same (fun char member => digits char (by grind)) (by omega)
      · refine absurd less (Nat.not_lt.mpr ?_)
        calc (next - 48) * power + numericValue other
          _ ≤ (next - 48) * power + power := Nat.add_le_add_left below.le _
          _ = (next - 48 + 1) * power := (Nat.succ_mul _ _).symm
          _ ≤ (digit - 48) * power := Nat.mul_le_mul_right _ (by omega)
          _ ≤ (digit - 48) * power + numericValue number := Nat.le_add_right _ _

theorem numericValue_drop (number : WString) :
    numericValue (number.drop (leadingZeros number)) = numericValue number := by
  have zeros : ∀ count rest, numericValue (replicate count 48 ++ rest) = numericValue rest := by
    intro count rest
    induction count with
    | zero => rfl
    | succ count induction => simpa [replicate_succ, numericValue] using induction
  conv_rhs => rw [← take_append_drop (leadingZeros number) number,
    take_leadingZeros_eq_replicate, zeros]

theorem numericValue_ge (digits : ∀ char ∈ number, isDigit char = true)
    (long : 2 ≤ (number.drop (leadingZeros number)).length) :
    10 ^ ((number.drop (leadingZeros number)).length - 1) ≤
      numericValue (number.drop (leadingZeros number)) := by
  cases start : number.drop (leadingZeros number) with
  | nil => simp [start] at long
  | cons digit rest =>
    have kept : (number.take (number.length - 1)).dropWhile (· == 48) =
        (digit :: rest).take (number.length - 1 - leadingZeros number) := by
      rw [← start, ← drop_take]
      conv_rhs => rw [← takeWhile_append_dropWhile (p := (· == 48))
        (l := number.take (number.length - 1))]
      exact drop_left.symm
    have head := head?_dropWhile_not (· == 48) (number.take (number.length - 1))
    rw [length_drop] at long
    rw [kept, show number.length - 1 - leadingZeros number =
      number.length - 2 - leadingZeros number + 1 by omega] at head
    have range := (isDigit_iff digit).mp
      (digits digit (mem_of_mem_drop (start ▸ mem_cons_self)))
    have first := Nat.lt_of_le_of_ne range.1 (Ne.symm (ne_of_beq_false head))
    rw [numericValue, length_cons]
    refine Nat.le_trans ?_ (Nat.le_add_right _ _)
    exact Nat.le_mul_of_pos_left _ (Nat.sub_pos_of_lt first)

theorem leadingZeros_lt (filled : number ≠ []) :
    leadingZeros number < number.length := by
  have some := length_pos_iff.mpr filled
  have zeros := ( takeWhile_prefix (l := number.take (number.length - 1)) (· == 48)).length_le
  rw [length_take] at zeros
  exact Nat.lt_of_le_of_lt zeros (by omega)

theorem cmpNumber_lt (filled : other ≠ [])
    (digits : ∀ char ∈ number ++ other, isDigit char = true)
    (less : numericValue number < numericValue other) : cmpNumber number other = .lt := by
  have longOther := leadingZeros_lt filled
  have numberDigits := fun char member => digits char (mem_append_left other member)
  have otherDigits := fun char member => digits char (mem_append_right number member)
  have below := numericValue_lt fun char member => otherDigits char
    (mem_of_mem_drop (i := leadingZeros other) member)
  have above := numericValue_ge numberDigits
  rw [← numericValue_drop number, ← numericValue_drop other] at less
  unfold cmpNumber
  dsimp only
  rcases Nat.lt_trichotomy (number.drop (leadingZeros number)).length
    (other.drop (leadingZeros other)).length with shorter | same | longer
  · rw [Nat.compare_eq_lt.mpr shorter]
    rfl
  · have smaller := compare_digits same (fun char member => digits char ?_) less
    · rw [Nat.compare_eq_eq.mpr same, smaller]
      rfl
    · exact (mem_append.mp member).elim
        (fun here => mem_append_left _ (mem_of_mem_drop here))
        fun here => mem_append_right _ (mem_of_mem_drop here)
  · have filledRest : 0 < (other.drop (leadingZeros other)).length := by
      rw [length_drop]
      omega
    have power := Nat.pow_le_pow_right (show 0 < 10 by decide) (Nat.le_sub_one_of_lt longer)
    have large := above (by omega)
    omega

def StartsWithDigit (text : WString) : Prop :=
  ∃ digit rest, text = digit :: rest ∧ isDigit digit = true

theorem StartsWithDigit.any (digits : StartsWithDigit text) :
    text.any isDigit = true := by
  obtain ⟨digit, rest, rfl, isDigit⟩ := digits
  simp [isDigit]

theorem StartsWithDigit.parts {same : WString} (digits : StartsWithDigit text)
    (plain : ∀ char ∈ same, isDigit char = false) :
    textPart (same ++ text) = same ∧ fromDigit (same ++ text) = text := by
  obtain ⟨digit, rest, rfl, isDigit⟩ := digits
  constructor
  · rw [textPart, takeWhile_append_of_pos fun char member => by simp [plain char member]]
    simp [isDigit]
  · rw [fromDigit, dropWhile_append_of_pos fun char member => by simp [plain char member]]
    simp [isDigit]

theorem StartsWithDigit.alone (digits : StartsWithDigit text) :
    textPart text = [] ∧ fromDigit text = text :=
  @StartsWithDigit.parts text [] digits (by simp)

theorem takeWhile_append_of_stop {stops : WChar → Bool} {text : WString}
    (stop : ∃ char ∈ text, stops char = false) (rest : WString) :
    (text ++ rest).takeWhile stops = text.takeWhile stops ∧
      (text ++ rest).dropWhile stops = text.dropWhile stops ++ rest := by
  obtain ⟨char, member, stop⟩ := stop
  induction text with
  | nil => exact absurd member not_mem_nil
  | cons first text induction =>
    cases goes : stops first with
    | false => simp [goes]
    | true =>
      have later := (mem_cons.mp member).resolve_left (by rintro rfl; simp [goes] at stop)
      simpa [goes] using induction later

theorem mem_getLast?_dropWhile {stops : WChar → Bool} {last : WChar}
    (member : last ∈ (text.dropWhile stops).getLast?) : last ∈ text.getLast? := by
  rw [← takeWhile_append_dropWhile (p := stops) (l := text), getLast?_append,
    Option.mem_def.mp member]
  rfl

theorem append_parts {same : WString} (digits : same.any isDigit = true)
    (textual : ∀ last ∈ same.getLast?, isDigit last = false) (rest : WString) :
    textPart (same ++ rest) = textPart same ∧
      (fromDigit (same ++ rest)).takeWhile isDigit = (fromDigit same).takeWhile isDigit ∧
      (fromDigit (same ++ rest)).dropWhile isDigit = (fromDigit same).dropWhile isDigit ++ rest ∧
      ∀ last ∈ ((fromDigit same).dropWhile isDigit).getLast?, isDigit last = false := by
  have start := @takeWhile_append_of_stop (fun char => !isDigit char) same (by simpa using digits) rest
  have number : ∃ char ∈ fromDigit same, isDigit char = false := by
    have filled : fromDigit same ≠ [] := by simpa [fromDigit] using digits
    exact ⟨_, getLast_mem filled, textual _ (mem_getLast?_dropWhile
      (getLast?_eq_some_getLast filled))⟩
  have behind := takeWhile_append_of_stop number rest
  refine ⟨start.1, ?_, ?_, fun char member =>
    textual char (mem_getLast?_dropWhile (mem_getLast?_dropWhile member))⟩
  · rw [fromDigit, start.2]
    exact behind.1
  · rw [fromDigit, start.2]
    exact behind.2

theorem cmpNatural_append {text other : WString} (digits : StartsWithDigit text)
    (otherDigits : StartsWithDigit other) (same : WString)
    (textual : ∀ last ∈ same.getLast?, isDigit last = false) :
    cmpNatural folding (same ++ text) (same ++ other) = cmpNatural folding text other := by
  rw [cmpNatural_digits _ _ (by simp [digits.any, otherDigits.any])]
  cases inside : same.any isDigit with
  | true =>
    have first := append_parts inside textual text
    have second := append_parts inside textual other
    rw [first.1, first.2.1, first.2.2.1, second.1, second.2.1, second.2.2.1, stricmp_eq.mpr rfl,
      show cmpNumber _ _ = .eq by simp [cmpNumber]]
    exact cmpNatural_append digits otherDigits _ first.2.2.2
  | false =>
    have plain : ∀ char ∈ same, isDigit char = false := by simpa using inside
    have first := digits.parts plain
    have second := otherDigits.parts plain
    rw [first.1, first.2, second.1, second.2, stricmp_eq.mpr rfl,
      cmpNatural_digits text other (by simp [digits.any, otherDigits.any])]
    rw [digits.alone.1, digits.alone.2, otherDigits.alone.1, otherDigits.alone.2, stricmp_eq.mpr rfl]
termination_by same.length
decreasing_by exact length_afterNumber inside

structure IsNumber (number rest : WString) : Prop where
  filled : number ≠ []
  digits : ∀ char ∈ number, isDigit char = true
  ends : ∀ char ∈ rest.head?, isDigit char = false

theorem IsNumber.startsWithDigit (isNumber : IsNumber number rest) :
    StartsWithDigit (number ++ rest) := by
  obtain ⟨digit, more, rfl⟩ := exists_cons_of_ne_nil isNumber.filled
  exact ⟨digit, more ++ rest, rfl, isNumber.digits digit mem_cons_self⟩

theorem IsNumber.takeWhile (isNumber : IsNumber number rest) :
    (number ++ rest).takeWhile isDigit = number := by
  rw [takeWhile_append_of_pos isNumber.digits]
  cases rest with
  | nil => exact append_nil number
  | cons char rest => simp [isNumber.ends char rfl]

theorem cmpNatural_number {same more : WString}
    (textual : ∀ last ∈ same.getLast?, isDigit last = false)
    (isNumber : IsNumber number rest) (isOther : IsNumber other more)
    (less : numericValue number < numericValue other) :
    cmpNatural folding (same ++ (number ++ rest)) (same ++ (other ++ more)) = .lt := by
  have first := isNumber.startsWithDigit
  have second := isOther.startsWithDigit
  rw [cmpNatural_append first second same textual,
    cmpNatural_digits _ _ (by simp only [first.any, second.any, Bool.and_self]),
    first.alone.1, first.alone.2, second.alone.1, second.alone.2, isNumber.takeWhile,
    isOther.takeWhile, stricmp_eq.mpr rfl, cmpNumber_lt isOther.filled ?_ less]
  · rfl
  · exact fun char member => (mem_append.mp member).elim (isNumber.digits char)
      (isOther.digits char)

theorem cmpNatural_trans {third : WString} (alike : ¬Conflicting folding first second)
    (alikeRest : ¬Conflicting folding second third) (alikeEnds : ¬Conflicting folding first third)
    (left : (cmpNatural folding first second).isLE) (right : (cmpNatural folding second third).isLE) :
    (cmpNatural folding first third).isLE := by
  rw [cmpNatural_eq_compare alike] at left
  rw [cmpNatural_eq_compare alikeRest] at right
  rw [cmpNatural_eq_compare alikeEnds]
  exact Std.TransOrd.isLE_trans left right

variable (folding) in
/-- The comparison is an order of the names no two of which conflict. -/
theorem natural_order :
    (∀ first second, cmpNatural folding first second = (cmpNatural folding second first).swap) ∧
    (∀ first second, cmpNatural folding first second = .eq ↔
      fold folding first = fold folding second) ∧
    (∀ same number other rest more, (∀ last ∈ same.getLast?, isDigit last = false) →
      IsNumber number rest → IsNumber other more → numericValue number < numericValue other →
      cmpNatural folding (same ++ (number ++ rest)) (same ++ (other ++ more)) = .lt) ∧
    ∀ first second third, ¬Conflicting folding first second → ¬Conflicting folding second third →
      ¬Conflicting folding first third → (cmpNatural folding first second).isLE →
      (cmpNatural folding second third).isLE → (cmpNatural folding first third).isLE := by
  refine ⟨cmpNatural_swap, fun first second => ⟨cmpNatural_eq, fun same => ?_⟩,
    fun _ _ _ _ _ => cmpNatural_number, fun _ _ _ => cmpNatural_trans⟩
  have itself := @cmpNatural_swap folding second second
  rw [cmpNatural_congr second same]
  cases order : cmpNatural folding second second with
  | eq => rfl
  | lt => simp [order] at itself
  | gt => simp [order] at itself

theorem natural_order_cycle :
    cmpNatural asciiFolding (wide "a1") (wide "a-1") = .lt ∧
      cmpNatural asciiFolding (wide "a-1") (wide "a.") = .lt ∧
      cmpNatural asciiFolding (wide "a.") (wide "a1") = .lt ∧
      NumberAgainst asciiFolding (wide "a1") (wide "a.") := by
  refine ⟨by decide +kernel, by decide +kernel, by decide +kernel, ?_⟩
  exact ⟨wide "a", '1'.toNat, [], wide "a", '.'.toNat, [], rfl, rfl, rfl, rfl, by decide, by decide,
    rfl⟩

end FileZilla.FileListOrder
