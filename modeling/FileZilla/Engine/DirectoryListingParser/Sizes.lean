import FileZilla.Guards
import FileZilla.Engine.DirectoryListingParser.Date

namespace FileZilla

open List

variable (value : Nat)

def digitsFrom (digits : WString) : Nat :=
  digits.foldl (fun value char => value * 10 + (char - 48)) value

@[simp] theorem digitsFrom_nil : digitsFrom value [] = value := rfl

theorem digitsFrom_cons (char : WChar) (digits : WString) :
    digitsFrom value (char :: digits) = digitsFrom (value * 10 + (char - 48)) digits := by
  unfold digitsFrom
  exact foldl_cons ..

theorem digitsFrom_append (left right : WString) :
    digitsFrom value (left ++ right) = digitsFrom (digitsFrom value left) right :=
  foldl_append

open Nat

theorem le_digitsFrom (digits : WString) : value ≤ digitsFrom value digits := by
  induction digits generalizing value with
  | nil => exact le_refl value
  | cons char digits induction =>
    have next := induction (value * 10 + (char - 48))
    rw [digitsFrom_cons]
    omega

theorem int64Max_eq : int64Max = 9223372036854775807 := rfl

theorem int64Max_div_ten : int64Max / 10 = 922337203685477580 := rfl

theorem digit_le {char : Nat} (digit : isDigit char = true) : char - 48 ≤ 9 := by
  rw [isDigit, Bool.and_eq_true, decide_eq_true_eq, decide_eq_true_eq] at digit
  exact sub_le_of_le_add digit.2

theorem appendDigit_eq {digit : Nat} (isDigit : digit ≤ 9) :
    appendDigit 10 value digit =
      if value * 10 + digit ≤ int64Max then some (value * 10 + digit) else none := by
  have max := int64Max_eq
  have tenth := int64Max_div_ten
  unfold appendDigit
  by_cases large : value > int64Max / 10
  · rw [if_pos large, if_neg (by omega)]
  · rw [if_neg large]
    by_cases over' : int64Max - digit < value * 10
    · rw [if_pos over', if_neg (by omega)]
    · rw [if_neg over', if_pos (by omega)]

namespace CToken

theorem digitsValue_digits {digits : WString} (all : ∀ char ∈ digits, isDigit char = true)
    (trailing first : Bool) {value : Nat} (small : value ≤ int64Max) :
    digitsValue .decimal trailing digits first value =
      if digitsFrom value digits ≤ int64Max then (digitsFrom value digits : Int) else -1 := by
  induction digits generalizing value first with
  | nil => exact (if_pos small).symm
  | cons char digits induction =>
    have digit := all char mem_cons_self
    have isSome : NumberBase.digit .decimal char = some (char - 48) := if_pos digit
    have appended : appendDigit NumberBase.decimal.radix value (char - 48) = _ :=
      appendDigit_eq value (digit_le digit)
    rw [digitsValue, isSome]
    dsimp only
    rw [appended, digitsFrom_cons]
    by_cases fits : value * 10 + (char - 48) ≤ int64Max
    · rw [if_pos fits]
      exact induction (fun char member => all char (mem_cons_of_mem _ member)) false fits
    · rw [if_neg fits]
      have more := le_digitsFrom (value * 10 + (char - 48)) digits
      exact (if_neg (by omega)).symm

theorem isNumeric_iff {token : CToken} :
    token.isNumeric = true ↔ token ≠ [] ∧ ∀ char ∈ token, isDigit char = true := by
  simp [isNumeric]

theorem getNumber_numeric {token : CToken} (numeric : token.isNumeric = true) :
    token.getNumber =
      if digitsFrom 0 token ≤ int64Max then (digitsFrom 0 token : Int) else -1 := by
  obtain ⟨filled, all⟩ := isNumeric_iff.mp numeric
  have nonempty : ¬ isEmpty token = true := by simpa using filled
  rw [getNumber, numeric, Bool.true_or, if_pos rfl, numberOf, if_neg nonempty]
  exact digitsValue_digits all false true (zero_le _)

end CToken

/-- A text of digits with at most one dot inside: the number without the dot and the digits
behind it -/
inductive Written : WString → Nat → Nat → Prop
  | whole {digits : WString} (filled : digits ≠ []) (all : ∀ char ∈ digits, isDigit char = true) :
      Written digits (digitsFrom 0 digits) 0
  | dotted {whole fraction : WString} (filled : whole ≠ [] ∧ fraction ≠ [])
      (all : ∀ char ∈ whole ++ fraction, isDigit char = true) :
      Written (whole ++ '.'.toNat :: fraction) (digitsFrom 0 (whole ++ fraction)) fraction.length

theorem sizeDigits_digits {digits : WString} (all : ∀ char ∈ digits, isDigit char = true)
    (rest : WString) (first : Bool) (value dot : Nat) (small : value ≤ int64Max) :
    if digitsFrom value digits ≤ int64Max then
      sizeDigits (digits ++ rest) first value dot =
        sizeDigits rest (first && digits.isEmpty) (digitsFrom value digits) dot
    else (sizeDigits (digits ++ rest) first value dot).1 = false := by
  induction digits generalizing value first with
  | nil =>
    rw [digitsFrom_nil, if_pos small, isEmpty_nil, Bool.and_true]
    rfl
  | cons char digits induction =>
    have digit := all char mem_cons_self
    have range := digit_le digit
    have max := int64Max_eq
    have tenth := int64Max_div_ten
    have more := le_digitsFrom (value * 10 + (char - 48)) digits
    rw [digitsFrom_cons, cons_append, sizeDigits, if_pos digit]
    by_cases large : value > int64Max / 10
    · rw [if_neg (by omega), if_pos large]
    · rw [if_neg large]
      by_cases over' : int64Max - (char - 48) < value * 10
      · rw [if_neg (by omega), if_pos over']
      · rw [if_neg over']
        have next := induction (fun char member => all char (mem_cons_of_mem _ member))
          false (value * 10 + (char - 48)) (by omega)
        rw [Bool.false_and] at next
        rw [isEmpty_cons, Bool.and_false]
        exact next

theorem sizeDigits_dot {rest : WString} (filled : rest ≠ []) (value : Nat) :
    sizeDigits ('.'.toNat :: rest) false value 0 = sizeDigits rest false value (rest.length + 1) := by
  have noDigit : ¬ isDigit '.'.toNat = true := by decide
  have nonempty : rest.isEmpty = false := by simpa using filled
  rw [sizeDigits, if_neg noDigit, if_pos rfl, nonempty, if_neg (by decide)]

variable {number : WString} {value places : Nat}

theorem sizeDigits_written (written : Written number value places) :
    if value ≤ int64Max then
      ∃ dot, dot - 1 = places ∧ sizeDigits number true 0 0 = (true, value, dot)
    else (sizeDigits number true 0 0).1 = false := by
  cases written with
  | whole filled all =>
    have run := sizeDigits_digits all [] true 0 0 (zero_le _)
    rw [append_nil] at run
    split
    case isTrue fits =>
      rw [if_pos fits] at run
      exact ⟨0, rfl, run⟩
    case isFalse overflows =>
      rw [if_neg overflows] at run
      exact run
  | @dotted whole fraction filled all =>
    have run := sizeDigits_digits (fun char member => all char (mem_append_left _ member))
      ('.'.toNat :: fraction) true 0 0 (zero_le _)
    have started : (true && whole.isEmpty) = false := by simpa using filled.1
    have more := le_digitsFrom (digitsFrom 0 whole) fraction
    rw [digitsFrom_append]
    by_cases fits : digitsFrom 0 whole ≤ int64Max
    · rw [if_pos fits, started, sizeDigits_dot filled.2] at run
      have next := sizeDigits_digits
        (fun char member => all char (mem_append_right _ member)) [] false
        (digitsFrom 0 whole) (fraction.length + 1) fits
      rw [append_nil] at next
      rw [run]
      split
      case isTrue fits =>
        rw [if_pos fits] at next
        exact ⟨fraction.length + 1, rfl, next⟩
      case isFalse overflows =>
        rw [if_neg overflows] at next
        exact next
    · rw [if_neg fits] at run
      rw [if_neg (by omega)]
      exact run

theorem takeDigits (text : WString) : ∃ digits rest, text = digits ++ rest ∧
    (∀ char ∈ digits, isDigit char = true) ∧ ∀ char ∈ rest.head?, isDigit char = false := by
  refine ⟨text.takeWhile isDigit, text.dropWhile isDigit, takeWhile_append_dropWhile.symm,
    fun char member => mem_takeWhile_imp member, fun char head => ?_⟩
  have stops := head?_dropWhile_not isDigit text
  rw [head] at stops
  exact stops

theorem written_of_sizeDigits (valid : (sizeDigits number true 0 0).1 = true) :
    number = [] ∨ ∃ value places, Written number value places := by
  obtain ⟨digits, rest, rfl, all, stops⟩ := takeDigits number
  have run := sizeDigits_digits all rest true 0 0 (zero_le _)
  by_cases fits : digitsFrom 0 digits ≤ int64Max
  · rw [if_pos fits] at run
    rw [run] at valid
    cases rest with
    | nil =>
      by_cases missing : digits = []
      · exact .inl (by rw [missing]; rfl)
      · rw [append_nil]
        exact .inr ⟨_, _, .whole missing all⟩
    | cons char rest =>
      have noDigit : ¬ isDigit char = true := by
        rw [stops char rfl]
        decide
      rw [sizeDigits, if_neg noDigit] at valid
      split at valid
      case isFalse => contradiction
      case isTrue dot =>
        split at valid
        case isTrue => contradiction
        case isFalse inside =>
          rw [Bool.or_eq_true, Bool.or_eq_true, not_or, not_or] at inside
          obtain ⟨⟨started, more⟩, -⟩ := inside
          rw [Bool.true_and] at started
          obtain ⟨fraction, others, rfl, fractionAll, fractionStops⟩ := takeDigits rest
          have next := sizeDigits_digits fractionAll others false (digitsFrom 0 digits)
            ((fraction ++ others).length + 1) fits
          by_cases fractionFits : digitsFrom (digitsFrom 0 digits) fraction ≤ int64Max
          · rw [if_pos fractionFits] at next
            rw [next] at valid
            cases others with
            | nil =>
              rw [append_nil] at more ⊢
              subst dot
              refine .inr ⟨_, _, .dotted ⟨?_, ?_⟩ ?_⟩
              · simpa using started
              · simpa using more
              · intro char member
                rcases mem_append.mp member with before | behind
                · exact all char before
                · exact fractionAll char behind
            | cons other others =>
              have noDigit : ¬ isDigit other = true := by
                rw [fractionStops other rfl]
                decide
              rw [sizeDigits, if_neg noDigit] at valid
              split at valid
              case isFalse => contradiction
              case isTrue =>
                have second : ((false && fraction.isEmpty || others.isEmpty) ||
                    (fraction ++ other :: others).length + 1 != 0) = true := by simp
                rw [if_pos second] at valid
                contradiction
          · rw [if_neg fractionFits] at next
            rw [next] at valid
            contradiction
  · rw [if_neg fits] at run
    rw [run] at valid
    contradiction

abbrev isByte (char : WChar) : Prop :=
  char = 'B'.toNat ∨ char = 'b'.toNat

/-- How `sizeUnit` splits a token into the text for the loop and the rest, and the unit -/
inductive Split : WString → WString → WChar → Prop
  | plain {number : WString} (ends : ∃ last ∈ number.getLast?, isDigit last = true) :
      Split number [] 0
  | byte {number : WString} {last : WChar} (ends : ∃ last ∈ number.getLast?, isDigit last = true)
      (isByte : isByte last) : Split number [last] 0
  | unit {number : WString} {unit : WChar} (filled : number ≠ []) (noDigit : isDigit unit = false)
      (noByte : ¬ isByte unit) : Split number [unit] unit
  | unitByte {number : WString} {unit last : WChar} (noDigit : isDigit unit = false)
      (isByte : isByte last) : Split number [unit, last] unit

variable {char : WChar}

theorem isByte_noDigit (byte : isByte char) : isDigit char = false := by
  rcases byte with rfl | rfl <;> decide

variable {tail : WString} {unit : WChar}

theorem sizeUnit_split (split : Split number tail unit) :
    sizeUnit (number ++ tail) = some (number.length, unit) := by
  cases split with
  | plain ends =>
    obtain ⟨last, isLast, digit⟩ := ends
    have noByte : ¬ (last = 'B'.toNat ∨ last = 'b'.toNat) := fun byte => by
      rw [isByte_noDigit byte] at digit
      contradiction
    rw [append_nil, sizeUnit, isLast]
    dsimp only
    rw [if_neg noByte, if_pos digit]
  | @byte last ends byte =>
    obtain ⟨digit, isLast, isDigit⟩ := ends
    obtain ⟨init, rfl⟩ := getLast?_eq_some_iff.mp isLast
    have before : (init ++ [digit] ++ [last])[(init ++ [digit] ++ [last]).length - 2]? =
        some digit := by simp
    rw [sizeUnit, getLast?_concat, before]
    dsimp only
    rw [if_pos byte, if_neg (by simp), if_pos isDigit]
    simp
  | unit filled noDigit noByte =>
    have positive := length_pos_iff.mpr filled
    have many : ¬ (number ++ [unit]).length = 1 := by
      rw [length_append, length_singleton]
      omega
    have digit : ¬ isDigit unit = true := by
      rw [noDigit]
      decide
    rw [sizeUnit, getLast?_concat]
    dsimp only
    rw [if_neg noByte, if_neg digit, if_neg many, length_append]
    rfl
  | @unitByte _ last noDigit byte =>
    have ends : (number ++ [unit, last]).getLast? = some last := by
      rw [append_cons, getLast?_concat]
    have before : (number ++ [unit, last])[(number ++ [unit, last]).length - 2]? =
        some unit := by simp
    have digit : ¬ isDigit unit = true := by
      rw [noDigit]
      decide
    rw [sizeUnit, ends]
    dsimp only
    rw [if_pos byte, before]
    dsimp only
    rw [if_neg (by simp), if_neg digit]
    simp

variable {token : CToken}

theorem split_of_sizeUnit {len : Nat} (found : sizeUnit token = some (len, unit)) :
    ∃ number tail, token = number ++ tail ∧ Split number tail unit := by
  rcases eq_nil_or_concat token with rfl | ⟨init, last, rfl⟩
  · cases found
  · rw [concat_eq_append] at found ⊢
    by_cases byte : isByte last
    · rcases eq_nil_or_concat init with rfl | ⟨number, char, rfl⟩
      · rcases byte with rfl | rfl <;> cases found
      · rw [concat_eq_append] at found ⊢
        cases digit : isDigit char with
        | true =>
          have split : Split (number ++ [char]) [last] 0 :=
            .byte ⟨char, getLast?_concat, digit⟩ byte
          rw [sizeUnit_split split] at found
          cases found
          exact ⟨_, _, rfl, split⟩
        | false =>
          have split : Split number [char, last] char := .unitByte digit byte
          have whole : number ++ [char] ++ [last] = number ++ [char, last] := by simp
          rw [whole, sizeUnit_split split] at found
          cases found
          exact ⟨_, _, whole, split⟩
    · cases digit : isDigit last with
      | true =>
        have split : Split (init ++ [last]) [] 0 := .plain ⟨last, getLast?_concat, digit⟩
        have whole := sizeUnit_split split
        rw [append_nil, found] at whole
        cases whole
        exact ⟨_, _, (append_nil _).symm, split⟩
      | false =>
        by_cases missing : init = []
        · subst missing
          have noDigit : ¬ isDigit last = true := by
            rw [digit]
            decide
          have single : ([] ++ [last] : WString).length = 1 := rfl
          rw [sizeUnit, getLast?_concat] at found
          dsimp only at found
          rw [if_neg byte, if_neg noDigit, if_pos single] at found
          contradiction
        · have split : Split init [last] last := .unit missing digit byte
          rw [sizeUnit_split split] at found
          cases found
          exact ⟨_, _, rfl, split⟩

def sizePower (unit : WChar) : Option Nat :=
  if (wide "kK").contains unit then some 1
  else if (wide "mM").contains unit then some 2
  else if (wide "gG").contains unit then some 3
  else if (wide "tT").contains unit then some 4
  else none

def sizeFactor (power : Option Nat) (blocksize : Int) : Nat :=
  match power with
  | some power => 1024 ^ power
  | none => if 0 < blocksize then blocksize.toNat else 1

theorem sizeMultiplier_of_power {power : Nat} (isPower : sizePower unit = some power)
    (blocksize : Int) : sizeMultiplier unit blocksize = some (1024 ^ power) := by
  unfold sizePower at isPower
  unfold sizeMultiplier
  split
  case isTrue kilo =>
    rw [if_pos kilo] at isPower
    cases isPower
    rfl
  case isFalse kilo =>
    rw [if_neg kilo] at isPower
    split
    case isTrue mega =>
      rw [if_pos mega] at isPower
      cases isPower
      rfl
    case isFalse mega =>
      rw [if_neg mega] at isPower
      split
      case isTrue giga =>
        rw [if_pos giga] at isPower
        cases isPower
        rfl
      case isFalse giga =>
        rw [if_neg giga] at isPower
        split
        case isTrue tera =>
          rw [if_pos tera] at isPower
          cases isPower
          rfl
        case isFalse tera =>
          rw [if_neg tera] at isPower
          contradiction

theorem isByte_of_contains (among : (wide "bB").contains char = true) :
    isByte char := by
  rw [contains_iff_mem] at among
  rcases mem_cons.mp among with small | among
  · exact .inr small
  · exact .inl (mem_singleton.mp among)

variable {blocksize : Int} {mult : Nat}

theorem sizeMultiplier_cases (found : sizeMultiplier unit blocksize = some mult) :
    (∃ power, sizePower unit = some power ∧ mult = 1024 ^ power) ∨ (isByte unit ∧ mult = 0) ∨
      (unit = 0 ∧ mult = blocksize.toNat) := by
  cases isPower : sizePower unit with
  | some power =>
    rw [sizeMultiplier_of_power isPower] at found
    cases found
    exact .inl ⟨power, rfl, rfl⟩
  | none =>
    unfold sizePower at isPower
    unfold sizeMultiplier at found
    split at isPower
    case isTrue => contradiction
    case isFalse kilo =>
      split at isPower
      case isTrue => contradiction
      case isFalse mega =>
        split at isPower
        case isTrue => contradiction
        case isFalse giga =>
          split at isPower
          case isTrue => contradiction
          case isFalse tera =>
            rw [if_neg kilo, if_neg mega, if_neg giga, if_neg tera] at found
            split at found
            case isTrue among =>
              cases found
              exact .inr (.inl ⟨isByte_of_contains among, rfl⟩)
            case isFalse =>
              obtain ⟨nothing, rfl⟩ := some_of_guard found
              exact .inr (.inr ⟨nothing, rfl⟩)

open CToken

theorem parseComplexFileSize_split (split : Split number tail unit)
    (notNumeric : ¬ isNumeric (number ++ tail) = true) (blocksize : Int) :
    parseComplexFileSize (number ++ tail) blocksize =
      match sizeDigits number true 0 0 with
      | (false, size, _) => (false, some size)
      | (true, size, dot) =>
        match sizeMultiplier unit blocksize with
        | none => (false, some size)
        | some 0 => (true, some (size / 10 ^ (dot - 1) : Nat))
        | some mult =>
          if size > int64Max / mult then (false, some size)
          else (true, some (size * mult / 10 ^ (dot - 1) : Nat)) := by
  rw [parseComplexFileSize, if_neg notNumeric, sizeUnit_split split]
  dsimp only
  rw [take_left] <;> rfl

theorem parseComplexFileSize_written (split : Split number tail unit)
    (notNumeric : ¬ isNumeric (number ++ tail) = true)
    (written : Written number value places) (found : sizeMultiplier unit blocksize = some mult) :
    if value * max mult 1 ≤ int64Max then
      parseComplexFileSize (number ++ tail) blocksize =
        (true, some ((value * max mult 1 / 10 ^ places : Nat) : Int))
    else (parseComplexFileSize (number ++ tail) blocksize).1 = false := by
  have run := sizeDigits_written written
  rw [parseComplexFileSize_split split notNumeric, found]
  by_cases fits : value ≤ int64Max
  · rw [if_pos fits] at run
    obtain ⟨dot, rfl, run⟩ := run
    rw [run]
    cases mult with
    | zero =>
      have unscaled : value * max 0 1 = value := mul_one value
      rw [unscaled, if_pos fits]
      rfl
    | succ mult =>
      have positive : 0 < mult + 1 := succ_pos mult
      rw [max_eq_left positive]
      by_cases scaled : value * (mult + 1) ≤ int64Max
      · have quotient : ¬ value > int64Max / (mult + 1) :=
          not_lt.mpr ((le_div_iff_mul_le positive).mpr scaled)
        rw [if_pos scaled]
        exact if_neg quotient
      · have quotient : value > int64Max / (mult + 1) :=
          (div_lt_iff_lt_mul positive).mpr (not_le.mp scaled)
        rw [if_neg scaled]
        exact congrArg Prod.fst (if_pos quotient)
  · have more : value ≤ value * max mult 1 := Nat.le_mul_of_pos_right _ (by omega)
    rw [if_neg fits] at run
    rw [if_neg (by omega)]
    rcases result : sizeDigits number true 0 0 with ⟨valid, size, dot⟩
    rw [result] at run
    obtain rfl : valid = false := run
    rfl

theorem parseComplexFileSize_numeric (numeric : token.isNumeric = true) (blocksize : Int)
    (small : digitsFrom 0 token ≤ int64Max) :
    if digitsFrom 0 token * sizeFactor none blocksize ≤ int64Max then
      parseComplexFileSize token blocksize =
        (true, some ((digitsFrom 0 token * sizeFactor none blocksize : Nat) : Int))
    else (parseComplexFileSize token blocksize).1 = false := by
  unfold parseComplexFileSize sizeFactor
  rw [if_pos numeric, getNumber_numeric numeric, if_pos small]
  dsimp only
  by_cases blocks : 0 < blocksize
  · obtain ⟨size, rfl⟩ := Int.eq_ofNat_of_zero_le blocks.le
    have positive : 0 < size := by omega
    rw [if_pos blocks, if_pos blocks, Int.toNat_natCast]
    by_cases scaled : digitsFrom 0 token * size ≤ int64Max
    · have quotient := (le_div_iff_mul_le positive).mpr scaled
      rw [if_pos scaled, if_neg (by omega), cast_mul]
    · have quotient := (div_lt_iff_lt_mul positive).mpr (not_le.mp scaled)
      rw [if_neg scaled, if_pos (by omega)]
  · rw [if_neg blocks, if_neg blocks, mul_one, if_pos small]

inductive Suffix : WString → Option Nat → Prop
  | nothing : Suffix [] none
  | byte {last : WChar} (isByte : isByte last) : Suffix [last] none
  | unit {unit : WChar} {power : Nat} (isPower : sizePower unit = some power) :
      Suffix [unit] (some power)
  | unitByte {unit last : WChar} {power : Nat} (isPower : sizePower unit = some power)
      (isByte : isByte last) : Suffix [unit, last] (some power)

/-- The token is a size: its number without the dot and scaled, and the digits behind the
dot -/
def IsSize (token : CToken) (blocksize : Int) (scaled places : Nat) : Prop :=
  ∃ number suffix value power, token = number ++ suffix ∧ Written number value places ∧
    Suffix suffix power ∧ scaled = value * sizeFactor power blocksize

structure ReadsSize (token : CToken) (blocksize : Int) : Prop where
  sound : (parseComplexFileSize token blocksize).1 = true →
    ∃ scaled places, IsSize token blocksize scaled places ∧
      (parseComplexFileSize token blocksize).2 = some ((scaled / 10 ^ places : Nat) : Int)
  complete : ∀ scaled places, IsSize token blocksize scaled places → scaled ≤ int64Max →
    parseComplexFileSize token blocksize = (true, some ((scaled / 10 ^ places : Nat) : Int))

inductive StraySuffix (blocksize : Int) : WString → Nat → Prop
  | bytes {first last : WChar} (first_isByte : isByte first) (last_isByte : isByte last) :
      StraySuffix blocksize [first, last] 1
  | nul : StraySuffix blocksize [0] (sizeFactor none blocksize)
  | nulByte {last : WChar} (isByte : isByte last) :
      StraySuffix blocksize [0, last] (sizeFactor none blocksize)

inductive Misread : CToken → Int → Prop
  | overflow {token : CToken} {blocksize : Int} (numeric : token.isNumeric = true)
      (large : int64Max < digitsFrom 0 token) : Misread token blocksize
  | noDigits {unit last : WChar} {blocksize : Int} (last_isByte : isByte last)
      (known : (sizePower unit).isSome = true ∨ isByte unit ∨ unit = 0) :
      Misread [unit, last] blocksize
  | stray {number tail : WString} {value places factor : Nat} {blocksize : Int}
      (written : Written number value places) (stray : StraySuffix blocksize tail factor)
      (fits : value * factor ≤ int64Max) : Misread (number ++ tail) blocksize

theorem Written.ends (written : Written number value places) :
    ∃ last ∈ number.getLast?, isDigit last = true := by
  cases written with
  | whole filled all =>
    exact ⟨_, getLast?_eq_some_getLast filled, all _ (getLast_mem filled)⟩
  | @dotted whole fraction filled all =>
    have behind : (whole ++ '.'.toNat :: fraction).getLast? = fraction.getLast? := by
      rw [append_cons, getLast?_append_of_ne_nil _ filled.2]
    rw [behind]
    exact ⟨_, getLast?_eq_some_getLast filled.2,
      all _ (mem_append_right _ (getLast_mem filled.2))⟩

theorem Written.filled (written : Written number value places) : number ≠ [] := by
  rintro rfl
  obtain ⟨last, ends, -⟩ := written.ends
  cases ends

theorem sizePower_known {power : Nat} (isPower : sizePower unit = some power) :
    isDigit unit = false ∧ ¬ isByte unit := by
  have known : unit ∈ wide "kK" ++ wide "mM" ++ wide "gG" ++ wide "tT" := by
    unfold sizePower at isPower
    simp only [contains_iff_mem] at isPower
    rw [mem_append, mem_append, mem_append]
    split at isPower
    case isTrue kilo => exact .inl (.inl (.inl kilo))
    case isFalse =>
      split at isPower
      case isTrue mega => exact .inl (.inl (.inr mega))
      case isFalse =>
        split at isPower
        case isTrue giga => exact .inl (.inr giga)
        case isFalse =>
          obtain ⟨tera, isPower⟩ := of_guard isPower
          exact .inr tera
  have units : ∀ unit ∈ wide "kK" ++ wide "mM" ++ wide "gG" ++ wide "tT",
      isDigit unit = false ∧ ¬ isByte unit := by decide
  exact units unit known

theorem max_blocksize (blocksize : Int) : max blocksize.toNat 1 = sizeFactor none blocksize := by
  unfold sizeFactor
  dsimp only
  split <;> omega

theorem sizeFactor_pos (power : Option Nat) (blocksize : Int) : 0 < sizeFactor power blocksize := by
  cases power with
  | none =>
    rw [← max_blocksize]
    omega
  | some power => exact Nat.pow_pos (by decide)

def Scales (number tail : WString) (blocksize : Int) (factor : Nat) : Prop :=
  ∃ unit mult, Split number tail unit ∧ sizeMultiplier unit blocksize = some mult ∧
    max mult 1 = factor

variable {power : Option Nat}

theorem Suffix.scales {suffix : WString} (suffix_ok : Suffix suffix power)
    (written : Written number value places) (blocksize : Int) :
    Scales number suffix blocksize (sizeFactor power blocksize) := by
  cases suffix_ok with
  | nothing => exact ⟨0, _, .plain written.ends, rfl, max_blocksize blocksize⟩
  | byte byte => exact ⟨0, _, .byte written.ends byte, rfl, max_blocksize blocksize⟩
  | unit isPower =>
    obtain ⟨noDigit, noByte⟩ := sizePower_known isPower
    exact ⟨_, _, .unit written.filled noDigit noByte, sizeMultiplier_of_power isPower blocksize,
      max_eq_left (sizeFactor_pos (some _) blocksize)⟩
  | unitByte isPower byte =>
    exact ⟨_, _, .unitByte (sizePower_known isPower).1 byte,
      sizeMultiplier_of_power isPower blocksize,
      max_eq_left (sizeFactor_pos (some _) blocksize)⟩

theorem sizeMultiplier_byte (byte : isByte char) (blocksize : Int) :
    sizeMultiplier char blocksize = some 0 := by
  rcases byte with rfl | rfl <;> rfl

variable {factor : Nat}

theorem StraySuffix.scales (stray : StraySuffix blocksize tail factor)
    (written : Written number value places) :
    Scales number tail blocksize factor := by
  cases stray with
  | bytes first last =>
    exact ⟨_, 0, .unitByte (isByte_noDigit first) last, sizeMultiplier_byte first blocksize, rfl⟩
  | nul =>
    exact ⟨0, _, .unit written.filled rfl (by decide), rfl, max_blocksize blocksize⟩
  | nulByte byte => exact ⟨0, _, .unitByte rfl byte, rfl, max_blocksize blocksize⟩

theorem StraySuffix.not_suffix (stray : StraySuffix blocksize tail factor) :
    ¬ Suffix tail power := by
  intro suffix
  cases stray with
  | bytes first =>
    cases suffix with
    | unitByte isPower => exact (sizePower_known isPower).2 first
  | nul =>
    cases suffix with
    | byte byte => exact absurd byte (by decide)
    | unit isPower => contradiction
  | nulByte =>
    cases suffix with
    | unitByte isPower => contradiction

theorem not_numeric (member : char ∈ tail) (noDigit : isDigit char = false) :
    ¬ isNumeric (number ++ tail) = true := by
  intro numeric
  have digit := (isNumeric_iff.mp numeric).2 char (mem_append_right _ member)
  rw [noDigit] at digit
  contradiction

theorem Suffix.noDigit {suffix : WString} (suffix_ok : Suffix suffix power) (filled : suffix ≠ [])
    : ∃ char ∈ suffix, isDigit char = false := by
  cases suffix_ok with
  | nothing => contradiction
  | byte byte => exact ⟨_, mem_cons_self, isByte_noDigit byte⟩
  | unit isPower => exact ⟨_, mem_cons_self, (sizePower_known isPower).1⟩
  | unitByte isPower => exact ⟨_, mem_cons_self, (sizePower_known isPower).1⟩

theorem StraySuffix.noDigit (stray : StraySuffix blocksize tail factor) :
    ∃ char ∈ tail, isDigit char = false := by
  cases stray with
  | bytes first => exact ⟨_, mem_cons_self, isByte_noDigit first⟩
  | nul => exact ⟨0, mem_cons_self, rfl⟩
  | nulByte => exact ⟨0, mem_cons_self, rfl⟩

theorem isSize_numeric {scaled : Nat} (numeric : token.isNumeric = true)
    (size : IsSize token blocksize scaled places) :
    scaled = digitsFrom 0 token * sizeFactor none blocksize ∧ places = 0 := by
  obtain ⟨number, tail, value, power, rfl, written, suffix, rfl⟩ := size
  by_cases bare : tail = []
  · subst bare
    rw [append_nil] at numeric ⊢
    have none_power : power = none := by
      cases suffix
      rfl
    subst none_power
    cases written with
    | whole => exact ⟨rfl, rfl⟩
    | dotted =>
      have digit := (isNumeric_iff.mp numeric).2 '.'.toNat (by simp)
      contradiction
  · obtain ⟨char, member, noDigit⟩ := suffix.noDigit bare
    exact absurd numeric (not_numeric member noDigit)

theorem parseComplexFileSize_scales (scales : Scales number tail blocksize factor)
    (notNumeric : ¬ isNumeric (number ++ tail) = true)
    (written : Written number value places) :
    if value * factor ≤ int64Max then
      parseComplexFileSize (number ++ tail) blocksize =
        (true, some ((value * factor / 10 ^ places : Nat) : Int))
    else (parseComplexFileSize (number ++ tail) blocksize).1 = false := by
  obtain ⟨unit, mult, split, found, rfl⟩ := scales
  exact parseComplexFileSize_written split notNumeric written found

theorem parseComplexFileSize_complete {scaled : Nat} (size : IsSize token blocksize scaled places)
    (fits : scaled ≤ int64Max) :
    parseComplexFileSize token blocksize = (true, some ((scaled / 10 ^ places : Nat) : Int)) := by
  by_cases numeric : token.isNumeric = true
  · obtain ⟨rfl, rfl⟩ := isSize_numeric numeric size
    have small : digitsFrom 0 token ≤ int64Max :=
      (Nat.le_mul_of_pos_right _ (sizeFactor_pos none blocksize)).trans fits
    have read := parseComplexFileSize_numeric numeric blocksize small
    rw [if_pos fits] at read
    rw [read, Nat.pow_zero, Nat.div_one]
  · obtain ⟨number, tail, value, power, rfl, written, suffix, rfl⟩ := size
    have read := parseComplexFileSize_scales (suffix.scales written blocksize) numeric written
    rw [if_pos fits] at read
    exact read

theorem fits_of_valid (scales : Scales number tail blocksize factor)
    (notNumeric : ¬ isNumeric (number ++ tail) = true)
    (written : Written number value places)
    (valid : (parseComplexFileSize (number ++ tail) blocksize).1 = true) :
    value * factor ≤ int64Max := by
  have read := parseComplexFileSize_scales scales notNumeric written
  split at read
  case isTrue fits => exact fits
  case isFalse =>
    rw [valid] at read
    contradiction

theorem parts_of_valid (split : Split number tail unit)
    (notNumeric : ¬ isNumeric (number ++ tail) = true)
    (valid : (parseComplexFileSize (number ++ tail) blocksize).1 = true) :
    (sizeDigits number true 0 0).1 = true ∧ ∃ mult, sizeMultiplier unit blocksize = some mult := by
  rw [parseComplexFileSize_split split notNumeric] at valid
  rcases digits : sizeDigits number true 0 0 with ⟨digitsValid, size, dot⟩
  rw [digits] at valid
  cases digitsValid with
  | false => contradiction
  | true =>
    cases found : sizeMultiplier unit blocksize with
    | none =>
      rw [found] at valid
      contradiction
    | some mult => exact ⟨rfl, mult, rfl⟩

theorem isSize_or_misread (valid : (parseComplexFileSize token blocksize).1 = true) :
    (∃ scaled places, IsSize token blocksize scaled places ∧ scaled ≤ int64Max) ∨
      Misread token blocksize := by
  by_cases numeric : token.isNumeric = true
  · by_cases small : digitsFrom 0 token ≤ int64Max
    · have read := parseComplexFileSize_numeric numeric blocksize small
      obtain ⟨filled, all⟩ := isNumeric_iff.mp numeric
      split at read
      case isTrue fits =>
        exact .inl ⟨_, 0, ⟨token, [], _, none, (append_nil token).symm, .whole filled all,
          .nothing, rfl⟩, fits⟩
      case isFalse =>
        rw [valid] at read
        contradiction
    · exact .inr (.overflow numeric (not_le.mp small))
  · cases found : sizeUnit token with
    | none =>
      rw [parseComplexFileSize, if_neg numeric, found] at valid
      contradiction
    | some place =>
      obtain ⟨len, sizeUnit⟩ := place
      obtain ⟨number, tail, rfl, split⟩ := split_of_sizeUnit found
      obtain ⟨digits, mult, known⟩ := parts_of_valid split numeric valid
      rcases written_of_sizeDigits digits with rfl | ⟨value, places, written⟩
      · cases split with
        | plain ends =>
          obtain ⟨last, ends, -⟩ := ends
          cases ends
        | byte ends =>
          obtain ⟨last, ends, -⟩ := ends
          cases ends
        | unit filled => contradiction
        | unitByte noDigit byte =>
          refine .inr (.noDigits byte ?_)
          rcases sizeMultiplier_cases known with ⟨power, isPower, -⟩ | ⟨first, -⟩ | ⟨nul, -⟩
          · exact .inl (by rw [isPower]; rfl)
          · exact .inr (.inl first)
          · exact .inr (.inr nul)
      · have sized : ∀ power, Suffix tail power →
            ∃ scaled places, IsSize (number ++ tail) blocksize scaled places ∧
              scaled ≤ int64Max := fun power suffix =>
          ⟨_, places, ⟨number, tail, value, power, rfl, written, suffix, rfl⟩,
            fits_of_valid (suffix.scales written blocksize) numeric written valid⟩
        have strays : ∀ factor, StraySuffix blocksize tail factor →
            Misread (number ++ tail) blocksize := fun factor stray =>
          .stray written stray (fits_of_valid (stray.scales written) numeric written valid)
        cases split with
        | plain => exact .inl (sized _ .nothing)
        | byte ends byte => exact .inl (sized _ (.byte byte))
        | unit filled noDigit noByte =>
          rcases sizeMultiplier_cases known with ⟨power, isPower, -⟩ | ⟨first, -⟩ | ⟨rfl, -⟩
          · exact .inl (sized _ (.unit isPower))
          · contradiction
          · exact .inr (strays _ .nul)
        | unitByte noDigit byte =>
          rcases sizeMultiplier_cases known with ⟨power, isPower, -⟩ | ⟨first, -⟩ | ⟨rfl, -⟩
          · exact .inl (sized _ (.unitByte isPower byte))
          · exact .inr (strays _ (.bytes first byte))
          · exact .inr (strays _ (.nulByte byte))

theorem split_unique {number' tail' : WString} {unit' : WChar} (split : Split number tail unit)
    (split' : Split number' tail' unit') (same : number ++ tail = number' ++ tail') :
    number = number' ∧ tail = tail' := by
  have found := sizeUnit_split split
  rw [same, sizeUnit_split split'] at found
  exact append_inj same (Prod.mk.inj (Option.some.inj found)).1.symm

theorem not_isSize_stray (written : Written number value places)
    (stray : StraySuffix blocksize tail factor) (scaled places' : Nat) :
    ¬ IsSize (number ++ tail) blocksize scaled places' := by
  rintro ⟨number', tail', value', power, same, written', suffix, -⟩
  obtain ⟨_, _, split, -⟩ := stray.scales written
  obtain ⟨_, _, split', -⟩ := suffix.scales written' blocksize
  obtain ⟨-, rfl⟩ := split_unique split split' same
  exact stray.not_suffix suffix

theorem not_isSize_noDigits {last : WChar} (noDigit : isDigit unit = false) (byte : isByte last)
    (scaled places : Nat) :
    ¬ IsSize [unit, last] blocksize scaled places := by
  rintro ⟨number, tail, value, power, same, written, suffix, -⟩
  obtain ⟨_, _, split, -⟩ := suffix.scales written blocksize
  have bare : Split [] [unit, last] unit := .unitByte noDigit byte
  obtain ⟨rfl, -⟩ := split_unique bare split same
  exact written.filled rfl

theorem parseComplexFileSize_noDigits {last : WChar} (noDigit : isDigit unit = false)
    (byte : isByte last) (known : sizeMultiplier unit blocksize = some mult) :
    (parseComplexFileSize [unit, last] blocksize).1 = true := by
  have bare : Split [] [unit, last] unit := .unitByte noDigit byte
  have notNumeric : ¬ isNumeric ([] ++ [unit, last]) = true :=
    not_numeric mem_cons_self noDigit
  have read := parseComplexFileSize_split bare notNumeric blocksize
  rw [known] at read
  rw [nil_append] at read
  rw [read]
  cases mult with
  | zero => rfl
  | succ mult => exact congrArg Prod.fst (if_neg (not_lt_zero _))

theorem parseComplexFileSize_overflow (numeric : token.isNumeric = true)
    (large : int64Max < digitsFrom 0 token) (blocksize : Int) :
    parseComplexFileSize token blocksize =
      (true, some (if 0 < blocksize then -1 * blocksize else -1)) := by
  rw [parseComplexFileSize, if_pos numeric, getNumber_numeric numeric,
    if_neg (not_le.mpr large)]
  dsimp only
  split
  case isTrue blocks =>
    have quotient : (0 : Int) ≤ (int64Max : Int) / blocksize :=
      Int.ediv_nonneg (Int.natCast_nonneg _) blocks.le
    exact if_neg (by omega)
  case isFalse => rfl

theorem Misread.not_reads (misread : Misread token blocksize) :
    ¬ ReadsSize token blocksize := by
  intro reads
  cases misread with
  | overflow numeric large =>
    have read := parseComplexFileSize_overflow numeric large blocksize
    obtain ⟨scaled, places, -, value⟩ := reads.sound (by rw [read])
    rw [read] at value
    have negative := Option.some.inj value
    generalize scaled / 10 ^ places = quotient at negative
    split at negative <;> omega
  | @noDigits first last _ byte known =>
    have unit : isDigit first = false ∧ ∃ mult, sizeMultiplier first blocksize = some mult := by
      rcases known with isPower | firstByte | rfl
      · obtain ⟨power, isPower⟩ := Option.isSome_iff_exists.mp isPower
        exact ⟨(sizePower_known isPower).1, _, sizeMultiplier_of_power isPower blocksize⟩
      · exact ⟨isByte_noDigit firstByte, 0, sizeMultiplier_byte firstByte blocksize⟩
      · exact ⟨rfl, _, rfl⟩
    obtain ⟨noDigit, mult, known⟩ := unit
    obtain ⟨scaled, places, size, -⟩ :=
      reads.sound (parseComplexFileSize_noDigits noDigit byte known)
    exact not_isSize_noDigits noDigit byte scaled places size
  | stray written stray fits =>
    obtain ⟨char, member, noDigit⟩ := stray.noDigit
    have read := parseComplexFileSize_scales (stray.scales written)
      (not_numeric member noDigit) written
    rw [if_pos fits] at read
    obtain ⟨scaled, places, size, -⟩ := reads.sound (by rw [read])
    exact not_isSize_stray written stray scaled places size

theorem parseComplexFileSize_reads_iff (token : CToken) (blocksize : Int) :
    ReadsSize token blocksize ↔ ¬ Misread token blocksize := by
  constructor
  · exact fun reads misread => misread.not_reads reads
  · intro fine
    refine ⟨fun valid => ?_, fun scaled places size fits => parseComplexFileSize_complete size fits⟩
    rcases isSize_or_misread valid with ⟨scaled, places, size, fits⟩ | misread
    · exact ⟨scaled, places, size, by rw [parseComplexFileSize_complete size fits]⟩
    · contradiction

theorem parseComplexFileSize_unit_only : ¬ ReadsSize (wide "kb") (-1) := by
  intro reads
  exact Misread.not_reads (.noDigits (.inr rfl) (.inl rfl)) reads

example : parseComplexFileSize (wide "1.5k") (-1) = (true, some 1536) := by decide

end FileZilla
