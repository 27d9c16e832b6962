import FileZilla.Engine.DirectoryListingParser.HostFormats
import FileZilla.Engine.DirectoryListingParser.Sizes

namespace FileZilla

open Option

/-! The arithmetic of the sizes again, where a sum or product that does not fit 64 bits is
not defined. -/

def checked (number : Int) : Option Int :=
  if int64Min ≤ number ∧ number ≤ int64Max then some number else none

def checkedNat (number : Nat) : Option Nat :=
  (checked number).map Int.toNat

theorem checked_of_fits {number : Int} (above : int64Min ≤ number) (below : number ≤ int64Max) :
    checked number = some number :=
  if_pos ⟨above, below⟩

theorem checkedNat_of_le {number : Nat} (fits : number ≤ int64Max) :
    checkedNat number = some number := by
  have above : int64Min ≤ (number : Int) := by
    have nonneg := Int.natCast_nonneg number
    have min : int64Min = -9223372036854775808 := rfl
    omega
  rw [checkedNat, checked_of_fits above (Int.ofNat_le.mpr fits)]
  rfl

def appendDigitChecked (radix value digit : Nat) : Option (Option Nat) :=
  if value > int64Max / radix then some none
  else do
    let product ← checkedNat (value * radix)
    if int64Max - digit < product then some none
    else do
      let sum ← checkedNat (product + digit)
      some (some sum)

theorem appendDigitChecked_eq {radix digit : Nat} (positive : 0 < radix) (small : digit < 16)
    (value : Nat) :
    appendDigitChecked radix value digit = some (appendDigit radix value digit) := by
  have max := int64Max_eq
  unfold appendDigitChecked appendDigit
  split
  case isTrue => rfl
  case isFalse inRange =>
    have product : value * radix ≤ int64Max :=
      (Nat.le_div_iff_mul_le positive).mp (not_lt.mp inRange)
    rw [checkedNat_of_le product, bind_eq_bind, bind_some]
    split
    case isTrue => rfl
    case isFalse room =>
      have sum : value * radix + digit ≤ int64Max := by omega
      rw [checkedNat_of_le sum]
      rfl

theorem NumberBase.digit_lt {base : NumberBase} {char : WChar} {digit : Nat}
    (isDigit : base.digit char = some digit) : digit < 16 := by
  have decimal : ∀ {char : Nat}, FileZilla.isDigit char = true → char - 48 < 16 :=
    fun decimal => lt_of_le_of_lt (digit_le decimal) (by decide)
  unfold NumberBase.digit at isDigit
  split at isDigit
  · split at isDigit
    case isTrue digit =>
      cases isDigit
      exact decimal digit
    case isFalse => contradiction
  · split at isDigit
    case isTrue digit =>
      cases isDigit
      exact decimal digit
    case isFalse =>
      split at isDigit
      case isTrue lower =>
        cases isDigit
        exact Nat.add_lt_of_lt_sub (Nat.sub_lt_left_of_lt_add lower.1 (Nat.lt_succ_of_le lower.2))
      case isFalse =>
        split at isDigit
        case isTrue upper =>
          cases isDigit
          exact Nat.add_lt_of_lt_sub
            (Nat.sub_lt_left_of_lt_add upper.1 (Nat.lt_succ_of_le upper.2))
        case isFalse => contradiction

theorem NumberBase.radix_pos (base : NumberBase) : 0 < base.radix := by
  cases base <;> decide

namespace CToken

def digitsValueChecked (base : NumberBase) (trailingDataIsError : Bool) :
    WString → Bool → Nat → Option Int
  | [], _, value => some value
  | char :: rest, isFirst, value =>
    match base.digit char with
    | none => some (if isFirst || trailingDataIsError then -1 else value)
    | some digit => do
        match ← appendDigitChecked base.radix value digit with
        | none => some (-1)
        | some value => digitsValueChecked base trailingDataIsError rest false value

theorem digitsValueChecked_eq (base : NumberBase) (trailingDataIsError : Bool) (text : WString)
    (isFirst : Bool) (value : Nat) :
    digitsValueChecked base trailingDataIsError text isFirst value =
      some (digitsValue base trailingDataIsError text isFirst value) := by
  induction text generalizing isFirst value with
  | nil => rfl
  | cons char rest induction =>
    rw [digitsValueChecked, digitsValue]
    cases isDigit : base.digit char with
    | none => rfl
    | some digit =>
      dsimp only
      rw [appendDigitChecked_eq base.radix_pos (NumberBase.digit_lt isDigit),
        bind_eq_bind, bind_some]
      cases appendDigit base.radix value digit with
      | none => rfl
      | some value => exact induction false value

def numberOfChecked (text : WString) (base : NumberBase) (trailingDataIsError : Bool) :
    Option Int :=
  if text.isEmpty then some (-1) else digitsValueChecked base trailingDataIsError text true 0

theorem numberOfChecked_eq (text : WString) (base : NumberBase) (trailingDataIsError : Bool) :
    numberOfChecked text base trailingDataIsError =
      some (numberOf text base trailingDataIsError) := by
  unfold numberOfChecked numberOf
  split
  · rfl
  · exact digitsValueChecked_eq ..

variable (token : CToken)

def getNumberAtChecked (start : Nat) (len : Int) : Option Int :=
  if token.length ≤ start then some (-1)
  else if len = -1 then numberOfChecked (token.drop start) .decimal false
  else if len < 1 then some (-1)
  else if (token.length - start : Nat) < len then some (-1)
  else numberOfChecked ((token.drop start).take len.toNat) .decimal false

theorem getNumberAtChecked_eq (start : Nat) (len : Int) :
    getNumberAtChecked token start len = some (getNumberAt token start len) := by
  unfold getNumberAtChecked getNumberAt
  split
  · rfl
  · split
    · exact numberOfChecked_eq ..
    · split
      · rfl
      · split
        · rfl
        · exact numberOfChecked_eq ..

def getNumberChecked (base : NumberBase) : Option Int :=
  match base with
  | .hex => numberOfChecked token .hex true
  | .decimal =>
    if token.isNumeric || token.isLeftNumeric then numberOfChecked token .decimal false
    else if token.isRightNumeric then numberOfChecked (token.rtakeWhile isDigit) .decimal false
    else some int64Min

theorem getNumberChecked_eq (base : NumberBase) :
    getNumberChecked token base = some (getNumber token base) := by
  cases base with
  | hex => exact numberOfChecked_eq ..
  | decimal =>
    unfold getNumberChecked getNumber
    dsimp only
    split
    · exact numberOfChecked_eq ..
    · split
      · exact numberOfChecked_eq ..
      · rfl

end CToken

def sizeDigitsChecked : WString → Bool → Nat → Nat → Option (Bool × Nat × Nat)
  | [], _, size, dot => some (true, size, dot)
  | char :: rest, isFirst, size, dot =>
    if isDigit char then
      if size > int64Max / 10 then some (false, size, dot)
      else do
        let product ← checkedNat (size * 10)
        if int64Max - (char - 48) < product then some (false, product, dot)
        else do
          let sum ← checkedNat (product + (char - 48))
          sizeDigitsChecked rest false sum dot
    else if char = '.'.toNat then
      if isFirst || rest.isEmpty || dot != 0 then some (false, size, dot)
      else sizeDigitsChecked rest false size (rest.length + 1)
    else some (false, size, dot)

theorem sizeDigitsChecked_eq (text : WString) (isFirst : Bool) (size dot : Nat) :
    sizeDigitsChecked text isFirst size dot = some (sizeDigits text isFirst size dot) := by
  have max := int64Max_eq
  have tenth := int64Max_div_ten
  induction text generalizing isFirst size dot with
  | nil => rfl
  | cons char rest induction =>
    rw [sizeDigitsChecked, sizeDigits]
    split
    case isTrue digit =>
      have small := digit_le digit
      split
      case isTrue => rfl
      case isFalse inRange =>
        have product : size * 10 ≤ int64Max := by omega
        rw [checkedNat_of_le product, bind_eq_bind, bind_some]
        split
        case isTrue => rfl
        case isFalse room =>
          have sum : size * 10 + (char - 48) ≤ int64Max := by omega
          rw [checkedNat_of_le sum]
          exact induction ..
    case isFalse =>
      split
      · split
        · rfl
        · exact induction ..
      · rfl

def parseComplexFileSizeChecked (token : CToken) (blocksize : Int) : Option (Bool × Option Int) :=
  if token.isNumeric then do
    let size ← token.getNumberChecked .decimal
    if 0 < blocksize then
      if size > int64Max / blocksize then some (false, some size)
      else do
        let product ← checked (size * blocksize)
        some (true, some product)
    else some (true, some size)
  else
    match sizeUnit token with
    | none => some (false, none)
    | some (len, unit) => do
        match ← sizeDigitsChecked (token.take len) true 0 0 with
        | (false, size, _) => some (false, some size)
        | (true, size, dot) =>
          match sizeMultiplier unit blocksize with
          | none => some (false, some size)
          | some 0 => some (true, some (size / 10 ^ (dot - 1) : Nat))
          | some mult =>
            if size > int64Max / mult then some (false, some size)
            else do
              let product ← checkedNat (size * mult)
              some (true, some (product / 10 ^ (dot - 1) : Nat))

theorem getNumber_range {token : CToken} (numeric : token.isNumeric = true) :
    -1 ≤ token.getNumber ∧ token.getNumber ≤ int64Max := by
  rw [CToken.getNumber_numeric numeric]
  split <;> omega

theorem parseComplexFileSizeChecked_eq (token : CToken) {blocksize : Int}
    (isInt : toInt blocksize = blocksize) :
    parseComplexFileSizeChecked token blocksize = some (parseComplexFileSize token blocksize) := by
  unfold parseComplexFileSizeChecked parseComplexFileSize
  split
  case isTrue numeric =>
    obtain ⟨above, below⟩ := getNumber_range numeric
    rw [CToken.getNumberChecked_eq, bind_eq_bind, bind_some]
    generalize token.getNumber = size at above below
    dsimp only
    split
    case isTrue positive =>
      split
      case isTrue => rfl
      case isFalse inRange =>
        have bound : blocksize < 2 ^ 31 := by
          rw [← isInt]
          exact Int.bmod_lt (by decide)
        have upper : size * blocksize ≤ int64Max :=
          (Int.le_ediv_iff_mul_le positive).mp (not_lt.mp inRange)
        have lower : -1 * blocksize ≤ size * blocksize :=
          Int.mul_le_mul_of_nonneg_right above positive.le
        have min : int64Min = -9223372036854775808 := rfl
        rw [checked_of_fits (by omega) upper]
        rfl
    case isFalse => rfl
  case isFalse =>
    cases sizeUnit token with
    | none => rfl
    | some place =>
      obtain ⟨len, unit⟩ := place
      dsimp only
      rw [sizeDigitsChecked_eq, bind_eq_bind, bind_some]
      rcases sizeDigits (token.take len) true 0 0 with ⟨_ | _, size, dot⟩
      · rfl
      · dsimp only
        rcases sizeMultiplier unit blocksize with _ | _ | mult
        · rfl
        · rfl
        · by_cases large : size > int64Max / (mult + 1)
          · exact (if_pos large).trans (congrArg some (if_pos large).symm)
          · have product : size * (mult + 1) ≤ int64Max :=
              (Nat.le_div_iff_mul_le (Nat.succ_pos mult)).mp (not_lt.mp large)
            refine (if_neg large).trans ?_
            rw [checkedNat_of_le product]
            exact congrArg some (if_neg large).symm

def dosSizeChecked : WString → Nat → Option (Option Nat)
  | [], size => some (some size)
  | char :: rest, size =>
    if containsAny ",." char then dosSizeChecked rest size
    else if isDigit char then do
      match ← appendDigitChecked 10 size (char - 48) with
      | none => some none
      | some size => dosSizeChecked rest size
    else some none

theorem dosSizeChecked_eq (text : WString) (size : Nat) :
    dosSizeChecked text size = some (EntryParser.dosSize text size) := by
  induction text generalizing size with
  | nil => rfl
  | cons char rest induction =>
    rw [dosSizeChecked, EntryParser.dosSize]
    split
    · exact induction size
    · split
      case isTrue digit =>
        have small := lt_of_le_of_lt (digit_le digit) (by decide : 9 < 16)
        rw [appendDigitChecked_eq (by decide) small, bind_eq_bind, bind_some]
        cases appendDigit 10 size (char - 48) with
        | none => rfl
        | some size => exact induction size
      case isFalse => rfl

def zvmSizeChecked (recordLength records : Int) : Option (Option Int) :=
  if 0 < recordLength then
    if records < 0 ∨ int64Max / recordLength < records then some none
    else do
      let product ← checked (recordLength * records)
      some (some product)
  else some (some recordLength)

theorem zvmSizeChecked_eq (recordLength records : Int) :
    zvmSizeChecked recordLength records = some (EntryParser.zvmSize recordLength records) := by
  unfold zvmSizeChecked EntryParser.zvmSize
  split
  case isTrue positive =>
    split
    case isTrue => rfl
    case isFalse inRange =>
      obtain ⟨nonneg, inRange⟩ := not_or.mp inRange
      have upper : recordLength * records ≤ int64Max := by
        rw [Int.mul_comm]
        exact (Int.le_ediv_iff_mul_le positive).mp (not_lt.mp inRange)
      have lower : 0 ≤ recordLength * records := Int.mul_nonneg positive.le (not_lt.mp nonneg)
      have min : int64Min = -9223372036854775808 := rfl
      rw [checked_of_fits (by omega) upper]
      rfl
  case isFalse => rfl

end FileZilla
