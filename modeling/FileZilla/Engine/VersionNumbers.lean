import FileZilla.Engine.Version
import FileZilla.Guards
import Mathlib.Tactic.Ring

namespace FileZilla

/-! The numbers of a version text, and when the arithmetic of the conversion is defined. -/

/-- The variables of the conversion while none of its signed results has overflowed -/
structure CheckedReader where
  v : Nat := 0
  segment : Nat := 0
  shifts : Nat := 0

namespace CheckedReader

variable (self : CheckedReader)

def separator : Option CheckedReader :=
  let sum := self.v + self.segment
  if sum < 2 ^ 63 ∧ sum * 2 ^ 10 < 2 ^ 63 ∧ self.shifts + 1 < 2 ^ 31 then
    some { v := sum * 2 ^ 10, shifts := self.shifts + 1 }
  else none

/-- The count of this shift is positive. -/
def pad : Option CheckedReader :=
  let v := self.v * 2 ^ ((4 - self.shifts) * 10)
  if v < 2 ^ 63 then some { self with v, shifts := 4 } else none

def digit (char : WChar) : Option CheckedReader :=
  let tens := self.segment * 10
  if tens < 2 ^ 31 ∧ tens + (char - 48) < 2 ^ 31 then
    some { self with segment := tens + (char - 48) }
  else none

def separated (char : WChar) : Option CheckedReader :=
  if char = '.'.toNat ∨ char = '-'.toNat ∨ char = 'b'.toNat then self.separator else some self

def readChar (char : WChar) : Option CheckedReader :=
  (self.separated char).bind fun self =>
    if char = '-'.toNat ∧ self.shifts < 4 then self.pad
    else if isDigit char then self.digit char
    else some self

def finish : Option Nat :=
  let sum := self.v + self.segment
  let v := sum * 2 ^ ((5 - self.shifts) * 10)
  if self.shifts ≤ 5 ∧ sum < 2 ^ 63 ∧ v < 2 ^ 63 then some v else none

end CheckedReader

/-- Final releases are above their release candidates and betas. -/
def withFinal (v : Nat) : Nat :=
  if v % 2 ^ 20 = 0 then v + 2 ^ 19 else v

open CheckedReader

/-- `convertToVersionNumber` where every shift and every signed result is defined -/
def checkedVersionNumber (version : WString) : Option Int :=
  let version := cString version
  if !(version.head?.any isDigit) then some (-1)
  else ((version.foldlM readChar {}).bind finish).map
    fun v => (withFinal v : Nat)

open Option Nat

namespace CheckedReader

variable {self next : CheckedReader} {char : WChar}

def toReader (self : CheckedReader) : VersionReader where
  v := self.v
  segment := self.segment
  shifts := self.shifts

theorem toInt64_of_lt {value : Nat} (small : value < 2 ^ 63) : toInt64 value = value :=
  Int.bmod_eq_of_le (by omega) (by omega)

theorem shiftLeft64_of_lt {value count : Nat} (range : count < 64)
    (small : value * 2 ^ count < 2 ^ 63) : shiftLeft64 value count = (value * 2 ^ count : Nat) := by
  have same : (value : Int) * 2 ^ ((count : Int) % 64).toNat = (value * 2 ^ count : Nat) := by
    rw [Int.emod_eq_of_lt (by omega) (by omega), Int.toNat_natCast]
    push_cast
    rfl
  rw [shiftLeft64, same, toInt64_of_lt small]

theorem toInt_of_lt {value : Nat} (small : value < 2 ^ 31) : toInt value = value :=
  Int.bmod_eq_of_le (by omega) (by omega)

theorem separated_toReader (read : self.separated char = some next) :
    (if char = '.'.toNat ∨ char = '-'.toNat ∨ char = 'b'.toNat then self.toReader.separator
      else self.toReader) = next.toReader := by
  unfold separated at read
  split at read
  case isTrue separates =>
    obtain ⟨⟨sum, shifted, _⟩, rfl⟩ := some_of_guard read
    have moved := shiftLeft64_of_lt (by decide) shifted
    rw [cast_ofNat] at moved
    rw [if_pos separates, VersionReader.separator, toReader, ← cast_add, toInt64_of_lt sum,
      moved]
    rfl
  case isFalse inside => rw [if_neg inside, some.inj read]

theorem readChar_toReader (read : self.readChar char = some next) :
    self.toReader.readChar char = next.toReader := by
  obtain ⟨behind, separated, read⟩ := bind_eq_some_iff.mp read
  rw [VersionReader.readChar, separated_toReader separated]
  have same : behind.toReader.shifts < 4 ↔ behind.shifts < 4 := cast_lt_ofNat
  split at read
  case isTrue pads =>
    obtain ⟨small, rfl⟩ := some_of_guard read
    have few := pads.2
    have count : (4 - (behind.shifts : Int)) * 10 = ((4 - behind.shifts) * 10 : Nat) := by omega
    have moved := shiftLeft64_of_lt (by omega) small
    rw [← count] at moved
    rw [if_pos ⟨pads.1, same.mpr pads.2⟩, toReader, moved]
    rfl
  case isFalse plain =>
    rw [if_neg fun pads => plain ⟨pads.1, same.mp pads.2⟩]
    split at read
    case isTrue digit =>
      obtain ⟨⟨tens, added⟩, rfl⟩ := some_of_guard read
      have first : toInt (behind.toReader.segment * 10) = (behind.segment * 10 : Nat) :=
        toInt_of_lt tens
      rw [if_pos digit, first, ← cast_add, toInt_of_lt added]
      rfl
    case isFalse other => rw [if_neg other, some.inj read]

theorem foldl_toReader {text : WString} (read : text.foldlM readChar self = some next) :
    text.foldl VersionReader.readChar self.toReader = next.toReader := by
  induction text generalizing self with
  | nil => rw [some.inj read]; rfl
  | cons char text induction =>
    obtain ⟨behind, first, rest⟩ := bind_eq_some_iff.mp read
    rw [List.foldl_cons, readChar_toReader first]
    exact induction rest

end CheckedReader

theorem convertToVersionNumber_of_checked {version : WString} {number : Int}
    (converted : checkedVersionNumber version = some number) :
    convertToVersionNumber version = number := by
  rw [checkedVersionNumber] at converted
  rw [convertToVersionNumber]
  split at converted
  case isTrue bad =>
    rw [if_pos bad]
    exact some.inj converted
  case isFalse good =>
    rw [if_neg good]
    obtain ⟨v, ended, rfl⟩ := map_eq_some_iff.mp converted
    obtain ⟨reader, read, finished⟩ := bind_eq_some_iff.mp ended
    obtain ⟨⟨few, sum, shifted⟩, rfl⟩ := some_of_guard finished
    have count : (5 - (reader.shifts : Int)) * 10 = ((5 - reader.shifts) * 10 : Nat) := by omega
    have value : shiftLeft64 (toInt64 (reader.toReader.v + reader.toReader.segment))
        ((5 - reader.toReader.shifts) * 10) =
        ((reader.v + reader.segment) * 2 ^ ((5 - reader.shifts) * 10) : Nat) := by
      rw [toReader, count, ← cast_add, toInt64_of_lt sum]
      exact shiftLeft64_of_lt (by omega) shifted
    have start : ({} : CheckedReader).toReader = {} := rfl
    rw [← start, foldl_toReader read]
    dsimp only
    rw [value, withFinal]
    split <;> split <;> omega

/-- The place behind a separator. What follows a minus comes after at least four numbers. -/
def nextPlace (char : WChar) (place : Nat) : Nat :=
  if char = '-'.toNat then max (place + 1) 4 else place + 1

/-- The numbers between the separators with their places, from the first number on -/
def versionNumbers (place number : Nat) : WString → List (Nat × Nat)
  | [] => [(place, number)]
  | char :: text =>
    if char = '.'.toNat ∨ char = '-'.toNat ∨ char = 'b'.toNat then
      (place, number) :: versionNumbers (nextPlace char place) 0 text
    else if isDigit char then versionNumbers place (number * 10 + (char - 48)) text
    else versionNumbers place number text

def packed : List (Nat × Nat) → Nat
  | [] => 0
  | (place, number) :: rest => number * 2 ^ ((5 - place) * 10) + packed rest

structure Packs (base : Nat) (numbers : List (Nat × Nat)) : Prop where
  place : ∀ entry ∈ numbers, entry.1 ≤ 5
  number : ∀ entry ∈ numbers, entry.2 < 2 ^ 31
  packed : base + packed numbers < 2 ^ 63

section Numbers

variable {v number place amount : Nat} {char : WChar} {text : WString} {next : CheckedReader}

theorem place_lt_nextPlace : place < nextPlace char place := by
  unfold nextPlace
  split <;> omega

theorem exists_first : ∃ entry ∈ versionNumbers place number text,
    entry.1 = place ∧ number ≤ entry.2 := by
  induction text generalizing number with
  | nil => exact ⟨_, List.mem_singleton_self _, rfl, le_refl _⟩
  | cons char text induction =>
    rw [versionNumbers]
    split
    case isTrue => exact ⟨_, List.mem_cons_self, rfl, le_refl _⟩
    case isFalse =>
      split
      case isTrue =>
        obtain ⟨entry, member, same, least⟩ := @induction (number * 10 + (char - 48))
        exact ⟨entry, member, same, by omega⟩
      case isFalse => exact induction

theorem lt_of_shifted (count : Nat) (product : amount * 2 ^ count < 2 ^ 63) : amount < 2 ^ 63 :=
  Nat.lt_of_le_of_lt (Nat.le_mul_of_pos_right _ (Nat.two_pow_pos count)) product

open CheckedReader

theorem readChar_separator
    (separates : char = '.'.toNat ∨ char = '-'.toNat ∨ char = 'b'.toNat) :
    readChar ⟨v, number, place⟩ char = some next ↔
      (v + number) * 2 ^ ((nextPlace char place - place) * 10) < 2 ^ 63 ∧ place + 1 < 2 ^ 31 ∧
        next = ⟨(v + number) * 2 ^ ((nextPlace char place - place) * 10), 0,
          nextPlace char place⟩ := by
  have digit : isDigit char = false := by rcases separates with rfl | rfl | rfl <;> rfl
  rw [readChar, separated, if_pos separates, separator, digit, nextPlace]
  by_cases pads : char = '-'.toNat ∧ place + 1 < 4
  case pos =>
    have counts : max (place + 1) 4 - place = 3 - place + 1 ∧ max (place + 1) 4 = 4 := by omega
    have split : (v + number) * 2 ^ ((3 - place + 1) * 10) =
        (v + number) * 2 ^ 10 * 2 ^ ((4 - (place + 1)) * 10) := by
      rw [show 4 - (place + 1) = 3 - place by omega]
      ring
    rw [if_pos pads.1, counts.1, counts.2, split, bind_eq_some_iff]
    constructor
    · rintro ⟨_, sent, padded⟩
      obtain ⟨⟨_, _, counted⟩, rfl⟩ := some_of_guard sent
      rw [if_pos pads] at padded
      obtain ⟨product, rfl⟩ := some_of_guard padded
      exact ⟨product, counted, rfl⟩
    · rintro ⟨product, counted, rfl⟩
      have shifted := lt_of_shifted _ product
      refine ⟨_, if_pos ⟨lt_of_shifted _ shifted, shifted, counted⟩, ?_⟩
      rw [if_pos pads]
      exact if_pos product
  case neg =>
    have last : (if char = '-'.toNat then max (place + 1) 4 else place + 1) = place + 1 := by
      split
      case isTrue minus =>
        have least : ¬place + 1 < 4 := fun less => pads ⟨minus, less⟩
        omega
      case isFalse => rfl
    rw [last, Nat.add_sub_cancel_left, bind_eq_some_iff]
    constructor
    · rintro ⟨_, sent, same⟩
      obtain ⟨⟨_, shifted, counted⟩, rfl⟩ := some_of_guard sent
      rw [if_neg pads] at same
      exact ⟨shifted, counted, (some.inj same).symm⟩
    · rintro ⟨shifted, counted, rfl⟩
      exact ⟨_, if_pos ⟨lt_of_shifted 10 shifted, shifted, counted⟩, if_neg pads⟩

theorem readChar_inside
    (inside : ¬(char = '.'.toNat ∨ char = '-'.toNat ∨ char = 'b'.toNat)) :
    readChar ⟨v, number, place⟩ char =
      if isDigit char then digit ⟨v, number, place⟩ char
      else some ⟨v, number, place⟩ := by
  rw [readChar, separated, if_neg inside, bind_some,
    if_neg fun minus => inside (.inr (.inl minus.1))]

theorem weight_split {later : Nat} (behind : place ≤ later) (within : later ≤ 5) :
    amount * 2 ^ ((later - place) * 10) * 2 ^ ((5 - later) * 10) =
      amount * 2 ^ ((5 - place) * 10) := by
  rw [mul_assoc, ← pow_add]
  congr 2
  omega

/-- The checked conversion goes through exactly when the numbers fit. -/
theorem read_iff {result : Nat} (small : number < 2 ^ 31) :
    (text.foldlM readChar ⟨v, number, place⟩).bind finish = some result ↔
      Packs (v * 2 ^ ((5 - place) * 10)) (versionNumbers place number text) ∧
        v * 2 ^ ((5 - place) * 10) + packed (versionNumbers place number text) = result := by
  induction text generalizing v number place with
  | nil =>
    have total : v * 2 ^ ((5 - place) * 10) + packed (versionNumbers place number []) =
        (v + number) * 2 ^ ((5 - place) * 10) := by
      rw [versionNumbers, packed, packed]
      ring
    rw [total]
    constructor
    · intro finished
      obtain ⟨⟨few, _, shifted⟩, same⟩ := some_of_guard finished
      exact ⟨⟨by simpa [versionNumbers] using few, by simpa [versionNumbers] using small,
        total ▸ shifted⟩, same⟩
    · rintro ⟨⟨places, _, shifted⟩, rfl⟩
      rw [total] at shifted
      exact if_pos ⟨places _ (List.mem_singleton_self _), lt_of_shifted _ shifted, shifted⟩
  | cons char text induction =>
    rw [List.foldlM_cons, bind_eq_bind, bind_assoc, bind_eq_some_iff,
      versionNumbers]
    split
    case isTrue separates =>
      have advanced := @place_lt_nextPlace place char
      have whole : v * 2 ^ ((5 - place) * 10) + packed ((place, number) ::
          versionNumbers (nextPlace char place) 0 text) = (v + number) * 2 ^ ((5 - place) * 10) +
          packed (versionNumbers (nextPlace char place) 0 text) := by rw [packed]; ring
      obtain ⟨entry, member, here, _⟩ := @exists_first 0 (nextPlace char place) text
      constructor
      · rintro ⟨_, read, rest⟩
        obtain ⟨_, _, rfl⟩ := (readChar_separator separates).mp read
        obtain ⟨⟨places, numbers, total⟩, same⟩ := (induction (by decide)).mp rest
        rw [weight_split advanced.le (here ▸ places entry member), ← whole] at total same
        exact ⟨⟨List.forall_mem_cons.mpr
          ⟨le_trans advanced.le (here ▸ places entry member), places⟩,
          List.forall_mem_cons.mpr ⟨small, numbers⟩, total⟩, same⟩
      · rintro ⟨⟨places, numbers, total⟩, same⟩
        obtain ⟨_, places⟩ := List.forall_mem_cons.mp places
        obtain ⟨_, numbers⟩ := List.forall_mem_cons.mp numbers
        have within := here ▸ places entry member
        rw [whole, ← weight_split advanced.le within] at total same
        have product := lt_of_shifted _ (lt_of_le_of_lt (le_add_right _ _) total)
        exact ⟨_, (readChar_separator separates).mpr ⟨product, by omega, rfl⟩,
          (induction (by decide)).mpr ⟨⟨places, numbers, total⟩, same⟩⟩
    case isFalse inside =>
      rw [readChar_inside inside]
      split
      case isTrue digit =>
        constructor
        · rintro ⟨_, read, rest⟩
          obtain ⟨⟨_, added⟩, rfl⟩ := some_of_guard read
          exact (induction added).mp rest
        · intro fields
          obtain ⟨entry, member, _, least⟩ := @exists_first (number * 10 + (char - 48)) place text
          have added := lt_of_le_of_lt least (fields.1.number entry member)
          exact ⟨_, if_pos ⟨lt_of_le_of_lt (le_add_right _ _) added, added⟩,
            (induction added).mpr fields⟩
      case isFalse =>
        simp only [some.injEq, exists_eq_left']
        exact induction small

theorem checkedVersionNumber_iff {version : WString} {result : Int}
    (digit : (cString version).head?.any isDigit = true) :
    checkedVersionNumber version = some result ↔
      let numbers := versionNumbers 0 0 (cString version)
      Packs 0 numbers ∧ (withFinal (packed numbers) : Nat) = result := by
  have read := fun result => @read_iff 0 0 0 (cString version) result (by decide)
  simp only [zero_mul, zero_add] at read
  rw [checkedVersionNumber, digit]
  simp only [Bool.not_true, Bool.false_eq_true, if_false, map_eq_some_iff]
  constructor
  · rintro ⟨_, converted, rfl⟩
    obtain ⟨packs, rfl⟩ := (read _).mp converted
    exact ⟨packs, rfl⟩
  · rintro ⟨packs, rfl⟩
    exact ⟨_, (read _).mpr ⟨packs, rfl⟩, rfl⟩

end Numbers

/-- The conversion is defined, and gives an error or a number. -/
def VersionDefined (version : WString) : Prop :=
  ∃ number, checkedVersionNumber version = some number ∧
    convertToVersionNumber version = number ∧ (number = -1 ∨ 0 ≤ number)

theorem versionDefined_iff (version : WString) :
    VersionDefined version ↔
      ((cString version).head?.any isDigit = true →
        Packs 0 (versionNumbers 0 0 (cString version))) := by
  constructor
  · rintro ⟨_, converted, _⟩ digit
    exact ((checkedVersionNumber_iff digit).mp converted).1
  · intro packs
    cases digit : (cString version).head?.any isDigit with
    | false =>
      have failed : checkedVersionNumber version = some (-1) := by
        rw [checkedVersionNumber, digit]
        rfl
      exact ⟨-1, failed, convertToVersionNumber_of_checked failed, .inl rfl⟩
    | true =>
      have converted := (checkedVersionNumber_iff digit).mpr ⟨packs digit, rfl⟩
      exact ⟨_, converted, convertToVersionNumber_of_checked converted, .inr (Int.natCast_nonneg _)⟩

theorem version_undefined : ¬VersionDefined (wide "1.2.3.4.5.6.7") := by
  have overflow : checkedVersionNumber (wide "1.2.3.4.5.6.7") = none := by decide +kernel
  rintro ⟨_, converted, _⟩
  cases overflow.symm.trans converted

end FileZilla
