import Mathlib.Tactic.Linarith

namespace FileZilla

namespace ChunkSize

inductive Fault
  | divisionByZero
  | overflow
  deriving DecidableEq

def int64Bound : Int := 9223372036854775808

def checked (value : Int) : Except Fault Int :=
  if -int64Bound ≤ value ∧ value < int64Bound then .ok value else .error .overflow

def quotient (dividend divisor : Int) : Except Fault Int :=
  if divisor = 0 then .error .divisionByZero else checked (dividend.tdiv divisor)

def remainder (dividend divisor : Int) : Except Fault Int :=
  if divisor = 0 then .error .divisionByZero else .ok (dividend.tmod divisor)

def extrapolated (lastChunkSize lastChunkDuration newChunkSize : Int) : Except Fault Int :=
  if lastChunkDuration ≠ 0 ∧ lastChunkSize ≠ 0 then do
    let product ← checked (lastChunkSize * 30000)
    let size ← quotient product lastChunkDuration
    .ok (if size > newChunkSize then size else newChunkSize)
  else
    .ok newChunkSize

def budgeted (remaining partCount maxPartCount newChunkSize : Int) : Except Fault Int :=
  if maxPartCount ≠ 0 then do
    let left ← checked (maxPartCount - partCount)
    let covered ← checked (newChunkSize * left)
    if covered < remaining then
      if left ≤ 1 then .ok remaining else quotient remaining (left - 1)
    else
      .ok newChunkSize
  else
    .ok newChunkSize

def roundedUp (multiple newChunkSize : Int) : Except Fault Int :=
  if multiple ≠ 0 then do
    let modulus ← remainder newChunkSize multiple
    if modulus ≠ 0 then checked (newChunkSize + (multiple - modulus)) else .ok newChunkSize
  else
    .ok newChunkSize

def capped (remaining maxChunkSize newChunkSize : Int) : Int :=
  let size := if maxChunkSize ≠ 0 ∧ newChunkSize > maxChunkSize then maxChunkSize
    else newChunkSize
  if size > remaining then remaining else size

/-- The duration is in milliseconds. -/
def calculateNextChunkSize (remaining lastChunkSize lastChunkDuration minChunkSize multiple
    partCount maxPartCount maxChunkSize : Int) : Except Fault Int :=
  if remaining ≤ 0 then
    .ok 0
  else do
    let estimated ← extrapolated lastChunkSize lastChunkDuration minChunkSize
    let share ← budgeted remaining partCount maxPartCount estimated
    let rounded ← roundedUp multiple share
    .ok (capped remaining maxChunkSize rounded)

/-- What is left after one part for each of the durations. -/
def upload (minChunkSize multiple maxPartCount maxChunkSize : Int) :
    List Int → (remaining lastChunkSize partCount : Int) → Except Fault Int
  | [], remaining, _, _ => .ok remaining
  | duration :: durations, remaining, lastChunkSize, partCount => do
    let size ← calculateNextChunkSize remaining lastChunkSize duration minChunkSize multiple
      partCount maxPartCount maxChunkSize
    upload minChunkSize multiple maxPartCount maxChunkSize durations (remaining - size) size
      (partCount + 1)

def Meets (fits : Prop) (result : Except Fault Int) (holds : Int → Prop) : Prop :=
  (result = .error .overflow ∧ ¬ fits) ∨ ∃ size, result = .ok size ∧ holds size

theorem Meets.ok {fits : Prop} {holds : Int → Prop} {size : Int} (met : holds size) :
    Meets fits (.ok size) holds :=
  .inr ⟨size, rfl, met⟩

theorem Meets.bind {first second fits : Prop} {result : Except Fault Int}
    {next : Int → Except Fault Int} {between holds : Int → Prop}
    (start : Meets first result between) (fitsFirst : fits → first) (fitsSecond : fits → second)
    (rest : ∀ size, between size → Meets second (next size) holds) :
    Meets fits (result >>= next) holds := by
  rcases start with ⟨failed, small⟩ | ⟨size, computed, met⟩
  · rw [failed]
    exact .inl ⟨rfl, fun fitted => small (fitsFirst fitted)⟩
  · rw [computed]
    rcases rest size met with ⟨failed, small⟩ | ⟨last, finished, metLast⟩
    · exact .inl ⟨failed, fun fitted => small (fitsSecond fitted)⟩
    · exact .inr ⟨last, finished, metLast⟩

theorem checked_meets (value : Int) :
    Meets (-int64Bound ≤ value ∧ value < int64Bound) (checked value)
      (fun size => size = value ∧ value < int64Bound) := by
  rw [checked]
  split
  case isTrue fitted => exact .ok ⟨rfl, fitted.2⟩
  case isFalse large => exact .inl ⟨rfl, large⟩

theorem quotient_meets {dividend divisor : Int} (nonneg : 0 ≤ dividend)
    (small : dividend < int64Bound) (positive : 0 < divisor) :
    Meets True (quotient dividend divisor) (fun size => size = dividend / divisor) := by
  have lower : 0 ≤ dividend / divisor := Int.ediv_nonneg nonneg positive.le
  have upper : dividend / divisor ≤ dividend := Int.ediv_le_self _ nonneg
  rw [quotient, if_neg positive.ne', Int.tdiv_eq_ediv_of_nonneg nonneg, checked,
    if_pos ⟨by rw [int64Bound]; omega, by omega⟩]
  exact .ok rfl

theorem Meets.mono {fits small : Prop} {result : Except Fault Int} {holds weaker : Int → Prop}
    (meets : Meets fits result holds) (fitted : small → fits)
    (follows : ∀ size, holds size → weaker size) : Meets small result weaker := by
  rcases meets with ⟨failed, large⟩ | ⟨size, computed, met⟩
  · exact .inl ⟨failed, fun fit => large (fitted fit)⟩
  · exact .inr ⟨size, computed, follows size met⟩

def sizeBound : Int := 4611686018427387904

def IsSize (value : Int) : Prop :=
  0 ≤ value ∧ value < sizeBound

def IsCount (value : Int) : Prop :=
  0 ≤ value ∧ value < int64Bound

instance (value : Int) : Decidable (IsSize value) :=
  inferInstanceAs (Decidable (_ ∧ _))

/-- The larger of the minimum and the size that thirty seconds take at the last chunk's speed. -/
def estimate (lastChunkSize lastChunkDuration minChunkSize : Int) : Int :=
  max minChunkSize (lastChunkSize * 30000 / lastChunkDuration)

variable {lastChunkSize partCount most : Int}

theorem extrapolated_meets {lastChunkDuration minChunkSize : Int}
    (last : IsSize lastChunkSize) (duration : 0 ≤ lastChunkDuration)
    (minimum : IsSize minChunkSize) :
    Meets (lastChunkSize * 30000 < int64Bound)
      (extrapolated lastChunkSize lastChunkDuration minChunkSize)
      (fun size => size = estimate lastChunkSize lastChunkDuration minChunkSize) := by
  obtain ⟨lastNonneg, lastSmall⟩ := last
  obtain ⟨minimumNonneg, minimumSmall⟩ := minimum
  rw [extrapolated]
  split
  case isTrue measured =>
    refine (checked_meets _).bind (fun fitted => ⟨by rw [int64Bound]; omega, fitted⟩)
      (fun _ => trivial) ?_
    rintro product ⟨rfl, fitted⟩
    refine (quotient_meets (by omega) fitted (by omega)).bind (fun _ => trivial)
      (fun _ => trivial) ?_
    rintro size rfl
    refine .ok ?_
    rw [estimate]
    split <;> omega
  case isFalse unmeasured =>
    refine .ok ?_
    have none : lastChunkSize * 30000 / lastChunkDuration = 0 := by
      by_cases instant : lastChunkDuration = 0
      · rw [instant, Int.ediv_zero]
      · have nothing : lastChunkSize = 0 := by
          by_contra something
          exact unmeasured ⟨instant, something⟩
        rw [nothing, Int.zero_mul, Int.zero_ediv]
    rw [estimate, none]
    omega

/-- What is left is covered by as many parts of the size, or all but one part of a larger size
exceed it. -/
def Covers (remaining left size : Int) : Prop :=
  remaining ≤ left * size ∨ 2 ≤ left ∧ remaining < (left - 1) * (size + 1)

structure Share (remaining partCount maxPartCount size share : Int) : Prop where
  nonneg : 0 ≤ share
  atMost : share ≤ max size remaining
  positive : 0 < size → 0 < share
  covers : maxPartCount ≠ 0 → 1 ≤ maxPartCount - partCount →
    Covers remaining (maxPartCount - partCount) share

theorem shared_positive {remaining left size : Int} (several : 2 ≤ left)
    (short : size * left < remaining) (positive : 0 < size) : 0 < remaining / (left - 1) := by
  have many : 1 * left ≤ size * left := Int.mul_le_mul_of_nonneg_right positive (by omega)
  exact Int.lt_of_lt_of_le Int.zero_lt_one (Int.le_ediv_of_mul_le (by omega) (by omega))

theorem budgeted_meets {remaining maxPartCount size : Int} (some : 0 < remaining)
    (rest : IsSize remaining) (count : IsCount partCount) (maximum : IsCount maxPartCount)
    (nonneg : 0 ≤ size) :
    Meets (maxPartCount ≠ 0 → -int64Bound ≤ size * (maxPartCount - partCount) ∧
        size * (maxPartCount - partCount) < int64Bound)
      (budgeted remaining partCount maxPartCount size)
      (Share remaining partCount maxPartCount size) := by
  obtain ⟨countNonneg, countSmall⟩ := count
  obtain ⟨maximumNonneg, maximumSmall⟩ := maximum
  have small : remaining < int64Bound := Int.lt_trans rest.2 (by decide)
  rw [budgeted]
  split
  case isFalse unlimited =>
    exact .ok ⟨nonneg, Int.le_max_left .., id, fun limited => absurd limited unlimited⟩
  case isTrue limited =>
    refine (checked_meets (maxPartCount - partCount)).bind
      (fun _ => ⟨by omega, by omega⟩) (fun fitted => fitted limited) ?_
    rintro left ⟨rfl, -⟩
    refine (checked_meets _).bind id (fun _ => trivial) ?_
    rintro covered ⟨rfl, -⟩
    split
    case isFalse enough =>
      refine .ok ⟨nonneg, Int.le_max_left .., id, fun _ _ => .inl ?_⟩
      rw [Int.mul_comm]
      exact Int.not_lt.mp enough
    case isTrue short =>
      split
      case isTrue last =>
        refine .ok ⟨some.le, Int.le_max_right .., fun _ => some, fun _ present => .inl ?_⟩
        rw [show maxPartCount - partCount = 1 from Int.le_antisymm last present, Int.one_mul]
      case isFalse several =>
        refine (quotient_meets some.le small (by omega)).mono (fun _ => trivial) ?_
        rintro share rfl
        exact {
          nonneg := Int.ediv_nonneg some.le (by omega)
          atMost := Int.le_trans (Int.ediv_le_self _ some.le) (Int.le_max_right ..)
          positive := shared_positive (by omega) short
          covers := fun _ _ => .inr ⟨by omega, by
            rw [Int.mul_comm]
            exact Int.lt_ediv_add_one_mul_self _ (by omega)⟩ }

theorem roundedUp_meets {multiple size : Int} (steps : 0 ≤ multiple) (nonneg : 0 ≤ size) :
    Meets (size + multiple ≤ int64Bound) (roundedUp multiple size)
      (fun rounded => size ≤ rounded) := by
  rw [roundedUp]
  split
  case isFalse => exact .ok (Int.le_refl size)
  case isTrue given =>
    have below := Int.tmod_lt_of_pos size (show 0 < multiple by omega)
    have lower := Int.tmod_nonneg multiple nonneg
    rw [remainder, if_neg given]
    show Meets _ (if size.tmod multiple ≠ 0 then _ else _) _
    split
    case isFalse => exact .ok (Int.le_refl size)
    case isTrue =>
      refine (checked_meets _).mono (fun fitted => ⟨by rw [int64Bound]; omega, by omega⟩) ?_
      rintro rounded ⟨rfl, -⟩
      omega

/-- As many of the largest chunks as there are parts left cover what is left. -/
def Coverable (remaining left maxChunkSize : Int) : Prop :=
  remaining = 0 ∨ 1 ≤ left ∧ (maxChunkSize = 0 ∨ remaining ≤ left * maxChunkSize)

theorem capped_cases (remaining maxChunkSize size : Int) :
    capped remaining maxChunkSize size = remaining ∧ (maxChunkSize = 0 ∨ remaining ≤ maxChunkSize) ∨
      capped remaining maxChunkSize size = maxChunkSize ∧ maxChunkSize ≠ 0 ∧
        maxChunkSize < size ∧ maxChunkSize ≤ remaining ∨
      capped remaining maxChunkSize size = size ∧ (maxChunkSize = 0 ∨ size ≤ maxChunkSize) ∧
        size ≤ remaining := by
  rw [capped]
  split <;> split <;> omega

theorem Covers.mono {remaining left size larger : Int} (covers : Covers remaining left size)
    (present : 1 ≤ left) (grown : size ≤ larger) : Covers remaining left larger := by
  rcases covers with enough | ⟨several, most⟩
  · exact .inl (enough.trans (Int.mul_le_mul_of_nonneg_left grown (by omega)))
  · refine .inr ⟨several, most.trans_le (Int.mul_le_mul_of_nonneg_left ?_ ?_)⟩ <;> omega

theorem capped_coverable {remaining left maxChunkSize size : Int} (positive : 0 < remaining)
    (nonneg : 0 ≤ size) (coverable : Coverable remaining left maxChunkSize)
    (covers : 1 ≤ left → Covers remaining left size) :
    Coverable (remaining - capped remaining maxChunkSize size) (left - 1) maxChunkSize := by
  obtain ⟨present, within⟩ := coverable.resolve_left positive.ne'
  rcases capped_cases remaining maxChunkSize size with
    ⟨all, -⟩ | ⟨largest, limited, -, below⟩ | ⟨planned, small, fitting⟩
  · rw [all, Int.sub_self]
    exact .inl rfl
  · rw [largest]
    have total := within.resolve_left limited
    rcases Int.le_iff_lt_or_eq.mp present with several | last
    · refine .inr ⟨by omega, .inr ?_⟩
      rw [Int.sub_mul]
      omega
    · rw [← last, Int.one_mul] at total
      exact .inl (by omega)
  · rw [planned]
    rcases Int.le_iff_lt_or_eq.mp present with several | last
    · refine .inr ⟨by omega, ?_⟩
      rcases within with unlimited | total
      · exact .inl unlimited
      by_cases unlimited : maxChunkSize = 0
      · exact .inl unlimited
      have below := small.resolve_left unlimited
      right
      rcases covers present with enough | ⟨-, most⟩
      · have rest := Int.mul_le_mul_of_nonneg_left below (show 0 ≤ left - 1 by omega)
        rw [Int.sub_mul] at rest
        omega
      · rcases Int.le_iff_lt_or_eq.mp below with smaller | same
        · have rest := Int.mul_le_mul_of_nonneg_left (show size + 1 ≤ maxChunkSize from smaller)
            (show 0 ≤ left - 1 by omega)
          omega
        · rw [same, Int.sub_mul]
          omega
    · rcases covers present with enough | ⟨two, -⟩
      · rw [← last, Int.one_mul] at enough
        exact .inl (by omega)
      · omega

structure Limits (minChunkSize multiple maxPartCount maxChunkSize : Int) : Prop where
  minimum : IsSize minChunkSize
  multiple : IsSize multiple
  parts : IsCount maxPartCount
  maximum : IsSize maxChunkSize

structure Fits (lastChunkSize lastChunkDuration minChunkSize multiple partCount maxPartCount :
    Int) : Prop where
  product : lastChunkSize * 30000 < int64Bound
  parts : maxPartCount ≠ 0 → -int64Bound ≤ estimate lastChunkSize lastChunkDuration minChunkSize *
      (maxPartCount - partCount) ∧
    estimate lastChunkSize lastChunkDuration minChunkSize * (maxPartCount - partCount) <
      int64Bound
  rounded : estimate lastChunkSize lastChunkDuration minChunkSize + multiple ≤ int64Bound

structure Chunk (remaining estimated left maxPartCount maxChunkSize size : Int) : Prop where
  nonneg : 0 ≤ size
  withinRemaining : size ≤ remaining
  withinMaximum : maxChunkSize ≠ 0 → size ≤ maxChunkSize
  positive : 0 < remaining → 0 < estimated → 0 < size
  coverable : maxPartCount ≠ 0 → Coverable remaining left maxChunkSize →
    Coverable (remaining - size) (left - 1) maxChunkSize

theorem calculateNextChunkSize_meets {remaining lastChunkDuration minChunkSize multiple maxPartCount maxChunkSize : Int}
    (limits : Limits minChunkSize multiple maxPartCount maxChunkSize) (rest : IsSize remaining)
    (last : IsSize lastChunkSize) (duration : 0 ≤ lastChunkDuration) (count : IsCount partCount) :
    Meets (Fits lastChunkSize lastChunkDuration minChunkSize multiple partCount maxPartCount)
      (calculateNextChunkSize remaining lastChunkSize lastChunkDuration minChunkSize multiple
        partCount maxPartCount maxChunkSize)
      (Chunk remaining (estimate lastChunkSize lastChunkDuration minChunkSize)
        (maxPartCount - partCount) maxPartCount maxChunkSize) := by
  have ⟨remainingNonneg, remainingSmall⟩ := rest
  have maximum := limits.maximum.1
  have minimum := limits.minimum.1
  rw [calculateNextChunkSize]
  split
  case isTrue finished =>
    obtain rfl : remaining = 0 := Int.le_antisymm finished remainingNonneg
    exact .ok ⟨by decide, by decide, fun _ => maximum, fun some => absurd some (by decide),
      fun _ _ => .inl rfl⟩
  case isFalse some =>
    refine (extrapolated_meets last duration limits.minimum).bind Fits.product id ?_
    rintro estimated rfl
    have nonneg : 0 ≤ estimate lastChunkSize lastChunkDuration minChunkSize :=
      Int.le_trans minimum (Int.le_max_left ..)
    refine (budgeted_meets (by omega) rest count limits.parts nonneg).bind
      Fits.parts Fits.rounded ?_
    intro share shared
    have shareNonneg := shared.nonneg
    have shareMost := shared.atMost
    have multipleSmall := limits.multiple.2
    refine ((roundedUp_meets limits.multiple.1 shared.nonneg).mono (fun fitted => ?_)
      fun _ => id).bind id (fun _ => trivial) ?_
    · simp only [sizeBound, int64Bound] at *
      omega
    · intro rounded larger
      refine .ok ?_
      have cases := capped_cases remaining maxChunkSize rounded
      exact {
        nonneg := by omega
        withinRemaining := by omega
        withinMaximum := fun limited => by omega
        positive := fun _ given => by
          have least := shared.positive given
          omega
        coverable := fun limited coverable => capped_coverable (by omega) (by omega) coverable
          fun present => (shared.covers limited present).mono present larger }

theorem estimate_le (lastChunkDuration minChunkSize : Int)
    (last : IsSize lastChunkSize) (within : lastChunkSize ≤ most) :
    estimate lastChunkSize lastChunkDuration minChunkSize ≤ max minChunkSize (most * 30000) := by
  have nonneg := last.1
  have quotient := Int.ediv_le_self lastChunkDuration (show 0 ≤ lastChunkSize * 30000 by omega)
  rw [estimate]
  omega

/-- No chunk of at most the given size is too large to compute with. -/
structure Affordable (minChunkSize multiple maxPartCount most : Int) : Prop where
  product : most * 30000 < int64Bound
  parts : max minChunkSize (most * 30000) * maxPartCount < int64Bound
  rounded : max minChunkSize (most * 30000) + multiple ≤ int64Bound

variable {minChunkSize multiple maxPartCount maxChunkSize : Int}

theorem Affordable.fits (affordable : Affordable minChunkSize multiple maxPartCount most)
    (lastChunkDuration : Int) (limits : Limits minChunkSize multiple maxPartCount maxChunkSize)
    (last : IsSize lastChunkSize) (within : lastChunkSize ≤ most) (count : 0 ≤ partCount)
    (present : partCount ≤ maxPartCount) :
    Fits lastChunkSize lastChunkDuration minChunkSize multiple partCount maxPartCount := by
  have ⟨product, parts, rounded⟩ := affordable
  have least : 0 ≤ estimate lastChunkSize lastChunkDuration minChunkSize :=
    Int.le_trans limits.minimum.1 (Int.le_max_left ..)
  have large := estimate_le lastChunkDuration minChunkSize last within
  refine ⟨by omega, fun _ => ⟨?_, ?_⟩, by omega⟩
  · have nonneg := Int.mul_nonneg least (show 0 ≤ maxPartCount - partCount by omega)
    exact Int.le_trans (by decide) nonneg
  · calc estimate lastChunkSize lastChunkDuration minChunkSize * (maxPartCount - partCount)
        ≤ estimate lastChunkSize lastChunkDuration minChunkSize * maxPartCount :=
          Int.mul_le_mul_of_nonneg_left (by omega) least
      _ ≤ max minChunkSize (most * 30000) * maxPartCount :=
          Int.mul_le_mul_of_nonneg_right large (by omega)
      _ < int64Bound := parts

theorem upload_completes (limits : Limits minChunkSize multiple maxPartCount maxChunkSize)
    (affordable : Affordable minChunkSize multiple maxPartCount most) (durations : List Int) :
    ∀ {remaining lastChunkSize partCount : Int}, (∀ duration ∈ durations, 0 ≤ duration) →
      IsSize remaining → IsSize lastChunkSize → remaining ≤ most → lastChunkSize ≤ most →
      0 ≤ partCount → partCount + durations.length = maxPartCount →
      Coverable remaining (maxPartCount - partCount) maxChunkSize →
      upload minChunkSize multiple maxPartCount maxChunkSize durations remaining lastChunkSize
        partCount = .ok 0 := by
  induction durations with
  | nil =>
    intro remaining lastChunkSize partCount _ _ _ _ _ _ finished coverable
    rcases coverable with rfl | ⟨present, -⟩
    · rfl
    · simp only [List.length_nil] at finished
      omega
  | cons duration durations ih =>
    intro remaining lastChunkSize partCount nonneg rest last small lastSmall count parts coverable
    simp only [List.length_cons, Nat.cast_add, Nat.cast_one] at parts
    have fits := affordable.fits duration limits last lastSmall count
      (show partCount ≤ maxPartCount by omega)
    have most := limits.parts.2
    rcases calculateNextChunkSize_meets limits rest last (nonneg duration (by simp))
        (show IsCount partCount from ⟨count, by omega⟩) with ⟨-, large⟩ | ⟨size, computed, chunk⟩
    · exact absurd fits large
    · have ⟨least, within, _, _, covers⟩ := chunk
      have ⟨_, bounded⟩ := rest
      rw [upload, computed]
      refine ih (fun next member => nonneg next (by simp [member])) ⟨by omega, by omega⟩
        ⟨by omega, by omega⟩ (by omega) (by omega) (by omega) (by omega) ?_
      rw [show maxPartCount - (partCount + 1) = maxPartCount - partCount - 1 by omega]
      exact covers (by omega) coverable

end ChunkSize

end FileZilla
