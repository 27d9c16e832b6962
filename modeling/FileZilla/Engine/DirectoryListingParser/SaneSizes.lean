import FileZilla.Engine.DirectoryListingParser.CheckedSizes
import FileZilla.Engine.DirectoryListingParser.Leakage

namespace FileZilla

open List

/-! The sizes that the formats store: none is a negative number other than -1, up to the
blocks of VMS. -/

namespace CToken

theorem digitsValue_sane (base : NumberBase) (trailingDataIsError : Bool) (text : WString)
    (isFirst : Bool) (value : Nat) :
    -1 ≤ digitsValue base trailingDataIsError text isFirst value := by
  induction text generalizing isFirst value with
  | nil =>
    rw [digitsValue]
    omega
  | cons char rest induction =>
    rw [digitsValue]
    split
    · split <;> omega
    · split
      · exact le_refl _
      · exact induction ..

theorem numberOf_sane (text : WString) (base : NumberBase) (trailingDataIsError : Bool) :
    -1 ≤ numberOf text base trailingDataIsError := by
  unfold numberOf
  split
  · exact le_refl _
  · exact digitsValue_sane ..

theorem getNumberAt_sane (token : CToken) (start : Nat) (len : Int) :
    -1 ≤ getNumberAt token start len := by
  unfold getNumberAt
  split
  · exact le_refl _
  · split
    · exact numberOf_sane ..
    · split
      · exact le_refl _
      · split
        · exact le_refl _
        · exact numberOf_sane ..

theorem getNumber_numeric_sane {token : CToken} (numeric : token.isNumeric = true) :
    -1 ≤ token.getNumber :=
  (getNumber_range numeric).1

theorem getNumber_right_sane {token : CToken} (numeric : token.isRightNumeric = true) :
    -1 ≤ token.getNumber := by
  unfold getNumber
  dsimp only
  split
  · exact numberOf_sane ..
  · exact numberOf_sane ..

end CToken

def Overflows (token : CToken) : Prop :=
  token.isNumeric = true ∧ int64Max < digitsFrom 0 token

open CToken

theorem parseComplexFileSize_sane {token : CToken} {blocksize : Int}
    (fits : 0 < blocksize → ¬ Overflows token) :
    ∀ size ∈ (parseComplexFileSize token blocksize).2, -1 ≤ size := by
  intro size stored
  unfold parseComplexFileSize at stored
  split at stored
  case isTrue numeric =>
    have sane := getNumber_numeric_sane numeric
    dsimp only at stored
    split at stored
    case isTrue positive =>
      have small : digitsFrom 0 token ≤ int64Max :=
        not_lt.mp fun large => fits positive ⟨numeric, large⟩
      have value := getNumber_numeric numeric
      rw [if_pos small] at value
      have product : 0 ≤ token.getNumber * blocksize := by
        rw [value]
        exact Int.mul_nonneg (Int.natCast_nonneg _) positive.le
      split at stored
      · cases stored
        exact sane
      · cases stored
        omega
    case isFalse =>
      cases stored
      exact sane
  case isFalse =>
    have natural : ∀ value : Nat, -1 ≤ (value : Int) := fun value => by omega
    split at stored
    · cases stored
    · split at stored
      · cases stored
        exact natural _
      · split at stored
        · cases stored
          exact natural _
        · cases stored
          exact natural _
        · split at stored
          · cases stored
            exact natural _
          · cases stored
            exact natural _

namespace EntryParser

open Rejecting

variable {Time : Type} {α β : Type}

abbrev SizeStays (parser : EntryParser Time α) : Prop :=
  Stays (fun entry => -1 ≤ entry.size) parser

theorem sizeStays_of_keeps {parser : EntryParser Time α} (kept : Keeps (mask {.size}) parser) :
    SizeStays parser := by
  intro entry sane
  have same := congrArg CDirentry.size (kept entry)
  simp only [mask, Finset.mem_singleton, if_true] at same
  rw [same]
  exact sane

end EntryParser

namespace Rejecting

open EntryParser

variable {Time : Type} {α β : Type} {parser : EntryParser Time α} {written : Finset EntryField}
  [writes : Writes written parser]

theorem Stays.last (other : decide (.size ∉ written) = true) : SizeStays parser :=
  sizeStays_of_keeps (writes.keeps (Finset.disjoint_singleton_right.mpr (of_decide_eq_true other)))

theorem Stays.step {next : α → EntryParser Time β} (other : decide (.size ∉ written) = true)
    (rest : ∀ value, SizeStays (next value)) : SizeStays (parser >>= next) :=
  (Stays.last other).bind rest

end Rejecting

namespace EntryParser

open Rejecting

variable {Time : Type} {α β : Type}

theorem setSize_stays {size : Int} (sane : -1 ≤ size) :
    SizeStays (setSize size : EntryParser Time Unit) :=
  fun _ _ => sane

variable {token : CToken} {format : ListingFormat} {index : Nat} {gotSize : Bool}

theorem parseEntrySize_stays {blocksize : Int} (fits : 0 < blocksize → ¬ Overflows token) :
    SizeStays (parseEntrySize token blocksize : EntryParser Time Bool) := by
  have sane := parseComplexFileSize_sane fits
  unfold parseEntrySize
  split
  case h_1 => exact .pure _
  case h_2 valid size result =>
    rw [result] at sane
    exact (setSize_stays (sane size rfl)).bind fun _ => .pure _

variable (context : ListingContext Time) (line : CLine)

theorem unixAttempt_stays (expectDate : Bool) (startindex numOwnerGroup : Nat) :
    SizeStays (unixAttempt context line expectDate startindex numOwnerGroup) := by
  have named : ∀ ownerGroup index,
      SizeStays (unixDateAndName context line expectDate ownerGroup index) := fun _ _ =>
    .last (by cases expectDate <;> rfl)
  refine .step rfl fun ownerGroup => .step rfl fun sizeToken => ?_
  have unblocked : 0 < (-1 : Int) → ¬ Overflows sizeToken := fun positive => by contradiction
  refine (parseEntrySize_stays unblocked).bind fun valid => .ite (fun _ => named _ _) fun _ => ?_
  refine .ite (fun numeric => ?_) fun _ => .pure _
  exact (setSize_stays (getNumber_right_sane numeric)).bind fun _ => named _ _

theorem unixColumns_stays (expectDate : Bool) (startindex numOwnerGroup : Nat) :
    SizeStays (unixColumns context line expectDate startindex numOwnerGroup) := by
  induction numOwnerGroup with
  | zero =>
    refine (unixAttempt_stays context line expectDate startindex 0).bind fun columns => ?_
    cases columns with
    | none => exact .failure
    | some columns => exact .pure _
  | succ numOwnerGroup induction =>
    refine (unixAttempt_stays context line expectDate startindex _).bind fun columns => ?_
    cases columns with
    | none => exact induction
    | some columns => exact .pure _

theorem setUnixName_stays (isLink : Bool) (nameToken : CToken) :
    SizeStays (setUnixName isLink nameToken : EntryParser Time Unit) := by
  unfold setUnixName
  dsimp only
  split
  · exact .step rfl fun _ => .last rfl
  · exact .last rfl

theorem parseAsUnix_stays (expectDate : Bool) :
    SizeStays (parseAsUnix context line expectDate) := by
  refine .step rfl fun permissionToken => .bind ?fields fun columns => ?_
  case fields =>
    iterate 4 refine .step rfl fun _ => ?_
    refine .step rfl fun permissions => ?_
    exact (unixColumns_stays context line expectDate _ 3).bind fun _ => .pure _
  refine (setUnixName_stays _ _).bind fun _ => .step rfl fun _ => ?_
  exact .step rfl fun _ => .last rfl

theorem setDosSize_stays (token : CToken) : SizeStays (setDosSize token : EntryParser Time Unit) := by
  refine .ite (fun _ => ?_) fun _ => ?_
  · exact .step rfl fun _ => setSize_stays (le_refl _)
  · exact .step rfl fun _ => .ofOption_bind fun size _ => setSize_stays (by omega)

theorem parseAsDos_stays : SizeStays (parseAsDos context line) := by
  iterate 6 refine .step rfl fun _ => ?_
  refine (setDosSize_stays _).bind fun _ => ?_
  repeat refine .step rfl fun _ => ?_
  exact .last rfl

theorem eplfFact_stays (token : CToken) (permissions : WString) (fact len : Nat) :
    SizeStays (eplfFact context token permissions fact len) := by
  refine .ite (fun _ => ?_) fun _ => .ite (fun _ => ?_) fun _ => .ite (fun _ => ?_) fun _ =>
    .ite (fun _ => .pure _) fun _ => .pure _
  · exact .step rfl fun _ => .pure _
  · exact (setSize_stays (getNumberAt_sane ..)).bind fun _ => .step rfl fun _ => .pure _
  · exact .step rfl fun _ => .step rfl fun _ => .pure _

theorem eplfApply_stays (token : CToken) (facts : List (Nat × Nat)) (permissions : WString) :
    SizeStays (eplfApply context token facts permissions) := by
  induction facts generalizing permissions with
  | nil => exact .pure _
  | cons fact facts induction =>
    exact (eplfFact_stays context token permissions fact.1 fact.2).bind fun _ => induction _

theorem parseAsEplf_stays : SizeStays (parseAsEplf context line) := by
  refine .step rfl fun token => .step rfl fun _ => ?_
  cases token.find ['\t'.toNat] with
  | none => exact .failure
  | some pos =>
    iterate 3 refine .step rfl fun _ => ?_
    refine (setSize_stays (le_refl _)).bind fun _ => ?_
    refine (eplfApply_stays context token _ _).bind fun _ => ?_
    exact .step rfl fun _ => .last rfl

theorem numericalUnix_stays (firstToken token : CToken) :
    SizeStays (numericalUnix context line firstToken token) := by
  refine .step rfl fun _ => .step rfl fun _ => .step rfl fun sizeToken => .require_bind fun numeric => ?_
  refine (setSize_stays (getNumber_numeric_sane numeric)).bind fun _ => ?_
  repeat refine .step rfl fun _ => ?_
  exact .last rfl

theorem os2Style_stays : SizeStays (os2Style context line) := by
  unfold os2Style
  split
  · exact .step rfl fun _ => .failure
  · refine .step rfl fun _ => .step rfl fun _ => ?_
    iterate 3 refine .step rfl fun _ => ?_
    refine .step rfl fun nameToken => ?_
    split
    · exact .step rfl fun _ => .last rfl
    · exact .last rfl

theorem vshellStyle_stays (month : Int) :
    SizeStays (vshellStyle context line month) := by
  iterate 8 refine .step rfl fun _ => ?_
  refine .step rfl fun nameToken => .ite (fun _ => ?_) fun _ => ?_
  · exact .step rfl fun _ => .last rfl
  · exact .last rfl

theorem parseOther_stays (maybeMultilineVms : Bool) :
    SizeStays (parseOther context line maybeMultilineVms) := by
  refine .step rfl fun firstToken => .require_bind fun numeric => ?_
  refine .step rfl fun token => .step rfl fun _ => ?_
  refine .ite (fun _ => numericalUnix_stays context line firstToken token) fun _ => ?_
  refine .step rfl fun _ => (setSize_stays (getNumber_numeric_sane numeric)).bind fun _ => ?_
  refine .bind ?fields fun _ => ?_
  case fields =>
    unfold otherFields
    split
    · exact os2Style_stays context line
    · exact vshellStyle_stays context line _
  repeat refine .step rfl fun _ => ?_
  exact .last rfl

theorem mlsdFact_stays (factname value : WString) (facts : MlsdFacts) :
    SizeStays (mlsdFact context factname value facts) := by
  refine .step rfl fun time => .ite (fun _ => ?_) fun _ => .ite (fun _ => ?_) fun _ =>
    .ite (fun _ => ?_) fun _ => .pure _
  · cases mlsdType value with
    | other => exact .pure _
    | skip => exact .pure _
    | dir => exact .step rfl fun _ => .pure _
    | link target =>
      refine .step rfl fun _ => .step rfl fun _ => ?_
      cases target with
      | none => exact .pure _
      | some target => exact .step rfl fun _ => .pure _
  · exact (setSize_stays (numberOf_sane ..)).bind fun _ => .step rfl fun _ => .pure _
  · exact .step rfl fun _ => .step rfl fun _ => .pure _

theorem mlsdFacts_stays (steps : Nat) (text : WString) (facts : MlsdFacts) :
    SizeStays (mlsdFacts context steps text facts) := by
  induction steps generalizing text facts with
  | zero => exact .pure _
  | succ steps induction =>
    unfold mlsdFacts
    refine .ite (fun _ => .pure _) fun _ => .step rfl fun _ => ?_
    split
    · exact .failure
    · refine (mlsdFact_stays context _ _ facts).bind fun result => ?_
      cases result with
      | none => exact .pure _
      | some facts => exact induction _ facts

theorem parseAsMlsd_stays : SizeStays (parseAsMlsd context line) := by
  refine .step rfl fun token => .step rfl fun _ => ?_
  refine (setSize_stays (le_refl _)).bind fun _ => .step rfl fun _ => ?_
  refine .step rfl fun _ => (mlsdFacts_stays context _ token {}).bind fun result => ?_
  cases result with
  | none => exact .pure _
  | some facts =>
    exact .step rfl fun _ => .step rfl fun _ => .step rfl fun _ => .step rfl fun _ => .pure _

theorem setIbmName_stays (nameToken : CToken) :
    SizeStays (setIbmName nameToken : EntryParser Time Unit) := by
  exact .ite (fun _ => .step rfl fun _ => .last rfl) fun _ => .last rfl

theorem parseAsIbm_stays : SizeStays (parseAsIbm context line) := by
  refine .step rfl fun _ => .step rfl fun _ => .require_bind fun numeric => ?_
  refine (setSize_stays (getNumber_numeric_sane numeric)).bind fun _ => ?_
  iterate 6 refine .step rfl fun _ => ?_
  refine (setIbmName_stays _).bind fun _ => ?_
  exact .step rfl fun _ => .step rfl fun _ => .last rfl

theorem parseAsWfFtp_stays : SizeStays (parseAsWfFtp context line) := by
  iterate 3 refine .step rfl fun _ => ?_
  refine .require_bind fun numeric => ?_
  refine (setSize_stays (getNumber_numeric_sane numeric)).bind fun _ => ?_
  repeat refine .step rfl fun _ => ?_
  exact .last rfl

theorem mvsVsam_stays (token : CToken) :
    SizeStays (mvsVsam line token : EntryParser Time Unit) := by
  iterate 4 refine .step rfl fun _ => ?_
  refine (setSize_stays (le_refl _)).bind fun _ => ?_
  exact .step rfl fun _ => .last rfl

theorem setMvsSize_stays (dsorg : CToken) : SizeStays (setMvsSize dsorg : EntryParser Time Unit) := by
  refine .ite (fun _ => ?_) fun _ => setSize_stays (by decide)
  exact .step rfl fun _ => setSize_stays (le_refl _)

theorem mvsFields_stays : SizeStays (mvsFields line : EntryParser Time Unit) := by
  iterate 9 refine .step rfl fun _ => ?_
  refine (setMvsSize_stays _).bind fun _ => ?_
  repeat refine .step rfl fun _ => ?_
  exact .last rfl

theorem parseAsIbmMvs_stays : SizeStays (parseAsIbmMvs context line) := by
  refine .step rfl fun _ => .step rfl fun _ => .step rfl fun token => .step rfl fun _ => ?_
  refine .ite (fun _ => mvsFields_stays line) fun _ => ?_
  refine .step rfl fun date => ?_
  cases date with
  | none => exact mvsVsam_stays line token
  | some date => exact mvsFields_stays line

theorem parseAsIbmMvsPds_stays : SizeStays (parseAsIbmMvsPds context line) := by
  iterate 11 refine .step rfl fun _ => ?_
  refine .require_bind fun numeric => ?_
  refine (setSize_stays (getNumber_numeric_sane numeric)).bind fun _ => ?_
  repeat refine .step rfl fun _ => ?_
  exact .last rfl

theorem parseAsIbmMvsMigrated_stays :
    SizeStays (parseAsIbmMvsMigrated line : EntryParser Time Unit) := by
  iterate 6 refine .step rfl fun _ => ?_
  refine (setSize_stays (le_refl _)).bind fun _ => ?_
  exact .step rfl fun _ => .last rfl

theorem parseAsIbmMvsPds2_stays :
    SizeStays (parseAsIbmMvsPds2 line : EntryParser Time Unit) := by
  iterate 5 refine .step rfl fun _ => ?_
  refine (setSize_stays (le_refl _)).bind fun _ => .ite (fun _ => .pure _) fun _ => ?_
  refine (setSize_stays (numberOf_sane ..)).bind fun _ => .step rfl fun _ => ?_
  repeat refine .step rfl fun _ => ?_
  exact .last rfl

theorem parseAsIbmMvsTape_stays :
    SizeStays (parseAsIbmMvsTape line : EntryParser Time Unit) := by
  iterate 8 refine .step rfl fun _ => ?_
  exact (setSize_stays (le_refl _)).bind fun _ => .last rfl

theorem parseAsOs9_stays : SizeStays (parseAsOs9 context line) := by
  refine .step rfl fun ownerGroupToken => ?_
  cases ownerGroupToken.find ['.'.toNat] with
  | none => exact .failure
  | some pos =>
    iterate 11 refine .step rfl fun _ => ?_
    refine .require_bind fun numeric => ?_
    refine (setSize_stays (getNumber_numeric_sane numeric)).bind fun _ => ?_
    repeat refine .step rfl fun _ => ?_
    exact .last rfl

theorem zvmSize_sane {recordLength records size : Int} (sane : -1 ≤ recordLength)
    (computed : zvmSize recordLength records = some size) : -1 ≤ size := by
  unfold zvmSize at computed
  split at computed
  case isTrue positive =>
    split at computed
    case isTrue => contradiction
    case isFalse inRange =>
      cases computed
      have product := Int.mul_nonneg positive.le (not_lt.mp (not_or.mp inRange).1)
      omega
  case isFalse =>
    cases computed
    exact sane

theorem parseAsZvm_stays : SizeStays (parseAsZvm context line) := by
  iterate 7 refine .step rfl fun _ => ?_
  refine .require_bind fun numeric => ?_
  have length := getNumber_numeric_sane numeric
  refine (setSize_stays length).bind fun _ => ?_
  refine .step rfl fun _ => .step rfl fun _ => .ofOption_bind fun _ computed => ?_
  refine (setSize_stays (zvmSize_sane length computed)).bind fun _ => ?_
  repeat refine .step rfl fun _ => ?_
  exact .last rfl

theorem parseAsHpNonstop_stays : SizeStays (parseAsHpNonstop context line) := by
  iterate 5 refine .step rfl fun _ => ?_
  refine .require_bind fun numeric => ?_
  refine (setSize_stays (getNumber_numeric_sane numeric)).bind fun _ => ?_
  repeat refine .step rfl fun _ => ?_
  exact .last rfl

theorem parserOf_stays (other : format ≠ .vms) (maybeMultilineVms : Bool)
    (line : CLine) : SizeStays (parserOf context maybeMultilineVms line format) := by
  cases format with
  | vms => contradiction
  | zvm => exact (parseAsZvm_stays context line).map _
  | hpNonstop => exact (parseAsHpNonstop_stays context line).map _
  | mlsd => exact parseAsMlsd_stays context line
  | unix => exact (parseAsUnix_stays context line true).map _
  | dos => exact (parseAsDos_stays context line).map _
  | eplf => exact (parseAsEplf_stays context line).map _
  | other => exact (parseOther_stays context line maybeMultilineVms).map _
  | ibm => exact (parseAsIbm_stays context line).map _
  | wfFtp => exact (parseAsWfFtp_stays context line).map _
  | mvs => exact (parseAsIbmMvs_stays context line).map _
  | mvsPds => exact (parseAsIbmMvsPds_stays context line).map _
  | os9 => exact (parseAsOs9_stays context line).map _
  | mvsMigrated => exact (parseAsIbmMvsMigrated_stays line).map _
  | mvsPds2 => exact (parseAsIbmMvsPds2_stays line).map _
  | mvsTape => exact (parseAsIbmMvsTape_stays line).map _
  | unixDateless => exact (parseAsUnix_stays context line false).map _

def vmsTakesSize (token : CToken) : Bool :=
  let pos := token.find ['/'.toNat]
  token.isNumeric || (pos.isSome && (token.find ['/'.toNat] (pos.getD 0 + 1)).isNone) ||
    (pos.isNone && token.isLeftNumeric && (parseComplexFileSize token 512).1)

def isClockOn (time : Time) (clock : CToken) : Bool :=
  match parseClock clock with
  | some (hour, minute, seconds) => (context.dates.imbueTime time hour minute seconds).1
  | none => false

def vmsTakesTime (date clock : CToken) : Bool :=
  match ShortDate.parse date false with
  | some (year, month, day) =>
    match context.dates.set year month day (-1) (-1) with
    | some time => isClockOn context time clock
    | none => false
  | none => false

def vmsSizeField : CToken :=
  match vmsUsername line with
  | none => []
  | some (_, index, token) =>
    if vmsTakesSize token then vmsSizeToken token
    else if vmsTakesTime context token (line.getToken (index + 1)) then
      vmsSizeToken (line.getToken (index + 2))
    else vmsSizeToken (line.getToken (index + 1))

structure SizedAs (token : CToken) (size : Int) : Prop where
  wrong : Overflows token → size = -512
  sane : ¬ Overflows token → -1 ≤ size

theorem sizedAs_blocks {size : Int}
    (read : parseComplexFileSize token 512 = (true, some size)) : SizedAs token size where
  wrong := by
    rintro ⟨numeric, large⟩
    rw [parseComplexFileSize_overflow numeric large] at read
    cases read
    rfl
  sane := fun fits => by
    have sane := @parseComplexFileSize_sane token 512 fun _ => fits
    rw [read] at sane
    exact sane size rfl

theorem parseEntrySize_accepts {blocksize : Int} {valid : Bool} {entry left : CDirentry Time}
    (accepts : outcome (parseEntrySize token blocksize) entry = (some valid, left)) :
    left.time = entry.time ∧ (parseComplexFileSize token blocksize).1 = valid ∧
      (valid = true → parseComplexFileSize token blocksize = (true, some left.size)) := by
  have unread := @parseComplexFileSize_none token blocksize
  unfold parseEntrySize at accepts
  split at accepts
  case h_1 read result =>
    rw [result] at unread
    cases accepts
    obtain ⟨rejected, -⟩ := unread rfl
    dsimp only at rejected
    subst rejected
    exact ⟨rfl, congrArg Prod.fst result, fun valid => by contradiction⟩
  case h_2 read size result =>
    cases accepts
    exact ⟨rfl, congrArg Prod.fst result, fun valid => by rw [result, valid]⟩

theorem not_overflows_nil : ¬ Overflows [] := by
  rintro ⟨numeric, -⟩
  contradiction

theorem vmsSize_accepts {line : CLine} {next : Nat} {date : CToken}
    {entry left : CDirentry Time} (sane : -1 ≤ entry.size)
    (accepts : outcome (vmsSize line index token) entry = (some (gotSize, next, date), left)) :
    gotSize = vmsTakesSize token ∧
      if gotSize then next = index + 1 ∧ SizedAs (vmsSizeToken token) left.size
      else next = index ∧ date = token ∧ -1 ≤ left.size := by
  obtain ⟨-, accepts⟩ := accepts_require accepts
  split at accepts
  case isTrue definite =>
    obtain ⟨valid, between, read, accepts⟩ := accepts_bind accepts
    obtain ⟨rfl, accepts⟩ := accepts_require accepts
    have accepts := accepts_getToken accepts
    cases accepts
    obtain ⟨-, -, read⟩ := parseEntrySize_accepts read
    have takes : vmsTakesSize token = true := by
      unfold vmsTakesSize
      rcases definite with numeric | ⟨slash, single⟩
      · rw [numeric]
        rfl
      · simp only [slash, single, Option.isNone_none, Bool.and_self, Bool.or_true, Bool.true_or]
    exact ⟨takes.symm, rfl, sizedAs_blocks (read rfl)⟩
  case isFalse indefinite =>
    have definite : (token.isNumeric || ((token.find ['/'.toNat]).isSome &&
        (token.find ['/'.toNat] ((token.find ['/'.toNat]).getD 0 + 1)).isNone)) = false := by
      rw [Bool.eq_false_iff]
      simpa using indefinite
    split at accepts
    case isTrue maybe =>
      obtain ⟨noSlash, numeric⟩ := maybe
      have whole : vmsSizeToken token = token := by
        unfold vmsSizeToken
        rw [noSlash]
      obtain ⟨valid, between, read, accepts⟩ := accepts_bind accepts
      obtain ⟨-, validity, blocks⟩ := parseEntrySize_accepts read
      have takes : vmsTakesSize token = valid := by
        unfold vmsTakesSize
        dsimp only
        rw [definite, noSlash, numeric, validity]
        rfl
      cases valid with
      | true =>
        have accepts := accepts_getToken accepts
        cases accepts
        rw [whole]
        exact ⟨takes.symm, rfl, sizedAs_blocks (blocks rfl)⟩
      | false =>
        cases accepts
        have fits : 0 < (512 : Int) → ¬ Overflows token := by
          rintro - ⟨numeric, -⟩
          exact indefinite (.inl numeric)
        have stays := parseEntrySize_stays fits entry sane
        rw [read] at stays
        exact ⟨takes.symm, rfl, rfl, stays⟩
    case isFalse unlikely =>
      cases accepts
      have takes : vmsTakesSize token = false := by
        unfold vmsTakesSize
        dsimp only
        rw [definite]
        cases slash : token.find ['/'.toNat] with
        | some pos => rfl
        | none =>
          have numeric : token.isLeftNumeric = false :=
            Bool.eq_false_iff.mpr fun numeric => unlikely ⟨slash, numeric⟩
          rw [numeric]
          rfl
      exact ⟨takes.symm, rfl, rfl, sane⟩

theorem parseShortDate_accepts {entry left : CDirentry Time} {value : Unit}
    (accepts : outcome (parseShortDate context token) entry = (some value, left)) :
    ∃ year month day time, ShortDate.parse token false = some (year, month, day) ∧
      context.dates.set year month day (-1) (-1) = some time ∧
      left = { entry with time := some time } := by
  unfold parseShortDate at accepts
  cases date : ShortDate.parse token false with
  | none =>
    rw [date] at accepts
    cases accepts
  | some fields =>
    obtain ⟨year, month, day⟩ := fields
    rw [date] at accepts
    dsimp only [setDate] at accepts
    cases set : context.dates.set year month day (-1) (-1) with
    | none =>
      rw [set] at accepts
      cases accepts
    | some time =>
      rw [set] at accepts
      cases accepts
      exact ⟨year, month, day, time, rfl, set, rfl⟩

theorem parseTime_isSome {token : CToken} {time : Time} {entry : CDirentry Time}
    (timed : entry.time = some time) :
    (outcome (parseTime context token) entry).1.isSome = isClockOn context time token := by
  have known : outcome readTime entry = (some (some time), entry) := by
    rw [readTime, outcome_read, timed]
  rw [parseTime, outcome_bind, known, isClockOn]
  dsimp only
  cases read : parseClock token with
  | none => rfl
  | some clock =>
    obtain ⟨hour, minute, seconds⟩ := clock
    dsimp only
    rw [outcome_bind]
    dsimp only [setTime, outcome_modify]
    unfold require
    split
    case isTrue valid => exact valid.symm
    case isFalse invalid => exact (Bool.eq_false_iff.mpr invalid).symm

theorem size_of_keeps {parser : EntryParser Time α} {entry left : CDirentry Time} {value : α}
    (kept : Keeps (mask {.size}) parser) (accepts : outcome parser entry = (some value, left)) :
    left.size = entry.size := by
  have same := congrArg CDirentry.size (kept entry)
  rw [accepts] at same
  simpa only [mask, Finset.mem_singleton, if_true] using same

theorem vmsTime_accepts {line : CLine} {next : Nat} {time : Time}
    {entry left : CDirentry Time} (timed : entry.time = some time)
    (accepts : outcome (vmsTime context line index) entry = (some next, left)) :
    left.size = entry.size ∧
      next = if isClockOn context time (line.getToken index) then index + 1 else index := by
  refine ⟨size_of_keeps (.last rfl) accepts, ?_⟩
  have taken := @parseTime_isSome _ context (line.getToken index) time entry timed
  obtain ⟨result, between, tried, accepts⟩ := accepts_bind accepts
  rw [outcome_attempt] at tried
  obtain ⟨same, -⟩ := Prod.mk.inj tried
  rw [Option.some.inj same] at taken
  cases result with
  | some _ =>
    cases accepts
    exact (if_pos taken.symm).symm
  | none =>
    obtain ⟨-, accepts⟩ := accepts_require accepts
    cases accepts
    rw [← taken]
    rfl

theorem vmsLateSize_accepts {line : CLine} {next : Nat} {entry left : CDirentry Time}
    (accepts : outcome (vmsLateSize line gotSize index) entry = (some next, left)) :
    if gotSize then left = entry else SizedAs (vmsSizeToken (line.getToken index)) left.size := by
  unfold vmsLateSize at accepts
  cases gotSize with
  | true =>
    cases accepts
    exact rfl
  | false =>
    have accepts := accepts_getToken accepts
    obtain ⟨-, accepts⟩ := accepts_require accepts
    obtain ⟨-, accepts⟩ := accepts_require accepts
    obtain ⟨valid, between, read, accepts⟩ := accepts_bind accepts
    obtain ⟨rfl, accepts⟩ := accepts_require accepts
    cases accepts
    obtain ⟨-, -, read⟩ := parseEntrySize_accepts read
    exact sizedAs_blocks (read rfl)

theorem vmsHead_accepts {line : CLine} {ownerGroup : WString}
    {entry left : CDirentry Time} (sane : -1 ≤ entry.size)
    (accepts : outcome (vmsHead context line) entry = (some (ownerGroup, gotSize, index), left)) :
    ∃ token start, vmsUsername line = some (ownerGroup, start, token) ∧
      gotSize = vmsTakesSize token ∧
      if gotSize then SizedAs (vmsSizeToken token) left.size
      else index = start ∧ -1 ≤ left.size ∧
        ∃ time, left.time = some time ∧ vmsTakesTime context token = isClockOn context time := by
  have accepts := accepts_getToken accepts
  cases version : (line.getToken 0).find [';'.toNat] with
  | none =>
    rw [version] at accepts
    cases accepts
  | some pos =>
    rw [version] at accepts
    obtain ⟨_, first, cleared, accepts⟩ := accepts_bind accepts
    obtain ⟨_, second, flagged, accepts⟩ := accepts_bind accepts
    obtain ⟨_, third, named, accepts⟩ := accepts_bind accepts
    cases cleared
    cases flagged
    cases named
    obtain ⟨⟨owner, start, token⟩, username, accepts⟩ := accepts_ofOption accepts
    obtain ⟨⟨size, next, date⟩, sized, early, accepts⟩ := accepts_bind accepts
    obtain ⟨takes, early⟩ := vmsSize_accepts (by exact sane) early
    obtain ⟨_, dated, parsed, accepts⟩ := accepts_bind accepts
    obtain ⟨year, month, day, time, fields, set, rfl⟩ := parseShortDate_accepts context parsed
    cases accepts
    refine ⟨token, start, username, takes, ?_⟩
    cases gotSize with
    | true => exact early.2
    | false =>
      obtain ⟨rfl, rfl, sane⟩ := early
      refine ⟨rfl, sane, time, rfl, ?_⟩
      funext clock
      unfold vmsTakesTime
      rw [fields]
      dsimp only
      rw [set]

theorem vmsFields_size {line : CLine} {ownerGroup : WString}
    {entry left : CDirentry Time} {value : Unit}
    (accepts : outcome (vmsFields context line ownerGroup gotSize index) entry =
      (some value, left)) :
    if gotSize then left.size = entry.size
    else ∀ time, entry.time = some time →
      SizedAs (vmsSizeToken (line.getToken
        (if isClockOn context time (line.getToken index) then index + 1 else index))) left.size := by
  obtain ⟨next, timed, clock, accepts⟩ := accepts_bind accepts
  obtain ⟨last, sized, late, accepts⟩ := accepts_bind accepts
  have late := vmsLateSize_accepts late
  have rest : ∀ rest : WString × WString, Keeps (mask {.size}) (do
      setPermissions rest.2
      setOwnerGroup rest.1
      addTimezoneOffset context : EntryParser Time Unit) := fun rest =>
    .step rfl fun _ => .step rfl fun _ => .last rfl
  have kept := size_of_keeps (rest (vmsRest (line.tokensFrom last) ownerGroup [])) accepts
  cases gotSize with
  | true =>
    have same := size_of_keeps (.last rfl) clock
    cases late
    exact kept.trans same
  | false =>
    intro time known
    obtain ⟨-, rfl⟩ := vmsTime_accepts context known clock
    rw [kept]
    exact late

theorem parseAsVms_size {line : CLine} {entry left : CDirentry Time} {value : Unit}
    (sane : -1 ≤ entry.size)
    (accepts : outcome (parseAsVms context line) entry = (some value, left)) :
    SizedAs (vmsSizeField context line) left.size := by
  obtain ⟨⟨ownerGroup, gotSize, index⟩, between, head, accepts⟩ := accepts_bind accepts
  obtain ⟨token, start, username, takes, head⟩ := vmsHead_accepts context sane head
  have field : vmsSizeField context line =
      if gotSize then vmsSizeToken token
      else vmsSizeToken (line.getToken
        (if vmsTakesTime context token (line.getToken (start + 1)) then start + 1 + 1
          else start + 1)) := by
    unfold vmsSizeField
    rw [username, takes]
    dsimp only
    split
    · rfl
    · split <;> rfl
  rw [field]
  dsimp only at accepts
  cases gotSize with
  | true =>
    split at accepts
    · cases accepts
      exact head
    · have same := vmsFields_size context accepts
      rw [if_pos rfl] at same ⊢
      rw [same]
      exact head
  | false =>
    obtain ⟨rfl, sane, time, timed, clock⟩ := head
    rw [if_neg (by decide), clock]
    split at accepts
    case isTrue missing =>
      have empty : line.getToken (index + 1) = [] := isEmpty_iff.mp missing
      cases accepts
      have noClock : isClockOn context time [] = false := rfl
      rw [empty, noClock, if_neg (by decide), empty]
      exact ⟨fun wrong => absurd wrong not_overflows_nil, fun _ => sane⟩
    case isFalse =>
      exact vmsFields_size context accepts time timed

section
variable {parser : ListingFormat → EntryParser Time Bool}

theorem tryFormats_accepts {formats : List ListingFormat} {format : ListingFormat} {result : Bool}
    {entry left : CDirentry Time}
    (accepts : tryFormats parser formats entry = some (format, result, left)) :
    ∃ before, outcome (parser format) before = (some result, left) := by
  induction formats generalizing entry with
  | nil => cases accepts
  | cons first formats induction =>
    unfold tryFormats at accepts
    rcases run : outcome (parser first) entry with ⟨_ | answer, after⟩
    · rw [run] at accepts
      exact induction accepts
    · rw [run] at accepts
      cases accepts
      exact ⟨entry, run⟩

theorem tryFormats_vms {formats : List ListingFormat} {entry left : CDirentry Time}
    (alike : ∀ entry other, (outcome (parser .vms) entry).1 = (outcome (parser .vms) other).1)
    (stays : ∀ format, format ≠ .vms → SizeStays (parser format)) (sane : -1 ≤ entry.size)
    (accepts : tryFormats parser formats entry = some (.vms, true, left)) :
    ∃ before, -1 ≤ before.size ∧ outcome (parser .vms) before = (some true, left) := by
  induction formats generalizing entry with
  | nil => cases accepts
  | cons first formats induction =>
    unfold tryFormats at accepts
    rcases run : outcome (parser first) entry with ⟨_ | answer, after⟩
    · rw [run] at accepts
      by_cases vms : first = .vms
      · obtain ⟨before, accepted⟩ := tryFormats_accepts accepts
        have same := alike entry before
        rw [← vms, run, vms, accepted] at same
        cases same
      · have kept := stays first vms entry sane
        rw [run] at kept
        exact induction kept accepts
    · rw [run] at accepts
      cases accepts
      exact ⟨entry, sane, run⟩

end

theorem size_written (other : format ≠ .vms) (line : CLine) :
    .size ∉ unwrittenFields context line format := by
  intro member
  cases format with
  | vms => contradiction
  | unix => exact absurd (unixUnwritten_subset context line true member) (by decide)
  | unixDateless => exact absurd (unixUnwritten_subset context line false member) (by decide)
  | zvm | mlsd | dos | other => exact Finset.notMem_empty _ member
  | eplf =>
    unfold unwrittenFields at member
    dsimp only at member
    split at member
    · exact absurd member (by decide)
    · exact absurd member (by decide)
  | mvs =>
    unfold unwrittenFields mvsUnwritten at member
    dsimp only at member
    split at member
    · exact absurd member (by decide)
    · exact absurd member (by decide)
  | mvsMigrated | mvsPds2 | mvsTape =>
    exact absurd (show EntryField.size ∈ ({.target, .time} : Finset EntryField) from member)
      (by decide)
  | hpNonstop | ibm | wfFtp | mvsPds | os9 =>
    exact absurd (show EntryField.size ∈ ({.target} : Finset EntryField) from member) (by decide)

theorem accepted_size {line : CLine} {maybeMultilineVms : Bool} {formats : List ListingFormat}
    {left : CDirentry Time}
    (accepts : tryFormats (parserOf context maybeMultilineVms line) formats {} =
      some (format, true, left)) :
    SizedAs (if format = .vms then vmsSizeField context line else []) left.size := by
  have alike := parserOf_alike context maybeMultilineVms line
  by_cases vms : format = .vms
  · subst vms
    obtain ⟨before, sane, accepted⟩ := tryFormats_vms (alike .vms)
      (fun format other => parserOf_stays context other maybeMultilineVms line) (le_refl _) accepts
    rw [if_pos rfl]
    have accepted' : outcome (parseAsVms context line >>= fun _ => pure true) before =
        (some true, left) := accepted
    obtain ⟨value, between, accepted, done⟩ := accepts_bind accepted'
    cases done
    exact parseAsVms_size context sane accepted
  · obtain ⟨before, accepted⟩ := tryFormats_accepts accepts
    have alone := alike format before {}
    rw [accepted] at alone
    rcases new : outcome (parserOf context maybeMultilineVms line format) {} with ⟨answer, fresh⟩
    rw [new] at alone
    cases alone
    have same : left.size = fresh.size :=
      accepted_agree context accepted new .size (Finset.mem_compl.mpr (size_written context vms line))
    have sane := parserOf_stays context vms maybeMultilineVms line {} (le_refl _)
    rw [new] at sane
    rw [if_neg vms, same]
    exact ⟨fun wrong => absurd wrong not_overflows_nil, fun _ => sane⟩

end EntryParser

namespace LineState

open EntryParser Rejecting

variable {Time : Type} (context : ListingContext Time)

def TooManyBlocks (line : CLine) (self : LineState Time) : Prop :=
  ∃ entry, tryFormats (parserOf context self.maybeMultilineVms line)
      (formatsFor context.serverType) {} = some (.vms, true, entry) ∧
    Stores context self entry ∧ Overflows (vmsSizeField context line)

structure ArithmeticFits : Prop where
  getNumber : ∀ token base, getNumberChecked token base = some (token.getNumber base)
  getNumberAt : ∀ token start len,
    getNumberAtChecked token start len = some (token.getNumberAt start len)
  parseComplexFileSize : ∀ token blocksize, toInt blocksize = blocksize →
    parseComplexFileSizeChecked token blocksize = some (parseComplexFileSize token blocksize)
  dosSize : ∀ text size, dosSizeChecked text size = some (dosSize text size)
  zvmSize : ∀ recordLength records,
    zvmSizeChecked recordLength records = some (zvmSize recordLength records)

theorem arithmeticFits : ArithmeticFits where
  getNumber := getNumberChecked_eq
  getNumberAt := getNumberAtChecked_eq
  parseComplexFileSize _ _ isInt := parseComplexFileSizeChecked_eq _ isInt
  dosSize := dosSizeChecked_eq
  zvmSize := zvmSizeChecked_eq

structure SizesSane (line : CLine) (concatenated : Bool) (self : LineState Time) : Prop where
  stored : ∀ entry ∈ (self.parseLine context none line concatenated).2.entries.drop
    self.entries.length, entry.size = -1 ∨ 0 ≤ entry.size
  arithmetic : ArithmeticFits

theorem rejectLine_keepsEntries (limit : Nat) (line : CLine) (concatenated : Bool)
    (self : LineState Time) : (self.rejectLine limit line concatenated).entries = self.entries := by
  unfold rejectLine
  split
  · rfl
  · dsimp only
    split
    · rfl
    · split
      · split <;> rfl
      · rfl

theorem mem_addEntry {self : LineState Time} {entry parsed : CDirentry Time} :
    entry ∈ (self.addEntry context parsed).entries.drop self.entries.length ↔
      Stores context self parsed ∧ entry = finishEntry context parsed := by
  unfold addEntry Stores
  dsimp only
  split
  case isTrue dots =>
    change entry ∈ self.entries.drop self.entries.length ↔ _
    rw [drop_length]
    constructor
    · exact fun member => absurd member not_mem_nil
    · rintro ⟨⟨noDot, noDots, -⟩, -⟩
      rcases dots with dot | dots <;> contradiction
  case isFalse dots =>
    obtain ⟨noDot, noDots⟩ := not_or.mp dots
    split
    case isTrue room =>
      change entry ∈ (self.entries ++ [finishEntry context parsed]).drop self.entries.length ↔ _
      rw [drop_left, mem_singleton]
      exact ⟨fun same => ⟨⟨noDot, noDots, room⟩, same⟩, fun stored => stored.2⟩
    case isFalse full =>
      change entry ∈ self.entries.drop self.entries.length ↔ _
      rw [drop_length]
      constructor
      · exact fun member => absurd member not_mem_nil
      · rintro ⟨⟨-, -, room⟩, -⟩
        contradiction

theorem parseLine_stored {line : CLine} {concatenated : Bool} {self : LineState Time}
    {entry : CDirentry Time} :
    entry ∈ (self.parseLine context none line concatenated).2.entries.drop self.entries.length ↔
      ∃ format parsed, tryFormats (parserOf context self.maybeMultilineVms line)
          (formatsFor context.serverType) {} = some (format, true, parsed) ∧
        Stores context self parsed ∧ entry = finishEntry context parsed := by
  unfold parseLine
  rcases tryFormats (parserOf context self.maybeMultilineVms line)
    (formatsFor context.serverType) {} with _ | ⟨format, _ | _, parsed⟩
  · change entry ∈ (self.rejectLine context.limit line concatenated).entries.drop _ ↔ _
    rw [rejectLine_keepsEntries, drop_length]
    simp
  · change entry ∈ self.entries.drop self.entries.length ↔ _
    rw [drop_length]
    simp
  · refine (mem_addEntry context).trans ⟨fun stored => ⟨format, parsed, rfl, stored⟩, ?_⟩
    rintro ⟨_, _, same, stored⟩
    cases same
    exact stored

theorem parseLine_sizesSane_iff (line : CLine) (concatenated : Bool) (self : LineState Time) :
    SizesSane context line concatenated self ↔ ¬ TooManyBlocks context line self := by
  constructor
  · rintro ⟨stored, -⟩ ⟨parsed, accepts, stores, overflows⟩
    have sized := accepted_size context accepts
    rw [if_pos rfl] at sized
    have wrong := sized.wrong overflows
    have sane := stored _ ((parseLine_stored context).mpr ⟨.vms, parsed, accepts, stores, rfl⟩)
    change parsed.size = -1 ∨ 0 ≤ parsed.size at sane
    omega
  · refine fun fine => ⟨fun entry member => ?_, arithmeticFits⟩
    obtain ⟨format, parsed, accepts, stores, rfl⟩ := (parseLine_stored context).mp member
    have sized := accepted_size context accepts
    have sane : -1 ≤ parsed.size := by
      refine sized.sane fun overflows => ?_
      split at overflows
      case isTrue vms =>
        subst vms
        exact fine ⟨parsed, accepts, stores, overflows⟩
      case isFalse => exact not_overflows_nil overflows
    change parsed.size = -1 ∨ 0 ≤ parsed.size
    omega

theorem vms_blocks_negative :
    ¬ SizesSane unixContext (CLine.ofText (wide "A;1 9223372036854775808 1-JAN-2000")) false {} := by
  rintro ⟨stored, -⟩
  revert stored
  decide +kernel

end LineState

end FileZilla
