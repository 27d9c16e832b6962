import FileZilla.Engine.DirectoryListingParser.HostFormats
import Mathlib.Data.Finset.BooleanAlgebra

namespace FileZilla

namespace EntryParser

open Rejecting

variable {Time : Type} (context : ListingContext Time) {before fields : Finset EntryField}

instance (token : CToken) (separator : Option WChar) (index : Nat) :
    Settles ∅ (fun _ => {.time}) (shortDateField context token separator index) :=
  .of (.step rfl fun _ => .step (decide_eq_true (by simp)) fun _ => .pure _ (by simp))

open Finset

instance (token : CToken) (separator : Option WChar) (index : Nat) :
    Writes {.time} (shortDateField context token separator index) :=
  .step (Subset.refl _) fun _ => .step (empty_subset _) fun _ => .pure _

instance (line : CLine) (index : Nat) :
    Settles ∅ (fun _ => ∅) (firstDateField context line index) := by
  refine .of (.step rfl fun token => ?_)
  split
  · exact .step rfl fun _ => .last rfl fun _ => empty_subset _
  · exact .step rfl fun date => .pure _ (empty_subset _)

instance (line : CLine) (index : Nat) : Writes {.time} (firstDateField context line index) := by
  refine .step (empty_subset _) fun token => ?_
  split
  · exact .step (empty_subset _) fun _ => .within (Subset.refl _)
  · exact .step (empty_subset _) fun date => .pure _

instance (line : CLine) (index : Nat) :
    Settles ∅ (fun _ => ∅) (parseUnixDateTime context line index) := by
  refine .of (.step rfl fun (complete, date) => ?_)
  refine .ite (fun _ => .pure _ (empty_subset _)) fun _ => ?_
  repeat refine .step rfl fun _ => ?_
  exact .pure _ (empty_subset _)

instance (line : CLine) (index : Nat) : Writes {.time} (parseUnixDateTime context line index) := by
  refine .step (Subset.refl _) fun (complete, date) => .ite (fun _ => .pure _) fun _ => ?_
  repeat refine .step (by decide) fun _ => ?_
  exact .pure _

/-- Without a date to expect the time is not written. -/
def dateFields (expectDate : Bool) : Finset EntryField :=
  if expectDate then {.time} else ∅

variable (line : CLine) (expectDate : Bool)

instance (index : Nat) :
    Settles ∅ (fun _ => dateFields expectDate) (unixDate context line expectDate index) := by
  refine .of ?_
  cases expectDate with
  | false => exact .pure _ (empty_subset _)
  | true =>
    refine .step rfl fun _ => ?_
    exact (Settles.determined (empty_subset _)).attempt.weaken fun _ => by simp [dateFields]

instance (index : Nat) : Writes (dateFields expectDate) (unixDate context line expectDate index) := by
  cases expectDate with
  | false => exact .pure _
  | true => exact .step (Subset.refl _) fun _ => .within (Subset.refl _)

instance (ownerGroup : WString) (index : Nat) :
    Settles ∅ (fun _ => dateFields expectDate)
      (unixDateAndName context line expectDate ownerGroup index) := by
  refine .of (.step rfl fun result => ?_)
  cases result with
  | none => exact .pure _ (by simp)
  | some index => exact .ite (fun _ => .pure _ (by simp)) fun _ => .pure _ (by simp)

instance (ownerGroup : WString) (index : Nat) :
    Writes (dateFields expectDate) (unixDateAndName context line expectDate ownerGroup index) := by
  refine .step (Subset.refl _) fun result => ?_
  cases result with
  | none => exact .pure _
  | some index => exact .ite (fun _ => .pure _) fun _ => .pure _

instance (startindex numOwnerGroup : Nat) :
    Settles ∅ (fun result => if result.isSome then insert .size (dateFields expectDate) else ∅)
      (unixAttempt context line expectDate startindex numOwnerGroup) := by
  refine .of (.step rfl fun ownerGroup => .step rfl fun sizeToken => .step rfl fun valid => ?_)
  cases valid with
  | true =>
    refine .ite (fun _ => .last rfl fun result field => ?_) fun invalid => absurd rfl invalid
    cases result <;> simp +contextual [or_imp]
  | false =>
    refine .ite (fun valid => by cases valid) fun _ => ?_
    refine .ite (fun _ => .step rfl fun _ => ?_) fun _ => .pure none (empty_subset _)
    refine .last rfl fun result field => ?_
    cases result <;> simp +contextual [or_imp]

instance (startindex numOwnerGroup : Nat) :
    Writes (insert .size (dateFields expectDate))
      (unixAttempt context line expectDate startindex numOwnerGroup) := by
  have date := subset_insert EntryField.size (dateFields expectDate)
  refine .step (empty_subset _) fun ownerGroup => .step (empty_subset _) fun _ => ?_
  refine .step (by simp) fun valid => .ite (fun _ => .within date) fun _ => ?_
  exact .ite (fun _ => .step (by simp) fun _ => .within date) fun _ => .pure _

instance (startindex numOwnerGroup : Nat) :
    Settles ∅ (fun _ => insert .size (dateFields expectDate))
      (unixColumns context line expectDate startindex numOwnerGroup) := by
  induction numOwnerGroup with
  | zero =>
    refine .of (.step rfl fun result => ?_)
    cases result with
    | none => exact .failure
    | some columns => exact .pure _ (by simp)
  | succ numOwnerGroup ih =>
    refine .of (.step rfl fun result => ?_)
    cases result with
    | none => exact ih.determined (empty_subset _)
    | some columns => exact .pure _ (by simp)

instance (startindex numOwnerGroup : Nat) :
    Writes (insert .size (dateFields expectDate))
      (unixColumns context line expectDate startindex numOwnerGroup) := by
  induction numOwnerGroup with
  | zero =>
    refine .step (Subset.refl _) fun result => ?_
    cases result with
    | none => exact .failure
    | some columns => exact .pure _
  | succ numOwnerGroup ih =>
    refine .step (Subset.refl _) fun result => ?_
    cases result with
    | none => exact ih
    | some columns => exact .pure _

instance (permissionToken : CToken) :
    Settles ∅ (fun _ => {.flags, .size} ∪ dateFields expectDate)
      (unixFields context line expectDate permissionToken) := by
  refine .of ?_
  repeat refine .step rfl fun _ => ?_
  refine .pure _ fun field => ?_
  simp +contextual [or_imp]

instance (permissionToken : CToken) :
    Writes ({.flags, .size} ∪ dateFields expectDate)
      (unixFields context line expectDate permissionToken) := by
  refine .step (empty_subset _) fun _ => ?_
  iterate 3 refine .step (by simp) fun _ => ?_
  refine .step (empty_subset _) fun _ => .step (fun field => ?_) fun columns => .pure _
  simp +contextual

def UnixNamesTarget : Prop :=
  (line.getToken 0).head? = some 'l'.toNat ∧
  ∃ found ∈ ((unixFields context line expectDate (line.getToken 0)).outcome {}).1,
    (linkParts (withoutTypeSuffix found.2.2)).isSome = true

instance : Decidable (UnixNamesTarget context line expectDate) :=
  inferInstanceAs (Decidable (_ ∧ ∃ found ∈ Prod.fst _, _))

def unixUnwritten : Finset EntryField :=
  (if UnixNamesTarget context line expectDate then ∅ else {.target}) ∪
    if expectDate then ∅ else {.time}

def unixNameFields (isLink : Bool) (nameToken : CToken) : Finset EntryField :=
  if isLink = true ∧ (linkParts (withoutTypeSuffix nameToken)).isSome = true then {.name, .target}
  else {.name}

instance (isLink : Bool) (nameToken : CToken) :
    Settles ∅ (fun _ => unixNameFields isLink nameToken)
      (setUnixName isLink nameToken : EntryParser Time Unit) := by
  refine .of ?_
  unfold unixNameFields setUnixName
  dsimp only
  cases isLink with
  | false => exact .last rfl fun _ => by simp
  | true =>
    cases linkParts (withoutTypeSuffix nameToken) with
    | none => exact .last rfl fun _ => by simp
    | some parts =>
      refine .step rfl fun _ => .last rfl fun _ field => ?_
      simp
      tauto

instance (isLink : Bool) (nameToken : CToken) :
    Writes (unixNameFields isLink nameToken)
      (setUnixName isLink nameToken : EntryParser Time Unit) := by
  unfold unixNameFields setUnixName
  dsimp only
  cases isLink with
  | false => exact .within (by simp)
  | true =>
    cases linkParts (withoutTypeSuffix nameToken) with
    | none => exact .within (by simp)
    | some parts => exact .step (by simp) fun _ => .within (by simp)

variable {line : CLine} {n : Nat} {token : CToken}

theorem getToken?_eq (found : line.getToken? n = some token) : token = line.getToken n := by
  unfold CLine.getToken? at found
  split at found
  · cases found
  · exact (Option.some.inj found).symm

theorem accepts_getToken {α : Type} {next : CToken → EntryParser Time α}
    {entry left : CDirentry Time} {value : α}
    (accepts : outcome (getToken line n >>= next) entry = (some value, left)) :
    outcome (next (line.getToken n)) entry = (some value, left) := by
  obtain ⟨token, found, accepts⟩ := accepts_ofOption accepts
  rw [← getToken?_eq found]
  exact accepts

theorem head_eq_iff {char : WChar} (visible : char ≠ 0) :
    (token.headD 0 == char) = true ↔ token.head? = some char := by
  cases token with
  | nil => simp [visible.symm]
  | cons first rest => simp

variable (line) in
theorem unixNamesTarget_iff {expectDate : Bool} {found : WString × WString × CToken}
    (reached : ((unixFields context line expectDate (line.getToken 0)).outcome {}).1 = some found) :
    UnixNamesTarget context line expectDate ↔ ((line.getToken 0).headD 0 == 'l'.toNat) = true ∧
      (linkParts (withoutTypeSuffix found.2.2)).isSome = true := by
  rw [head_eq_iff (by decide)]
  simp [UnixNamesTarget, reached]

variable (line) in
theorem parseAsUnix_determined (expectDate : Bool) :
    Determines ∅ (fun _ => (unixUnwritten context line expectDate)ᶜ)
      (parseAsUnix context line expectDate) := by
  refine .ofOption_bind fun permissionToken present => ?_
  cases getToken?_eq present
  refine .bind_from {} (Settles.determined (empty_subset _))
    fun (permissions, ownerGroup, nameToken) found => ?_
  repeat refine .step rfl fun _ => ?_
  refine .last rfl fun _ => ?_
  unfold unixUnwritten dateFields unixNameFields
  rw [if_congr (unixNamesTarget_iff context line found) rfl rfl]
  split
  · cases expectDate <;> decide
  · cases expectDate <;> decide

variable (line) in
theorem parseAsUnix_keeps (expectDate : Bool) :
    Keeps (mask (unixUnwritten context line expectDate))
      (parseAsUnix context line expectDate) := by
  have others : Disjoint ({.size, .permissions, .ownerGroup, .flags} ∪ dateFields expectDate)
      (unixUnwritten context line expectDate) := by
    unfold unixUnwritten
    cases expectDate
    · split <;> decide
    · split <;> decide
  refine .ofOption_bind fun permissionToken present => ?_
  cases getToken?_eq present
  refine .bind_from {} (Writes.keeps (others.mono_left ?_))
    (Settles.determined (empty_subset _))
    fun (permissions, ownerGroup, nameToken) found => .step (decide_eq_true ?_) fun _ =>
      .step (decide_eq_true (disjoint_empty_left _)) fun _ => ?_
  · exact union_subset_union_left (by decide)
  · unfold unixUnwritten unixNameFields
    rw [if_congr (unixNamesTarget_iff context line found) rfl rfl]
    split
    · cases expectDate <;> decide
    · cases expectDate <;> decide
  · exact .step (decide_eq_true (others.mono_left (by simp))) fun _ =>
      .last (decide_eq_true (others.mono_left (by simp)))

instance (token : CToken) :
    Settles ∅ (fun _ => {.size}) (setDosSize token : EntryParser Time Unit) :=
  .of (.ite (fun _ => .step rfl fun _ => .last rfl fun _ => by simp) fun _ =>
    .step rfl fun _ => .step rfl fun size => .last rfl fun _ => by simp)

theorem parseAsDos_determined (line : CLine) :
    Determines ∅ (fun _ => univ) (parseAsDos context line) := by
  repeat refine .step rfl fun _ => ?_
  exact .last rfl fun _ => by decide

/-- The fact about the time is the only one that settles a field. -/
def eplfFields (token : CToken) (fact : Nat) : Finset EntryField :=
  if token[fact]? = some 'm'.toNat then {.time} else ∅

instance (token : CToken) (permissions : WString) (fact len : Nat) :
    Settles ∅ (fun _ => eplfFields token fact) (eplfFact context token permissions fact len) := by
  unfold eplfFields
  refine .of (.ite (fun directory => ?_) fun _ => .ite (fun size => ?_) fun _ =>
    .ite (fun time => ?_) fun other => ?_)
  · refine .step rfl fun _ => .pure _ ?_
    rw [directory]
    exact empty_subset _
  · refine .step rfl fun _ => .step rfl fun _ => .pure _ ?_
    rw [size]
    exact empty_subset _
  · refine .step rfl fun _ => .step rfl fun _ => .pure _ ?_
    rw [if_pos time]
    exact subset_union_right
  · rw [if_neg other]
    refine .ite (fun _ => ?_) fun _ => ?_
    · exact .pure _ (empty_subset _)
    · exact .pure _ (empty_subset _)

instance (token : CToken) (permissions : WString) (fact len : Nat) :
    Writes ({.flags, .size} ∪ eplfFields token fact)
      (eplfFact context token permissions fact len) := by
  have other : ∅ ⊆ {.flags, .size} ∪ eplfFields token fact := empty_subset _
  refine .ite (fun _ => .step (by simp) fun _ => .pure _) fun _ => .ite (fun _ => ?_) fun _ =>
    .ite (fun time => ?_) fun _ => .ite (fun _ => .pure _) fun _ => .pure _
  · exact .step (by simp) fun _ => .step other fun _ => .pure _
  · exact .step other fun _ => .step (by simp [eplfFields, time]) fun _ => .pure _

def HasTimeFact (token : CToken) (facts : List (Nat × Nat)) : Prop :=
  ∃ fact ∈ facts, token[fact.1]? = some 'm'.toNat

instance (token : CToken) (facts : List (Nat × Nat)) : Decidable (HasTimeFact token facts) :=
  inferInstanceAs (Decidable (∃ fact ∈ facts, _))

theorem hasTimeFact_cons {fact : Nat × Nat} {facts : List (Nat × Nat)} :
    HasTimeFact token (fact :: facts) ↔
      token[fact.1]? = some 'm'.toNat ∨ HasTimeFact token facts :=
  List.exists_mem_cons_iff ..

/-- A later fact may settle the time as well. -/
def eplfTime (token : CToken) (facts : List (Nat × Nat)) : Finset EntryField :=
  if HasTimeFact token facts then {.time} else ∅

theorem eplfTime_cons (fact : Nat × Nat) (facts : List (Nat × Nat)) :
    eplfTime token (fact :: facts) = eplfFields token fact.1 ∪ eplfTime token facts := by
  unfold eplfTime eplfFields
  rw [if_congr hasTimeFact_cons rfl rfl]
  split
  case isTrue time =>
    rcases time with first | later
    · rw [if_pos first]
      split <;> decide
    · rw [if_pos later]
      split <;> decide
  case isFalse none => rw [if_neg (not_or.mp none).1, if_neg (not_or.mp none).2, union_empty]

instance (token : CToken) (facts : List (Nat × Nat)) (permissions : WString) :
    Settles ∅ (fun _ => eplfTime token facts) (eplfApply context token facts permissions) := by
  induction facts generalizing permissions with
  | nil => exact .of (.pure _ (by simp [eplfTime, HasTimeFact]))
  | cons fact facts ih =>
    refine .of (.step rfl fun permissions => ?_)
    refine ((ih permissions).determined (empty_subset _)).weaken fun _ => ?_
    rw [eplfTime_cons, union_assoc]
    exact subset_union_right

instance (token : CToken) (facts : List (Nat × Nat)) (permissions : WString) :
    Writes ({.flags, .size} ∪ eplfTime token facts)
      (eplfApply context token facts permissions) := by
  induction facts generalizing permissions with
  | nil => exact .pure _
  | cons fact facts ih =>
    rw [eplfTime_cons]
    refine .step (union_subset_union_right subset_union_left) fun permissions => ?_
    exact (ih permissions).within (union_subset_union_right subset_union_right)

def eplfWritesTime (line : CLine) : Prop :=
  let token := line.getEndToken 0
  HasTimeFact token (eplfFacts token ((token.find ['\t'.toNat]).getD 0) 1)

instance (line : CLine) : Decidable (eplfWritesTime line) :=
  inferInstanceAs (Decidable (HasTimeFact _ _))

theorem getEndToken?_eq (found : line.getEndToken? n = some token) :
    token = line.getEndToken n := by
  unfold CLine.getEndToken? at found
  split at found
  · cases found
  · exact (Option.some.inj found).symm

theorem eplfWritesTime_iff {pos : Nat}
    (tab : (line.getEndToken 0).find ['\t'.toNat] = some pos) : eplfWritesTime line ↔
      HasTimeFact (line.getEndToken 0) (eplfFacts (line.getEndToken 0) pos 1) := by
  unfold eplfWritesTime
  dsimp only
  rw [tab]
  exact Iff.rfl

variable (line) in
theorem parseAsEplf_determined :
    Determines ∅ (fun _ => {.name, .size, .permissions, .ownerGroup, .flags} ∪
        if eplfWritesTime line then {.time} else ∅)
      (parseAsEplf context line) := by
  refine .ofOption_bind fun token found => ?_
  cases getEndToken?_eq found
  refine .step rfl fun _ => ?_
  cases tab : (line.getEndToken 0).find ['\t'.toNat] with
  | none => exact .failure
  | some pos =>
    repeat refine .step rfl fun _ => ?_
    refine .last rfl fun _ => ?_
    unfold eplfTime
    rw [if_congr (eplfWritesTime_iff tab) rfl rfl]
    split <;> decide

variable (line) in
theorem parseAsEplf_keeps :
    Keeps (mask ({.target} ∪ if eplfWritesTime line then ∅ else {.time}))
      (parseAsEplf context line) := by
  refine .ofOption_bind fun token found => ?_
  cases getEndToken?_eq found
  refine .step rfl fun _ => ?_
  cases tab : (line.getEndToken 0).find ['\t'.toNat] with
  | none => exact .failure
  | some pos =>
    rw [if_congr (eplfWritesTime_iff tab) rfl rfl]
    have others : Disjoint ({.name, .permissions, .ownerGroup} ∪ ({.flags, .size} ∪
        eplfTime (line.getEndToken 0) (eplfFacts (line.getEndToken 0) pos 1)))
        ({.target} ∪ if HasTimeFact (line.getEndToken 0) (eplfFacts (line.getEndToken 0) pos 1)
          then ∅ else {.time}) := by
      unfold eplfTime
      split <;> decide
    iterate 4 refine .step (decide_eq_true (others.mono_left (by simp))) fun _ => ?_
    refine .step (decide_eq_true (others.mono_left subset_union_right)) fun _ => ?_
    refine .step (decide_eq_true (others.mono_left (by simp))) fun _ => ?_
    exact .last (decide_eq_true (others.mono_left (by simp)))

def VmsReadsSize (token : CToken) : Prop :=
  (token.isNumeric = true ∨ ((token.find ['/'.toNat]).isSome = true ∧
    token.find ['/'.toNat] ((token.find ['/'.toNat]).getD 0 + 1) = none)) ∨
  (token.find ['/'.toNat] = none ∧ token.isLeftNumeric = true)

instance (token : CToken) : Decidable (VmsReadsSize token) :=
  inferInstanceAs (Decidable (_ ∨ _))

theorem readsSize_of_leftNumeric (numeric : token.isLeftNumeric = true) (blocksize : Int) :
    readsSize token blocksize = true := by
  have long : 2 ≤ token.length := by
    simp only [CToken.isLeftNumeric, Bool.and_eq_true, decide_eq_true_eq] at numeric
    exact numeric.1
  have unit : sizeUnit token ≠ none := by
    have last : token.getLast? = some (token.getLast (List.ne_nil_of_length_pos (by omega))) :=
      List.getLast?_eq_some_getLast _
    have second : token[token.length - 2]? = some (token[token.length - 2]) :=
      List.getElem?_eq_getElem _
    unfold sizeUnit
    rw [last, second]
    have short : ¬ token.length < 2 := by omega
    have single : token.length ≠ 1 := by omega
    simp only [short, single, if_false]
    split
    · split <;> simp
    · split <;> simp
  cases read : readsSize token blocksize with
  | true => rfl
  | false =>
    have unread : (parseComplexFileSize token blocksize).2 = none := by
      simpa [readsSize] using read
    exact absurd (parseComplexFileSize_none unread).2 unit

instance (line : CLine) (index : Nat) :
    Settles ∅ (fun result => if result.1 = true ∨ VmsReadsSize token then {.size} else ∅)
      (vmsSize line index token : EntryParser Time (Bool × Nat × CToken)) := by
  refine .of (.step rfl fun _ => .ite (fun definite => .step rfl fun valid => ?_) fun indefinite =>
    .ite (fun perhaps => .step rfl fun valid => ?_) fun other => ?_)
  · refine .require_bind fun isValid => .step rfl fun next => ?_
    exact .pure _ (by simp [isValid])
  · rw [readsSize_of_leftNumeric perhaps.2]
    cases valid with
    | true => exact .step rfl fun next => .pure _ (by simp)
    | false => exact .pure _ (by simp [show VmsReadsSize token from .inr perhaps])
  · have unread : ¬ VmsReadsSize token := not_or.mpr ⟨indefinite, other⟩
    exact .pure _ (by simp [unread])

def vmsSizeFields (token : CToken) : Finset EntryField :=
  if VmsReadsSize token then {.size} else ∅

instance (line : CLine) (index : Nat) (token : CToken) :
    Writes (vmsSizeFields token)
      (vmsSize line index token : EntryParser Time (Bool × Nat × CToken)) := by
  unfold vmsSizeFields
  refine .step (empty_subset _) fun _ => .ite (fun definite => ?_) fun indefinite =>
    .ite (fun perhaps => ?_) fun _ => .pure _
  · rw [if_pos (.inl definite)]
    repeat refine .step (by decide) fun _ => ?_
    exact .pure _
  · rw [if_pos (.inr perhaps)]
    refine .step (Subset.refl _) fun valid => ?_
    cases valid with
    | true => exact .step (empty_subset _) fun next => .pure _
    | false => exact .pure _

def VmsSizeFirst (line : CLine) : Prop :=
  ∀ username ∈ vmsUsername line, VmsReadsSize username.2.2

instance (line : CLine) : Decidable (VmsSizeFirst line) :=
  inferInstanceAs (Decidable (∀ username ∈ vmsUsername line, _))

theorem vmsHead_determined (line : CLine) :
    Determines ∅ (fun head => {.name, .flags, .time} ∪
        if head.2.1 = true ∨ VmsSizeFirst line then {.size} else ∅)
      (vmsHead context line) := by
  refine .step rfl fun token => ?_
  split
  · exact .failure
  iterate 3 refine .step rfl fun _ => ?_
  refine .ofOption_bind ?_
  rintro ⟨ownerGroup, index, token⟩ username
  refine .step rfl fun (gotSize, index, date) => .step rfl fun _ => .pure _ ?_
  have first : VmsSizeFirst line ↔ VmsReadsSize token := by
    simp [VmsSizeFirst, username]
  rw [if_congr (or_congr Iff.rfl first) rfl rfl]
  split
  · decide
  · decide

instance (line : CLine) :
    Writes ({.name, .flags, .time} ∪ if VmsSizeFirst line then {.size} else ∅)
      (vmsHead context line) := by
  refine .step (empty_subset _) fun token => ?_
  dsimp only
  cases token.find [';'.toNat] with
  | none => exact .failure
  | some pos =>
  iterate 3 refine .step (by simp) fun _ => ?_
  refine .ofOption_bind fun (ownerGroup, index, token) username => ?_
  have first : VmsSizeFirst line ↔ VmsReadsSize token := by
    simp [VmsSizeFirst, username]
  rw [if_congr first rfl rfl]
  exact .step subset_union_right fun _ => .step (by simp) fun _ => .pure _

instance (line : CLine) (index : Nat) :
    Settles {.time} (fun _ => ∅) (vmsTime context line index) := by
  refine ⟨fun known => .bind (Settles.determined known).attempt fun time => ?_⟩
  cases time with
  | some _ => exact .pure _ (empty_subset _)
  | none => exact .step rfl fun _ => .pure _ (empty_subset _)

instance (line : CLine) (index : Nat) : Writes {.time} (vmsTime context line index) := by
  refine .step (Subset.refl _) fun time => ?_
  cases time with
  | some _ => exact .pure _
  | none => exact .step (empty_subset _) fun _ => .pure _

instance (line : CLine) (gotSize : Bool) (index : Nat) :
    Settles ∅ (fun _ => if gotSize then ∅ else {.size})
      (vmsLateSize line gotSize index : EntryParser Time Nat) := by
  refine .of ?_
  cases gotSize with
  | true => exact .pure _ (empty_subset _)
  | false =>
    refine .step rfl fun token => .step rfl fun _ => .step rfl fun _ => .step rfl fun valid => ?_
    exact .require_bind fun isValid => .pure _ (by simp [isValid])

instance (line : CLine) (gotSize : Bool) (index : Nat) :
    Writes {.size} (vmsLateSize line gotSize index : EntryParser Time Nat) := by
  cases gotSize with
  | true => exact .pure _
  | false =>
    repeat refine .step (by decide) fun _ => ?_
    exact .pure _

def VmsStopsEarly (line : CLine) : Prop :=
  ∀ head ∈ ((vmsHead context line).outcome {}).1, (line.getToken (head.2.2 + 1)).isEmpty = true

instance (line : CLine) : Decidable (VmsStopsEarly context line) :=
  inferInstanceAs (Decidable (∀ head ∈ ((vmsHead context line).outcome {}).1, _))

def vmsUnwritten (line : CLine) : Finset EntryField :=
  if VmsStopsEarly context line then
    {.target, .permissions, .ownerGroup} ∪ if VmsSizeFirst line then ∅ else {.size}
  else {.target}

theorem parseAsVms_determined (line : CLine) :
    Determines ∅ (fun _ => (vmsUnwritten context line)ᶜ) (parseAsVms context line) := by
  refine .bind_from {} (vmsHead_determined context line)
    fun (ownerGroup, gotSize, index) head => ?_
  have early : VmsStopsEarly context line ↔ (line.getToken (index + 1)).isEmpty = true := by
    simp [VmsStopsEarly, head]
  unfold vmsUnwritten
  refine .ite (fun stops => ?_) fun goes => ?_
  · rw [if_pos (early.mpr stops)]
    refine .pure _ ?_
    by_cases first : VmsSizeFirst line
    · simp only [first, or_true, if_true]
      decide
    · simp only [first, if_false]
      by_cases got : gotSize = true
      · simp only [got, true_or, if_true]
        decide
      · simp only [got]
        decide
  · rw [if_neg fun stops => goes (early.mp stops)]
    repeat refine .step (decide_eq_true (by simp)) fun _ => ?_
    refine .last rfl fun _ => ?_
    cases gotSize with
    | true =>
      simp only [true_or, if_true]
      decide
    | false =>
      by_cases first : VmsSizeFirst line
      · simp only [first, or_true, if_true]
        decide
      · simp only [first]
        decide

theorem parseAsVms_keeps (line : CLine) :
    Keeps (mask (vmsUnwritten context line)) (parseAsVms context line) := by
  have others : Disjoint ({.name, .flags, .time} ∪ if VmsSizeFirst line then {.size} else ∅)
      (vmsUnwritten context line) := by
    unfold vmsUnwritten
    split
    · split <;> decide
    · split <;> decide
  refine .bind_from {} (.last (decide_eq_true others)) (vmsHead_determined context line)
    fun (ownerGroup, gotSize, index) head => ?_
  have early : VmsStopsEarly context line ↔ (line.getToken (index + 1)).isEmpty = true := by
    simp [VmsStopsEarly, head]
  refine .ite (fun _ => .pure _) fun goes => ?_
  have target : vmsUnwritten context line = {.target} := if_neg fun stops => goes (early.mp stops)
  rw [target]
  repeat refine .step rfl fun _ => ?_
  exact .last rfl

instance (line : CLine) (firstToken token : CToken) :
    Settles {.flags} (fun _ => univ) (numericalUnix context line firstToken token) := by
  refine ⟨fun known => ?_⟩
  repeat refine .step rfl fun _ => ?_
  refine .last rfl fun _ => ?_
  rintro (_ | _ | _ | _ | _ | _ | _) _
  all_goals simp [known (mem_singleton_self _)]

instance (line : CLine) : Settles ∅ (fun _ => {.name, .time}) (os2Style context line) := by
  refine .of ?_
  unfold os2Style
  split
  · exact .step rfl fun _ => .failure
  iterate 4 refine .step rfl fun _ => ?_
  refine .step (decide_eq_true (by simp)) fun _ => .step rfl fun _ => ?_
  split
  · exact .step rfl fun _ => .last rfl fun _ => by intro field; simp; tauto
  · exact .last rfl fun _ => by intro field; simp; tauto

instance (line : CLine) (month : Int) :
    Settles ∅ (fun _ => {.name, .time}) (vshellStyle context line month) := by
  refine .of ?_
  iterate 7 refine .step rfl fun _ => ?_
  refine .step (decide_eq_true (by simp)) fun _ => .step rfl fun _ => ?_
  refine .ite (fun _ => .step rfl fun _ => ?_) fun _ => ?_
  · exact .last rfl fun _ => by intro field; simp; tauto
  · exact .last rfl fun _ => by intro field; simp; tauto

instance (line : CLine) (token : CToken) :
    Settles ∅ (fun _ => {.name, .time}) (otherFields context line token) := by
  unfold otherFields
  split
  · infer_instance
  · infer_instance

theorem parseOther_determined (line : CLine) (maybeMultilineVms : Bool) :
    Determines ∅ (fun _ => univ) (parseOther context line maybeMultilineVms) := by
  repeat refine .step rfl fun _ => ?_
  refine .ite (fun _ => .last rfl fun _ => by decide) fun _ => ?_
  repeat refine .step rfl fun _ => ?_
  exact .last rfl fun _ => by decide

end EntryParser

end FileZilla
