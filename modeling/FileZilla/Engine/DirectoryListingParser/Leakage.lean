import FileZilla.Engine.DirectoryListingParser.HostDeterminism
import FileZilla.Engine.DirectoryListingParser.ParseLine

namespace FileZilla

open Finset

/-! What the formats that reject a line leave in the entry for the one that accepts it. -/

variable {Time : Type}

namespace EntryParser

open Rejecting

variable (context : ListingContext Time)

/-- The fields that a format does not write in a line that it accepts. -/
def unwrittenFields (line : CLine) : ListingFormat → Finset EntryField
  | .unix => unixUnwritten context line true
  | .unixDateless => unixUnwritten context line false
  | .zvm | .mlsd | .dos | .other => ∅
  | .eplf => {.target} ∪ if eplfWritesTime line then ∅ else {.time}
  | .vms => vmsUnwritten context line
  | .mvs => mvsUnwritten line
  | .mvsMigrated | .mvsPds2 | .mvsTape => {.target, .time}
  | .hpNonstop | .ibm | .wfFtp | .mvsPds | .os9 => {.target}

variable (line : CLine) (format : ListingFormat) (maybeMultilineVms : Bool)

theorem unixUnwritten_subset (expectDate : Bool) :
    unixUnwritten context line expectDate ⊆ {.target, .time} := by
  unfold unixUnwritten
  cases expectDate
  · split <;> decide
  · split <;> decide

theorem unwrittenFields_subset :
    unwrittenFields context line format ⊆ {.target, .time, .size, .permissions, .ownerGroup} := by
  cases format with
  | unix => exact (unixUnwritten_subset context line true).trans (by decide)
  | unixDateless => exact (unixUnwritten_subset context line false).trans (by decide)
  | eplf =>
    unfold unwrittenFields
    dsimp only
    split <;> decide
  | vms =>
    unfold unwrittenFields vmsUnwritten
    dsimp only
    split
    · split <;> decide
    · decide
  | mvs =>
    unfold unwrittenFields mvsUnwritten
    dsimp only
    split <;> decide
  | zvm | mlsd | dos | other => exact empty_subset _
  | mvsMigrated | mvsPds2 | mvsTape =>
    exact show ({.target, .time} : Finset EntryField) ⊆ _ by decide
  | hpNonstop | ibm | wfFtp | mvsPds | os9 =>
    exact show ({.target} : Finset EntryField) ⊆ _ by decide

theorem unwrittenFields_name :
    .name ∉ unwrittenFields context line format :=
  fun member => absurd (unwrittenFields_subset context line format member) (by decide)

theorem unwrittenFields_flags :
    .flags ∉ unwrittenFields context line format :=
  fun member => absurd (unwrittenFields_subset context line format member) (by decide)

/-- A line that is skipped does not need any field. -/
def writtenFields (line : CLine) (format : ListingFormat) (result : Bool) : Finset EntryField :=
  if result then (unwrittenFields context line format)ᶜ else ∅

variable {fields : Finset EntryField}

theorem answer_determined {line : CLine} {format : ListingFormat} {parser : EntryParser Time Unit}
    (determined : Determines ∅ (fun _ => fields) parser)
    (written : (unwrittenFields context line format)ᶜ ⊆ fields) :
    Determines ∅ (writtenFields context line format) ((fun _ => true) <$> parser) :=
  determined.map _ fun _ => written.trans subset_union_right

open Finset

theorem parserOf_determined (line : CLine) (format : ListingFormat) :
    Determines ∅ (writtenFields context line format)
      (parserOf context maybeMultilineVms line format) := by
  cases format with
  | mlsd =>
    refine (parseAsMlsd_determined context line).weaken fun stored => ?_
    cases stored <;> simp [writtenFields]
  | zvm =>
    exact answer_determined context (parseAsZvm_determined context line) (subset_univ _)
  | hpNonstop =>
    exact answer_determined context (parseAsHpNonstop_determined context line)
      (Subset.refl _)
  | unix =>
    exact answer_determined context (parseAsUnix_determined context line true)
      (Subset.refl _)
  | dos =>
    exact answer_determined context (parseAsDos_determined context line) (subset_univ _)
  | eplf =>
    refine answer_determined context (parseAsEplf_determined context line) ?_
    unfold unwrittenFields
    dsimp only
    split <;> decide
  | vms =>
    exact answer_determined context (parseAsVms_determined context line) (Subset.refl _)
  | other =>
    exact answer_determined context (parseOther_determined context line _) (subset_univ _)
  | ibm =>
    exact answer_determined context (parseAsIbm_determined context line) (Subset.refl _)
  | wfFtp =>
    exact answer_determined context (parseAsWfFtp_determined context line) (Subset.refl _)
  | mvs =>
    exact answer_determined context (parseAsIbmMvs_determined context line) (Subset.refl _)
  | mvsPds =>
    exact answer_determined context (parseAsIbmMvsPds_determined context line)
      (Subset.refl _)
  | os9 =>
    exact answer_determined context (parseAsOs9_determined context line) (Subset.refl _)
  | mvsMigrated =>
    exact answer_determined context (parseAsIbmMvsMigrated_determined line) (Subset.refl _)
  | mvsPds2 =>
    exact answer_determined context (parseAsIbmMvsPds2_determined line) (Subset.refl _)
  | mvsTape =>
    exact answer_determined context (parseAsIbmMvsTape_determined line) (Subset.refl _)
  | unixDateless =>
    exact answer_determined context (parseAsUnix_determined context line false)
      (Subset.refl _)

theorem empty_keeps {α : Type} (parser : EntryParser Time α) : Keeps (mask ∅) parser :=
  fun _ => by simp [mask]

theorem parserOf_keeps (line : CLine) (format : ListingFormat) :
    Keeps (mask (unwrittenFields context line format))
      (parserOf context maybeMultilineVms line format) := by
  cases format with
  | mlsd | zvm | dos | other => exact empty_keeps _
  | hpNonstop => exact (parseAsHpNonstop_keeps context line).map _
  | unix => exact (parseAsUnix_keeps context line true).map _
  | eplf => exact (parseAsEplf_keeps context line).map _
  | vms => exact (parseAsVms_keeps context line).map _
  | ibm => exact (parseAsIbm_keeps context line).map _
  | wfFtp => exact (parseAsWfFtp_keeps context line).map _
  | mvs => exact (parseAsIbmMvs_keeps context line).map _
  | mvsPds => exact (parseAsIbmMvsPds_keeps context line).map _
  | os9 => exact (parseAsOs9_keeps context line).map _
  | mvsMigrated => exact (parseAsIbmMvsMigrated_keeps line).map _
  | mvsPds2 => exact (parseAsIbmMvsPds2_keeps line).map _
  | mvsTape => exact (parseAsIbmMvsTape_keeps line).map _
  | unixDateless => exact (parseAsUnix_keeps context line false).map _

variable {left right : CDirentry Time}

theorem AgreeOn.symm {field : EntryField} (same : CDirentry.AgreeOn field left right) :
    CDirentry.AgreeOn field right left := by
  cases field
  case flags => exact ⟨same.1.symm, same.2.1.symm, same.2.2.symm⟩
  all_goals exact Eq.symm same

theorem AgreeOn.trans {field : EntryField} {middle : CDirentry Time}
    (first : CDirentry.AgreeOn field left middle) (second : CDirentry.AgreeOn field middle right) :
    CDirentry.AgreeOn field left right := by
  cases field
  case flags =>
    exact ⟨first.1.trans second.1, first.2.1.trans second.2.1, first.2.2.trans second.2.2⟩
  all_goals exact Eq.trans first second

def Blank (fields : Finset EntryField) (entry : CDirentry Time) : Prop :=
  Agree CDirentry.AgreeOn fields entry {}

theorem agree_univ (agree : Agree CDirentry.AgreeOn univ left right) : left = right := by
  have fields := fun field => agree field (mem_univ field)
  obtain ⟨isDir, isLink, isUnsure⟩ := fields .flags
  cases left
  cases right
  congr
  · exact fields .name
  · exact fields .size
  · exact fields .permissions
  · exact fields .ownerGroup
  · exact fields .target
  · exact fields .time

theorem mask_eq_iff {entry : CDirentry Time} :
    mask fields entry = mask fields ({} : CDirentry Time) ↔ Blank fields entry := by
  constructor
  · intro same field member
    simp only [mask, CDirentry.mk.injEq] at same
    obtain ⟨_, _, _, _, _, time, isDir, isLink, isUnsure⟩ := same
    cases field
    case time => simpa [CDirentry.AgreeOn, member] using time
    case flags =>
      simp only [member, decide_true, Bool.true_and] at isDir isLink isUnsure
      exact ⟨isDir, isLink, isUnsure⟩
    all_goals simp_all [CDirentry.AgreeOn]
  · intro blank
    have values := fun field => blank field
    simp only [mask, CDirentry.mk.injEq]
    refine ⟨?_, ?_, ?_, ?_, ?_, ?_, ?_, ?_, ?_⟩
    · exact ite_congr rfl (values .name) fun _ => rfl
    · exact ite_congr rfl (values .size) fun _ => rfl
    · exact ite_congr rfl (values .permissions) fun _ => rfl
    · exact ite_congr rfl (values .ownerGroup) fun _ => rfl
    · exact ite_congr rfl (values .target) fun _ => rfl
    · exact ite_congr rfl (fun member => congrArg _ (values .time member)) fun _ => rfl
    · by_cases member : .flags ∈ fields
      · exact congrArg (_ && ·) (values .flags member).1
      · simp [member]
    · by_cases member : .flags ∈ fields
      · exact congrArg (_ && ·) (values .flags member).2.1
      · simp [member]
    · by_cases member : .flags ∈ fields
      · exact congrArg (_ && ·) (values .flags member).2.2
      · simp [member]

theorem mask_mask {fewer : Finset EntryField} (subset : fewer ⊆ fields) (entry : CDirentry Time) :
    mask fewer (mask fields entry) = mask fewer entry := by
  have member := fun field => @subset field
  simp only [mask, CDirentry.mk.injEq]
  refine ⟨?_, ?_, ?_, ?_, ?_, ?_, ?_, ?_, ?_⟩
  · exact ite_congr rfl (fun few => if_pos (member .name few)) fun _ => rfl
  · exact ite_congr rfl (fun few => if_pos (member .size few)) fun _ => rfl
  · exact ite_congr rfl (fun few => if_pos (member .permissions few)) fun _ => rfl
  · exact ite_congr rfl (fun few => if_pos (member .ownerGroup few)) fun _ => rfl
  · exact ite_congr rfl (fun few => if_pos (member .target few)) fun _ => rfl
  · refine ite_congr rfl (fun few => ?_) fun _ => rfl
    rw [if_pos (member .time few)]
    cases entry.time <;> rfl
  all_goals
    by_cases few : .flags ∈ fewer
    · simp [few, member .flags few]
    · simp [few]

section
variable (parser : ListingFormat → EntryParser Time Bool)

def acceptedAlone : List ListingFormat → Option (ListingFormat × Bool × CDirentry Time)
  | [] => none
  | format :: formats =>
    match (parser format).outcome {} with
    | (some result, entry) => some (format, result, entry)
    | (none, _) => acceptedAlone formats

def leftover : List ListingFormat → CDirentry Time → CDirentry Time
  | [], entry => entry
  | format :: formats, entry =>
    match (parser format).outcome entry with
    | (some _, _) => entry
    | (none, left) => leftover formats left

theorem tryFormats_eq (alike : ∀ format entry,
      ((parser format).outcome entry).1 = ((parser format).outcome {}).1)
    (formats : List ListingFormat) (entry : CDirentry Time) :
    tryFormats parser formats entry = (acceptedAlone parser formats).map fun accepted =>
        (accepted.1, accepted.2.1,
          ((parser accepted.1).outcome (leftover parser formats entry)).2) := by
  induction formats generalizing entry with
  | nil => rfl
  | cons format formats ih =>
    have same := alike format entry
    unfold tryFormats acceptedAlone leftover
    rcases shared : (parser format).outcome entry with ⟨_ | result, left⟩
    · rcases alone : (parser format).outcome {} with ⟨_ | result, other⟩
      · exact ih left
      · rw [shared, alone] at same
        cases same
    · rcases alone : (parser format).outcome {} with ⟨_ | result, other⟩
      · rw [shared, alone] at same
        cases same
      · rw [shared, alone] at same
        cases same
        simp [shared]

theorem acceptedAlone_outcome {formats : List ListingFormat} {format : ListingFormat}
    {result : Bool} {entry : CDirentry Time}
    (accepted : acceptedAlone parser formats = some (format, result, entry)) :
    (parser format).outcome {} = (some result, entry) := by
  induction formats with
  | nil => cases accepted
  | cons first formats ih =>
    unfold acceptedAlone at accepted
    rcases alone : (parser first).outcome {} with ⟨_ | answer, other⟩
    · rw [alone] at accepted
      exact ih accepted
    · rw [alone] at accepted
      cases accepted
      exact alone

end

theorem parserOf_alike (line : CLine) (format : ListingFormat) (left right : CDirentry Time) :
    ((parserOf context maybeMultilineVms line format).outcome left).1 =
      ((parserOf context maybeMultilineVms line format).outcome right).1 :=
  (parserOf_determined context maybeMultilineVms line format).same left right
    fun _ member => absurd member (notMem_empty _)

theorem accepted_agree {maybeMultilineVms : Bool} {line : CLine} {format : ListingFormat}
    {fromLeft fromRight : CDirentry Time}
    (acceptsLeft : (parserOf context maybeMultilineVms line format).outcome left =
      (some true, fromLeft))
    (acceptsRight : (parserOf context maybeMultilineVms line format).outcome right =
      (some true, fromRight)) :
    Agree CDirentry.AgreeOn (unwrittenFields context line format)ᶜ fromLeft fromRight := by
  have determined := (parserOf_determined context maybeMultilineVms line format).accepted
    left right true (fun _ member => absurd member (notMem_empty _))
    (congrArg Prod.fst acceptsLeft)
  rw [acceptsLeft, acceptsRight] at determined
  exact determined.mono subset_union_right

end EntryParser

namespace LineState

open EntryParser Rejecting

variable (context : ListingContext Time)

def overriddenFields (isDir : Bool) (override : CDirentry Time) : Finset EntryField :=
  (if override.time.isSome then {.time} else ∅) ∪
    if !isDir && override.size != -1 then {.size} else ∅

variable {override : CDirentry Time}

theorem time_overridden {isDir : Bool} :
    .time ∈ overriddenFields isDir override ↔ override.time.isSome = true := by
  unfold overriddenFields
  split
  case isTrue some => simp [some]
  case isFalse none =>
    split
    · simp [none]
    · simp [none]

theorem size_overridden {isDir : Bool} :
    .size ∈ overriddenFields isDir override ↔ (!isDir && override.size != -1) = true := by
  unfold overriddenFields
  split
  · split
    case isTrue known => simp [known]
    case isFalse unknown => simp [unknown]
  · split
    case isTrue known => simp [known]
    case isFalse unknown => simp [unknown]

theorem overriddenFields_subset (isDir : Bool) (override : CDirentry Time) :
    overriddenFields isDir override ⊆ {.time, .size} := by
  unfold overriddenFields
  split
  · split <;> decide
  · split <;> decide

def exposedFields (override : Option (CDirentry Time)) (line : CLine) (format : ListingFormat)
    (entry : CDirentry Time) : Finset EntryField :=
  unwrittenFields context line format \ override.elim ∅ (overriddenFields entry.isDir)

def Stores (self : LineState Time) (entry : CDirentry Time) : Prop :=
  entry.name ≠ wide "." ∧ entry.name ≠ wide ".." ∧ self.entries.length < context.limit

variable {fields : Finset EntryField}

theorem finishEntry_mask (other : .name ∉ fields) (entry : CDirentry Time) :
    mask fields (finishEntry context entry) = mask fields entry := by
  simp only [finishEntry, mask, other, if_false, CDirentry.mk.injEq, true_and, and_true]
  refine ite_congr rfl (fun _ => ?_) fun _ => rfl
  split
  · rfl
  · rw [Option.map_map]

theorem overrideEntry_mask (override entry : CDirentry Time) (name : .name ∉ fields)
    (known : Disjoint fields (overriddenFields entry.isDir override)) :
    mask fields (overrideEntry override entry) = mask fields entry := by
  have others := fun field (member : field ∈ fields) => disjoint_left.mp known member
  simp only [overrideEntry, mask, name, if_false, CDirentry.mk.injEq, true_and, and_true]
  refine ⟨ite_congr rfl (fun member => ?_) fun _ => rfl,
    ite_congr rfl (fun member => ?_) fun _ => rfl⟩
  · exact if_neg (mt size_overridden.mpr (others .size member))
  · have none : override.time = none := by
      simpa using mt time_overridden.mpr (others .time member)
    rw [none]
    rfl

def withOverride (override : Option (CDirentry Time)) (entry : CDirentry Time) :
    CDirentry Time :=
  override.elim entry (overrideEntry · entry)

variable {left right : CDirentry Time}

theorem overrideEntry_eq
    (agree : Agree CDirentry.AgreeOn (overriddenFields right.isDir override)ᶜ left right) :
    overrideEntry override left = overrideEntry override right := by
  have same := fun field other => agree field (mem_compl.mpr other)
  have subset := fun field (other : field ∉ ({.time, .size} : Finset EntryField)) =>
    same field fun member => other (overriddenFields_subset _ _ member)
  obtain ⟨isDir, isLink, isUnsure⟩ := subset .flags (by decide)
  unfold overrideEntry
  congr 1
  · rw [subset .name (by decide)]
  · rw [isDir]
    cases known : !right.isDir && override.size != -1 with
    | true => rfl
    | false => exact same .size fun member => by simp [size_overridden.mp member] at known
  · exact subset .permissions (by decide)
  · exact subset .ownerGroup (by decide)
  · exact subset .target (by decide)
  · cases time : override.time with
    | none =>
      refine same .time fun member => ?_
      have some := time_overridden.mp member
      rw [time] at some
      cases some
    | some _ => rfl

theorem withOverride_mask (override : Option (CDirentry Time)) (entry : CDirentry Time)
    (name : .name ∉ fields)
    (known : Disjoint fields (override.elim ∅ (overriddenFields entry.isDir))) :
    mask fields (withOverride override entry) = mask fields entry := by
  cases override with
  | none => rfl
  | some override => exact overrideEntry_mask override entry name known

theorem withOverride_name (override : Option (CDirentry Time)) (same : left.name = right.name) :
    (withOverride override left).name = (withOverride override right).name := by
  cases override with
  | none => exact same
  | some override => exact congrArg (fun name => if override.name.isEmpty then name else _) same

theorem withOverride_eq {override : Option (CDirentry Time)} (agree : Agree CDirentry.AgreeOn
      (override.elim ∅ (overriddenFields right.isDir))ᶜ left right) :
    withOverride override left = withOverride override right := by
  cases override with
  | none => exact agree_univ (agree.mono (by simp))
  | some override => exact overrideEntry_eq agree

theorem addEntry_eq_iff {self : LineState Time} (sameName : left.name = right.name) :
    self.addEntry context left = self.addEntry context right ↔
      (Stores context self right → finishEntry context left = finishEntry context right) := by
  unfold addEntry Stores
  rw [sameName]
  dsimp only
  by_cases dots : right.name = wide "." ∨ right.name = wide ".."
  · simp only [dots, if_true, true_iff]
    rintro ⟨dot, dotdot, _⟩
    exact absurd dots (not_or.mpr ⟨dot, dotdot⟩)
  · have noDots := not_or.mp dots
    simp only [noDots, not_false_eq_true, ne_eq, true_and, or_self, if_false]
    have entries : self.noFileList.entries = self.entries := rfl
    rw [entries]
    by_cases room : self.entries.length < context.limit
    · simp [room]
    · simp [room]

theorem finishEntry_eq_iff (override : Option (CDirentry Time)) {maybeMultilineVms : Bool}
    {line : CLine} {format : ListingFormat} {stored alone : CDirentry Time}
    (acceptsLeft : (parserOf context maybeMultilineVms line format).outcome left =
      (some true, stored))
    (acceptsNew : (parserOf context maybeMultilineVms line format).outcome {} =
      (some true, alone)) :
    finishEntry context (withOverride override stored) =
        finishEntry context (withOverride override alone) ↔
      Blank (exposedFields context override line format alone) left := by
  have keepsLeft := parserOf_keeps context maybeMultilineVms line format left
  have keepsNew := parserOf_keeps context maybeMultilineVms line format {}
  rw [acceptsLeft] at keepsLeft
  rw [acceptsNew] at keepsNew
  have written := accepted_agree context acceptsLeft acceptsNew
  have flags := written .flags (mem_compl.mpr (unwrittenFields_flags context line format))
  have fewer : exposedFields context override line format alone ⊆
      unwrittenFields context line format := sdiff_subset
  have name : .name ∉ exposedFields context override line format alone :=
    fun member => unwrittenFields_name context line format (fewer member)
  have known : Disjoint (exposedFields context override line format alone)
      (override.elim ∅ (overriddenFields alone.isDir)) := sdiff_disjoint
  have ofStored : mask (exposedFields context override line format alone) stored =
      mask (exposedFields context override line format alone) left := by
    rw [← mask_mask fewer stored, keepsLeft, mask_mask fewer]
  have ofAlone : mask (exposedFields context override line format alone) alone =
      mask (exposedFields context override line format alone) ({} : CDirentry Time) := by
    rw [← mask_mask fewer alone, keepsNew, mask_mask fewer]
  constructor
  · intro same
    have masked := congrArg (mask (exposedFields context override line format alone)) same
    rw [finishEntry_mask context name, finishEntry_mask context name,
      withOverride_mask override stored name (by rw [flags.1]; exact known),
      withOverride_mask override alone name known, ofStored, ofAlone] at masked
    exact mask_eq_iff.mp masked
  · intro blank
    have blankStored := mask_eq_iff.mp (ofStored.trans (mask_eq_iff.mpr blank))
    have blankAlone := mask_eq_iff.mp ofAlone
    refine congrArg (finishEntry context) (withOverride_eq fun field shown => ?_)
    by_cases unwritten : field ∈ unwrittenFields context line format
    · have exposed := mem_sdiff.mpr ⟨unwritten, mem_compl.mp shown⟩
      exact AgreeOn.trans (blankStored field exposed) (AgreeOn.symm (blankAlone field exposed))
    · exact written field (mem_compl.mpr unwritten)

/-- The entry that is stored is that of the accepting format alone when the formats before
it have left nothing in the fields that it does not write. -/
theorem parseLine_alone_iff (override : Option (CDirentry Time)) (line : CLine)
    (concatenated : Bool) (self : LineState Time) :
    parseLine context override line concatenated self =
        self.storeResult context override line concatenated
          (acceptedAlone (parserOf context self.maybeMultilineVms line)
            (formatsFor context.serverType)) ↔
      ∀ format alone, acceptedAlone (parserOf context self.maybeMultilineVms line)
          (formatsFor context.serverType) = some (format, true, alone) →
        Stores context self (withOverride override alone) →
        Blank (exposedFields context override line format alone)
          (leftover (parserOf context self.maybeMultilineVms line)
            (formatsFor context.serverType) {}) := by
  have alike := fun format left right =>
    parserOf_alike context self.maybeMultilineVms line format left right
  unfold parseLine
  rw [tryFormats_eq _ fun format entry => alike format entry {}]
  rcases accepted : acceptedAlone (parserOf context self.maybeMultilineVms line)
      (formatsFor context.serverType) with _ | ⟨format, _ | _, alone⟩
  · simp
  · simp [storeResult]
  · have acceptsNew := acceptedAlone_outcome _ accepted
    obtain ⟨stored, acceptsLeft⟩ : ∃ stored,
        (parserOf context self.maybeMultilineVms line format).outcome
          (leftover (parserOf context self.maybeMultilineVms line)
            (formatsFor context.serverType) {}) = (some true, stored) := by
      refine ⟨_, Prod.ext ?_ rfl⟩
      rw [alike format _ {}, acceptsNew]
    have sameName := (accepted_agree context acceptsLeft acceptsNew) .name
      (mem_compl.mpr (unwrittenFields_name context line format))
    rw [Option.map_some, acceptsLeft]
    have onlyOne : ∀ {property : ListingFormat → CDirentry Time → Prop},
        (∀ accepting entry, some (format, true, alone) = some (accepting, true, entry) →
          property accepting entry) ↔ property format alone := by
      simp
    rw [onlyOne, ← finishEntry_eq_iff context override acceptsLeft acceptsNew,
      ← addEntry_eq_iff context (withOverride_name override sameName)]
    exact ⟨congrArg Prod.snd, congrArg (Prod.mk true)⟩

/-- Days of the calendar without a time of day -/
def dayDates : DateLibrary (Int × Int × Int) where
  set year month day _ _ :=
    if 1 ≤ month ∧ month ≤ 12 ∧ 1 ≤ day ∧ day ≤ 31 then some (year, month, day) else none
  afterFailedSet time := time
  imbueTime time _ _ _ := (true, time)
  ofTimeT _ := none
  ofString _ := none
  add time _ := time
  getTm time := time
  today := (2024, 5, 5)

def unixContext : ListingContext (Int × Int × Int) where
  dates := dayDates
  serverType := .unix
  serverTimezoneOffset := 0
  timezoneOffset := 0
  limit := 1000

/-- The target of the MLSD fact in a line that is a directory in the format of ls -/
theorem parseLine_leaks :
    let line := CLine.ofText
      (wide "d=x;type=OS.unix=slink:foo;bad 1 owner group 0 Jan 1 2000 name")
    parseLine unixContext none line false {} ≠
      ({} : LineState (Int × Int × Int)).storeResult unixContext none line false
        (acceptedAlone (parserOf unixContext false line) (formatsFor .unix)) := by
  intro line same
  have targets := congrArg (fun state => state.2.entries.map CDirentry.target) same
  revert targets
  decide +kernel

end LineState

end FileZilla
