import FileZilla.Engine.DirectoryListingParser.ParseLine

namespace FileZilla

/-! Listings over SFTP: `AddLine` gets every entry with its long name, and the formats are tried
on the long name. -/

structure EntryFlags where
  isDir : Bool
  isLink : Bool

/-- An entry as `AddLine` gets it, with converted texts -/
structure ReportedEntry (Time : Type) where
  name : WString
  longname : WString
  modified : Option Time := none
  size : Option Nat := none
  flags : Option EntryFlags := none

variable {Time : Type}

namespace ReportedEntry

variable (entry : ReportedEntry Time)

def isDir : Bool :=
  entry.flags.any (·.isDir)

def override : CDirentry Time where
  name := entry.name
  time := entry.modified
  isDir := entry.isDir
  isLink := entry.flags.any (·.isLink)
  size :=
    if entry.isDir then -1
    else
      match entry.size with
      | none => -1
      | some size => if size ≤ int64Max then size else -1

def listed : Bool :=
  entry.name ≠ [] ∧ entry.name ≠ wide "." ∧ entry.name ≠ wide ".."

end ReportedEntry

namespace LineState

variable (context : ListingContext Time) (entry : ReportedEntry Time)

def addLine
    (self : LineState Time) : LineState Time :=
  if entry.longname.isEmpty && entry.name.isEmpty then self
  else (self.parseLine context (some entry.override) (CLine.ofText entry.longname) true).2

open EntryParser

def longnameAnswer :
    Option (ListingFormat × Bool × CDirentry Time) :=
  tryFormats (parserOf context false (CLine.ofText entry.longname))
    (formatsFor context.serverType) {}

def isDots (name : WString) : Bool :=
  name = wide "." ∨ name = wide ".."

def finished (entry : CDirentry Time) : Option (CDirentry Time) :=
  if isDots entry.name then none else some (finishEntry context entry)

/-- What `AddLine` adds to the listing -/
def added : Option (CDirentry Time) :=
  if entry.longname.isEmpty && entry.name.isEmpty then none
  else
    match longnameAnswer context entry with
    | some (_, true, parsed) => finished context (overrideEntry entry.override parsed)
    | some (_, false, _) => none
    | none => if entry.name.isEmpty then none else finished context entry.override

/-- A parser that is only given lines with `AddLine` -/
structure OnlyLines (state : LineState Time) : Prop where
  singleLine : state.maybeMultilineVms = false
  fileList : state.fileList = []

theorem addEntry_onlyLines (entry : CDirentry Time)
    (self : LineState Time) : OnlyLines (self.addEntry context entry) := by
  unfold addEntry
  dsimp only
  split
  case isTrue => exact ⟨rfl, rfl⟩
  case isFalse =>
    split
    case isTrue => exact ⟨rfl, rfl⟩
    case isFalse => exact ⟨rfl, rfl⟩

theorem addEntry_entries {context : ListingContext Time} {self : LineState Time}
    (room : self.entries.length < context.limit) (entry : CDirentry Time) :
    (self.addEntry context entry).entries = self.entries ++ (finished context entry).toList := by
  unfold addEntry finished isDots
  dsimp only
  split
  case isTrue dots => simp [dots, noFileList]
  case isFalse shown =>
    have kept : self.noFileList.entries = self.entries := rfl
    rw [if_pos (kept ▸ room)]
    simp [shown, noFileList]

theorem rejectLine_concatenated (limit : Nat) (line : CLine) (self : LineState Time) :
    self.rejectLine limit line true = { self with maybeMultilineVms := false } := by
  simp [rejectLine]

section AddLine

variable {context : ListingContext Time} {self : LineState Time}

theorem addLine_onlyLines (only : OnlyLines self) (entry : ReportedEntry Time) :
    OnlyLines (self.addLine context entry) := by
  unfold addLine
  split
  case isTrue => exact only
  case isFalse =>
    unfold parseLine storeResult
    dsimp only
    split
    · exact addEntry_onlyLines context _ self
    · exact ⟨rfl, rfl⟩
    · rw [rejectLine_concatenated]
      split
      case isTrue => exact ⟨rfl, only.fileList⟩
      case isFalse => exact addEntry_onlyLines context _ _

theorem addLine_entries (only : OnlyLines self) (room : self.entries.length < context.limit)
    (entry : ReportedEntry Time) :
    (self.addLine context entry).entries = self.entries ++ (added context entry).toList := by
  unfold addLine added
  split
  case isTrue => simp
  case isFalse =>
    have answer : tryFormats
        (parserOf context self.maybeMultilineVms (CLine.ofText entry.longname))
          (formatsFor context.serverType) {} = longnameAnswer context entry := by
      rw [only.singleLine, longnameAnswer]
    unfold parseLine
    rw [answer]
    cases longnameAnswer context entry with
    | some result =>
      obtain ⟨format, stored, parsed⟩ := result
      cases stored with
      | true => exact addEntry_entries room (overrideEntry entry.override parsed)
      | false => simp [storeResult, noFileList]
    | none =>
      simp only [storeResult, rejectLine_concatenated]
      have name : entry.override.name = entry.name := rfl
      rw [name]
      split
      case isTrue => simp
      case isFalse =>
        have roomy : ({ self with maybeMultilineVms := false } : LineState Time).entries.length
            < context.limit := room
        exact addEntry_entries roomy entry.override

end AddLine

def serverTime (time : Time) : Time :=
  if context.serverTimezoneOffset = 0 then time
  else context.dates.add time (context.serverTimezoneOffset * 60000)

structure Shows (context : ListingContext Time) (entry : ReportedEntry Time)
    (shown : CDirentry Time) : Prop where
  name : shown.name = entry.name
  time : ∀ time, entry.modified = some time → shown.time = some (serverTime context time)
  size : ∀ size, entry.size = some size → shown.isDir = false → shown.size = size

def ListedRight :
    Option (CDirentry Time) → Prop
  | none => entry.listed = false
  | some shown => entry.listed = true ∧ Shows context entry shown

/-- The reported size is used, or is not needed, or the long name gives the same. -/
def SizeKept (size : Nat) : Prop :=
  match longnameAnswer context entry with
  | some (_, _, parsed) =>
    parsed.isDir = true ∨ (entry.isDir = false ∧ size ≤ int64Max) ∨ parsed.size = size
  | none => entry.isDir = true ∨ size ≤ int64Max

/-- The long name does not get in the way of the precise data. -/
structure Clear (context : ListingContext Time) (entry : ReportedEntry Time) : Prop where
  unnamed : entry.name = [] → entry.longname = [] ∨
    ∀ format parsed, longnameAnswer context entry = some (format, true, parsed) →
      isDots parsed.name = true
  kept : entry.listed = true →
    ∀ format parsed, longnameAnswer context entry ≠ some (format, false, parsed)
  size : entry.listed = true → ∀ size, entry.size = some size → SizeKept context entry size

section Listed

variable {context : ListingContext Time} {entry : ReportedEntry Time}

open ReportedEntry

theorem listed_iff : entry.listed = true ↔ entry.name ≠ [] ∧ isDots entry.name = false := by
  simp [listed, isDots]

theorem override_size_of_fits {size : Nat} (reported : entry.size = some size)
    (fits : entry.isDir = false ∧ size ≤ int64Max) : entry.override.size = size := by
  simp [override, reported, fits.1, fits.2]

theorem override_size_of_not_fits {size : Nat} (reported : entry.size = some size)
    (unfit : ¬(entry.isDir = false ∧ size ≤ int64Max)) : entry.override.size = -1 := by
  unfold override
  dsimp only
  rw [reported]
  split
  case isTrue => rfl
  case isFalse file => exact if_neg fun fits => unfit ⟨by simpa using file, fits⟩

theorem finishEntry_time (parsed : CDirentry Time) :
    (finishEntry context parsed).time = parsed.time.map (serverTime context) := by
  have shift : serverTime context = fun time =>
      if context.serverTimezoneOffset = 0 then time
      else context.dates.add time (context.serverTimezoneOffset * 60000) := rfl
  unfold finishEntry
  rw [shift]
  dsimp only
  split
  case isTrue => simp
  case isFalse => rfl

theorem finishEntry_name (notVms : context.serverType ≠ .vms) (parsed : CDirentry Time) :
    (finishEntry context parsed).name = parsed.name := by
  simp [finishEntry, notVms]

theorem shows_parsed_iff (notVms : context.serverType ≠ .vms) (named : entry.name ≠ [])
    (parsed : CDirentry Time) :
    Shows context entry (finishEntry context (overrideEntry entry.override parsed)) ↔
      ∀ size, entry.size = some size → parsed.isDir = true ∨
        (entry.isDir = false ∧ size ≤ int64Max) ∨ parsed.size = size := by
  have name : (overrideEntry entry.override parsed).name = entry.name := by
    simp [overrideEntry, override, named]
  have time : (overrideEntry entry.override parsed).time = entry.modified.or parsed.time := rfl
  have size : (overrideEntry entry.override parsed).size =
      if !parsed.isDir && entry.override.size != -1 then entry.override.size
      else parsed.size := rfl
  constructor
  · intro shows reported found
    by_cases fits : entry.isDir = false ∧ reported ≤ int64Max
    · exact .inr (.inl fits)
    · cases dir : parsed.isDir with
      | true => exact .inl rfl
      | false =>
        refine .inr (.inr ?_)
        have kept : (overrideEntry entry.override parsed).size = reported :=
          shows.size reported found dir
        rw [size, override_size_of_not_fits found fits] at kept
        simpa using kept
  · intro kept
    refine ⟨(finishEntry_name notVms _).trans name, fun modified found => ?_,
      fun reported found file => ?_⟩
    · rw [finishEntry_time, time, found]
      rfl
    · have parsedFile : parsed.isDir = false := file
      have shown : (finishEntry context (overrideEntry entry.override parsed)).size =
          (overrideEntry entry.override parsed).size := rfl
      rw [shown, size]
      by_cases fits : entry.isDir = false ∧ reported ≤ int64Max
      · have precise := override_size_of_fits found fits
        simp [parsedFile, precise]
      · have dropped := override_size_of_not_fits found fits
        rcases kept reported found with dir | fit | same
        · cases dir.symm.trans parsedFile
        · exact absurd fit fits
        · simp [dropped, same]

theorem shows_override_iff (notVms : context.serverType ≠ .vms) :
    Shows context entry (finishEntry context entry.override) ↔
      ∀ size, entry.size = some size → entry.isDir = true ∨ size ≤ int64Max := by
  constructor
  · intro shows reported found
    cases dir : entry.isDir with
    | true => exact .inl rfl
    | false =>
      refine .inr ?_
      by_contra large
      have kept : entry.override.size = reported := shows.size reported found dir
      rw [override_size_of_not_fits found fun fits => large fits.2] at kept
      omega
  · intro kept
    refine ⟨finishEntry_name notVms _, fun modified found => ?_, fun reported found file => ?_⟩
    · rw [finishEntry_time]
      simp [override, found]
    · have notDir : entry.isDir = false := file
      rcases kept reported found with dir | fits
      · cases dir.symm.trans notDir
      · exact override_size_of_fits found ⟨notDir, fits⟩

theorem listedRight_iff_of_not_listed (hidden : entry.listed = false)
    (shown : Option (CDirentry Time)) :
    ListedRight context entry shown ↔ shown = none := by
  cases shown with
  | none => simp [ListedRight, hidden]
  | some shown => simp [ListedRight, hidden]

theorem finished_eq_none_iff (parsed : CDirentry Time) :
    finished context parsed = none ↔ isDots parsed.name = true := by
  unfold finished
  split
  case isTrue dots => simp [dots]
  case isFalse shown => simp [shown]

/-- `AddLine` without a usable name -/
theorem added_unnamed_iff (unnamed : entry.name = []) :
    added context entry = none ↔ entry.longname = [] ∨
      ∀ format parsed, longnameAnswer context entry = some (format, true, parsed) →
        isDots parsed.name = true := by
  have name : ∀ parsed : CDirentry Time,
      (overrideEntry entry.override parsed).name = parsed.name := fun parsed => by
    simp [overrideEntry, override, unnamed]
  unfold added
  split
  case isTrue blank =>
    have longname : entry.longname = [] := by
      simpa using (Bool.and_eq_true_iff.mp blank).1
    simp [longname]
  case isFalse filled =>
    have longname : entry.longname ≠ [] := by
      intro empty
      simp [empty, unnamed] at filled
    cases answer : longnameAnswer context entry with
    | none => simp [unnamed]
    | some result =>
      obtain ⟨format, stored, parsed⟩ := result
      cases stored with
      | false => simp
      | true =>
        dsimp only
        rw [finished_eq_none_iff, name]
        constructor
        · rintro dots
          refine .inr fun _ _ same => ?_
          cases same
          exact dots
        · rintro (empty | dots)
          · exact absurd empty longname
          · exact dots format parsed rfl

theorem listedRight_added_of_listed (notVms : context.serverType ≠ .vms)
    (listed : entry.listed = true) :
    ListedRight context entry (added context entry) ↔
      (∀ format parsed, longnameAnswer context entry ≠ some (format, false, parsed)) ∧
        ∀ size, entry.size = some size → SizeKept context entry size := by
  obtain ⟨named, shown⟩ := listed_iff.mp listed
  have name : ∀ parsed : CDirentry Time,
      (overrideEntry entry.override parsed).name = entry.name := fun parsed => by
    simp [overrideEntry, override, named]
  unfold added SizeKept
  rw [if_neg (by simp [named])]
  cases longnameAnswer context entry with
  | none =>
    have given : finished context entry.override = some (finishEntry context entry.override) := by
      have shownName : isDots entry.override.name = false := shown
      simp [finished, shownName]
    have filled : entry.name.isEmpty = false := by simp [named]
    simp only [filled, Bool.false_eq_true, if_false, given, ListedRight, listed, true_and]
    rw [shows_override_iff notVms]
    simp
  | some result =>
    obtain ⟨format, stored, parsed⟩ := result
    cases stored with
    | false =>
      simp only [ListedRight, listed, Bool.true_eq_false, false_iff, not_and]
      intro kept
      exact absurd rfl (kept format parsed)
    | true =>
      have given : finished context (overrideEntry entry.override parsed) =
          some (finishEntry context (overrideEntry entry.override parsed)) := by
        simp [finished, name, shown]
      simp only [given, ListedRight, listed, true_and]
      rw [shows_parsed_iff notVms named]
      simp

theorem listedRight_added_iff (notVms : context.serverType ≠ .vms) :
    ListedRight context entry (added context entry) ↔ Clear context entry := by
  cases listed : entry.listed with
  | true =>
    rw [listedRight_added_of_listed notVms listed]
    have named := (listed_iff.mp listed).1
    constructor
    · rintro ⟨kept, size⟩
      exact ⟨fun unnamed => absurd unnamed named, fun _ => kept, fun _ => size⟩
    · exact fun clear => ⟨clear.kept listed, clear.size listed⟩
  | false =>
    rw [listedRight_iff_of_not_listed listed]
    by_cases unnamed : entry.name = []
    · rw [added_unnamed_iff unnamed]
      constructor
      · intro read
        refine ⟨fun _ => read, fun shown => ?_, fun shown => ?_⟩
        · cases listed.symm.trans shown
        · cases listed.symm.trans shown
      · exact fun clear => clear.unnamed unnamed
    · have dots : isDots entry.name = true := by
        by_contra shown
        exact absurd (listed_iff.mpr ⟨unnamed, by simpa using shown⟩) (by simp [listed])
      have name : ∀ parsed : CDirentry Time,
          (overrideEntry entry.override parsed).name = entry.name := fun parsed => by
        simp [overrideEntry, override, unnamed]
      have hidden : added context entry = none := by
        have overrideName : entry.override.name = entry.name := rfl
        unfold added finished
        rw [if_neg (by simp [unnamed])]
        cases longnameAnswer context entry with
        | none => simp [overrideName, dots]
        | some result =>
          obtain ⟨format, stored, parsed⟩ := result
          cases stored with
          | false => rfl
          | true => simp [name, dots]
      refine ⟨fun _ => ?_, fun _ => hidden⟩
      refine ⟨fun empty => absurd empty unnamed, fun shown => ?_, fun shown => ?_⟩
      · cases listed.symm.trans shown
      · cases listed.symm.trans shown

end Listed

/-- What a sequence of entries adds -/
def addedBy (reported : List (ReportedEntry Time)) :
    List (CDirentry Time) :=
  reported.filterMap (added context)

theorem shows_addedBy {context : ListingContext Time} (notVms : context.serverType ≠ .vms)
    {reported : List (ReportedEntry Time)} (clear : ∀ entry ∈ reported, Clear context entry) :
    List.Forall₂ (Shows context) (reported.filter (·.listed)) (addedBy context reported) := by
  induction reported with
  | nil => exact .nil
  | cons entry reported ih =>
    have rest := ih fun other member => clear other (List.mem_cons_of_mem _ member)
    have right := (listedRight_added_iff notVms).mpr (clear entry List.mem_cons_self)
    unfold addedBy at rest ⊢
    cases found : added context entry with
    | none =>
      rw [found] at right
      have hidden : entry.listed = false := right
      rw [List.filterMap_cons_none found, List.filter_cons_of_neg (by simp [hidden])]
      exact rest
    | some shown =>
      rw [found] at right
      obtain ⟨listed, shows⟩ := right
      rw [List.filterMap_cons_some found, List.filter_cons_of_pos listed]
      exact .cons shows rest

end LineState

end FileZilla
