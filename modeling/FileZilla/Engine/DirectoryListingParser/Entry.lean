import FileZilla.Engine.DirectoryListing
import FileZilla.Engine.DirectoryListingParser.Token
import FileZilla.FieldWriters
import Mathlib.Data.Finset.Basic
import Mathlib.Data.Fintype.Defs

namespace FileZilla

/-! The steps that the parsers of all formats are made of. They write into one entry, and
what a parser has written stays when it returns false. -/

/-- The class `fz::datetime`. Its setters tell whether they have succeeded; what a setter
leaves when it fails is not known either. -/
structure DateLibrary (Time : Type) where
  set : (year month day hour minute : Int) → Option Time
  afterFailedSet : Option Time → Option Time
  imbueTime : Time → (hour minute second : Int) → Bool × Time
  ofTimeT : Int → Option Time
  ofString : WString → Option Time
  /-- Adds milliseconds. -/
  add : Time → Int → Time
  /-- Year, month and day -/
  getTm : Time → Int × Int × Int
  today : Int × Int × Int

structure ListingContext (Time : Type) where
  dates : DateLibrary Time
  serverType : ServerType
  /-- In minutes -/
  serverTimezoneOffset : Int
  /-- In milliseconds -/
  timezoneOffset : Int
  limit : Nat

inductive EntryField
  | name
  | size
  | permissions
  | ownerGroup
  | target
  | time
  | flags
  deriving DecidableEq

instance : Fintype EntryField where
  elems := {.name, .size, .permissions, .ownerGroup, .target, .time, .flags}
  complete := by
    rintro (_ | _ | _ | _ | _ | _ | _)
    all_goals decide

variable {Time : Type}

def CDirentry.AgreeOn : EntryField → CDirentry Time → CDirentry Time → Prop
  | .name, left, right => left.name = right.name
  | .size, left, right => left.size = right.size
  | .permissions, left, right => left.permissions = right.permissions
  | .ownerGroup, left, right => left.ownerGroup = right.ownerGroup
  | .target, left, right => left.target = right.target
  | .time, left, right => left.time = right.time
  | .flags, left, right =>
    left.isDir = right.isDir ∧ left.isLink = right.isLink ∧ left.isUnsure = right.isUnsure

abbrev EntryParser (Time : Type) := Rejecting (CDirentry Time)

open CDirentry

namespace EntryParser

open Rejecting

def getToken (line : CLine) (n : Nat) : EntryParser Time CToken :=
  ofOption (line.getToken? n)

def getEndToken (line : CLine) (n : Nat) : EntryParser Time CToken :=
  ofOption (line.getEndToken? n)

def setName (name : WString) : EntryParser Time Unit :=
  modify fun entry => { entry with name }

def setSize (size : Int) : EntryParser Time Unit :=
  modify fun entry => { entry with size }

def setPermissions (permissions : WString) : EntryParser Time Unit :=
  modify fun entry => { entry with permissions }

def setOwnerGroup (ownerGroup : WString) : EntryParser Time Unit :=
  modify fun entry => { entry with ownerGroup }

def setTarget (target : Option WString) : EntryParser Time Unit :=
  modify fun entry => { entry with target }

def setTime (time : Option Time) : EntryParser Time Unit :=
  modify fun entry => { entry with time }

def clearFlags : EntryParser Time Unit :=
  modify fun entry => { entry with isDir := false, isLink := false, isUnsure := false }

def addDir (isDir : Bool) : EntryParser Time Unit :=
  modify fun entry => { entry with isDir := entry.isDir || isDir }

def addLink (isLink : Bool) : EntryParser Time Unit :=
  modify fun entry => { entry with isLink := entry.isLink || isLink }

/-- `entry.time += m_timezoneOffset`, which leaves an empty time empty. -/
def addTimezoneOffset (context : ListingContext Time) : EntryParser Time Unit :=
  modify fun entry =>
    { entry with time := entry.time.map (context.dates.add · context.timezoneOffset) }

def readTime : EntryParser Time (Option Time) :=
  read time

/-- `entry.time.set` in UTC -/
def setDate (context : ListingContext Time) (year month day hour minute : Int) :
    EntryParser Time Unit :=
  match context.dates.set year month day hour minute with
  | some time => setTime (some time)
  | none => do
      modify fun entry => { entry with time := context.dates.afterFailedSet entry.time }
      failure

/-- The given fields, and of the time only whether there is one. -/
def mask (fields : Finset EntryField) (entry : CDirentry Time) : CDirentry Unit where
  name := if .name ∈ fields then entry.name else []
  size := if .size ∈ fields then entry.size else -1
  permissions := if .permissions ∈ fields then entry.permissions else []
  ownerGroup := if .ownerGroup ∈ fields then entry.ownerGroup else []
  target := if .target ∈ fields then entry.target else none
  time := if .time ∈ fields then entry.time.map fun _ => () else none
  isDir := .flags ∈ fields && entry.isDir
  isLink := .flags ∈ fields && entry.isLink
  isUnsure := .flags ∈ fields && entry.isUnsure

/-- The step writes in no other fields. -/
class Writes (written : outParam (Finset EntryField)) {α : Type} (step : EntryParser Time α) :
    Prop where
  keeps : ∀ {fields}, Disjoint written fields → Keeps (mask fields) step

section
variable {α β : Type} {written whole : Finset EntryField} {first second : EntryParser Time α}

theorem Writes.none (kept : ∀ {fields}, Keeps (mask fields) first) : Writes whole first :=
  ⟨fun _ => kept⟩

theorem Writes.pure (value : α) : Writes whole (pure value : EntryParser Time α) :=
  .none (.pure value)

theorem Writes.failure : Writes whole (failure : EntryParser Time α) :=
  .none .failure

instance (condition : Prop) [Decidable condition] :
    Writes ∅ (require condition : EntryParser Time Unit) :=
  .none (.require condition)

instance (result : Option α) : Writes ∅ (ofOption result : EntryParser Time α) :=
  .none (.ofOption result)

instance [writes : Writes written first] : Writes written (attempt first) :=
  ⟨fun apart => (writes.keeps apart).attempt⟩

theorem Writes.modify {field : EntryField} {change : CDirentry Time → CDirentry Time}
    (kept : ∀ fields entry, field ∉ fields → mask fields (change entry) = mask fields entry) :
    Writes {field} (modify change : EntryParser Time PUnit) :=
  ⟨fun apart => .modify fun entry => kept _ entry (Finset.disjoint_singleton_left.mp apart)⟩

theorem Writes.within [writes : Writes written first] (subset : written ⊆ whole) :
    Writes whole first :=
  ⟨fun apart => writes.keeps (Finset.disjoint_of_subset_left subset apart)⟩

theorem Writes.step [writes : Writes written first] {next : α → EntryParser Time β}
    (subset : written ⊆ whole) (rest : ∀ value, Writes whole (next value)) :
    Writes whole (first >>= next) :=
  ⟨fun apart => ((writes.within subset).keeps apart).bind fun value => (rest value).keeps apart⟩

theorem Writes.ofOption_bind {result : Option α} {next : α → EntryParser Time β}
    (rest : ∀ value, result = some value → Writes whole (next value)) :
    Writes whole (ofOption result >>= next) :=
  ⟨fun apart => .ofOption_bind fun value found => (rest value found).keeps apart⟩

theorem Writes.ite {condition : Prop} [Decidable condition]
    (whenTrue : condition → Writes whole first) (whenFalse : ¬ condition → Writes whole second) :
    Writes whole (if condition then first else second) :=
  ⟨fun apart => .ite (fun holds => (whenTrue holds).keeps apart) fun fails =>
    (whenFalse fails).keeps apart⟩

end

instance (line : CLine) (n : Nat) : Writes ∅ (getToken line n : EntryParser Time CToken) :=
  inferInstanceAs (Writes ∅ (ofOption _))

instance (line : CLine) (n : Nat) : Writes ∅ (getEndToken line n : EntryParser Time CToken) :=
  inferInstanceAs (Writes ∅ (ofOption _))

instance (name : WString) : Writes {.name} (setName name : EntryParser Time Unit) :=
  .modify fun _ _ other => by simp [mask, other]

instance (size : Int) : Writes {.size} (setSize size : EntryParser Time Unit) :=
  .modify fun _ _ other => by simp [mask, other]

instance (permissions : WString) :
    Writes {.permissions} (setPermissions permissions : EntryParser Time Unit) :=
  .modify fun _ _ other => by simp [mask, other]

instance (ownerGroup : WString) :
    Writes {.ownerGroup} (setOwnerGroup ownerGroup : EntryParser Time Unit) :=
  .modify fun _ _ other => by simp [mask, other]

instance (target : Option WString) :
    Writes {.target} (setTarget target : EntryParser Time Unit) :=
  .modify fun _ _ other => by simp [mask, other]

theorem changeTime_writes (change : Option Time → Option Time) :
    Writes {.time}
      (modify fun entry => { entry with time := change entry.time } : EntryParser Time PUnit) :=
  .modify fun _ _ other => by simp [mask, other]

instance (time : Option Time) : Writes {.time} (setTime time) :=
  changeTime_writes fun _ => time

instance : Writes {.flags} (clearFlags : EntryParser Time Unit) :=
  .modify fun _ _ other => by simp [mask, other]

instance (isDir : Bool) : Writes {.flags} (addDir isDir : EntryParser Time Unit) :=
  .modify fun _ _ other => by simp [mask, other]

instance (isLink : Bool) : Writes {.flags} (addLink isLink : EntryParser Time Unit) :=
  .modify fun _ _ other => by simp [mask, other]

instance (context : ListingContext Time) : Writes ∅ (addTimezoneOffset context) :=
  .none (.modify fun entry => by simp [mask, Function.comp_def])

instance : Writes ∅ (readTime : EntryParser Time (Option Time)) :=
  .none (.read _)

instance (context : ListingContext Time) (year month day hour minute : Int) :
    Writes {.time} (setDate context year month day hour minute) := by
  unfold setDate
  split
  · infer_instance
  · exact (changeTime_writes _).step (Finset.Subset.refl _) fun _ => .failure

abbrev Determines (before : Finset EntryField) {α : Type} (written : α → Finset EntryField)
    (parser : EntryParser Time α) : Prop :=
  Determined AgreeOn before written parser

/-- Knowing the fields `reads`, the step determines the settled ones too. -/
class Settles (reads : outParam (Finset EntryField)) {α : Type}
    (settled : outParam (α → Finset EntryField)) (step : EntryParser Time α) : Prop where
  determined : ∀ {before}, reads ⊆ before → Determines before settled step

section
variable {α : Type} {settled : α → Finset EntryField} {step : EntryParser Time α}

theorem Settles.of (determined : ∀ {before}, Determines before settled step) :
    Settles ∅ settled step :=
  ⟨fun _ => determined⟩

instance (condition : Prop) [Decidable condition] :
    Settles ∅ (fun _ => ∅) (require condition : EntryParser Time Unit) :=
  .of (.require condition)

instance (result : Option α) : Settles ∅ (fun _ => ∅) (ofOption result : EntryParser Time α) :=
  .of (.ofOption result)

end

end EntryParser

namespace Rejecting

open EntryParser

variable {α β : Type} {first : EntryParser Time α}

section
variable {written fields : Finset EntryField} [writes : Writes written first]

theorem Keeps.step {next : α → EntryParser Time β} (apart : decide (Disjoint written fields) = true)
    (rest : ∀ value, Keeps (mask fields) (next value)) : Keeps (mask fields) (first >>= next) :=
  (writes.keeps (of_decide_eq_true apart)).bind rest

theorem Keeps.last (apart : decide (Disjoint written fields) = true) : Keeps (mask fields) first :=
  writes.keeps (of_decide_eq_true apart)

end

variable {reads before : Finset EntryField} {settled : α → Finset EntryField}
  [settles : Settles reads settled first]

theorem Determined.step {written : β → Finset EntryField} {next : α → EntryParser Time β}
    (known : decide (reads ⊆ before) = true)
    (rest : ∀ value, Determines (before ∪ settled value) written (next value)) :
    Determines before written (first >>= next) :=
  (settles.determined (of_decide_eq_true known)).bind rest

theorem Determined.last {written : α → Finset EntryField} (known : decide (reads ⊆ before) = true)
    (subset : ∀ value, written value ⊆ before ∪ settled value) :
    Determines before written first :=
  (settles.determined (of_decide_eq_true known)).weaken subset

end Rejecting

namespace EntryParser

open Rejecting

theorem write_settles {field : EntryField} {change : CDirentry Time → CDirentry Time}
    (written : ∀ left right, AgreeOn field (change left) (change right))
    (others : ∀ other left right, other ≠ field → AgreeOn other left right →
      AgreeOn other (change left) (change right) := by
        rintro (_ | _ | _ | _ | _ | _ | _) left right other same
        all_goals first | exact absurd rfl other | exact same) :
    Settles ∅ (fun _ => {field}) (modify change : EntryParser Time PUnit) := by
  refine .of (.modify fun left right agree other member => ?_)
  by_cases same : other = field
  · exact same ▸ written left right
  · rcases Finset.mem_union.mp member with earlier | new
    · exact others other left right same (agree other earlier)
    · exact absurd (Finset.mem_singleton.mp new) same

instance (line : CLine) (n : Nat) :
    Settles ∅ (fun _ => ∅) (getToken line n : EntryParser Time CToken) :=
  inferInstanceAs (Settles ∅ _ (ofOption _))

instance (line : CLine) (n : Nat) :
    Settles ∅ (fun _ => ∅) (getEndToken line n : EntryParser Time CToken) :=
  inferInstanceAs (Settles ∅ _ (ofOption _))

instance (name : WString) :
    Settles ∅ (fun _ => {.name}) (setName name : EntryParser Time Unit) :=
  write_settles fun _ _ => rfl

instance (size : Int) :
    Settles ∅ (fun _ => {.size}) (setSize size : EntryParser Time Unit) :=
  write_settles fun _ _ => rfl

instance (permissions : WString) :
    Settles ∅ (fun _ => {.permissions}) (setPermissions permissions : EntryParser Time Unit) :=
  write_settles fun _ _ => rfl

instance (ownerGroup : WString) :
    Settles ∅ (fun _ => {.ownerGroup}) (setOwnerGroup ownerGroup : EntryParser Time Unit) :=
  write_settles fun _ _ => rfl

instance (target : Option WString) :
    Settles ∅ (fun _ => {.target}) (setTarget target : EntryParser Time Unit) :=
  write_settles fun _ _ => rfl

instance (time : Option Time) : Settles ∅ (fun _ => {.time}) (setTime time) :=
  write_settles fun _ _ => rfl

instance : Settles ∅ (fun _ => {.flags}) (clearFlags : EntryParser Time Unit) :=
  write_settles fun _ _ => ⟨rfl, rfl, rfl⟩

theorem change_settles {change : CDirentry Time → CDirentry Time}
    (changes : ∀ field left right, AgreeOn field left right →
      AgreeOn field (change left) (change right)) :
    Settles ∅ (fun _ => ∅) (modify change : EntryParser Time PUnit) := by
  refine .of (.modify fun left right agree field member => ?_)
  rw [Finset.union_empty] at member
  exact changes field left right (agree field member)

instance (isDir : Bool) : Settles ∅ (fun _ => ∅) (addDir isDir : EntryParser Time Unit) := by
  refine change_settles ?_
  rintro (_ | _ | _ | _ | _ | _ | _) left right same
  case flags => exact ⟨congrArg (· || isDir) same.1, same.2⟩
  all_goals exact same

instance (isLink : Bool) : Settles ∅ (fun _ => ∅) (addLink isLink : EntryParser Time Unit) := by
  refine change_settles ?_
  rintro (_ | _ | _ | _ | _ | _ | _) left right same
  case flags => exact ⟨same.1, congrArg (· || isLink) same.2.1, same.2.2⟩
  all_goals exact same

theorem changeTime_settles (change : Option Time → Option Time) :
    Settles ∅ (fun _ => ∅)
      (modify fun entry => { entry with time := change entry.time } :
        EntryParser Time PUnit) := by
  refine change_settles ?_
  rintro (_ | _ | _ | _ | _ | _ | _) left right same
  case time => exact congrArg change same
  all_goals exact same

instance (context : ListingContext Time) :
    Settles ∅ (fun _ => ∅) (addTimezoneOffset context) :=
  changeTime_settles _

instance : Settles {.time} (fun _ => ∅) (readTime : EntryParser Time (Option Time)) :=
  ⟨fun known => .read fun _ _ agree => agree .time (known (Finset.mem_singleton_self _))⟩

instance (context : ListingContext Time) (year month day hour minute : Int) :
    Settles ∅ (fun _ => {.time}) (setDate context year month day hour minute) := by
  unfold setDate
  split
  · infer_instance
  · exact .of (.bind ((changeTime_settles _).determined (Finset.empty_subset _)) fun _ => .failure)

end EntryParser

end FileZilla
