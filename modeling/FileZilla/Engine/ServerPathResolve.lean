import FileZilla.Components
import FileZilla.Engine.ServerPathChange

namespace FileZilla

open List

namespace CServerPath

variable {type : ServerType}

def isRooted (type : ServerType) (text : WString) : Bool :=
  isSeparator type (text.headD 0)

def namesVolume (type : ServerType) (text : WString) : Bool :=
  match type with
  | .dos | .dosFwdSlashes => text.contains ':'.toNat
  | .vxworks => text.head? == some ':'.toNat
  | .cygwin => text.take 2 == wide "//"
  | _ => false

def drives (type : ServerType) : Nat :=
  if type = .dos ∨ type = .dosFwdSlashes then 1 else 0

def startsFrom (rooted : Bool) (path : CServerPath) : List WString :=
  if rooted then [] else path.segments.drop (drives path.type)

def components (type : ServerType) (text : WString) : List WString :=
  piecesBetween (isSeparator type) text

def resolved (rooted : Bool) (path : CServerPath) (text : WString) : List WString :=
  path.segments.take (drives path.type) ++
    resolve (startsFrom rooted path) (components path.type text)

structure StaysInVolume (path next : CServerPath) (text : WString) : Prop where
  volume : next.volume = path.volume
  segments : next.segments = resolved (isRooted path.type text) path text

/-- The text starts from the root: a VxWorks path can only do so with a device. -/
def startsFromRoot (type : ServerType) (text : WString) : Bool :=
  isRooted type text && type != .vxworks

/-- On a drive the text does not go up further than to its root. -/
def staysOnDrive (path : CServerPath) (text : WString) : Bool :=
  drives path.type == 0 || path.empty ||
    staysBelow (startsFrom (startsFromRoot path.type text) path).length
      (components path.type text)

/-- The result as the branches of `DoChangePath` have it: a rooted text leaves a Cygwin
share. -/
structure Resolved (path next : CServerPath) (text : WString) : Prop where
  volume : next.volume =
    if path.type = .cygwin ∧ isRooted path.type text = true then .none else path.volume
  segments : staysOnDrive path text = true →
    next.segments = resolved (startsFromRoot path.type text) path text

theorem foldl_addComponent (base pieces : List WString) :
    pieces.foldl (addComponent true) base = resolve base pieces := by
  induction pieces generalizing base with
  | nil => rfl
  | cons piece pieces induction =>
    rw [foldl_cons, induction, resolve, addComponent]
    simp only [true_and]
    split
    case isTrue => rfl
    case isFalse => split <;> rfl

variable {path : CServerPath} {text : WString}

theorem changePath_segments {next : CServerPath} {file : WString}
    (dots : (traits path.type).hasDots = true) (filled : text ≠ [])
    (changed : path.changePath text = .some (next, file)) :
    ∃ change, findChange path.type path.empty (path.data.getD noData) text false = .some change ∧
      next.volume = change.data.pathPrefix ∧
      next.segments = resolve change.data.segments (components path.type change.dir) := by
  have other : path.type ≠ .vms := by
    intro vms
    rw [vms] at dots
    cases dots
  rw [changePath, if_neg filled] at changed
  obtain ⟨change, found, segmentized⟩ := Option.bind_eq_some_iff.mp changed
  rw [segmentize_plain other, Option.bind_some, dots, foldl_addComponent] at segmentized
  obtain ⟨-, segmentized⟩ := of_refusal segmentized
  obtain ⟨-, segmentized⟩ := of_refusal segmentized
  cases segmentized
  exact ⟨change, found, rfl, rfl⟩

theorem volume_getD (path : CServerPath) : (path.data.getD noData).pathPrefix = path.volume := by
  obtain ⟨_ | data, type⟩ := path <;> rfl

theorem segments_getD (path : CServerPath) : (path.data.getD noData).segments = path.segments := by
  obtain ⟨_ | data, type⟩ := path <;> rfl

theorem components_drop (text : WString) (rooted : isRooted type text = true) :
    components type (text.drop 1) = components type text := by
  cases text with
  | nil =>
    rfl
  | cons first rest =>
    have separator : isSeparator type first = true := rooted
    exact (piecesBetween_cons separator rest).symm

structure Branch (path : CServerPath) (text : WString) (change : Change) : Prop where
  volume : change.data.pathPrefix =
    if path.type = .cygwin ∧ isRooted path.type text = true then .none else path.volume
  segments : change.data.segments =
    path.segments.take (drives path.type) ++ startsFrom (startsFromRoot path.type text) path
  components : components path.type change.dir = components path.type text

theorem branch_relative (relative : startsFromRoot path.type text = false)
    (kept : path.type = .cygwin → isRooted path.type text = false) :
    Branch path text { data := path.data.getD noData, dir := text } where
  volume := by
    rw [if_neg fun both => absurd (kept both.1) (by rw [both.2]; decide)]
    exact volume_getD path
  segments := by
    rw [relative, startsFrom, if_neg Bool.false_ne_true, take_append_drop]
    exact segments_getD path
  components := rfl

variable {change : Change}

theorem branch_default (undriven : drives path.type = 0) (other : path.type ≠ .cygwin)
    (rooted : startsFromRoot path.type text = isRooted path.type text)
    (found : changeDefault path.type path.empty (path.data.getD noData) text false =
      .some change) : Branch path text change := by
  unfold changeDefault at found
  split at found
  case isTrue root =>
    cases found
    have fromRoot : startsFromRoot path.type text = true := rooted.trans root
    refine ⟨?_, ?_, rfl⟩
    · rw [if_neg fun both => other both.1]
      exact volume_getD path
    · rw [undriven, fromRoot]
      rfl
  case isFalse relative =>
    obtain ⟨-, rfl⟩ := some_of_refusal found
    exact branch_relative (rooted.trans (Bool.eq_false_iff.mpr relative))
      (fun cygwin => absurd cygwin other)

theorem branch_vxworks (vxworks : path.type = .vxworks) (unnamed : text.head? ≠ .some ':'.toNat)
    (found : changeVxworks path.empty (path.data.getD noData) text false = .some change) :
    Branch path text change := by
  rw [changeVxworks, if_pos unnamed] at found
  obtain ⟨-, rfl⟩ := some_of_refusal found
  refine branch_relative ?_ fun cygwin => absurd (vxworks.symm.trans cygwin) (by decide)
  rw [startsFromRoot, vxworks]
  exact Bool.and_false _

theorem branch_cygwin (cygwin : path.type = .cygwin) (unnamed : text.take 2 ≠ wide "//")
    (found : changeCygwin path.empty (path.data.getD noData) text false = .some change) :
    Branch path text change := by
  have rooted : startsFromRoot path.type text = isRooted path.type text := by
    rw [startsFromRoot, cygwin]
    exact Bool.and_true _
  unfold changeCygwin at found
  split at found
  case isTrue root =>
    have single : text[1]? ≠ .some '/'.toNat := by
      intro double
      rcases text with - | ⟨first, - | ⟨second, rest⟩⟩
      · cases double
      · cases double
      · refine unnamed ?_
        have same : first = '/'.toNat := by
          simpa [isSeparator, traits, wide] using root
        rw [same, Option.some.inj double]
        rfl
    rw [if_neg single] at found
    cases found
    have isRoot : isRooted path.type text = true := by
      rw [cygwin]
      exact root
    refine ⟨?_, ?_, rfl⟩
    · rw [if_pos ⟨cygwin, isRoot⟩]
    · rw [rooted, isRoot, cygwin]
      rfl
  case isFalse relative =>
    have notRoot : isRooted path.type text = false := by
      rw [cygwin]
      exact Bool.eq_false_iff.mpr relative
    obtain ⟨-, rfl⟩ := some_of_refusal found
    exact branch_relative (rooted.trans notRoot) fun _ => notRoot

theorem branch_dos (dos : path.type = .dos ∨ path.type = .dosFwdSlashes)
    (unnamed : text.contains ':'.toNat = false)
    (found : changeDos path.type (path.data.getD noData) text false = .some change) :
    Branch path text change := by
  have notCygwin : path.type ≠ .cygwin := by
    rcases dos with same | same <;> rw [same] <;> decide
  have rooted : startsFromRoot path.type text = isRooted path.type text := by
    rcases dos with same | same <;> rw [startsFromRoot, same] <;> exact Bool.and_true _
  have noColon : text.findIdx? (· == ':'.toNat) = .none := by
    rw [findIdx?_eq_none_iff]
    intro char member
    rw [beq_eq_false_iff_ne]
    rintro rfl
    exact absurd (contains_iff_mem.mpr member) (by rw [unnamed]; decide)
  have drive : dosDrive path.type (path.data.getD noData) text = .some (text, false) := by
    rw [dosDrive, noColon]
  rw [changeDos, drive] at found
  dsimp only at found
  rw [if_neg Bool.false_ne_true] at found
  split at found
  case isTrue root =>
    have isRoot : isRooted path.type text = true := root
    split at found
    case h_1 => contradiction
    case h_2 first rest segments =>
      cases found
      rw [segments_getD] at segments
      refine ⟨?_, ?_, components_drop text isRoot⟩
      · rw [if_neg fun both => notCygwin both.1]
        exact volume_getD path
      · rw [rooted, isRoot, segments, drives, if_pos dos]
        rfl
  case isFalse relative =>
    cases found
    exact branch_relative (rooted.trans (Bool.eq_false_iff.mpr relative))
      fun cygwin => absurd cygwin notCygwin

theorem branch_of_findChange (dots : (traits path.type).hasDots = true)
    (unnamed : namesVolume path.type text = false)
    (found : findChange path.type path.empty (path.data.getD noData) text false =
      .some change) : Branch path text change := by
  cases type : path.type <;> rw [type] at dots unnamed found
  case vms | mvs | hpnonstop => cases dots
  case dos => exact branch_dos (.inl type) unnamed (by rw [type]; exact found)
  case dosFwdSlashes => exact branch_dos (.inr type) unnamed (by rw [type]; exact found)
  case vxworks => exact branch_vxworks type (beq_eq_false_iff_ne.mp unnamed) found
  case cygwin => exact branch_cygwin type (beq_eq_false_iff_ne.mp unnamed) found
  all_goals
    refine branch_default ?_ ?_ ?_ (by rw [type]; exact found)
    · rw [type]
      rfl
    · rw [type]
      decide
    · rw [startsFromRoot, type]
      exact Bool.and_true _

/-- Going up stays in the volume and, where it does not climb over it, on the drive. -/
theorem changePath_resolved {path next : CServerPath} {text file : WString}
    (dots : (traits path.type).hasDots = true) (unnamed : namesVolume path.type text = false)
    (changed : path.changePath text = .some (next, file)) : Resolved path next text := by
  by_cases missing : text = []
  · subst missing
    unfold changePath at changed
    rw [if_pos rfl] at changed
    obtain ⟨-, changed⟩ := of_refusal changed
    cases changed
    have notRoot : isRooted path.type [] = false := by cases path.type <;> rfl
    refine ⟨(if_neg fun both => absurd both.2 (by rw [notRoot]; decide)).symm, fun _ => ?_⟩
    rw [resolved, startsFromRoot, notRoot, Bool.false_and, startsFrom,
      if_neg Bool.false_ne_true]
    exact (take_append_drop _ _).symm
  · obtain ⟨change, found, volume, segments⟩ := changePath_segments dots missing changed
    have branch := branch_of_findChange dots unnamed found
    refine ⟨volume.trans branch.volume, fun stays => ?_⟩
    rw [segments, branch.segments, branch.components, resolved]
    rcases Bool.or_eq_true_iff.mp stays with undriven | below
    · have drive : path.segments.take (drives path.type) = [] := by
        rcases Bool.or_eq_true_iff.mp undriven with noDrive | empty
        · rw [beq_iff_eq.mp noDrive, take_zero]
        · obtain ⟨_ | data, type⟩ := path
          · exact take_nil
          · cases empty
      rw [drive, nil_append, nil_append]
    · exact resolve_above _ _ _ below

def pathOf (type : ServerType) (volume : Option String) (segments : List String) : CServerPath where
  data := some { segments := segments.map wide, pathPrefix := volume.map wide }
  type := type

theorem changePath_resolved_top :
    Resolved (pathOf .unix .none ["home"]) (pathOf .unix .none ["a"]) (wide "../../a") := by
  have changed : (pathOf .unix .none ["home"]).changePath (wide "../../a") =
      .some (pathOf .unix .none ["a"], wide "../../a") := by decide
  exact changePath_resolved rfl rfl changed

/-- A rooted text leaves a Cygwin share, does not get to the root of a VxWorks device, and
two steps up from `c:\bar` remove the drive. -/
theorem changePath_not_inVolume :
    ((pathOf .cygwin "/" ["srv"]).changePath (wide "/foo") =
        some (pathOf .cygwin .none ["foo"], wide "/foo") ∧
      ¬ StaysInVolume (pathOf .cygwin "/" ["srv"]) (pathOf .cygwin .none ["foo"]) (wide "/foo")) ∧
    ((pathOf .vxworks ":dev:" ["a"]).changePath (wide "/foo") =
        some (pathOf .vxworks ":dev:" ["a", "foo"], wide "/foo") ∧
      ¬ StaysInVolume (pathOf .vxworks ":dev:" ["a"]) (pathOf .vxworks ":dev:" ["a", "foo"])
        (wide "/foo")) ∧
    ((pathOf .dos .none ["c:", "bar"]).changePath (wide "..\\..\\x") =
        some (pathOf .dos .none ["x"], wide "..\\..\\x") ∧
      ¬ StaysInVolume (pathOf .dos .none ["c:", "bar"]) (pathOf .dos .none ["x"])
        (wide "..\\..\\x")) := by
  refine ⟨⟨by decide, fun stays => ?_⟩, ⟨by decide, fun stays => ?_⟩, by decide, fun stays => ?_⟩
  · cases stays.volume
  · cases stays.segments
  · cases stays.segments

end CServerPath

end FileZilla
