import FileZilla.Engine.LocalPath
import FileZilla.Ordering
import FileZilla.SegmentOrder
import FileZilla.Stricmp

namespace FileZilla

namespace LocalPath

inductive Build
  | posix
  | windows
  deriving DecidableEq

namespace Build

def separator : Build → WChar
  | posix => '/'.toNat
  | windows => '\\'.toNat

def separators : Build → List WChar
  | posix => wide "/"
  | windows => wide "/\\"

end Build

section

variable (towlower : WChar → WChar)

def equal (build : Build) (left right : WString) : Bool :=
  match build with
  | .posix => left == right
  | .windows => stricmp towlower left right == .eq

/-- What `fz::strtokenizer` gives if empty tokens are not ignored. -/
def tokens (separator : WChar) (text : WString) : List WString :=
  let parts := text.splitOnP (· == separator)
  if parts.getLast? = some [] then parts.dropLast else parts

def compareSegment (caseSensitive : Bool) (left right : WString) : Ordering :=
  (if caseSensitive then .eq else stricmp towlower left right).then (compare left right)

def doCompare (caseSensitive : Bool) (separator : WChar) (left right : WString) : Ordering :=
  (tokens separator left).compareLex (compareSegment towlower caseSensitive)
    (tokens separator right)

def less (build : Build) (left right : WString) : Bool :=
  doCompare towlower (build == .posix) build.separator left right == .lt

def isParentOf (build : Build) (self path : WString) : Bool :=
  if self = [] ∨ path = [] then false
  else if path.length ≤ self.length then false
  else equal towlower build self (path.take self.length)

end

structure Named (build : Build) (name : WString) : Prop where
  filled : name ≠ []
  clean : ∀ char ∈ name, char ∉ build.separators ∧ char ≠ 0
  noDots : name ≠ wide "." ∧ name ≠ wide ".."

/-- What stands before the directories: nothing, a drive or a server -/
inductive Root : Build → List WString → Prop
  | posix : Root .posix [[]]
  | drive {letter : Nat} (isLetter : 65 ≤ letter ∧ letter ≤ 90 ∨ 97 ≤ letter ∧ letter ≤ 122) :
      Root .windows [[letter, ':'.toNat]]
  | server {server : WString} (filled : server ≠ [])
      (clean : ∀ char ∈ server, char ∉ Build.windows.separators ∧ char ≠ 0) :
      Root .windows [[], [], server]

/-- The parts that a canonical path has a separator behind each of; a Windows path can be only
a separator. -/
inductive CanonicalTokens : Build → List WString → Prop
  | below {build : Build} {root names : List WString} (isRoot : Root build root)
      (named : ∀ name ∈ names, Named build name) : CanonicalTokens build (root ++ names)
  | drives : CanonicalTokens .windows [[]]

/-- A path as `SetPath` leaves it -/
def Canonical (build : Build) (path : WString) : Prop :=
  ∃ parts, CanonicalTokens build parts ∧ path = terminate build.separator parts

structure KeepsSubtrees (towlower : WChar → WChar) (build : Build) (path other : WString) :
    Prop where
  trichotomy :
    (less towlower build path other = true ∧ less towlower build other path = false ∧
      equal towlower build path other = false) ∨
    (less towlower build path other = false ∧ less towlower build other path = true ∧
      equal towlower build path other = false) ∨
    (less towlower build path other = false ∧ less towlower build other path = false ∧
      equal towlower build path other = true)
  trans : ∀ third, Canonical build third → less towlower build path other = true →
    less towlower build other third = true → less towlower build path third = true
  after : isParentOf towlower build path other = true → less towlower build path other = true
  between : isParentOf towlower build path other = true → ∀ middle, Canonical build middle →
    less towlower build path middle = true → less towlower build middle other = true →
    isParentOf towlower build path middle = true

/-- In the Windows build, without regard to case the path is a beginning of the other one, but
not exactly. -/
structure CaseClash (towlower : WChar → WChar) (build : Build) (path other : WString) : Prop where
  windows : build = .windows
  folded : foldCase towlower path <+: foldCase towlower other
  differs : ¬ path <+: other

open List

section

variable {build : Build} {parts : List WString}

theorem separator_mem (build : Build) : build.separator ∈ build.separators := by
  cases build <;> decide

theorem letter_plain {letter : Nat}
    (isLetter : 65 ≤ letter ∧ letter ≤ 90 ∨ 97 ≤ letter ∧ letter ≤ 122) :
    letter ≠ 0 ∧ ¬ (letter = 47 ∨ letter = 92) := by
  omega

theorem Root.clean {root : List WString} (isRoot : Root build root) :
    ∀ part ∈ root, ∀ char ∈ part, char ∉ build.separators ∧ char ≠ 0 := by
  intro part member char inside
  cases isRoot with
  | posix =>
    rw [mem_singleton.mp member] at inside
    exact absurd inside not_mem_nil
  | @drive letter isLetter =>
    rw [mem_singleton.mp member] at inside
    rcases mem_pair.mp inside with rfl | rfl
    · obtain ⟨shown, plain⟩ := letter_plain isLetter
      exact ⟨fun separates => plain (mem_pair.mp separates), shown⟩
    · decide
  | server filled clean =>
    rcases mem_cons.mp member with rfl | later
    · exact absurd inside not_mem_nil
    · rcases mem_pair.mp later with rfl | rfl
      · exact absurd inside not_mem_nil
      · exact clean char inside

theorem CanonicalTokens.clean (canonical : CanonicalTokens build parts) :
    ∀ part ∈ parts, ∀ char ∈ part, char ∉ build.separators ∧ char ≠ 0 := by
  intro part member char inside
  cases canonical with
  | below isRoot named =>
    rcases mem_append.mp member with inRoot | inNames
    · exact isRoot.clean part inRoot char inside
    · exact (named part inNames).clean char inside
  | drives =>
    rw [mem_singleton.mp member] at inside
    exact absurd inside not_mem_nil

theorem CanonicalTokens.filled (canonical : CanonicalTokens build parts) : parts ≠ [] := by
  cases canonical with
  | below isRoot => cases isRoot <;> simp
  | drives => simp

theorem CanonicalTokens.separatorFree (canonical : CanonicalTokens build parts) :
    ∀ part ∈ parts, build.separator ∉ part := fun part member inside =>
  (canonical.clean part member _ inside).1 (separator_mem build)

theorem CanonicalTokens.zeroFree (canonical : CanonicalTokens build parts) :
    ∀ part ∈ parts, 0 ∉ part := fun part member inside =>
  (canonical.clean part member _ inside).2 rfl

theorem CanonicalTokens.zeroFree_terminate (canonical : CanonicalTokens build parts) :
    0 ∉ terminate build.separator parts := by
  intro member
  obtain ⟨part, isPart, inside⟩ := mem_flatMap.mp member
  rcases mem_append.mp inside with inPart | separator
  · exact canonical.zeroFree part isPart inPart
  · refine absurd (mem_singleton.mp separator) ?_
    cases build <;> decide

theorem tokens_terminate (canonical : CanonicalTokens build parts) :
    tokens build.separator (terminate build.separator parts) = parts := by
  have split : (terminate build.separator parts).splitOnP (· == build.separator) =
      parts ++ [[]] := by
    refine @splitOnP_terminate _ (· == build.separator) _ (beq_self_eq_true _) _ ?_
    intro part member char inside
    rw [beq_eq_false_iff_ne]
    rintro rfl
    exact canonical.separatorFree part member inside
  simp [tokens, split]

theorem CanonicalTokens.take {others : List WString} {kind : WString → WString}
    (keepsLength : ∀ text, (kind text).length = text.length)
    (canonical : CanonicalTokens build parts) (canonicalOther : CanonicalTokens build others)
    (extended : parts.map kind <+: others.map kind) :
    CanonicalTokens build (others.take parts.length) := by
  have positive := length_pos_iff.mpr canonical.filled
  cases canonicalOther with
  | drives =>
    have length := extended.length_le
    simp only [length_map, length_singleton] at length
    rw [take_of_length_le (Nat.succ_le_of_lt positive)]
    exact .drives
  | @below _ root names isRoot named =>
    by_cases whole : root.length ≤ parts.length
    · rw [take_append, take_of_length_le whole]
      exact .below isRoot fun name member => named name (mem_of_mem_take member)
    · -- Only the two empty parts before a server can be cut off from it.
      cases isRoot with
      | posix => exact absurd (Nat.succ_le_of_lt positive) whole
      | drive => exact absurd (Nat.succ_le_of_lt positive) whole
      | @server name filled clean =>
        have single : parts.length = 1 := by
          by_contra more
          have two : parts.length = 2 := by
            simp only [length_cons, length_nil] at whole
            omega
          obtain ⟨first, second, rfl⟩ := length_eq_two.mp two
          have kinds := extended
          simp only [cons_append, map_cons, cons_prefix_cons] at kinds
          have firstLength := congrArg length kinds.1
          have secondLength := congrArg length kinds.2.1
          rw [keepsLength, keepsLength] at firstLength secondLength
          generalize form : [first, second] = both at canonical
          cases canonical with
          | drives => cases form
          | @below _ root names isRoot named =>
            cases isRoot with
            | drive =>
              cases form
              cases firstLength
            | server => cases form
        rw [single]
        exact .drives

end

section

variable {towlower : WChar → WChar} {build : Build} {left right : List WString}

def folding (towlower : WChar → WChar) : Build → WChar → WChar
  | .posix => id
  | .windows => towlower

def segmentOrder (fold : WChar → WChar) : WString → WString → Ordering :=
  compareLex (compareOn (foldCase fold)) compare

instance (fold : WChar → WChar) : Std.TransCmp (segmentOrder fold) :=
  inferInstanceAs (Std.TransCmp (compareLex (compareOn (foldCase fold)) compare))

instance (fold : WChar → WChar) : Std.LawfulEqCmp (segmentOrder fold) where
  eq_of_compare same := Std.LawfulEqCmp.eq_of_compare (compareLex_eq_eq.mp same).2

theorem foldCase_id (text : WString) : foldCase id text = text :=
  map_id text

theorem compareSegment_eq (zero : ∀ char, towlower char = 0 → char = 0) {segment other : WString}
    (clean : 0 ∉ segment) :
    compareSegment towlower (build == .posix) segment other =
      segmentOrder (folding towlower build) segment other := by
  cases build with
  | posix =>
    change compare segment other = (compare (foldCase id segment) (foldCase id other)).then
      (compare segment other)
    rw [foldCase_id, foldCase_id]
    cases compare segment other <;> rfl
  | windows =>
    change (stricmp towlower segment other).then (compare segment other) = _
    rw [stricmp_eq_compare zero clean]
    rfl

theorem compareLex_congr {cmp cmp' : WString → WString → Ordering}
    (same : ∀ segment ∈ left, ∀ other, cmp segment other = cmp' segment other)
    (right : List WString) : left.compareLex cmp right = left.compareLex cmp' right := by
  induction left generalizing right with
  | nil => cases right <;> rfl
  | cons segment left induction =>
    cases right with
    | nil => rfl
    | cons other right =>
      rw [List.compareLex_cons_cons, List.compareLex_cons_cons, same segment List.mem_cons_self,
        induction fun segment member => same segment (mem_cons_of_mem _ member)]

theorem less_iff (zero : ∀ char, towlower char = 0 → char = 0)
    (canonical : CanonicalTokens build left) (canonicalRight : CanonicalTokens build right) :
    less towlower build (terminate build.separator left) (terminate build.separator right) = true ↔
      left.compareLex (segmentOrder (folding towlower build)) right = .lt := by
  rw [less, doCompare, tokens_terminate canonical, tokens_terminate canonicalRight, beq_iff_eq,
    compareLex_congr fun segment member _ =>
      compareSegment_eq zero (canonical.zeroFree segment member)]

theorem equal_iff (zero : ∀ char, towlower char = 0 → char = 0) {path other : WString}
    (clean : 0 ∉ path) :
    equal towlower build path other = true ↔
      foldCase (folding towlower build) path = foldCase (folding towlower build) other := by
  cases build with
  | posix =>
    change (path == other) = true ↔ foldCase id path = foldCase id other
    rw [foldCase_id, foldCase_id, beq_iff_eq]
  | windows =>
    change (stricmp towlower path other == .eq) = true ↔ _
    rw [beq_iff_eq]
    exact stricmp_eq_iff zero clean

theorem foldCase_terminate (fold : WChar → WChar) (separator : WChar) (parts : List WString) :
    foldCase fold (terminate separator parts) =
      terminate (fold separator) (parts.map (foldCase fold)) := by
  induction parts with
  | nil => rfl
  | cons part parts induction =>
    rw [map_cons, terminate_cons, terminate_cons, ← induction]
    simp [foldCase]

theorem folded_separatorFree
    (separates : ∀ char, towlower char = towlower '\\'.toNat → char = '\\'.toNat)
    (canonical : CanonicalTokens build left) :
    ∀ part ∈ left.map (foldCase (folding towlower build)),
      folding towlower build build.separator ∉ part := by
  intro part member inside
  obtain ⟨segment, isSegment, rfl⟩ := mem_map.mp member
  obtain ⟨char, inSegment, same⟩ := mem_map.mp inside
  have isSeparator : char = build.separator := by
    cases build with
    | posix => exact same
    | windows => exact separates char same
  rw [isSeparator] at inSegment
  exact canonical.separatorFree segment isSegment inSegment

theorem folded_extends_iff
    (separates : ∀ char, towlower char = towlower '\\'.toNat → char = '\\'.toNat)
    (canonical : CanonicalTokens build left) (canonicalRight : CanonicalTokens build right) :
    foldCase (folding towlower build) (terminate build.separator left) <+:
        foldCase (folding towlower build) (terminate build.separator right) ↔
      left.map (foldCase (folding towlower build)) <+:
        right.map (foldCase (folding towlower build)) := by
  rw [foldCase_terminate, foldCase_terminate]
  exact extends_terminate_iff (folded_separatorFree separates canonical)
    (folded_separatorFree separates canonicalRight)

theorem eq_of_extends {α : Type} {left right : List α} (extended : left <+: right)
    (back : right <+: left) : left = right :=
  extended.eq_of_length_le back.length_le

theorem folded_eq_iff
    (separates : ∀ char, towlower char = towlower '\\'.toNat → char = '\\'.toNat)
    (canonical : CanonicalTokens build left) (canonicalRight : CanonicalTokens build right) :
    foldCase (folding towlower build) (terminate build.separator left) =
        foldCase (folding towlower build) (terminate build.separator right) ↔
      left.map (foldCase (folding towlower build)) =
        right.map (foldCase (folding towlower build)) := by
  have extended := folded_extends_iff separates canonical canonicalRight
  have back := folded_extends_iff separates canonicalRight canonical
  constructor
  · intro same
    exact eq_of_extends (extended.mp ⟨[], (append_nil _).trans same⟩)
      (back.mp ⟨[], (append_nil _).trans same.symm⟩)
  · intro same
    exact eq_of_extends (extended.mpr ⟨[], (append_nil _).trans same⟩)
      (back.mpr ⟨[], (append_nil _).trans same.symm⟩)

theorem isParentOf_iff (zero : ∀ char, towlower char = 0 → char = 0)
    (separates : ∀ char, towlower char = towlower '\\'.toNat → char = '\\'.toNat)
    (canonical : CanonicalTokens build left) (canonicalRight : CanonicalTokens build right) :
    isParentOf towlower build (terminate build.separator left)
        (terminate build.separator right) = true ↔
      Below (foldCase (folding towlower build)) left right := by
  have nonempty : ∀ {parts : List WString}, CanonicalTokens build parts →
      terminate build.separator parts ≠ [] := by
    intro parts canonical
    obtain ⟨part, rest, rfl⟩ := exists_cons_of_ne_nil canonical.filled
    rw [terminate_cons]
    exact append_ne_nil_of_right_ne_nil _ (by simp)
  have whole := folded_eq_iff separates canonical canonicalRight
  have begins := folded_extends_iff separates canonical canonicalRight
  have taken : foldCase (folding towlower build) ((terminate build.separator right).take
      (terminate build.separator left).length) =
      (foldCase (folding towlower build) (terminate build.separator right)).take
        (foldCase (folding towlower build) (terminate build.separator left)).length := by
    rw [length_foldCase, foldCase, foldCase, map_take]
  rw [isParentOf, if_neg fun empty => empty.elim (nonempty canonical) (nonempty canonicalRight)]
  constructor
  · intro parent
    split at parent
    case isTrue => contradiction
    case isFalse longer =>
      rw [equal_iff zero canonical.zeroFree_terminate, taken,
        ← prefix_iff_eq_take, begins] at parent
      refine ⟨canonical.filled, parent, ?_⟩
      have length := parent.length_le
      rw [length_map, length_map] at length
      by_contra notLonger
      have same := whole.mpr (parent.eq_of_length (by
        rw [length_map, length_map]
        omega))
      have lengths := congrArg List.length same
      rw [length_foldCase, length_foldCase] at lengths
      exact longer (Nat.le_of_eq lengths.symm)
  · intro below
    have longer : ¬ (terminate build.separator right).length ≤
        (terminate build.separator left).length := by
      intro notLonger
      have same := whole.mp ((begins.mpr below.extends').eq_of_length_le (by
        rw [length_foldCase, length_foldCase]
        exact notLonger))
      have lengths := congrArg length same
      rw [length_map, length_map] at lengths
      have more := below.longer
      omega
    rw [if_neg longer, equal_iff zero canonical.zeroFree_terminate, taken,
      ← prefix_iff_eq_take, begins]
    exact below.extends'

theorem keepsSubtrees_iff_together (zero : ∀ char, towlower char = 0 → char = 0)
    (separates : ∀ char, towlower char = towlower '\\'.toNat → char = '\\'.toNat)
    (canonical : CanonicalTokens build left) (canonicalRight : CanonicalTokens build right) :
    KeepsSubtrees towlower build (terminate build.separator left)
        (terminate build.separator right) ↔
      KeepsTogether (segmentOrder (folding towlower build)) (foldCase (folding towlower build))
        (CanonicalTokens build) left right := by
  have isLess := less_iff zero canonical canonicalRight
  have isGreater := less_iff zero canonicalRight canonical
  have isEqual := (@equal_iff _ build zero _ (terminate build.separator right)
    canonical.zeroFree_terminate).trans (folded_eq_iff separates canonical canonicalRight)
  have isParent := isParentOf_iff zero separates canonical canonicalRight
  constructor
  · intro keeps
    refine ⟨?_, fun less greater => ?_, fun same less => ?_, fun same greater => ?_,
      fun below => isLess.mp (keeps.after (isParent.mpr below)),
      fun below middle canonicalMiddle above under => ?_⟩
    · rcases keeps.trichotomy with ⟨less, -, -⟩ | ⟨-, greater, -⟩ | ⟨-, -, same⟩
      · exact .inl (isLess.mp less)
      · exact .inr (.inl (isGreater.mp greater))
      · exact .inr (.inr (isEqual.mp same))
    · rw [← isLess] at less
      rw [← isGreater] at greater
      rcases keeps.trichotomy with which | which | which <;> simp_all
    · rw [← isLess] at less
      rw [← isEqual] at same
      rcases keeps.trichotomy with which | which | which <;> simp_all
    · rw [← isGreater] at greater
      rw [← isEqual] at same
      rcases keeps.trichotomy with which | which | which <;> simp_all
    · have between := keeps.between (isParent.mpr below) _ ⟨middle, canonicalMiddle, rfl⟩
        ((less_iff zero canonical canonicalMiddle).mpr above)
        ((less_iff zero canonicalMiddle canonicalRight).mpr under)
      exact (isParentOf_iff zero separates canonical canonicalMiddle).mp between
  · intro together
    refine ⟨?_, ?_, fun parent => isLess.mpr (together.after (isParent.mp parent)), ?_⟩
    · rcases together.some with less | greater | same
      · exact .inl ⟨isLess.mpr less,
          Bool.eq_false_iff.mpr fun greater => together.notBoth less (isGreater.mp greater),
          Bool.eq_false_iff.mpr fun same => together.notLess (isEqual.mp same) less⟩
      · exact .inr (.inl ⟨Bool.eq_false_iff.mpr fun less =>
            together.notBoth (isLess.mp less) greater, isGreater.mpr greater,
          Bool.eq_false_iff.mpr fun same => together.notGreater (isEqual.mp same) greater⟩)
      · exact .inr (.inr ⟨Bool.eq_false_iff.mpr fun less =>
            together.notLess same (isLess.mp less),
          Bool.eq_false_iff.mpr fun greater => together.notGreater same (isGreater.mp greater),
          isEqual.mpr same⟩)
    · rintro _ ⟨third, canonicalThird, rfl⟩ first second
      rw [isLess] at first
      rw [less_iff zero canonicalRight canonicalThird] at second
      rw [less_iff zero canonical canonicalThird]
      exact Std.TransCmp.lt_trans first second
    · rintro parent _ ⟨middle, canonicalMiddle, rfl⟩ above under
      rw [less_iff zero canonical canonicalMiddle] at above
      rw [less_iff zero canonicalMiddle canonicalRight] at under
      rw [isParentOf_iff zero separates canonical canonicalMiddle]
      exact together.between (isParent.mp parent) middle canonicalMiddle above under

/-- The order keeps subtrees together and agrees with equality except for Windows paths that
only case tells apart. -/
theorem keepsSubtrees_iff (zero : ∀ char, towlower char = 0 → char = 0)
    (separates : ∀ char, towlower char = towlower '\\'.toNat → char = '\\'.toNat)
    {path other : WString} (canonical : Canonical build path)
    (canonicalOther : Canonical build other) :
    KeepsSubtrees towlower build path other ↔ ¬ CaseClash towlower build path other := by
  obtain ⟨left, canonical, rfl⟩ := canonical
  obtain ⟨right, canonicalRight, rfl⟩ := canonicalOther
  have exactly := extends_terminate_iff canonical.separatorFree canonicalRight.separatorFree
  have folded := folded_extends_iff separates canonical canonicalRight
  rw [keepsSubtrees_iff_together zero separates canonical canonicalRight,
    keepsTogether_iff (canonical.take (length_foldCase _) canonicalRight), ← exactly, ← folded]
  constructor
  · rintro exact' ⟨rfl, foldedExtends, differs⟩
    exact differs (exact' foldedExtends)
  · intro noClash foldedExtends
    by_contra differs
    cases build with
    | posix =>
      rw [folding, foldCase_id, foldCase_id] at foldedExtends
      exact differs foldedExtends
    | windows => exact noClash ⟨rfl, foldedExtends, differs⟩

end

theorem asciiTolower_backslash (char : WChar)
    (same : asciiTolower char = asciiTolower '\\'.toNat) : char = '\\'.toNat := by
  have fixed : asciiTolower '\\'.toNat = '\\'.toNat := rfl
  rw [fixed] at same
  unfold asciiTolower at same
  split at same
  case isTrue upper =>
    have above : 65 + 32 ≤ char + 32 := Nat.add_le_add_right upper.1 32
    rw [same] at above
    exact absurd above (by decide)
  case isFalse => exact same

theorem named_of_letters {build : Build} {name : String}
    (letters : wide name ≠ [] ∧ (∀ char ∈ wide name, char ∉ build.separators ∧ char ≠ 0) ∧
      wide name ≠ wide "." ∧ wide name ≠ wide "..") : Named build (wide name) :=
  ⟨letters.1, letters.2.1, letters.2.2⟩

theorem canonical_drive {names : List String}
    (named : ∀ name ∈ names, Named .windows (wide name)) :
    Canonical .windows (terminate '\\'.toNat (wide "C:" :: names.map wide)) := by
  have isRoot : Root .windows [wide "C:"] := .drive (by decide)
  refine ⟨[wide "C:"] ++ names.map wide, .below isRoot ?_, rfl⟩
  intro name member
  obtain ⟨text, isName, rfl⟩ := mem_map.mp member
  exact named text isName

theorem keepsSubtrees_iff_drive :
    KeepsSubtrees asciiTolower .windows (terminate '\\'.toNat [wide "C:"])
      (terminate '\\'.toNat [wide "C:", wide "a"]) := by
  have canonical := @canonical_drive [] (by simp)
  have canonicalOther := @canonical_drive ["a"] fun name member => by
    rw [mem_singleton.mp member]
    exact named_of_letters (by decide)
  refine (keepsSubtrees_iff asciiTolower_zero asciiTolower_backslash canonical
    canonicalOther).mpr fun clash => clash.differs ?_
  decide

/-- `C:\A\` and `C:\a\` are equal, and one is less than the other. -/
theorem keepsSubtrees_not_windows :
    Canonical .windows (wide "C:\\A\\") ∧ Canonical .windows (wide "C:\\a\\") ∧
      ¬ KeepsSubtrees asciiTolower .windows (wide "C:\\A\\") (wide "C:\\a\\") := by
  refine ⟨@canonical_drive ["A"] ?_, @canonical_drive ["a"] ?_, fun keeps => ?_⟩
  · intro name member
    rw [mem_singleton.mp member]
    exact named_of_letters (by decide)
  · intro name member
    rw [mem_singleton.mp member]
    exact named_of_letters (by decide)
  · rcases keeps.trichotomy with ⟨-, -, same⟩ | ⟨-, -, same⟩ | ⟨less, -, -⟩
    · cases same
    · cases same
    · cases less

end LocalPath

end FileZilla
