import Mathlib.Data.List.Chain
import Mathlib.Data.List.Infix

namespace FileZilla.Substitution

open List

universe u v w

section Pairs

variable {Element : Type u} {Letter : Type v} [DecidableEq Letter]
  (letter : Element → Letter) (first second : Letter) (replacement : Element → List Element)

def replacePairs : List Element → List Element
  | [] => []
  | [element] => [element]
  | element :: next :: rest =>
    if letter element = first ∧ letter next = second then
      replacement element ++ replacePairs rest
    else element :: replacePairs (next :: rest)

variable {letter first second replacement}

variable {element next : Element}

theorem replacePairs_pair (isFirst : letter element = first)
    (isSecond : letter next = second) (rest : List Element) :
    replacePairs letter first second replacement (element :: next :: rest) =
      replacement element ++ replacePairs letter first second replacement rest := by
  rw [replacePairs, if_pos ⟨isFirst, isSecond⟩]

theorem replacePairs_other
    (other : ¬(letter element = first ∧ letter next = second)) (rest : List Element) :
    replacePairs letter first second replacement (element :: next :: rest) =
      element :: replacePairs letter first second replacement (next :: rest) := by
  rw [replacePairs, if_neg other]

theorem replacePairs_cons {rest : List Element}
    (different : letter element = first → ∀ next ∈ rest.head?, letter next ≠ second) :
    replacePairs letter first second replacement (element :: rest) =
      element :: replacePairs letter first second replacement rest := by
  cases rest with
  | nil => rfl
  | cons next rest =>
    apply replacePairs_other
    rintro ⟨isFirst, isSecond⟩
    exact different isFirst next rfl isSecond

theorem replacePairs_cons_of_ne (different : letter element ≠ first) (rest : List Element) :
    replacePairs letter first second replacement (element :: rest) =
      element :: replacePairs letter first second replacement rest :=
  replacePairs_cons fun same => absurd same different

theorem map_replacePairs {Image : Type w} {letter' : Image → Letter}
    {replacement' : Image → List Image} {image : Element → Image}
    (letters : ∀ element, letter' (image element) = letter element)
    (replacements : ∀ element, letter element = first →
      (replacement element).map image = replacement' (image element))
    (text : List Element) :
    (replacePairs letter first second replacement text).map image =
      replacePairs letter' first second replacement' (text.map image) := by
  induction text using replacePairs.induct letter first second with
  | case1 => rfl
  | case2 element => rfl
  | case3 element next rest pair mapped =>
    rw [replacePairs_pair pair.1 pair.2, map_append, mapped, replacements element pair.1,
      map_cons, map_cons,
      replacePairs_pair ((letters element).trans pair.1) ((letters next).trans pair.2)]
  | case4 element next rest other mapped =>
    have otherImage :
        ¬(letter' (image element) = first ∧ letter' (image next) = second) := by
      rwa [letters element, letters next]
    rw [replacePairs_other other, map_cons, mapped]
    exact (replacePairs_other otherImage _).symm

theorem mem_replacePairs {kept : Element} (notFirst : letter kept ≠ first)
    (notSecond : letter kept ≠ second) {text : List Element} (member : kept ∈ text) :
    kept ∈ replacePairs letter first second replacement text := by
  induction text using replacePairs.induct letter first second with
  | case1 => exact member
  | case2 element => exact member
  | case3 element next rest pair remains =>
    rw [replacePairs_pair pair.1 pair.2]
    rcases mem_cons.mp member with rfl | member
    · exact absurd pair.1 notFirst
    rcases mem_cons.mp member with rfl | member
    · exact absurd pair.2 notSecond
    · exact mem_append_right _ (remains member)
  | case4 element next rest other remains =>
    rw [replacePairs_other other]
    rcases mem_cons.mp member with rfl | member
    · exact mem_cons_self
    · exact mem_cons_of_mem _ (remains member)

variable {counted : Element → Bool}

theorem countP_replacePairs_le
    (fewer : ∀ element, (replacement element).countP counted ≤ [element].countP counted)
    (text : List Element) :
    (replacePairs letter first second replacement text).countP counted ≤
      text.countP counted := by
  induction text using replacePairs.induct letter first second with
  | case1 => exact Nat.le_refl _
  | case2 element => exact Nat.le_refl _
  | case3 element next rest pair remaining =>
    have replaced := fewer element
    rw [replacePairs_pair pair.1 pair.2, countP_append]
    simp only [countP_cons, countP_nil] at replaced ⊢
    omega
  | case4 element next rest other remaining =>
    rw [replacePairs_other other, countP_cons, countP_cons (a := element)]
    omega

theorem countP_replacePairs_lt (different : first ≠ second)
    (none : ∀ element, (replacement element).countP counted = 0) {text : List Element}
    (occurs : [element, next] <:+: text)
    (isFirst : letter element = first) (isSecond : letter next = second) (counts : counted next) :
    (replacePairs letter first second replacement text).countP counted <
      text.countP counted := by
  have fewer (element : Element) :
      (replacement element).countP counted ≤ [element].countP counted :=
    (none element).le.trans (Nat.zero_le _)
  induction text using replacePairs.induct letter first second with
  | case1 => cases occurs.length_le
  | case2 single => exact absurd occurs.length_le (by simp)
  | case3 head following rest pair smaller =>
    rw [replacePairs_pair pair.1 pair.2, countP_append, none head]
    have remaining : (replacePairs letter first second replacement rest).countP counted ≤
        rest.countP counted := countP_replacePairs_le fewer rest
    rcases infix_cons_iff.mp occurs with here | later
    · have same := (cons_prefix_cons.mp (cons_prefix_cons.mp here).2).1
      subst same
      simp only [countP_cons, counts, if_true]
      omega
    rcases infix_cons_iff.mp later with here | later
    · have same := (cons_prefix_cons.mp here).1
      subst same
      exact absurd (isFirst.symm.trans pair.2) different
    · have less := smaller later
      simp only [countP_cons]
      omega
  | case4 head following rest other smaller =>
    rw [replacePairs_other other, countP_cons, countP_cons (a := head)]
    rcases infix_cons_iff.mp occurs with here | later
    · obtain ⟨sameFirst, here⟩ := cons_prefix_cons.mp here
      have sameSecond := (cons_prefix_cons.mp here).1
      subst sameFirst sameSecond
      exact absurd ⟨isFirst, isSecond⟩ other
    · have less := smaller later
      omega

end Pairs

structure Escapes (Slot : Type u) (Letter : Type v) where
  mark : Letter
  letterOf : Slot → Letter
  slotOf : Letter → Option Slot
  slotOf_eq_some : ∀ {letter slot}, slotOf letter = some slot ↔ letterOf slot = letter
  unmarked : slotOf mark = none

namespace Escapes

variable {Slot : Type u} {Letter : Type v} (self : Escapes Slot Letter)

theorem letterOf_ne_mark (slot : Slot) : self.letterOf slot ≠ self.mark := by
  intro same
  have found := self.slotOf_eq_some.mpr same
  rw [self.unmarked] at found
  cases found

theorem letterOf_injective : Function.Injective self.letterOf := by
  intro slot other same
  have found := self.slotOf_eq_some.mpr (rfl : self.letterOf other = _)
  rw [self.slotOf_eq_some.mpr same] at found
  exact Option.some.inj found

end Escapes

inductive Origin (Slot : Type u)
  | placeholder
  | template
  | value (slot : Slot)
  deriving DecidableEq

structure Traced (Slot : Type u) (Letter : Type v) where
  origin : Origin Slot
  letter : Letter

variable {Slot : Type u} {Letter : Type v}

open Traced

def letters (text : List (Traced Slot Letter)) : List Letter :=
  text.map letter

/-- `unknown` is a mark before a letter that is no placeholder's. -/
inductive Piece (escapes : Escapes Slot Letter)
  | literal (origin : Origin Slot) (letter : Letter)
  | unknown (letter : Letter) (plain : escapes.slotOf letter = none)
      (different : letter ≠ escapes.mark)
  | slot (slot : Slot)

section Pieces

variable {escapes : Escapes Slot Letter} [DecidableEq Letter]

namespace Piece

variable (escapes) in
def afterMark (letter : Letter) : Piece escapes :=
  if different : letter = escapes.mark then literal .template escapes.mark
  else
    match plain : escapes.slotOf letter with
    | some which => slot which
    | none => unknown letter plain different

def written : Piece escapes → List (Traced Slot Letter)
  | literal origin letter =>
    if letter = escapes.mark then [⟨origin, letter⟩, ⟨origin, letter⟩] else [⟨origin, letter⟩]
  | unknown letter _ _ => [⟨.template, escapes.mark⟩, ⟨.template, letter⟩]
  | slot which => [⟨.placeholder, escapes.mark⟩, ⟨.placeholder, escapes.letterOf which⟩]

def expanded : Piece escapes → List (Traced Slot Letter)
  | literal origin letter => [⟨origin, letter⟩]
  | unknown letter _ _ => [⟨.template, escapes.mark⟩, ⟨.template, letter⟩]
  | slot which => [⟨.placeholder, escapes.mark⟩, ⟨.placeholder, escapes.letterOf which⟩]

end Piece

variable (escapes) in
/-- A text in pieces, with or without a mark at its end that nothing follows. -/
structure Line where
  pieces : List (Piece escapes)
  openMark : Bool

namespace Line

def add (piece : Piece escapes) (self : Line escapes) : Line escapes :=
  { self with pieces := piece :: self.pieces }

variable (escapes) in
def read : List Letter → Line escapes
  | [] => ⟨[], false⟩
  | [letter] =>
    if letter = escapes.mark then ⟨[], true⟩ else ⟨[.literal .template letter], false⟩
  | letter :: next :: rest =>
    if letter = escapes.mark then (read rest).add (.afterMark escapes next)
    else (read (next :: rest)).add (.literal .template letter)

def ending (self : Line escapes) : List (Traced Slot Letter) :=
  if self.openMark then [⟨.template, escapes.mark⟩] else []

def written (self : Line escapes) : List (Traced Slot Letter) :=
  self.pieces.flatMap Piece.written ++ self.ending

def expanded (self : Line escapes) : List (Traced Slot Letter) :=
  self.pieces.flatMap Piece.expanded ++ self.ending

theorem written_add (piece : Piece escapes) (self : Line escapes) :
    (self.add piece).written = piece.written ++ self.written := by
  rw [written, written, add, flatMap_cons, append_assoc]
  rfl

omit [DecidableEq Letter] in
@[induction_eliminator]
theorem induction {motive : Line escapes → Prop} (ends : ∀ openMark, motive ⟨[], openMark⟩)
    (add : ∀ piece line, motive line → motive (line.add piece)) (line : Line escapes) :
    motive line := by
  obtain ⟨pieces, openMark⟩ := line
  induction pieces with
  | nil => exact ends openMark
  | cons piece pieces holds => exact add piece ⟨pieces, openMark⟩ holds

variable {line : Line escapes}

theorem head?_written {first : Traced Slot Letter} (head : first ∈ line.written.head?) :
    first.letter = escapes.mark ∨
      ∃ origin, .literal origin first.letter ∈ line.pieces.head? := by
  cases line using induction with
  | ends openMark =>
    cases openMark with
    | false => exact absurd head (by simp [written, ending])
    | true =>
      cases head
      exact .inl rfl
  | add piece line =>
    rw [written_add] at head
    cases piece with
    | literal origin letter =>
      have same : first = ⟨origin, letter⟩ := by
        rw [Piece.written] at head
        split at head <;> exact (Option.some.inj head).symm
      subst same
      exact .inr ⟨origin, rfl⟩
    | unknown letter plain different =>
      cases head
      exact .inl rfl
    | slot which =>
      cases head
      exact .inl rfl

omit [DecidableEq Letter] in
theorem expanded_add (piece : Piece escapes) (self : Line escapes) :
    (self.add piece).expanded = piece.expanded ++ self.expanded := by
  rw [expanded, expanded, add, flatMap_cons, append_assoc]
  rfl

theorem letters_afterMark (letter : Letter) :
    letters (Piece.afterMark escapes letter).written = [escapes.mark, letter] := by
  unfold Piece.afterMark
  split
  case isTrue same =>
    subst same
    simp [Piece.written, letters]
  case isFalse different =>
    split
    case h_1 which found =>
      have same := escapes.slotOf_eq_some.mp found
      simp [Piece.written, letters, same]
    case h_2 plain => rfl

theorem letters_read (text : List Letter) : letters (read escapes text).written = text := by
  induction text using read.induct escapes with
  | case1 => rfl
  | case2 =>
    simp [read, written, ending, letters]
  | case3 letter other =>
    simp [read, written, ending, letters, other, Piece.written]
  | case4 next rest same =>
    rw [read, if_pos rfl, written_add, letters, map_append]
    exact congrArg₂ (· ++ ·) (letters_afterMark next) same
  | case5 letter next rest other same =>
    rw [read, if_neg other, written_add, Piece.written, if_neg other, letters, map_append]
    exact congrArg (letter :: ·) same

theorem literal_read {text : List Letter} {origin : Origin Slot} {letter : Letter}
    (member : .literal origin letter ∈ (read escapes text).pieces) : origin = .template := by
  induction text using read.induct escapes with
  | case1 => exact absurd member (by simp [read])
  | case2 => exact absurd member (by simp [read])
  | case3 other plain =>
    rw [read, if_neg plain] at member
    exact (Piece.literal.inj (mem_singleton.mp member)).1
  | case4 next rest earlier =>
    rw [read, if_pos rfl] at member
    rcases mem_cons.mp member with same | member
    · unfold Piece.afterMark at same
      split at same
      case isTrue => exact (Piece.literal.inj same).1
      case isFalse =>
        split at same
        case h_1 => cases same
        case h_2 => cases same
    · exact earlier member
  | case5 other next rest plain earlier =>
    rw [read, if_neg plain] at member
    rcases mem_cons.mp member with same | member
    · exact (Piece.literal.inj same).1
    · exact earlier member

theorem infix_of_slot_mem {slot : Slot} (member : .slot slot ∈ line.pieces) :
    [escapes.mark, escapes.letterOf slot] <:+: letters line.written := by
  obtain ⟨front, rest, pieces⟩ := append_of_mem member
  have piece : (Piece.slot slot : Piece escapes).written <:+: line.written :=
    ⟨front.flatMap Piece.written, rest.flatMap Piece.written ++ line.ending,
      by simp [written, pieces]⟩
  exact piece.map letter

omit [DecidableEq Letter] in
theorem infix_past {first second other : Letter} {list : List Letter} (different : other ≠ first)
    (occurs : [first, second] <:+: other :: list) : [first, second] <:+: list := by
  rcases infix_cons_iff.mp occurs with here | later
  · exact absurd (cons_prefix_cons.mp here).1.symm different
  · exact later

omit [DecidableEq Letter] in
theorem infix_pair {first second following : Letter} {list : List Letter}
    (occurs : [first, second] <:+: first :: following :: list) :
    second = following ∨ [first, second] <:+: following :: list := by
  rcases infix_cons_iff.mp occurs with here | later
  · exact .inl (cons_prefix_cons.mp (cons_prefix_cons.mp here).2).1
  · exact .inr later

theorem slot_or_mark_of_infix {slot : Slot}
    (occurs : [escapes.mark, escapes.letterOf slot] <:+: letters line.written) :
    .slot slot ∈ line.pieces ∨ ∃ origin, .literal origin escapes.mark ∈ line.pieces := by
  induction line with
  | ends openMark =>
    have short := occurs.length_le
    cases openMark <;> exact absurd short (by simp [letters, written, ending])
  | add piece line found =>
    have later (occurs : [escapes.mark, escapes.letterOf slot] <:+: letters line.written) :
        .slot slot ∈ (line.add piece).pieces ∨
          ∃ origin, .literal origin escapes.mark ∈ (line.add piece).pieces := by
      refine (found occurs).imp ?_ fun marked => marked.imp fun origin => ?_
      · exact mem_cons_of_mem _
      · exact mem_cons_of_mem _
    rw [written_add, letters, map_append] at occurs
    cases piece with
    | literal origin letter =>
      by_cases marked : letter = escapes.mark
      case pos =>
        subst marked
        exact .inr ⟨origin, mem_cons_self⟩
      case neg =>
        rw [Piece.written, if_neg marked] at occurs
        exact later (infix_past marked occurs)
    | unknown letter plain different =>
      rcases infix_pair occurs with same | occurs
      · have known := escapes.slotOf_eq_some.mpr same
        cases plain.symm.trans known
      · exact later (infix_past different occurs)
    | slot which =>
      rcases infix_pair occurs with same | occurs
      · obtain rfl := escapes.letterOf_injective same
        exact .inl mem_cons_self
      · exact later (infix_past (escapes.letterOf_ne_mark which) occurs)

end Line

variable [DecidableEq Slot]

namespace Piece

def substitute (replaced : Slot) (value : List Letter) : Piece escapes → List (Piece escapes)
  | literal origin letter => [literal origin letter]
  | unknown letter plain different => [unknown letter plain different]
  | slot which =>
    if which = replaced then value.map (literal (.value replaced)) else [slot which]

/-- The second piece does not look like the letter of a placeholder whose mark ends the first. -/
def Separate (slot : Slot) (before after : Piece escapes) : Prop :=
  ∀ origin origin', before = literal origin escapes.mark →
    after ≠ literal origin' (escapes.letterOf slot)

end Piece

namespace Line

variable (slot : Slot) (value : List Letter)

def substitute (self : Line escapes) : Line escapes :=
  { self with pieces := self.pieces.flatMap (Piece.substitute slot value) }

/-- No mark is directly followed by the letter of the placeholder. -/
def Clean (self : Line escapes) (slot : Slot) : Prop :=
  self.pieces.IsChain (Piece.Separate slot)

variable (escapes) in
def inserted : List (Traced Slot Letter) :=
  value.flatMap fun letter => (.literal (.value slot) letter : Piece escapes).written

theorem substitute_add (piece : Piece escapes)
    (self : Line escapes) :
    ((self.add piece).substitute slot value).written =
      (piece.substitute slot value).flatMap Piece.written ++
        (self.substitute slot value).written := by
  rw [written, substitute, add, flatMap_cons, flatMap_append, append_assoc]
  rfl

omit [DecidableEq Letter] in
theorem expanded_substitute_add (piece : Piece escapes)
    (self : Line escapes) :
    ((self.add piece).substitute slot value).expanded =
      (piece.substitute slot value).flatMap Piece.expanded ++
        (self.substitute slot value).expanded := by
  rw [expanded, substitute, add, flatMap_cons, flatMap_append, append_assoc]
  rfl

omit [DecidableEq Slot] in
theorem written_value :
    (value.map fun letter => (.literal (.value slot) letter : Piece escapes)).flatMap
        Piece.written =
      inserted escapes slot value := by
  rw [flatMap_map]
  rfl

variable {slot : Slot} {value : List Letter}

variable {line : Line escapes}

theorem replacePairs_written (clean : line.Clean slot) :
    replacePairs letter escapes.mark (escapes.letterOf slot)
        (fun _ => inserted escapes slot value) line.written =
      (line.substitute slot value).written := by
  have plainMark := (escapes.letterOf_ne_mark slot).symm
  induction line with
  | ends openMark => cases openMark <;> rfl
  | add piece line replaced =>
    obtain ⟨separate, clean⟩ := isChain_cons.mp clean
    specialize replaced clean
    rw [written_add, substitute_add]
    cases piece with
    | literal origin letter =>
      rw [Piece.substitute, flatMap_singleton, Piece.written]
      split
      case isTrue same =>
        subst same
        rw [cons_append, cons_append, replacePairs_cons, replacePairs_cons,
          nil_append, replaced]
        · rfl
        · intro _ next first same
          rcases head?_written first with marked | ⟨origin', literal⟩
          · exact plainMark (marked.symm.trans same)
          · rw [same] at literal
            exact separate _ literal origin origin' rfl rfl
        · rintro _ next first
          cases first
          exact plainMark
      case isFalse other =>
        rw [singleton_append, replacePairs_cons_of_ne other, replaced]
        rfl
    | unknown letter plain different =>
      rw [Piece.substitute, flatMap_singleton, Piece.written, cons_append,
        replacePairs_cons, singleton_append, replacePairs_cons_of_ne different, replaced]
      · rfl
      · rintro _ next first same
        cases first
        have found := escapes.slotOf_eq_some.mpr same.symm
        rw [plain] at found
        cases found
    | slot which =>
      rw [Piece.substitute, Piece.written]
      split
      case isTrue same =>
        subst same
        rw [cons_append, singleton_append, replacePairs, if_pos ⟨rfl, rfl⟩, replaced]
        exact congrArg (· ++ _) (written_value which value).symm
      case isFalse other =>
        have plainLetter : (⟨.placeholder, escapes.letterOf which⟩ :
            Traced Slot Letter).letter ≠ escapes.mark := escapes.letterOf_ne_mark which
        rw [flatMap_singleton, cons_append, replacePairs_cons,
          singleton_append, replacePairs_cons_of_ne plainLetter, replaced]
        · rfl
        · rintro _ next first same
          cases first
          exact other (escapes.letterOf_injective same)

omit [DecidableEq Letter] in
theorem substitute_of_not_mem (absent : .slot slot ∉ line.pieces) :
    line.substitute slot value = line := by
  have same : line.pieces.flatMap (Piece.substitute slot value) =
      line.pieces.flatMap fun piece => [piece] := by
    refine flatMap_congr fun piece member => ?_
    cases piece with
    | literal origin letter => rfl
    | unknown letter plain different => rfl
    | slot which =>
      rw [Piece.substitute, if_neg]
      rintro rfl
      exact absent member
  rw [substitute, same, flatMap_singleton']

omit [DecidableEq Letter] in
theorem slot_mem_substitute {which : Slot} :
    .slot which ∈ (line.substitute slot value).pieces ↔
      .slot which ∈ line.pieces ∧ which ≠ slot := by
  rw [substitute, mem_flatMap]
  constructor
  · rintro ⟨piece, member, found⟩
    cases piece with
    | literal origin letter => cases mem_singleton.mp found
    | unknown letter plain different => cases mem_singleton.mp found
    | slot other =>
      rw [Piece.substitute] at found
      split at found
      case isTrue => exact absurd found (by simp)
      case isFalse different =>
        obtain rfl := Piece.slot.inj (mem_singleton.mp found)
        exact ⟨member, different⟩
  · rintro ⟨member, different⟩
    refine ⟨_, member, ?_⟩
    rw [Piece.substitute, if_neg different]
    exact mem_singleton_self _

omit [DecidableEq Letter] in
theorem literal_mem_substitute {origin : Origin Slot} {letter : Letter}
    (member : .literal origin letter ∈ (line.substitute slot value).pieces) :
    .literal origin letter ∈ line.pieces ∨ origin = .value slot := by
  rw [substitute, mem_flatMap] at member
  obtain ⟨piece, member, found⟩ := member
  cases piece with
  | literal origin' letter' =>
    rw [mem_singleton.mp found]
    exact .inl member
  | unknown letter plain different => cases mem_singleton.mp found
  | slot other =>
    rw [Piece.substitute] at found
    split at found
    case isTrue =>
      obtain ⟨letter', -, same⟩ := mem_map.mp found
      exact .inr (Piece.literal.inj same).1.symm
    case isFalse => cases mem_singleton.mp found

end Line

def undouble (mark : Letter) (text : List (Traced Slot Letter)) : List (Traced Slot Letter) :=
  replacePairs letter mark mark (fun element => [element]) text

variable {line : Line escapes} {slots : List Slot}

omit [DecidableEq Slot] in
theorem undouble_written (filled : ∀ which, .slot which ∉ line.pieces) :
    undouble escapes.mark line.written = line.expanded := by
  unfold undouble
  induction line with
  | ends openMark => cases openMark <;> rfl
  | add piece line undoubled =>
    specialize undoubled fun which member => filled which (mem_cons_of_mem _ member)
    rw [Line.written_add, Line.expanded_add, ← undoubled]
    cases piece with
    | literal origin letter =>
      rw [Piece.written]
      split
      case isTrue same =>
        rw [cons_append, singleton_append, replacePairs, if_pos ⟨same, same⟩]
        rfl
      case isFalse other => exact replacePairs_cons_of_ne other _
    | unknown letter plain different =>
      rw [Piece.written, cons_append, replacePairs_cons, singleton_append,
        replacePairs_cons_of_ne different]
      · rfl
      · rintro _ next first same
        cases first
        exact different same
    | slot which => exact absurd mem_cons_self (filled which)

/-- It is not written by inserting one of the later values. -/
def Origin.before (later : List Slot) : Origin Slot → Bool
  | placeholder => false
  | template => true
  | value slot => slot ∉ later

variable (escapes) in
def Traced.keeps (later : List Slot) (element : Traced Slot Letter) : Bool :=
  element.letter ≠ escapes.mark && element.origin.before later

variable {later : List Slot} {slot : Slot} {value : List Letter}

theorem countP_written (line : Line escapes) :
    line.written.countP (keeps escapes later) =
      line.expanded.countP (keeps escapes later) := by
  induction line with
  | ends openMark => cases openMark <;> rfl
  | add piece line same =>
    rw [Line.written_add, Line.expanded_add, countP_append, countP_append, same]
    cases piece with
    | literal origin letter =>
      rw [Piece.written]
      split
      case isTrue marked => simp [Piece.expanded, keeps, marked]
      case isFalse => rfl
    | unknown letter plain different => rfl
    | slot which => rfl

theorem countP_inserted (member : slot ∈ later) :
    (Line.inserted escapes slot value).countP (keeps escapes later) = 0 := by
  rw [countP_eq_zero]
  intro element inside
  obtain ⟨letter, -, written⟩ := mem_flatMap.mp inside
  have origin : element.origin = .value slot := by
    rw [Piece.written] at written
    split at written
    case isTrue =>
      rcases mem_cons.mp written with rfl | written
      · rfl
      · rw [mem_singleton.mp written]
    case isFalse => rw [mem_singleton.mp written]
  simp [keeps, Origin.before, origin, member]

theorem countP_substitute (member : slot ∈ later) (line : Line escapes) :
    (line.substitute slot value).written.countP (keeps escapes later) =
      line.written.countP (keeps escapes later) := by
  induction line with
  | ends openMark => rfl
  | add piece line same =>
    rw [Line.substitute_add, Line.written_add, countP_append, countP_append, same]
    congr 1
    cases piece with
    | literal origin letter => rw [Piece.substitute, flatMap_singleton]
    | unknown letter plain different => rw [Piece.substitute, flatMap_singleton]
    | slot which =>
      rw [Piece.substitute]
      split
      case isTrue same =>
        subst same
        have none : (Line.inserted escapes which value).countP
            (keeps escapes later) = 0 := countP_inserted member
        rw [← Line.written_value] at none
        refine none.trans ?_
        simp [Piece.written, keeps, Origin.before]
      case isFalse => rw [flatMap_singleton]

theorem countP_replacePairs_written_lt (member : slot ∈ later)
    (settled : ∀ origin letter, .literal origin letter ∈ line.pieces → origin.before later)
    (mistaken : ¬line.Clean slot) :
    (replacePairs letter escapes.mark (escapes.letterOf slot)
        (fun _ => Line.inserted escapes slot value) line.written).countP
        (keeps escapes later) <
      line.written.countP (keeps escapes later) := by
  rw [Line.Clean, isChain_iff_forall_rel_of_append_cons_cons] at mistaken
  simp only [not_forall] at mistaken
  obtain ⟨first, second, front, rest, pieces, together⟩ := mistaken
  simp only [Piece.Separate, not_forall, not_not] at together
  obtain ⟨origin, origin', rfl, rfl⟩ := together
  have plain := escapes.letterOf_ne_mark slot
  have written : line.written =
      front.flatMap Piece.written ++ ⟨origin, escapes.mark⟩ :: ⟨origin, escapes.mark⟩ ::
        ⟨origin', escapes.letterOf slot⟩ :: (rest.flatMap Piece.written ++ line.ending) := by
    simp [Line.written, pieces, Piece.written, plain]
  have occurs : [(⟨origin, escapes.mark⟩ : Traced Slot Letter),
      ⟨origin', escapes.letterOf slot⟩] <:+: line.written := by
    rw [written]
    exact ⟨front.flatMap Piece.written ++ [⟨origin, escapes.mark⟩],
      rest.flatMap Piece.written ++ line.ending, by simp⟩
  have before := settled origin' (escapes.letterOf slot) (by simp [pieces])
  refine countP_replacePairs_lt plain.symm (fun _ => countP_inserted member) occurs rfl rfl ?_
  simp [keeps, plain, before]

variable (escapes) in
/-- A mark that does not come from the value of the placeholder -/
def Traced.marks (slot : Slot) (element : Traced Slot Letter) : Bool :=
  element.letter = escapes.mark && element.origin ≠ .value slot

theorem Piece.marks_substitute_le (piece : Piece escapes) :
    ((piece.substitute slot value).flatMap Piece.expanded).countP (marks escapes slot) ≤
      piece.written.countP (marks escapes slot) := by
  cases piece with
  | literal origin letter =>
    rw [Piece.substitute, flatMap_singleton, Piece.expanded, Piece.written]
    split
    case isTrue => exact List.Sublist.countP_le (sublist_cons_self _ _)
    case isFalse => exact Nat.le_refl _
  | unknown letter plain different =>
    rw [Piece.substitute, flatMap_singleton]
    exact Nat.le_refl _
  | slot which =>
    rw [Piece.substitute]
    split
    case isTrue =>
      refine (countP_eq_zero.mpr ?_).le.trans (Nat.zero_le _)
      intro element inside
      obtain ⟨piece, member, expanded⟩ := mem_flatMap.mp inside
      obtain ⟨letter, -, rfl⟩ := mem_map.mp member
      rw [mem_singleton.mp expanded]
      simp [marks]
    case isFalse =>
      rw [flatMap_singleton]
      exact Nat.le_refl _

/-- The marks of these pieces are not there any more when they have been expanded. -/
def Piece.Escaped (slot : Slot) (piece : Piece escapes) : Prop :=
  piece = .slot slot ∨ ∃ origin, origin ≠ .value slot ∧ piece = .literal origin escapes.mark

theorem Piece.marks_substitute_lt {piece : Piece escapes} (escaped : piece.Escaped slot) :
    ((piece.substitute slot value).flatMap Piece.expanded).countP (marks escapes slot) <
      piece.written.countP (marks escapes slot) := by
  rcases escaped with rfl | ⟨origin, different, rfl⟩
  · rw [Piece.substitute, if_pos rfl]
    refine (countP_eq_zero.mpr ?_).trans_lt ?_
    · intro element inside
      obtain ⟨piece, member, expanded⟩ := mem_flatMap.mp inside
      obtain ⟨letter, -, rfl⟩ := mem_map.mp member
      rw [mem_singleton.mp expanded]
      simp [marks]
    · simp [Piece.written, marks]
  · rw [Piece.substitute, flatMap_singleton, Piece.written, if_pos rfl]
    simp [Piece.expanded, marks, different]

theorem marks_substitute_le (line : Line escapes) :
    (line.substitute slot value).expanded.countP (marks escapes slot) ≤
      line.written.countP (marks escapes slot) := by
  induction line with
  | ends openMark => exact Nat.le_refl _
  | add piece line fewer =>
    rw [Line.written_add, Line.expanded_substitute_add, countP_append, countP_append]
    exact Nat.add_le_add piece.marks_substitute_le fewer

theorem marks_substitute_lt {line : Line escapes} {piece : Piece escapes}
    (member : piece ∈ line.pieces) (escaped : piece.Escaped slot) :
    (line.substitute slot value).expanded.countP (marks escapes slot) <
      line.written.countP (marks escapes slot) := by
  induction line with
  | ends openMark => cases member
  | add first line fewer =>
    rw [Line.written_add, Line.expanded_substitute_add, countP_append, countP_append]
    rcases mem_cons.mp member with rfl | later
    · exact Nat.add_lt_add_of_lt_of_le (Piece.marks_substitute_lt escaped)
        (marks_substitute_le line)
    · exact Nat.add_lt_add_of_le_of_lt first.marks_substitute_le (fewer later)

variable (values : Slot → List Letter)

variable (escapes) in
/-- The text when the placeholders have been replaced in this order, with the marks of the values
doubled. -/
def replaceAll (slots : List Slot) (text : List (Traced Slot Letter)) :
    List (Traced Slot Letter) :=
  slots.foldl (fun text slot =>
      replacePairs letter escapes.mark (escapes.letterOf slot)
        (fun _ => Line.inserted escapes slot (values slot)) text)
    text

namespace Line

def substituteAll (slots : List Slot) (self : Line escapes) : Line escapes :=
  slots.foldl (fun line slot => line.substitute slot (values slot)) self

/-- No mark is directly followed by the letter of a placeholder that is still to come once those
before it have their values. -/
def CleanFor : List Slot → Line escapes → Prop
  | [], _ => True
  | slot :: later, self =>
    self.Clean slot ∧ (self.substitute slot (values slot)).CleanFor later

end Line

variable {values}

theorem replaceAll_append (slots others : List Slot) (text : List (Traced Slot Letter)) :
    replaceAll escapes values (slots ++ others) text =
      replaceAll escapes values others (replaceAll escapes values slots text) :=
  foldl_append

theorem mem_replaceAll {kept : Traced Slot Letter}
    (plain : kept.letter ≠ escapes.mark) (other : ∀ slot ∈ slots, kept.letter ≠ escapes.letterOf slot)
    {text : List (Traced Slot Letter)} (member : kept ∈ text) :
    kept ∈ replaceAll escapes values slots text := by
  induction slots generalizing text with
  | nil => exact member
  | cons slot slots remains =>
    refine remains (fun which inside => other which (mem_cons_of_mem _ inside)) ?_
    exact mem_replacePairs plain (other slot mem_cons_self) member

omit [DecidableEq Letter] in
theorem Line.substituteAll_append (slots others : List Slot) (line : Line escapes) :
    line.substituteAll values (slots ++ others) =
      (line.substituteAll values slots).substituteAll values others :=
  foldl_append

omit [DecidableEq Letter] in
theorem Line.slot_mem_substituteAll {which : Slot} :
    .slot which ∈ (line.substituteAll values slots).pieces ↔
      .slot which ∈ line.pieces ∧ which ∉ slots := by
  induction slots generalizing line with
  | nil => simp [substituteAll]
  | cons slot slots found =>
    refine found.trans ?_
    rw [slot_mem_substitute, mem_cons, not_or, and_assoc]

omit [DecidableEq Letter] in
theorem Line.literal_mem_substituteAll {origin : Origin Slot} {letter : Letter}
    (member : .literal origin letter ∈ line.pieces) :
    .literal origin letter ∈ (line.substituteAll values slots).pieces := by
  induction slots generalizing line with
  | nil => exact member
  | cons slot slots found =>
    exact found (mem_flatMap.mpr ⟨_, member, mem_singleton_self _⟩)

theorem replaceAll_written (clean : line.CleanFor values slots) :
    replaceAll escapes values slots line.written = (line.substituteAll values slots).written := by
  induction slots generalizing line with
  | nil => rfl
  | cons slot later replaced =>
    refine Eq.trans ?_ (replaced clean.2)
    exact congrArg (replaceAll escapes values later) (Line.replacePairs_written clean.1)

theorem countP_replaceAll_le {later : List Slot} (members : slots ⊆ later)
    (text : List (Traced Slot Letter)) :
    (replaceAll escapes values slots text).countP (keeps escapes later) ≤
      text.countP (keeps escapes later) := by
  induction slots generalizing text with
  | nil => exact Nat.le_refl _
  | cons slot slots fewer =>
    obtain ⟨member, members⟩ := cons_subset.mp members
    refine (fewer members _).trans (countP_replacePairs_le (fun element => ?_) text)
    rw [countP_inserted member]
    exact Nat.zero_le _

theorem countP_substituteAll {later : List Slot} (members : slots ⊆ later) (line : Line escapes) :
    (line.substituteAll values slots).written.countP (keeps escapes later) =
      line.written.countP (keeps escapes later) := by
  induction slots generalizing line with
  | nil => rfl
  | cons slot slots same =>
    obtain ⟨member, members⟩ := cons_subset.mp members
    exact (same members _).trans (countP_substitute member line)

theorem exists_lost {others : List Slot} (distinct : (slots ++ others).Nodup)
    (settled : ∀ origin letter, .literal origin letter ∈ line.pieces →
      origin.before (slots ++ others))
    (mistaken : ¬line.CleanFor values slots) :
    ∃ later : List Slot,
      (replaceAll escapes values slots line.written).countP (keeps escapes later) <
        (line.substituteAll values (slots ++ others)).expanded.countP
          (keeps escapes later) := by
  induction slots generalizing line with
  | nil => exact absurd trivial mistaken
  | cons slot later lost =>
    obtain ⟨fresh, distinct⟩ := nodup_cons.mp distinct
    by_cases clean : line.Clean slot
    case pos =>
      have next : ¬(line.substitute slot (values slot)).CleanFor values later :=
        fun clean' => mistaken ⟨clean, clean'⟩
      refine (lost distinct ?_ next).imp fun kept fewer => ?_
      · intro origin letter member
        rcases Line.literal_mem_substitute member with earlier | rfl
        · have before := settled origin letter earlier
          cases origin with
          | placeholder => exact before
          | template => exact before
          | value other =>
            simp only [Origin.before, decide_eq_true_eq] at before ⊢
            exact fun inside => before (mem_cons_of_mem _ inside)
        · simpa [Origin.before] using fresh
      · refine lt_of_eq_of_lt (congrArg _ ?_) fewer
        exact congrArg (replaceAll escapes values later) (Line.replacePairs_written clean)
    case neg =>
      refine ⟨slot :: later ++ others, ?_⟩
      rw [← countP_written, countP_substituteAll (List.Subset.refl _)]
      have members : later ⊆ slot :: later ++ others :=
        subset_append_of_subset_left _ (subset_cons_self _ _)
      exact (countP_replaceAll_le members _).trans_lt
        (countP_replacePairs_written_lt mem_cons_self settled clean)

end Pieces

end FileZilla.Substitution
