import FileZilla.Engine.DirectoryListingParser.Leakage
import FileZilla.PermutedFolds
import FileZilla.Pieces

namespace FileZilla

open List Option

structure Fact where
  name : WString
  value : WString
  deriving DecidableEq

namespace Fact

def key (fact : Fact) : WString :=
  strToLowerAscii fact.name

def text (fact : Fact) : WString :=
  fact.name ++ '='.toNat :: (fact.value ++ [';'.toNat])

structure WellFormed (fact : Fact) : Prop where
  named : fact.name ≠ []
  name : ∀ char ∈ fact.name, char ≠ '='.toNat ∧ char ≠ ';'.toNat ∧ isBlank char = false
  value : ∀ char ∈ fact.value, char ≠ ';'.toNat ∧ isBlank char = false

end Fact

open Fact

def factsText (facts : List Fact) : WString :=
  facts.flatMap text

@[simp] theorem factsText_cons (fact : Fact) (facts : List Fact) :
    factsText (fact :: facts) = fact.text ++ factsText facts := rfl

open CToken

theorem find_first {before after : WString} {char : WChar} (absent : char ∉ before) :
    find (before ++ char :: after) [char] = some before.length := by
  have position : (before ++ char :: after).findIdx? ([char].contains ·) = some before.length := by
    refine findIdx_clean_append (fun other member => ?_) (by simp)
    have different : other ≠ char := fun same => absent (same ▸ member)
    simpa using different
  rw [find, drop_zero, position]
  simp

namespace Fact

variable {fact : Fact}

def body (fact : Fact) : WString :=
  fact.name ++ '='.toNat :: fact.value

theorem text_append (fact : Fact) (more : WString) :
    fact.text ++ more = fact.body ++ ';'.toNat :: more := by
  simp [text, body]

theorem WellFormed.body_clean (wellFormed : fact.WellFormed) : ';'.toNat ∉ fact.body := by
  intro member
  rcases mem_append.mp member with name | member
  · exact (wellFormed.name _ name).2.1 rfl
  · rcases mem_cons.mp member with equals | value
    · contradiction
    · exact (wellFormed.value _ value).1 rfl

theorem WellFormed.splitFact (wellFormed : fact.WellFormed) :
    EntryParser.splitFact fact.body = some (fact.key, fact.value) := by
  have noEquals : '='.toNat ∉ fact.name := fun member => (wellFormed.name _ member).1 rfl
  have positive : ¬ fact.name.length < 1 := not_lt.mpr (length_pos_iff.mpr wellFormed.named)
  rw [EntryParser.splitFact, body, find_first noEquals, bind_some, if_neg positive,
    take_left]
  simp [key]

theorem WellFormed.visible (wellFormed : fact.WellFormed) : ∀ char ∈ fact.text, isBlank char = false := by
  intro char member
  rcases mem_append.mp member with name | member
  · exact (wellFormed.name char name).2.2
  · rcases mem_cons.mp member with rfl | member
    · rfl
    · rcases mem_append.mp member with value | last
      · exact (wellFormed.value char value).2
      · rw [mem_singleton.mp last]
        rfl

end Fact

namespace EntryParser

open Rejecting

variable {Time : Type} (context : ListingContext Time)

theorem require_congr {left right : Prop} [Decidable left] [Decidable right]
    (same : left ↔ right) : (require left : EntryParser Time Unit) = require right := by
  unfold require
  by_cases holds : left
  · rw [if_pos holds, if_pos (same.mp holds)]
  · rw [if_neg holds, if_neg fun other => holds (same.mpr other)]

theorem mlsdFacts_cons {fact : Fact} (wellFormed : fact.WellFormed) (steps : Nat) (more : WString)
    (facts : MlsdFacts) :
    mlsdFacts context (steps + 1) (fact.text ++ more) facts = (do
      require (3 ≤ fact.body.length)
      match ← mlsdFact context fact.key fact.value facts with
      | none => pure none
      | some facts => mlsdFacts context steps more facts) := by
  have filled : ¬ (fact.body ++ ';'.toNat :: more).isEmpty = true := by simp
  have first := @find_first _ more _ wellFormed.body_clean
  have behind : (fact.body ++ ';'.toNat :: more).drop (fact.body.length + 1) = more := by simp
  rw [text_append, mlsdFacts, if_neg filled]
  dsimp only
  rw [first, getD_some, take_left, wellFormed.splitFact, behind]
  have long : (∀ pos ∈ some fact.body.length, 3 ≤ pos) ↔ 3 ≤ fact.body.length := by simp
  rw [require_congr long] <;> rfl

/-- What the code checks of a fact, which does not depend on the other facts -/
structure Passes (fact : Fact) : Prop where
  long : 3 ≤ fact.body.length
  size : fact.key = wide "size" → 0 ≤ numberOf fact.value .decimal true
  time : fact.key = wide "modify" ∨ fact.key = wide "create" →
    (context.dates.ofString fact.value).isSome = true

end EntryParser

open EntryParser Rejecting

namespace Fact

variable {Time : Type} (context : ListingContext Time)

def skips (fact : Fact) : Prop :=
  fact.key = wide "type" ∧ mlsdType fact.value = .skip

def saysLink (fact : Fact) : Bool :=
  fact.key == wide "type" &&
    match mlsdType fact.value with
    | .link _ => true
    | _ => false

def saysDir (fact : Fact) : Bool :=
  fact.key == wide "type" &&
    match mlsdType fact.value with
    | .dir | .link _ => true
    | _ => false

def linkTarget (fact : Fact) : Option WString :=
  if fact.key = wide "type" then
    match mlsdType fact.value with
    | .link target => target
    | _ => none
  else none

/-- The time of creation is only used without another one. -/
def changeTime (time : Option Time) (fact : Fact) : Option Time :=
  if fact.key = wide "modify" ∨ (time = none ∧ fact.key = wide "create") then
    context.dates.ofString fact.value
  else time

def changeEntry (entry : CDirentry Time) (fact : Fact) : CDirentry Time :=
  { entry with
    isDir := entry.isDir || fact.saysDir
    isLink := entry.isLink || fact.saysLink
    target := fact.linkTarget.or entry.target
    size := if fact.key = wide "size" then numberOf fact.value .decimal true else entry.size
    time := fact.changeTime context entry.time }

def collect (facts : MlsdFacts) (fact : Fact) : MlsdFacts :=
  collectFact fact.key fact.value facts

variable {fact : Fact}

theorem changeEntry_type (entry : CDirentry Time) (isType : fact.key = wide "type") :
    fact.changeEntry context entry =
      match mlsdType fact.value with
      | .other => entry
      | .skip => entry
      | .dir => { entry with isDir := true }
      | .link target =>
        { entry with isDir := true, isLink := true, target := target.or entry.target } := by
  have noSize : ¬ fact.key = wide "size" := by
    rw [isType]
    decide
  have noTime : ¬ (fact.key = wide "modify" ∨ (entry.time = none ∧ fact.key = wide "create")) := by
    rw [isType]
    rintro (modify | ⟨-, create⟩) <;> contradiction
  unfold changeEntry changeTime saysDir saysLink linkTarget
  rw [if_neg noSize, if_neg noTime, if_pos isType, isType, beq_self_eq_true]
  cases mlsdType fact.value <;> simp

theorem changeEntry_other (entry : CDirentry Time) (other : ¬ fact.key = wide "type") :
    fact.changeEntry context entry =
      { entry with
        size := if fact.key = wide "size" then numberOf fact.value .decimal true
          else entry.size
        time := fact.changeTime context entry.time } := by
  have differs : (fact.key == wide "type") = false := beq_eq_false_iff_ne.mpr other
  unfold changeEntry saysDir saysLink linkTarget
  rw [if_neg other, differs]
  simp

theorem collect_entryFact (facts : MlsdFacts)
    (isEntryFact : fact.key ∈ [wide "type", wide "size", wide "modify", wide "create"]) :
    fact.collect facts = facts := by
  unfold collect
  rcases mem_cons.mp isEntryFact with type | isEntryFact
  · rw [type]
    rfl
  · rcases mem_cons.mp isEntryFact with size | isEntryFact
    · rw [size]
      rfl
    · rcases mem_cons.mp isEntryFact with modify | isEntryFact
      · rw [modify]
        rfl
      · rw [mem_singleton.mp isEntryFact]
        rfl

theorem mlsdFact_skips (skips : fact.skips) (facts : MlsdFacts) (entry : CDirentry Time) :
    outcome (mlsdFact context fact.key fact.value facts) entry = (some none, entry) := by
  rw [mlsdFact, outcome_bind, readTime, outcome_read]
  dsimp only
  rw [if_pos skips.1, skips.2]
  rfl

theorem mlsdFact_passes (passes : Passes context fact) (noSkip : ¬ fact.skips) (facts : MlsdFacts)
    (entry : CDirentry Time) :
    outcome (mlsdFact context fact.key fact.value facts) entry =
      (some (some (fact.collect facts)), fact.changeEntry context entry) := by
  rw [mlsdFact, outcome_bind, readTime, outcome_read]
  dsimp only
  by_cases type : fact.key = wide "type"
  · rw [if_pos type, collect_entryFact facts (by rw [type]; exact mem_cons_self),
      changeEntry_type context entry type]
    cases kind : mlsdType fact.value with
    | skip => exact absurd ⟨type, kind⟩ noSkip
    | other => rfl
    | dir =>
      simp only [outcome_bind, addDir, outcome_modify, outcome_pure, Bool.or_true]
    | link target =>
      cases target with
      | none =>
        simp only [outcome_bind, addDir, addLink, outcome_modify, outcome_pure, Bool.or_true,
          none_or]
      | some target =>
        simp only [outcome_bind, addDir, addLink, setTarget, outcome_modify, outcome_pure,
          Bool.or_true, some_or]
  · rw [if_neg type, changeEntry_other context entry type, changeTime]
    by_cases size : fact.key = wide "size"
    · have noTime : ¬ (fact.key = wide "modify" ∨
          (entry.time = none ∧ fact.key = wide "create")) := by
        rw [size]
        rintro (modify | ⟨-, create⟩) <;> contradiction
      rw [if_pos size, if_pos size, if_neg noTime, collect_entryFact facts (by rw [size]; decide)]
      simp only [outcome_bind, setSize, outcome_modify, require, if_pos (passes.size size),
        outcome_pure]
    · rw [if_neg size, if_neg size]
      by_cases time : fact.key = wide "modify" ∨ (entry.time = none ∧ fact.key = wide "create")
      · have isTime : fact.key = wide "modify" ∨ fact.key = wide "create" :=
          time.imp_right fun create => create.2
        have dated := passes.time isTime
        rw [if_pos time, if_pos time, collect_entryFact facts (by
          rcases isTime with modify | create
          · rw [modify]; decide
          · rw [create]; decide)]
        simp only [outcome_bind, setTime, outcome_modify, require, if_pos dated, outcome_pure]
      · rw [if_neg time, if_neg time]
        rfl

end Fact

section
variable {Time : Type} (context : ListingContext Time) {facts : List Fact}

theorem factsText_filled (filled : facts ≠ []) : factsText facts ≠ [] := by
  obtain ⟨fact, facts, rfl⟩ := exists_cons_of_ne_nil filled
  simp [text]

theorem length_le_factsText (facts : List Fact) : facts.length ≤ (factsText facts).length := by
  induction facts with
  | nil => exact le_refl _
  | cons fact facts induction =>
    rw [factsText_cons, length_append, length_cons, text]
    simp only [length_append, length_cons]
    omega

theorem mlsdFacts_run (wellFormed : ∀ fact ∈ facts, fact.WellFormed)
    (passes : ∀ fact ∈ facts, Passes context fact) (noSkip : ∀ fact ∈ facts, ¬ fact.skips)
    {steps : Nat} (enough : facts.length ≤ steps) (collected : MlsdFacts)
    (entry : CDirentry Time) :
    outcome (mlsdFacts context steps (factsText facts) collected) entry =
      (some (some (facts.foldl collect collected)),
        facts.foldl (changeEntry context) entry) := by
  induction facts generalizing steps collected entry with
  | nil => cases steps <;> rfl
  | cons fact facts induction =>
    obtain ⟨steps, rfl⟩ := Nat.exists_eq_succ_of_ne_zero
      (Nat.ne_of_gt (Nat.lt_of_lt_of_le (Nat.succ_pos _) enough))
    have passed := passes fact mem_cons_self
    rw [factsText_cons, mlsdFacts_cons context (wellFormed fact mem_cons_self), require, if_pos passed.long,
      pure_bind, outcome_bind,
      mlsdFact_passes context passed (noSkip fact mem_cons_self)]
    exact induction (fun fact member => wellFormed fact (mem_cons_of_mem _ member))
      (fun fact member => passes fact (mem_cons_of_mem _ member))
      (fun fact member => noSkip fact (mem_cons_of_mem _ member)) (by simpa using enough) _ _

theorem mlsdFacts_skip (wellFormed : ∀ fact ∈ facts, fact.WellFormed)
    (passes : ∀ fact ∈ facts, Passes context fact) (skip : ∃ fact ∈ facts, fact.skips)
    {steps : Nat} (enough : facts.length ≤ steps) (collected : MlsdFacts)
    (entry : CDirentry Time) :
    (outcome (mlsdFacts context steps (factsText facts) collected) entry).1 = some none := by
  induction facts generalizing steps collected entry with
  | nil =>
    obtain ⟨fact, member, -⟩ := skip
    cases member
  | cons fact facts induction =>
    obtain ⟨steps, rfl⟩ := Nat.exists_eq_succ_of_ne_zero
      (Nat.ne_of_gt (Nat.lt_of_lt_of_le (Nat.succ_pos _) enough))
    have passed := passes fact mem_cons_self
    rw [factsText_cons, mlsdFacts_cons context (wellFormed fact mem_cons_self), require, if_pos passed.long,
      pure_bind, outcome_bind]
    by_cases skips : fact.skips
    · rw [mlsdFact_skips context skips]
      rfl
    · rw [mlsdFact_passes context passed skips]
      refine induction (fun fact member => wellFormed fact (mem_cons_of_mem _ member))
        (fun fact member => passes fact (mem_cons_of_mem _ member)) ?_
        (by simpa using enough) _ _
      obtain ⟨other, member, otherSkips⟩ := skip
      rcases mem_cons.mp member with rfl | later
      · contradiction
      · exact ⟨other, later, otherSkips⟩

end

structure MlsdLine where
  lead : WString
  rest : WString
  lead_blank : ∀ char ∈ lead, isBlank char = true
  rest_blank : ∀ char ∈ rest.head?, isBlank char = true

namespace MlsdLine

variable {Time : Type} (context : ListingContext Time) (self : MlsdLine) {facts : List Fact}

def line (facts : List Fact) : CLine :=
  CLine.ofText (self.lead ++ (factsText facts ++ self.rest))

variable {self}

theorem fromToken_line (filled : facts ≠ []) (wellFormed : ∀ fact ∈ facts, fact.WellFormed) :
    (self.line facts).fromToken 0 = factsText facts ++ self.rest := by
  obtain ⟨fact, facts, rfl⟩ := exists_cons_of_ne_nil filled
  have visible := (wellFormed fact mem_cons_self).visible
  have start : ∃ char rest, factsText (fact :: facts) ++ self.rest = char :: rest ∧
      isBlank char = false := by
    obtain ⟨char, rest, text⟩ := exists_cons_of_ne_nil (show fact.text ≠ [] by simp [text])
    exact ⟨char, rest ++ factsText facts ++ self.rest, by simp [text],
      visible char (by rw [text]; exact mem_cons_self)⟩
  obtain ⟨char, rest, text, visible⟩ := start
  change (self.lead ++ (factsText (fact :: facts) ++ self.rest)).dropWhile isBlank = _
  rw [dropWhile_append_of_pos self.lead_blank, text, dropWhile_cons_of_neg (by simp [visible])]

theorem getToken_line (filled : facts ≠ []) (wellFormed : ∀ fact ∈ facts, fact.WellFormed) :
    (self.line facts).getToken 0 = factsText facts := by
  have visible : ∀ char ∈ factsText facts, (!isBlank char) = true := by
    intro char member
    obtain ⟨fact, isFact, inText⟩ := mem_flatMap.mp member
    rw [(wellFormed fact isFact).visible char inText]
    rfl
  rw [CLine.getToken, fromToken_line filled wellFormed, takeWhile_append_of_pos visible]
  cases ends : self.rest with
  | nil => simp
  | cons char rest =>
    have blank := self.rest_blank char (by rw [ends]; rfl)
    simp [blank]

theorem nameToken_line (filled : facts ≠ []) (wellFormed : ∀ fact ∈ facts, fact.WellFormed) :
    (self.line facts).getEndTokenWithWhitespace 1 = self.rest.drop 1 := by
  have nonempty : ¬ (factsText facts).isEmpty = true := by simpa using factsText_filled filled
  rw [CLine.getEndTokenWithWhitespace, Nat.sub_self, getToken_line filled wellFormed, if_neg nonempty, fromToken_line filled wellFormed, drop_length_add_append]

/-- What `ParseLine` gets: there is no entry when the line is rejected or to be skipped. -/
def answer (facts : List Fact) (entry : CDirentry Time) : Option Bool × Option (CDirentry Time) :=
  match outcome (parseAsMlsd context (self.line facts)) entry with
  | (some true, entry) => (some true, some entry)
  | (result, _) => (result, none)

end MlsdLine

def CDirentry.forFacts {Time : Type} (entry : CDirentry Time) : CDirentry Time :=
  { entry with isDir := false, isLink := false, isUnsure := false, size := -1, time := none,
               target := none }

def CDirentry.withFacts {Time : Type} (entry : CDirentry Time) (name : WString)
    (collected : MlsdFacts) : CDirentry Time :=
  { entry with name, ownerGroup := mlsdOwnerGroup collected, permissions := collected.permissions }

namespace MlsdLine

variable {Time : Type} (context : ListingContext Time) {self : MlsdLine} {facts : List Fact}

theorem parseAsMlsd_line (filled : facts ≠ []) (wellFormed : ∀ fact ∈ facts, fact.WellFormed)
    (entry : CDirentry Time) :
    outcome (parseAsMlsd context (self.line facts)) entry = outcome (do
        match ← mlsdFacts context (factsText facts).length (factsText facts) {} with
        | none => pure false
        | some collected => do
            require (self.rest.drop 1 ≠ [])
            modify fun entry => entry.withFacts (self.rest.drop 1) collected
            pure true) entry.forFacts := by
  have token : (self.line facts).getToken? 0 = some (factsText facts) := by
    have nonempty : ¬ (factsText facts).isEmpty = true := by simpa using factsText_filled filled
    rw [CLine.getToken?, getToken_line filled wellFormed, if_neg nonempty]
  rw [parseAsMlsd, getToken, token, nameToken_line filled wellFormed]
  change outcome (mlsdFacts context (factsText facts).length (factsText facts) {} >>= _)
    entry.forFacts = _
  rw [outcome_bind, outcome_bind]
  rcases outcome (mlsdFacts context (factsText facts).length (factsText facts) {})
    entry.forFacts with ⟨_ | _ | collected, left⟩
  · rfl
  · rfl
  · dsimp only
    unfold require
    split <;> rfl

theorem answer_skipped (filled : facts ≠ []) (wellFormed : ∀ fact ∈ facts, fact.WellFormed)
    (passes : ∀ fact ∈ facts, Passes context fact) (skip : ∃ fact ∈ facts, fact.skips)
    (entry : CDirentry Time) : self.answer context facts entry = (some false, none) := by
  have run := mlsdFacts_skip context wellFormed passes skip (length_le_factsText facts) {}
    entry.forFacts
  rw [answer, parseAsMlsd_line context filled wellFormed, outcome_bind]
  rcases result : outcome (mlsdFacts context (factsText facts).length (factsText facts) {})
    entry.forFacts with ⟨_ | _ | collected, left⟩
  · rw [result] at run
    contradiction
  · rfl
  · rw [result] at run
    cases run

theorem answer_read (filled : facts ≠ []) (wellFormed : ∀ fact ∈ facts, fact.WellFormed)
    (passes : ∀ fact ∈ facts, Passes context fact) (noSkip : ∀ fact ∈ facts, ¬ fact.skips)
    (entry : CDirentry Time) :
    self.answer context facts entry =
      if self.rest.drop 1 ≠ [] then
        (some true, some ((facts.foldl (changeEntry context) entry.forFacts).withFacts
          (self.rest.drop 1) (facts.foldl collect {})))
      else (none, none) := by
  rw [answer, parseAsMlsd_line context filled wellFormed, outcome_bind,
    mlsdFacts_run context wellFormed passes noSkip (length_le_factsText facts)]
  dsimp only
  unfold require
  by_cases named : self.rest.drop 1 ≠ []
  · rw [if_pos named, if_pos named]
    rfl
  · rw [if_neg named, if_neg named]
    rfl

def alone : MlsdLine where
  lead := []
  rest := wide " x"
  lead_blank := by simp
  rest_blank := by decide

end MlsdLine

namespace Fact

variable {Time : Type} (context : ListingContext Time) {fact : Fact}

/-- The fact is not a reason to reject a line. -/
def Valid (fact : Fact) : Prop :=
  (outcome (parseAsMlsd context (MlsdLine.alone.line [fact])) {}).1 ≠ none

theorem mlsdFact_accepts {facts : MlsdFacts} {result : Option MlsdFacts}
    {entry left : CDirentry Time} (untimed : entry.time = none)
    (accepts : outcome (mlsdFact context fact.key fact.value facts) entry = (some result, left)) :
    (fact.key = wide "size" → 0 ≤ numberOf fact.value .decimal true) ∧
      (fact.key = wide "modify" ∨ fact.key = wide "create" →
        (context.dates.ofString fact.value).isSome = true) := by
  obtain ⟨time, between, known, accepts⟩ := accepts_bind accepts
  rw [readTime, outcome_read, untimed] at known
  cases known
  constructor
  · intro size
    have noType : ¬ fact.key = wide "type" := by
      rw [size]
      decide
    rw [if_neg noType, if_pos size] at accepts
    obtain ⟨_, between, stored, accepts⟩ := accepts_bind accepts
    exact (accepts_require accepts).1
  · intro time
    have other : ¬ fact.key = wide "type" ∧ ¬ fact.key = wide "size" := by
      rcases time with modify | create
      · rw [modify]
        decide
      · rw [create]
        decide
    have parsed : fact.key = wide "modify" ∨ ((none : Option Time) = none ∧ fact.key = wide "create") :=
      time.imp_right fun create => ⟨rfl, create⟩
    rw [if_neg other.1, if_neg other.2, if_pos parsed] at accepts
    obtain ⟨_, between, stored, accepts⟩ := accepts_bind accepts
    exact (accepts_require accepts).1

theorem Valid.passes (valid : fact.Valid context) (wellFormed : fact.WellFormed) :
    Passes context fact := by
  have only : ∀ other ∈ [fact], other.WellFormed := by
    intro other member
    rw [mem_singleton.mp member]
    exact wellFormed
  obtain ⟨result, accepted⟩ := ne_none_iff_exists'.mp valid
  rcases whole : outcome (parseAsMlsd context (MlsdLine.alone.line [fact])) {} with ⟨answer, left⟩
  rw [whole] at accepted
  obtain rfl : answer = some result := accepted
  rw [MlsdLine.parseAsMlsd_line context (cons_ne_nil _ _) only] at whole
  obtain ⟨collected, between, read, -⟩ := accepts_bind whole
  obtain ⟨steps, length⟩ := Nat.exists_eq_succ_of_ne_zero
    (Nat.ne_of_gt (length_le_factsText [fact]))
  rw [length, factsText_cons, mlsdFacts_cons context wellFormed] at read
  obtain ⟨long, read⟩ := accepts_require read
  obtain ⟨_, between, read, -⟩ := accepts_bind read
  obtain ⟨size, time⟩ := mlsdFact_accepts context rfl read
  exact ⟨long, size, time⟩

end Fact

namespace Fact

variable {Time : Type} (context : ListingContext Time)

def collectPermissions (permissions : WString) (fact : Fact) : WString :=
  if fact.key = wide "perm" then
    if fact.value.isEmpty then permissions else withParentheses fact.value permissions
  else if fact.key = wide "unix.mode" then
    if permissions.isEmpty then fact.value
    else permissions ++ wide " (" ++ fact.value ++ wide ")"
  else permissions

def collectText (name : WString) (text : WString) (fact : Fact) : WString :=
  if fact.key = name then fact.value else text

theorem collect_eq (facts : MlsdFacts) (fact : Fact) :
    fact.collect facts =
      { owner := collectText (wide "unix.owner") facts.owner fact
        ownername := collectText (wide "unix.ownername") facts.ownername fact
        group := collectText (wide "unix.group") facts.group fact
        groupname := collectText (wide "unix.groupname") facts.groupname fact
        user := collectText (wide "unix.user") facts.user fact
        uid := collectText (wide "unix.uid") facts.uid fact
        gid := collectText (wide "unix.gid") facts.gid fact
        permissions := collectPermissions facts.permissions fact } := by
  unfold collect collectFact collectText collectPermissions
  generalize fact.key = key
  split
  case isTrue perm =>
    subst perm
    split <;> rfl
  case isFalse perm =>
    split
    case isTrue mode =>
      subst mode
      rfl
    case isFalse mode =>
      by_cases owner : key = wide "unix.owner"
      · subst owner
        rfl
      · by_cases ownername : key = wide "unix.ownername"
        · subst ownername
          rfl
        · by_cases group : key = wide "unix.group"
          · subst group
            rfl
          · by_cases groupname : key = wide "unix.groupname"
            · subst groupname
              rfl
            · by_cases user : key = wide "unix.user"
              · subst user
                rfl
              · by_cases uid : key = wide "unix.uid"
                · subst uid
                  rfl
                · by_cases gid : key = wide "unix.gid"
                  · subst gid
                    rfl
                  · simp only [owner, ownername, group, groupname, user, uid, gid, if_false]

theorem collectText_comm {first second : Fact} (different : first.key ≠ second.key)
    (name text : WString) :
    collectText name (collectText name text first) second =
      collectText name (collectText name text second) first := by
  unfold collectText
  by_cases isFirst : first.key = name
  · have notSecond : ¬ second.key = name := fun isSecond => different (isFirst.trans isSecond.symm)
    rw [if_neg notSecond, if_neg notSecond]
  · rw [if_neg isFirst, if_neg isFirst]

variable {fact : Fact}

theorem collectPermissions_perm (perm : fact.key = wide "perm") (permissions : WString) :
    collectPermissions permissions fact =
      if fact.value.isEmpty then permissions else withParentheses fact.value permissions :=
  if_pos perm

theorem collectPermissions_mode (mode : fact.key = wide "unix.mode") (permissions : WString) :
    collectPermissions permissions fact =
      if permissions.isEmpty then fact.value
      else permissions ++ wide " (" ++ fact.value ++ wide ")" := by
  have noPerm : ¬ fact.key = wide "perm" := by
    rw [mode]
    decide
  rw [collectPermissions, if_neg noPerm, if_pos mode]

theorem collectPermissions_other (noPerm : fact.key ≠ wide "perm")
    (noMode : fact.key ≠ wide "unix.mode") (permissions : WString) :
    collectPermissions permissions fact = permissions := by
  rw [collectPermissions, if_neg noPerm, if_neg noMode]

theorem collectPermissions_swap_iff {perm mode : Fact} (isPerm : perm.key = wide "perm")
    (isMode : mode.key = wide "unix.mode") :
    collectPermissions (collectPermissions [] perm) mode =
        collectPermissions (collectPermissions [] mode) perm ↔
      ¬ (perm.value ≠ [] ∧ mode.value = []) := by
  have first : collectPermissions [] mode = mode.value := collectPermissions_mode isMode []
  rw [first, collectPermissions_perm isPerm, collectPermissions_perm isPerm]
  by_cases noPerm : perm.value = []
  · rw [noPerm, isEmpty_nil, if_pos rfl, if_pos rfl, first]
    simp
  · have filled : ¬ perm.value.isEmpty = true := by simpa using noPerm
    have alone : withParentheses perm.value [] = perm.value := if_pos rfl
    rw [if_neg filled, if_neg filled, alone, collectPermissions_mode isMode, if_neg filled,
      withParentheses]
    by_cases noMode : mode.value = []
    · rw [noMode, isEmpty_nil, if_pos rfl]
      simp [noPerm, wide]
    · have filledMode : ¬ mode.value.isEmpty = true := by simpa using noMode
      rw [if_neg filledMode]
      simp [noMode]

end Fact

/-- The permissions are given, and the mode is given without a value. -/
def EmptyMode (facts : List Fact) : Prop :=
  (∃ perm ∈ facts, perm.key = wide "perm" ∧ perm.value ≠ []) ∧
    ∃ mode ∈ facts, mode.key = wide "unix.mode" ∧ mode.value = []

structure Collectable (collected : MlsdFacts) (facts : List Fact) : Prop where
  distinct : (facts.map key).Nodup
  fresh : (∃ perm ∈ facts, perm.key = wide "perm") →
    (∃ mode ∈ facts, mode.key = wide "unix.mode") → collected.permissions = []
  moded : ¬ EmptyMode facts

theorem collect_permissions (collected : MlsdFacts) (fact : Fact) :
    (fact.collect collected).permissions = fact.collectPermissions collected.permissions := by
  rw [collect_eq]

namespace Collectable

variable {collected : MlsdFacts} {first second : Fact} {facts : List Fact}

theorem permissions_swap (collectable : Collectable collected (first :: second :: facts))
    (isPerm : first.key = wide "perm") (isMode : second.key = wide "unix.mode") :
    second.collectPermissions (first.collectPermissions collected.permissions) =
      first.collectPermissions (second.collectPermissions collected.permissions) := by
  have isFirst : first ∈ first :: second :: facts := mem_cons_self
  have isSecond : second ∈ first :: second :: facts := mem_cons_of_mem _ mem_cons_self
  rw [collectable.fresh ⟨first, isFirst, isPerm⟩ ⟨second, isSecond, isMode⟩]
  refine (collectPermissions_swap_iff isPerm isMode).mpr fun bad => collectable.moded ?_
  exact ⟨⟨first, isFirst, isPerm, bad.1⟩, second, isSecond, isMode, bad.2⟩

theorem perm {left right : List Fact} (permuted : left.Perm right)
    (collectable : Collectable collected left) : Collectable collected right := by
  have member : ∀ {fact}, fact ∈ right → fact ∈ left := fun isFact => permuted.mem_iff.mpr isFact
  refine ⟨(permuted.map _).nodup_iff.mp collectable.distinct, ?_, ?_⟩
  · rintro ⟨perm, isPerm, permKey⟩ ⟨mode, isMode, modeKey⟩
    exact collectable.fresh ⟨perm, member isPerm, permKey⟩ ⟨mode, member isMode, modeKey⟩
  · rintro ⟨⟨perm, isPerm, filled⟩, mode, isMode, empty⟩
    exact collectable.moded ⟨⟨perm, member isPerm, filled⟩, mode, member isMode, empty⟩

theorem next (collectable : Collectable collected (first :: facts)) :
    Collectable (first.collect collected) facts := by
  obtain ⟨absent, distinct⟩ := nodup_cons.mp collectable.distinct
  have later : ∀ {fact}, fact ∈ facts → fact.key ≠ first.key := fun member same =>
    absent (same ▸ mem_map_of_mem member)
  refine ⟨distinct, ?_, ?_⟩
  · rintro ⟨perm, isPerm, permKey⟩ ⟨mode, isMode, modeKey⟩
    rw [collect_permissions, collectPermissions_other (fun key => later isPerm (permKey.trans key.symm))
      (fun key => later isMode (modeKey.trans key.symm))]
    exact collectable.fresh ⟨perm, mem_cons_of_mem _ isPerm, permKey⟩
      ⟨mode, mem_cons_of_mem _ isMode, modeKey⟩
  · rintro ⟨⟨perm, isPerm, filled⟩, mode, isMode, empty⟩
    exact collectable.moded
      ⟨⟨perm, mem_cons_of_mem _ isPerm, filled⟩, mode, mem_cons_of_mem _ isMode, empty⟩

theorem swap (collectable : Collectable collected (first :: second :: facts)) :
    second.collect (first.collect collected) = first.collect (second.collect collected) := by
  have different : first.key ≠ second.key := by
    have absent := (nodup_cons.mp collectable.distinct).1
    exact fun same => absent (same ▸ mem_cons_self)
  have permissions : second.collectPermissions (first.collectPermissions collected.permissions) =
      first.collectPermissions (second.collectPermissions collected.permissions) := by
    by_cases firstPerm : first.key = wide "perm"
    · by_cases secondMode : second.key = wide "unix.mode"
      · exact collectable.permissions_swap firstPerm secondMode
      · have other : second.key ≠ wide "perm" := fun key => different (firstPerm.trans key.symm)
        rw [collectPermissions_other other secondMode,
          collectPermissions_other other secondMode]
    · by_cases firstMode : first.key = wide "unix.mode"
      · by_cases secondPerm : second.key = wide "perm"
        · have swapped := collectable.perm (List.Perm.swap second first facts)
          exact (swapped.permissions_swap secondPerm firstMode).symm
        · have other : second.key ≠ wide "unix.mode" := fun key => different (firstMode.trans key.symm)
          rw [collectPermissions_other secondPerm other,
            collectPermissions_other secondPerm other]
      · rw [collectPermissions_other firstPerm firstMode,
          collectPermissions_other firstPerm firstMode]
  rw [collect_eq, collect_eq, collect_eq, collect_eq]
  dsimp only
  congr 1
  all_goals exact collectText_comm different _ _

theorem commuting : Commuting collect Collectable where
  perm := perm
  next := next
  swap := swap

end Collectable

namespace Fact

variable {Time : Type} (context : ListingContext Time)

variable {first second : Fact}

theorem changeTime_comm (different : first.key ≠ second.key) (firstPasses : Passes context first)
    (secondPasses : Passes context second) (time : Option Time) :
    second.changeTime context (first.changeTime context time) =
      first.changeTime context (second.changeTime context time) := by
  have modified : ∀ {fact : Fact} (time : Option Time), fact.key = wide "modify" →
      fact.changeTime context time = context.dates.ofString fact.value :=
    fun time modify => if_pos (.inl modify)
  have kept : ∀ {fact : Fact} (time : Option Time), fact.key ≠ wide "modify" →
      time.isSome = true ∨ fact.key ≠ wide "create" → fact.changeTime context time = time := by
    intro fact time noModify timed
    refine if_neg ?_
    rintro (modify | ⟨untimed, create⟩)
    · contradiction
    · subst untimed
      rcases timed with timed | noCreate
      · cases timed
      · contradiction
  by_cases firstModify : first.key = wide "modify"
  · have noModify : second.key ≠ wide "modify" := fun key => different (firstModify.trans key.symm)
    rw [modified _ firstModify, modified _ firstModify,
      kept _ noModify (.inl (firstPasses.time (.inl firstModify)))]
  · by_cases secondModify : second.key = wide "modify"
    · rw [modified _ secondModify, modified _ secondModify,
        kept _ firstModify (.inl (secondPasses.time (.inl secondModify)))]
    · by_cases firstCreate : first.key = wide "create"
      · have noCreate : second.key ≠ wide "create" := fun key => different (firstCreate.trans key.symm)
        rw [kept _ secondModify (.inr noCreate), kept _ secondModify (.inr noCreate)]
      · rw [kept _ firstModify (.inr firstCreate), kept _ firstModify (.inr firstCreate)]

theorem linkTarget_comm (different : first.key ≠ second.key) (target : Option WString) :
    second.linkTarget.or (first.linkTarget.or target) =
      first.linkTarget.or (second.linkTarget.or target) := by
  have untyped : ∀ {fact : Fact}, fact.key ≠ wide "type" → fact.linkTarget = none :=
    fun noType => if_neg noType
  by_cases type : first.key = wide "type"
  · rw [untyped fun key => different (type.trans key.symm), none_or, none_or]
  · rw [untyped type, none_or, none_or]

theorem size_comm (different : first.key ≠ second.key) (size : Int) :
    (if second.key = wide "size" then numberOf second.value .decimal true
      else if first.key = wide "size" then numberOf first.value .decimal true else size) =
    if first.key = wide "size" then numberOf first.value .decimal true
      else if second.key = wide "size" then numberOf second.value .decimal true
      else size := by
  by_cases isFirst : first.key = wide "size"
  · have notSecond : ¬ second.key = wide "size" := fun key => different (isFirst.trans key.symm)
    rw [if_neg notSecond, if_neg notSecond]
  · rw [if_neg isFirst, if_neg isFirst]

theorem commuting_changeEntry : Commuting (changeEntry context) fun _ facts =>
    (facts.map key).Nodup ∧ ∀ fact ∈ facts, Passes context fact where
  perm := fun permuted fitting =>
    ⟨(permuted.map _).nodup_iff.mp fitting.1,
      fun fact member => fitting.2 fact (permuted.mem_iff.mpr member)⟩
  next := fun fitting =>
    ⟨(nodup_cons.mp fitting.1).2,
      fun fact member => fitting.2 fact (mem_cons_of_mem _ member)⟩
  swap := by
    intro entry first second facts fitting
    have different : first.key ≠ second.key := by
      have absent := (nodup_cons.mp fitting.1).1
      exact fun same => absent (same ▸ mem_cons_self)
    have time := changeTime_comm context different (fitting.2 first mem_cons_self)
      (fitting.2 second (mem_cons_of_mem _ mem_cons_self)) entry.time
    have target := linkTarget_comm different entry.target
    have size := size_comm different entry.size
    unfold changeEntry
    dsimp only
    rw [time, target, size, Bool.or_right_comm entry.isDir, Bool.or_right_comm entry.isLink]

end Fact

structure LineFacts {Time : Type} (context : ListingContext Time) where
  facts : List Fact
  wellFormed : ∀ fact ∈ facts, fact.WellFormed
  distinct : (facts.map key).Nodup
  valid : ∀ fact ∈ facts, fact.Valid context

namespace LineFacts

variable {Time : Type} {context : ListingContext Time} (self : LineFacts context)

theorem passes : ∀ fact ∈ self.facts, Passes context fact :=
  fun fact member => (self.valid fact member).passes context (self.wellFormed fact member)

def permute {permuted : List Fact} (order : self.facts.Perm permuted) : LineFacts context where
  facts := permuted
  wellFormed fact member := self.wellFormed fact (order.mem_iff.mpr member)
  distinct := (order.map _).nodup_iff.mp self.distinct
  valid fact member := self.valid fact (order.mem_iff.mpr member)

end LineFacts

namespace MlsdLine

variable {Time : Type} {context : ListingContext Time} (self : MlsdLine)

def OrderIndependent (facts : LineFacts context) : Prop :=
  ∀ permuted, facts.facts.Perm permuted → ∀ entry : CDirentry Time,
    self.answer context permuted entry = self.answer context facts.facts entry

/-- The line is for an entry, whose permissions show the empty mode or not. -/
structure ShowsEmptyMode (facts : LineFacts context) : Prop where
  moded : EmptyMode facts.facts
  noSkip : ∀ fact ∈ facts.facts, ¬ fact.skips
  named : self.rest.drop 1 ≠ []

variable {self} {facts : LineFacts context}

theorem answer_named (filled : facts.facts ≠ []) (noSkip : ∀ fact ∈ facts.facts, ¬ fact.skips)
    (named : self.rest.drop 1 ≠ []) (entry : CDirentry Time) :
    self.answer context facts.facts entry = (some true,
      some ((facts.facts.foldl (changeEntry context) entry.forFacts).withFacts
        (self.rest.drop 1) (facts.facts.foldl collect {}))) := by
  rw [answer_read context filled facts.wellFormed facts.passes noSkip, if_pos named]

theorem collect_others {collected : MlsdFacts} {others : List Fact}
    (noPerm : wide "perm" ∉ others.map key) (noMode : wide "unix.mode" ∉ others.map key) :
    (others.foldl collect collected).permissions = collected.permissions := by
  refine foldl_keeps (fun collected fact member => ?_) collected
  have isKey := mem_map_of_mem (f := key) member
  rw [collect_permissions]
  exact collectPermissions_other (fun key => noPerm (key ▸ isKey))
    (fun key => noMode (key ▸ isKey)) _

theorem not_orderIndependent (shows : self.ShowsEmptyMode facts) :
    ¬ self.OrderIndependent facts := by
  intro independent
  obtain ⟨⟨⟨perm, permIn, isPerm, filled⟩, mode, modeIn, isMode, empty⟩, noSkip, named⟩ := shows
  have different : mode ≠ perm := by
    rintro rfl
    have same := isPerm.symm.trans isMode
    contradiction
  have later : mode ∈ facts.facts.erase perm := (mem_erase_of_ne different).mpr modeIn
  have permFirst : facts.facts.Perm (perm :: mode :: (facts.facts.erase perm).erase mode) :=
    (perm_cons_erase permIn).trans ((perm_cons_erase later).cons perm)
  have modeFirst := permFirst.trans (List.Perm.swap mode perm _)
  generalize (facts.facts.erase perm).erase mode = others at permFirst modeFirst
  have same := (independent _ permFirst {}).trans (independent _ modeFirst {}).symm
  have first := @answer_named _ _ self (facts.permute permFirst) (cons_ne_nil _ _)
    (fun fact member => noSkip fact (permFirst.mem_iff.mpr member)) named {}
  have second := @answer_named _ _ self (facts.permute modeFirst) (cons_ne_nil _ _)
    (fun fact member => noSkip fact (modeFirst.mem_iff.mpr member)) named {}
  change self.answer context (perm :: mode :: others) {} = _ at first
  change self.answer context (mode :: perm :: others) {} = _ at second
  rw [first, second] at same
  have permissions := congrArg CDirentry.permissions (some.inj (Prod.mk.inj same).2)
  have distinct : (perm.key :: mode.key :: others.map key).Nodup :=
    (facts.permute permFirst).distinct
  rw [isPerm, isMode] at distinct
  obtain ⟨noPerm, distinct⟩ := nodup_cons.mp distinct
  have noPerm : wide "perm" ∉ others.map key :=
    fun member => noPerm (mem_cons_of_mem _ member)
  have noMode := (nodup_cons.mp distinct).1
  change ((others.foldl collect (mode.collect (perm.collect {})))).permissions =
    ((others.foldl collect (perm.collect (mode.collect {})))).permissions at permissions
  rw [collect_others noPerm noMode, collect_others noPerm noMode, collect_permissions,
    collect_permissions, collect_permissions, collect_permissions] at permissions
  exact (collectPermissions_swap_iff isPerm isMode).mp permissions ⟨filled, empty⟩

theorem orderIndependent_of_not_shows (fine : ¬ self.ShowsEmptyMode facts) :
    self.OrderIndependent facts := by
  intro permuted order entry
  by_cases filled : facts.facts = []
  · rw [filled] at order ⊢
    rw [order.nil_eq]
  · have stillFilled : permuted ≠ [] := fun empty => filled (empty ▸ order).eq_nil
    have wellFormed := (facts.permute order).wellFormed
    have passes := (facts.permute order).passes
    by_cases skip : ∃ fact ∈ facts.facts, fact.skips
    · obtain ⟨fact, member, skips⟩ := skip
      rw [answer_skipped context filled facts.wellFormed facts.passes ⟨fact, member, skips⟩,
        answer_skipped context stillFilled wellFormed passes
          ⟨fact, order.mem_iff.mp member, skips⟩]
    · have noSkip : ∀ fact ∈ facts.facts, ¬ fact.skips :=
        fun fact member skips => skip ⟨fact, member, skips⟩
      have stillNoSkip : ∀ fact ∈ permuted, ¬ fact.skips :=
        fun fact member => noSkip fact (order.mem_iff.mpr member)
      rw [answer_read context filled facts.wellFormed facts.passes noSkip,
        answer_read context stillFilled wellFormed passes stillNoSkip]
      by_cases named : self.rest.drop 1 = []
      · rw [if_neg (not_not.mpr named), if_neg (not_not.mpr named)]
      · have collectable : Collectable {} facts.facts :=
          ⟨facts.distinct, fun _ _ => rfl, fun moded => fine ⟨moded, noSkip, named⟩⟩
        rw [Collectable.commuting.foldl_perm order collectable,
          (commuting_changeEntry context).foldl_perm order ⟨facts.distinct, facts.passes⟩]

theorem orderIndependent_iff (self : MlsdLine) (facts : LineFacts context) :
    self.OrderIndependent facts ↔ ¬ self.ShowsEmptyMode facts :=
  ⟨fun independent shows => not_orderIndependent shows independent, orderIndependent_of_not_shows⟩

def emptyMode : LineFacts LineState.unixContext where
  facts := [⟨wide "perm", wide "el"⟩, ⟨wide "unix.mode", []⟩]
  wellFormed := by
    intro fact member
    rcases List.mem_cons.mp member with rfl | member
    · exact ⟨by decide, by decide, by decide⟩
    · rw [List.mem_singleton.mp member]
      exact ⟨by decide, by decide, by decide⟩
  distinct := by decide
  valid := by
    intro fact member
    rcases List.mem_cons.mp member with rfl | member
    · unfold Valid
      decide +kernel
    · rw [List.mem_singleton.mp member]
      unfold Valid
      decide +kernel

/-- The permissions are `el ()` or `el`. -/
theorem emptyMode_in_both_orders : ¬ alone.OrderIndependent emptyMode := by
  intro independent
  have order : emptyMode.facts.Perm [⟨wide "unix.mode", []⟩, ⟨wide "perm", wide "el"⟩] :=
    List.Perm.swap ..
  have same := independent _ order {}
  have permissions := congrArg (fun answer => answer.2.map CDirentry.permissions) same
  revert permissions
  decide +kernel

end MlsdLine

end FileZilla
