import FileZilla.Engine.Ftp.Logon
import FileZilla.Substitution

namespace FileZilla.Ftp

open List

open Substitution

inductive Placeholder
  | proxyUser
  | proxyPass
  | host
  | user
  | account
  | password
  deriving DecidableEq

namespace Placeholder

def letter : Placeholder → WChar
  | proxyUser => 's'.toNat
  | proxyPass => 'w'.toNat
  | host => 'h'.toNat
  | user => 'u'.toNat
  | account => 'a'.toNat
  | password => 'p'.toNat

def prepared : List Placeholder :=
  [proxyUser, proxyPass, host, user, account]

def ofLetter (char : WChar) : Option Placeholder :=
  (prepared ++ [password]).find? fun placeholder => placeholder.letter = char

def escapes : Escapes Placeholder WChar where
  mark := '%'.toNat
  letterOf := letter
  slotOf := ofLetter
  slotOf_eq_some := by
    intro char placeholder
    constructor
    · intro found
      simpa using List.find?_some found
    · rintro rfl
      cases placeholder <;> rfl
  unmarked := rfl

/-- `%` with the letter -/
def pattern (self : Placeholder) : WString :=
  ['%'.toNat, self.letter]

end Placeholder

theorem replaceFrom_drop (find replacement : WString) (replaced : Nat) (text : WString) :
    replaceFrom find replacement replaced text =
      replaceSubstrings (text.drop replaced) find replacement := by
  induction text generalizing replaced with
  | nil => cases replaced <;> simp [replaceSubstrings, replaceFrom]
  | cons char rest same =>
    cases replaced with
    | zero => rfl
    | succ replaced =>
      rw [replaceFrom, same, drop_succ_cons]

theorem replaceSubstrings_pair (first second : WChar) (replacement text : WString) :
    replaceSubstrings text [first, second] replacement =
      replacePairs id first second (fun _ => replacement) text := by
  induction text using replacePairs.induct id first second with
  | case1 => rfl
  | case2 char => simp [replaceSubstrings, replaceFrom, replacePairs]
  | case3 char next rest pair same =>
    rw [replacePairs_pair pair.1 pair.2, ← same]
    rw [replaceSubstrings, replaceFrom, if_pos]
    · exact congrArg (replacement ++ ·) (replaceFrom_drop _ _ _ _)
    · exact isPrefixOf_iff_prefix.mpr ⟨rest, by rw [← pair.1, ← pair.2]; rfl⟩
  | case4 char next rest other same =>
    rw [replacePairs_other other, ← same]
    rw [replaceSubstrings, replaceFrom, if_neg]
    · rfl
    · intro here
      obtain ⟨sameFirst, here⟩ := cons_prefix_cons.mp (List.isPrefixOf_iff_prefix.mp here)
      exact other ⟨sameFirst.symm, (cons_prefix_cons.mp here).1.symm⟩

theorem replaceSubstrings_mark (mark : WChar) (text : WString) :
    replaceSubstrings text [mark] [mark, mark] =
      text.flatMap fun char => if char = mark then [mark, mark] else [char] := by
  induction text with
  | nil => rfl
  | cons char rest same =>
    rw [flatMap_cons, ← same]
    rw [replaceSubstrings, replaceFrom]
    by_cases marked : char = mark
    case pos =>
      subst marked
      have here : [char].isPrefixOf (char :: rest) := isPrefixOf_iff_prefix.mpr ⟨rest, rfl⟩
      rw [if_pos here, if_pos rfl]
      exact congrArg ([char, char] ++ ·) (replaceFrom_drop _ _ _ _)
    case neg =>
      rw [if_neg, if_neg marked]
      · rfl
      · intro here
        have same := cons_prefix_cons.mp (List.isPrefixOf_iff_prefix.mp here)
        exact marked same.1.symm

theorem contains_iff {pattern text : WString} : contains pattern text ↔ pattern <:+: text := by
  unfold contains
  induction text with
  | nil =>
    rw [findText]
    cases pattern <;> simp
  | cons char rest found =>
    rw [findText, infix_cons_iff, ← found]
    split
    case isTrue here => simpa using .inl (List.isPrefixOf_iff_prefix.mp here)
    case isFalse elsewhere =>
      rw [List.isPrefixOf_iff_prefix] at elsewhere
      simp [elsewhere]

def escape (text : WString) : WString :=
  replaceSubstrings text (wide "%") (wide "%%")

open Placeholder Line

theorem letters_inserted (placeholder : Placeholder) (value : WString) :
    letters (inserted escapes placeholder value) = escape value := by
  refine Eq.trans ?_ (replaceSubstrings_mark '%'.toNat value).symm
  rw [letters, inserted, map_flatMap]
  refine flatMap_congr fun char _ => ?_
  rw [Piece.written]
  split
  case isTrue marked =>
    subst marked
    rfl
  case isFalse other => exact (if_neg other).symm

theorem letters_replacePairs {first second : WChar} {replacement : WString}
    {inserted : Traced Placeholder WChar → List (Traced Placeholder WChar)}
    (same : ∀ element, element.letter = first → letters (inserted element) = replacement)
    (text : List (Traced Placeholder WChar)) :
    letters (replacePairs Traced.letter first second inserted text) =
      replaceSubstrings (letters text) [first, second] replacement := by
  rw [replaceSubstrings_pair]
  refine map_replacePairs (fun element => ?_) same text
  rfl

theorem letters_replaceAll (values : Placeholder → WString) (slots : List Placeholder)
    (text : List (Traced Placeholder WChar)) :
    letters (replaceAll escapes values slots text) = slots.foldl
        (fun text placeholder =>
          replaceSubstrings text placeholder.pattern (escape (values placeholder)))
        (letters text) := by
  induction slots generalizing text with
  | nil => rfl
  | cons placeholder slots replaced =>
    refine (replaced _).trans (congrArg (slots.foldl _) ?_)
    exact letters_replacePairs (fun _ _ => letters_inserted placeholder (values placeholder)) text

theorem letters_undouble (text : List (Traced Placeholder WChar)) :
    letters (undouble escapes.mark text) =
      replaceSubstrings (letters text) (wide "%%") (wide "%") := by
  refine letters_replacePairs (fun element marked => ?_) text
  exact congrArg (fun letter => [letter]) marked

abbrev LoginValues := Placeholder → WString

def LogonSettings.values (self : LogonSettings) (pass : WString) : LoginValues
  | .proxyUser => self.proxyUser
  | .proxyPass => self.proxyPass
  | .host => self.formatted
  | .user => self.user
  | .account => self.account
  | .password => pass

namespace LoginValues

def asks (placeholder : Placeholder) (line : WString) : Bool :=
  contains placeholder.pattern line

def asksPassword (line : WString) : Bool :=
  asks .password line && !asks .user line && !asks .account line

def traced (values : LoginValues) (line : WString) : List (Traced Placeholder WChar) :=
  let text := replaceAll escapes values prepared
    (read escapes line).written
  if !asks .password line then undouble escapes.mark text
  else if asksPassword line then
    undouble escapes.mark (replaceAll escapes values [.password] text)
  else text

def expansion (values : LoginValues) (line : WString) : List (Traced Placeholder WChar) :=
  ((read escapes line).substituteAll values
    (prepared ++ [.password])).expanded

def expand (values : LoginValues) (line : WString) : WString :=
  letters (values.expansion line)

def replaced (line : WString) : List Placeholder :=
  if asks .password line then prepared ++ [.password] else prepared

/-- No percent sign of the line or of a value is directly followed by the letter of a placeholder
that is replaced later, the password stands alone, and something is left to send. -/
structure Clean (values : LoginValues) (line : WString) : Prop where
  separate : (read escapes line).CleanFor values (replaced line)
  alone : asks .password line → asksPassword line
  filled : asks .password line ∨ values.expand line ≠ []

variable {values : LoginValues} {line : WString}

theorem asks_iff {placeholder : Placeholder} :
    asks placeholder line ↔
      [escapes.mark, escapes.letterOf placeholder] <:+:
        letters (read escapes line).written := by
  rw [letters_read]
  exact contains_iff

theorem read_settled (slots : List Placeholder) :
    ∀ origin letter, .literal origin letter ∈ (read escapes line).pieces →
      origin.before slots := by
  intro origin letter member
  rw [literal_read member]
  rfl

theorem expansion_eq_of_clean {slots : List Placeholder}
    (clean : (read escapes line).CleanFor values slots)
    (filled : ∀ which, .slot which ∈ (read escapes line).pieces → which ∈ slots) :
    undouble escapes.mark (replaceAll escapes values slots
          (read escapes line).written) =
      ((read escapes line).substituteAll values slots).expanded := by
  rw [replaceAll_written clean, undouble_written]
  intro which member
  obtain ⟨member, missing⟩ := slot_mem_substituteAll.mp member
  exact missing (filled which member)

theorem ne_expansion_of_lost {text : List (Traced Placeholder WChar)} {slots : List Placeholder}
    {others : List Placeholder} (every : slots ++ others = prepared ++ [.password])
    (mistaken : ¬(read escapes line).CleanFor values slots) (fewer : ∀ later,
      text.countP (Traced.keeps escapes later) ≤
        (replaceAll escapes values slots
          (read escapes line).written).countP
          (Traced.keeps escapes later)) :
    text ≠ values.expansion line := by
  intro same
  have distinct : (slots ++ others).Nodup := by
    rw [every]
    decide
  obtain ⟨later, lost⟩ := exists_lost distinct (read_settled _) mistaken
  rw [every, ← expansion, ← same] at lost
  exact absurd (fewer later) (Nat.not_le.mpr lost)

theorem countP_undouble_le (later : List Placeholder) (text : List (Traced Placeholder WChar)) :
    (undouble escapes.mark text).countP (Traced.keeps escapes later) ≤
      text.countP (Traced.keeps escapes later) :=
  countP_replacePairs_le (fun _ => Nat.le_refl _) text

theorem written_ne_expansion (asked : asks .password line) :
    ((read escapes line).substituteAll values prepared).written ≠
      values.expansion line := by
  have escaped : ∃ piece ∈ ((read escapes line).substituteAll values
      prepared).pieces, piece.Escaped .password := by
    rcases slot_or_mark_of_infix (asks_iff.mp asked) with found | ⟨origin, found⟩
    · exact ⟨_, slot_mem_substituteAll.mpr ⟨found, by decide⟩, .inl rfl⟩
    · refine ⟨_, literal_mem_substituteAll found, .inr ⟨origin, ?_, rfl⟩⟩
      rw [literal_read found]
      simp
  obtain ⟨piece, member, escaped⟩ := escaped
  intro same
  have fewer : (values.expansion line).countP (Traced.marks escapes .password) <
      ((read escapes line).substituteAll values
        prepared).written.countP (Traced.marks escapes .password) :=
    marks_substitute_lt member escaped
  rw [same] at fewer
  exact absurd fewer (Nat.lt_irrefl _)

theorem traced_eq_expansion_iff :
    values.traced line = values.expansion line ↔
      (read escapes line).CleanFor values (replaced line) ∧
        (asks .password line → asksPassword line) := by
  have known (which : Placeholder) : which ∈ prepared ++ [.password] := by
    cases which <;> decide
  unfold traced replaced
  by_cases asked : asks .password line
  case pos =>
    by_cases alone : asksPassword line
    case pos =>
      simp only [asked, alone, Bool.not_true, Bool.false_eq_true, if_false, if_true,
        ← replaceAll_append]
      constructor
      · intro same
        refine ⟨?_, fun _ => trivial⟩
        by_contra mistaken
        exact ne_expansion_of_lost (append_nil _) mistaken
          (fun later => countP_undouble_le later _) same
      · intro clean
        exact expansion_eq_of_clean clean.1 fun which _ => known which
    case neg =>
      simp only [asked, alone, Bool.not_true, Bool.false_eq_true, if_false, if_true]
      constructor
      · intro same
        by_cases clean : (read escapes line).CleanFor values prepared
        case pos =>
          rw [replaceAll_written clean] at same
          exact absurd same (written_ne_expansion asked)
        case neg =>
          exact absurd same (ne_expansion_of_lost rfl clean fun _ => Nat.le_refl _)
      · intro clean
        cases clean.2 trivial
  case neg =>
    have absent : .slot password ∉ (read escapes line).pieces :=
      fun member => asked (asks_iff.mpr (infix_of_slot_mem member))
    simp only [asked, Bool.not_false, if_true, Bool.false_eq_true, if_false]
    constructor
    · intro same
      refine ⟨?_, fun asked' => absurd asked' (by simp)⟩
      by_contra mistaken
      exact ne_expansion_of_lost rfl mistaken (fun later => countP_undouble_le later _) same
    · intro clean
      refine (expansion_eq_of_clean clean.1 fun which member => ?_).trans ?_
      · rcases mem_append.mp (known which) with member' | last
        · exact member'
        · rw [mem_singleton.mp last] at member
          exact absurd member absent
      · rw [expansion, substituteAll_append]
        refine congrArg expanded (substitute_of_not_mem ?_).symm
        exact fun member => absent (slot_mem_substituteAll.mp member).1

end LoginValues

/-- `PrepareLoginSequence` leaves the line so, with the password still to come. -/
def LoginValues.preparedText (values : LoginValues) (line : WString) :
    List (Traced Placeholder WChar) :=
  let text := replaceAll escapes values prepared
    (read escapes line).written
  if asks .password line then text else undouble escapes.mark text

def LoginValues.commandType (line : WString) : LoginCommandType :=
  if asks .user line && !asks .password line && !asks .account line then .user
  else if asksPassword line then .pass
  else if asks .account line && !asks .user line && !asks .password line then .account
  else .other

open LoginValues

theorem LogonSettings.customCommand_eq {settings : LogonSettings} {line : WString}
    {command : LoginCommand} (pass : WString)
    (made : settings.customCommand line = some command) :
    command.command = letters ((settings.values pass).preparedText line) ∧
      command.type = commandType line := by
  have text := letters_replaceAll (settings.values pass) prepared
    (read escapes line).written
  rw [letters_read] at text
  unfold customCommand at made
  dsimp only at made
  split at made
  case isTrue => cases made
  split at made
  case isTrue => cases made
  split at made
  case isTrue => cases made
  cases made
  constructor
  · unfold preparedText
    by_cases asked : asks .password line
    case pos =>
      rw [if_pos asked, text]
      exact if_pos asked
    case neg =>
      rw [if_neg asked, letters_undouble, text]
      exact if_neg asked
  · have user : contains (wide "%u") line = asks .user line := rfl
    have password : contains (wide "%p") line = asks .password line := rfl
    have account : contains (wide "%a") line = asks .account line := rfl
    rw [commandType, asksPassword]
    simp only [user, password, account]
    cases asks .user line <;> cases asks .password line <;>
      cases asks .account line <;> rfl

namespace LoginValues

variable {values : LoginValues} {line : WString}

theorem commandType_eq_pass_iff : commandType line = .pass ↔ asksPassword line := by
  unfold commandType asksPassword
  cases asks .user line <;> cases asks .password line <;> cases asks .account line <;> decide

theorem asks_of_asksPassword (alone : asksPassword line) : asks .password line := by
  simp only [asksPassword, Bool.and_eq_true] at alone
  exact alone.1.1

theorem traced_eq_preparedText (alone : ¬asksPassword line) :
    values.traced line = values.preparedText line := by
  unfold traced preparedText
  by_cases asked : asks .password line
  case pos => simp [asked, alone]
  case neg => simp [asked]

theorem letters_traced (alone : asksPassword line) :
    letters (values.traced line) = replaceSubstrings
        (replaceSubstrings (letters (values.preparedText line)) (wide "%p")
          (escape (values .password)))
        (wide "%%") (wide "%") := by
  have asked := asks_of_asksPassword alone
  have replaced := letters_replaceAll values [.password] (values.preparedText line)
  unfold traced preparedText at *
  simp only [asked, alone, Bool.not_true, Bool.false_eq_true, if_false, if_true] at replaced ⊢
  rw [letters_undouble, replaced]
  rfl

theorem preparedText_ne_nil (asked : asks .password line) :
    letters (values.preparedText line) ≠ [] := by
  have inside : password.letter ∈
      letters (read escapes line).written :=
    (asks_iff.mp asked).subset (by simp [escapes])
  obtain ⟨kept, member, same⟩ := mem_map.mp inside
  have remains : kept ∈ values.preparedText line := by
    rw [preparedText, if_pos asked]
    refine mem_replaceAll ?_ ?_ member
    · rw [same]
      decide
    · rw [same]
      decide
  intro empty
  rw [letters, map_eq_nil_iff] at empty
  rw [empty] at remains
  cases remains

end LoginValues

namespace LogonData

variable {environment : LogonEnvironment} {session : LogonSession} {data : LogonData}
  {command : LoginCommand} {later : List LoginCommand}

theorem sendLogin_other (next : data.loginSequence = command :: later)
    (other : command.type ≠ .pass) (some : command.command ≠ []) :
    (data.sendLogin environment session).1 = .command (.loginSequence command.command) := by
  unfold sendLogin
  cases named : command.type with
  | user => simp [next, named, some]
  | pass => exact absurd named other
  | account => simp [next, named, some]
  | other => simp [next, named, some]

theorem sendLogin_empty (next : data.loginSequence = command :: later)
    (other : command.type ≠ .pass) (empty : command.command = []) (text : WString) :
    (data.sendLogin environment session).1 ≠ .command (.loginSequence text) := by
  unfold sendLogin
  cases named : command.type with
  | user => simp [next, named, empty]
  | pass => exact absurd named other
  | account => simp [next, named, empty]
  | other => simp [next, named, empty]

theorem sendLogin_pass (next : data.loginSequence = command :: later)
    (named : command.type = .pass) (some : command.command ≠ [])
    (ready : ∀ kind, (data.sendLogin environment session).1 ≠ .request kind) :
    (data.sendLogin environment session).1 = .command (.loginSequence (replaceSubstrings
          (replaceSubstrings command.command (wide "%p")
            (escape (fullPassword environment session)))
          (wide "%%") (wide "%"))) := by
  unfold sendLogin at ready ⊢
  simp only [next, named] at ready ⊢
  split at ready
  case isTrue => exact absurd rfl (ready _)
  case isFalse code =>
    rw [if_neg code]
    split at ready
    case isTrue => exact absurd rfl (ready _)
    case isFalse unchallenged =>
      rw [if_neg unchallenged, if_neg some]
      rfl

theorem sendLogin_custom {line text : WString}
    (made : environment.settings.customCommand line = some command)
    (next : data.loginSequence = command :: later)
    (ready : ∀ kind, (data.sendLogin environment session).1 ≠ .request kind) :
    (data.sendLogin environment session).1 = .command (.loginSequence text) ↔
      text = letters ((environment.settings.values (fullPassword environment session)).traced
          line) ∧
        (asksPassword line ∨ text ≠ []) := by
  obtain ⟨prepared, type⟩ :=
    LogonSettings.customCommand_eq (fullPassword environment session) made
  by_cases alone : asksPassword line
  case pos =>
    rw [commandType_eq_pass_iff.mpr alone] at type
    have some : command.command ≠ [] := by
      rw [prepared]
      exact preparedText_ne_nil (asks_of_asksPassword alone)
    rw [sendLogin_pass next type some ready, letters_traced alone, ← prepared]
    constructor
    · intro same
      cases same
      exact ⟨rfl, .inl alone⟩
    · rintro ⟨rfl, -⟩
      rfl
  case neg =>
    have other : command.type ≠ .pass := by
      rw [type, Ne, commandType_eq_pass_iff]
      exact alone
    rw [traced_eq_preparedText alone, ← prepared]
    by_cases empty : command.command = []
    case pos =>
      constructor
      · intro same
        exact absurd same (sendLogin_empty next other empty text)
      · rintro ⟨rfl, filled⟩
        exact absurd filled (by simp [alone, empty])
    case neg =>
      rw [sendLogin_other next other empty]
      constructor
      · intro same
        cases same
        exact ⟨rfl, .inr empty⟩
      · rintro ⟨rfl, -⟩
        rfl

/-- Where the condition does not hold, a letter of the line or of a value is replaced or lost, a
placeholder or a doubled percent sign is sent as it stands, or the line is not sent. -/
theorem customLine_verbatim_iff {line : WString}
    (made : environment.settings.customCommand line = some command)
    (next : data.loginSequence = command :: later)
    (ready : ∀ kind, (data.sendLogin environment session).1 ≠ .request kind) :
    let values := environment.settings.values (fullPassword environment session)
    (data.sendLogin environment session).1 = .command (.loginSequence (values.expand line)) ∧
        values.traced line = values.expansion line ↔
      values.Clean line := by
  intro values
  rw [sendLogin_custom made next ready]
  constructor
  · rintro ⟨⟨-, filled⟩, same⟩
    obtain ⟨separate, alone⟩ := traced_eq_expansion_iff.mp same
    exact ⟨separate, alone, filled.imp_left asks_of_asksPassword⟩
  · intro clean
    have same := traced_eq_expansion_iff.mpr ⟨clean.separate, clean.alone⟩
    refine ⟨⟨?_, clean.filled.imp_left clean.alone⟩, same⟩
    exact congrArg letters same.symm

/-- A server whose user name contains a percent sign and the letter of the account -/
def percentUser : LogonEnvironment where
  settings := { server := { CServer.ftp (wide "h") [] with user := wide "a%ab" } }

def ofLine (line : WString) : LogonData :=
  { neededCommands := fun _ => true, opState := .logon, ftpProxyType := 4
    loginSequence := (percentUser.settings.customCommand line).toList }

theorem customLine_verbatim_host :
    let values := percentUser.settings.values (fullPassword percentUser {})
    ((ofLine (wide "OPEN %h")).sendLogin percentUser {}).1 =
        .command (.loginSequence (values.expand (wide "OPEN %h"))) ∧
        values.traced (wide "OPEN %h") = values.expansion (wide "OPEN %h") ↔
      values.Clean (wide "OPEN %h") := by
  have made : percentUser.settings.customCommand (wide "OPEN %h") =
      some { type := .other, command := wide "OPEN h" } := by decide
  have next : (ofLine (wide "OPEN %h")).loginSequence =
      { type := .other, command := wide "OPEN h" } :: [] := by
    simp [ofLine, made]
  refine customLine_verbatim_iff made next ?_
  intro kind
  cases kind <;> decide

/-- The account takes the place of a letter of the user name. -/
theorem userLine_altered :
    let values := percentUser.settings.values (fullPassword percentUser {})
    ((ofLine (wide "USER %u")).sendLogin percentUser {}).1 =
        .command (.loginSequence (wide "USER a%b")) ∧
      values.expand (wide "USER %u") = wide "USER a%ab" ∧
      wide "USER a%b" ≠ wide "USER a%ab" := by
  decide

end LogonData

end FileZilla.Ftp
