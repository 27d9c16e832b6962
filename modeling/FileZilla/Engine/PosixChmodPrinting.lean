import FileZilla.Guards
import FileZilla.Engine.PosixChmodParsing

namespace FileZilla

open List

namespace Chmod

open PosixPermissions

/-- The parts between the commas, but not an empty part after the last comma. -/
def clausesOf (text : List Char) : List (List Char) :=
  let parts := text.splitOn ','
  if parts.getLast? = some [] then parts.dropLast else parts

theorem strtokenizer_eq_clausesOf (text : List Char) : strtokenizer ',' text = clausesOf text := by
  unfold clausesOf
  induction text with
  | nil => simp [strtokenizer]
  | cons char rest induction =>
    rw [strtokenizer, induction, splitOn_cons_eq_if_modifyHead]
    have parts := splitOn_ne_nil ',' rest
    cases split : rest.splitOn ',' with
    | nil => exact absurd split parts
    | cons part following =>
      by_cases comma : char = ','
      · subst comma
        simp only [if_true, beq_self_eq_true, getLast?_cons_cons, dropLast_cons_cons]
        split <;> rfl
      · have plain : (char == ',') = false := beq_eq_false_iff_ne.mpr comma
        cases following with
        | nil => cases part <;> simp [comma]
        | cons next following =>
          simp only [comma, plain, if_false, Bool.false_eq_true, modifyHead_cons,
            getLast?_cons_cons, dropLast_cons_cons]
          by_cases ended : (next :: following).getLast? = some []
          · rw [if_pos ended, if_pos ended]
          · rw [if_neg ended, if_neg ended]

theorem Clause.text_cons (clause : Clause) :
    ∃ first rest, clause.text = first :: rest ∧ first ∈ "ugoa+-=".toList := by
  unfold Clause.text Clause.operations
  cases clause.classes with
  | nil =>
    refine ⟨clause.first.operator.char, _, rfl, ?_⟩
    cases clause.first.operator <;> simp [Operator.char]
  | cons letter classes =>
    refine ⟨letter.char, _, rfl, ?_⟩
    cases letter with
    | all => simp [ClassLetter.char]
    | of who => cases who <;> simp [ClassLetter.char]

theorem Operation.comma_notMem (operation : Operation) : ',' ∉ operation.text := by
  unfold Operation.text
  intro member
  rcases mem_cons.mp member with operator | letter
  · cases char : operation.operator <;> rw [char] at operator <;> cases operator
  · obtain ⟨letter, -, char⟩ := mem_map.mp letter
    cases letter <;> cases char

theorem Clause.comma_notMem (clause : Clause) : ',' ∉ clause.text := by
  unfold Clause.text
  intro member
  rcases mem_append.mp member with letter | operation
  · obtain ⟨letter, -, char⟩ := mem_map.mp letter
    cases letter with
    | all => cases char
    | of who => cases who <;> cases char
  · obtain ⟨operation, -, inside⟩ := mem_flatMap.mp operation
    exact operation.comma_notMem inside

variable {text : List Char} {clauses : List Clause}

theorem startsOctal_clauses (split : strtokenizer ',' text = clauses.map Clause.text) :
    startsOctal text = false := by
  cases text with
  | nil => rfl
  | cons char rest =>
    by_cases comma : char = ','
    · subst comma
      rfl
    · obtain ⟨token, tokens, first⟩ :
          ∃ token tokens, strtokenizer ',' (char :: rest) = (char :: token) :: tokens := by
        rw [strtokenizer, if_neg comma]
        cases strtokenizer ',' rest with
        | nil => exact ⟨[], [], rfl⟩
        | cons token tokens => exact ⟨token, tokens, rfl⟩
      rw [first] at split
      cases clauses with
      | nil => cases split
      | cons clause clauses =>
        obtain ⟨start, others, written, letter⟩ := clause.text_cons
        rw [map_cons, cons.injEq, written, cons.injEq] at split
        rw [← split.1.1] at letter
        simp only [String.reduceToList, mem_cons, not_mem_nil, or_false] at letter
        rcases letter with rfl | rfl | rfl | rfl | rfl | rfl | rfl <;> rfl

theorem parseChmod_clauses (split : strtokenizer ',' text = clauses.map Clause.text) :
    parseChmod text = changeAll clauses .none := by
  rw [parseChmod, startsOctal_clauses split, split, foldlM_parseSegment]
  rfl

def lettersOf (perms : PosixPermissions) : List PermLetter :=
  [.read, .write, .execute, .setid, .sticky].filter fun letter =>
    perms &&& letter.mask != .none

theorem map_char_filter (letters : List PermLetter) (named : PermLetter → Bool) :
    (letters.filter named).map PermLetter.char =
      letters.flatMap fun letter => if named letter then [letter.char] else [] := by
  induction letters with
  | nil => rfl
  | cons letter letters induction =>
    rw [filter_cons, flatMap_cons, ← induction]
    split <;> rfl

variable (perms : PosixPermissions)

theorem componentToString_eq :
    componentToString perms = (lettersOf perms).map PermLetter.char := by
  rw [lettersOf, map_char_filter]
  simp [componentToString, PermLetter.mask, PermLetter.char]

theorem contains_lettersOf (letter : PermLetter) :
    (lettersOf perms).contains letter = (perms &&& letter.mask != .none) := by
  unfold lettersOf
  rw [Bool.eq_iff_iff, contains_iff_mem, mem_filter]
  cases letter <;> simp

variable {bit : Bit}

theorem contains_letter {perms : PosixPermissions}
    (confined : ∀ other, has perms other = true → other.who = bit.who) :
    (lettersOf perms).contains bit.letter = has perms bit := by
  rw [contains_lettersOf, Bool.eq_iff_iff, bne_iff_ne]
  constructor
  case mp =>
    intro named
    by_contra unset
    apply named
    apply has_ext
    intro other
    rw [has_and, has_letterMask, has_none, Bool.and_eq_false_iff]
    by_cases set : has perms other = true
    · right
      rw [beq_eq_false_iff_ne]
      intro letter
      rw [Bit.eq_of_who_of_letter (confined other set) letter] at set
      exact unset set
    · left
      exact Bool.eq_false_iff.mpr set
  case mpr =>
    intro set unnamed
    have bits := congrArg (has · bit) unnamed
    simp [set] at bits

def classOperations (perms changed : PosixPermissions) (who : Who) : List Operation :=
  let changed := changed &&& who.mask
  let perms := perms &&& changed
  if changed = who.mask then [⟨.assign, lettersOf perms⟩]
  else
    (if lettersOf (perms &&& changed) ≠ [] then [⟨.add, lettersOf (perms &&& changed)⟩] else []) ++
    (if lettersOf (~~~perms &&& changed) ≠ [] then [⟨.remove, lettersOf (~~~perms &&& changed)⟩]
      else [])

theorem classToString_eq (changed : PosixPermissions) (who : Who) :
    classToString perms changed who.mask =
      (classOperations perms changed who).flatMap Operation.text := by
  unfold classToString classOperations
  simp only [componentToString_eq, ne_eq, map_eq_nil_iff]
  split_ifs <;> simp [Operation.text, Operator.char]

def confined (change : PosixChmod) : PosixChmod :=
  ⟨change.perms_ &&& change.mask_, change.mask_⟩

theorem apply_confined (change : PosixChmod) :
    apply perms (confined change) = apply perms change := by
  apply has_ext
  intro bit
  simp only [has_apply, confined, has_and]
  cases has change.mask_ bit <;> simp

def changeClass (change : PosixChmod) (classes : PosixPermissions) (who : Who)
    (ret : PosixChmod) : PosixChmod :=
  (classOperations change.perms_ change.mask_ who).foldl
    (fun ret operation => operation.change classes ret) ret

def AgreeAt (bit : Bit) (left right : PosixChmod) : Prop :=
  has left.mask_ bit = has right.mask_ bit ∧ has left.perms_ bit = has right.perms_ bit

theorem eq_of_agreeAt {left right : PosixChmod} (agree : ∀ bit, AgreeAt bit left right) :
    left = right := by
  cases left
  cases right
  simp only [PosixChmod.mk.injEq]
  exact ⟨has_ext fun bit => (agree bit).2, has_ext fun bit => (agree bit).1⟩

variable {classes : PosixPermissions}

theorem Operation.change_elsewhere (operation : Operation) (ret : PosixChmod)
    (elsewhere : has classes bit = false) :
    AgreeAt bit (operation.change classes ret) ret := by
  unfold Operation.change AgreeAt
  cases operation.operator <;> simp [elsewhere]

variable {change : PosixChmod}

theorem changeClass_elsewhere {ret : PosixChmod} {who : Who} (elsewhere : has classes bit = false) :
    AgreeAt bit (changeClass change classes who ret) ret := by
  unfold changeClass
  generalize classOperations change.perms_ change.mask_ who = operations
  induction operations generalizing ret with
  | nil => exact ⟨rfl, rfl⟩
  | cons operation operations induction =>
    have kept := operation.change_elsewhere ret elsewhere
    exact ⟨induction.1.trans kept.1, induction.2.trans kept.2⟩

theorem foldl_named (operator : Operator) (letters : List PermLetter)
    (classes : PosixPermissions) (ret : PosixChmod) (partly : operator ≠ .assign) :
    (if letters ≠ [] then [Operation.mk operator letters] else []).foldl
        (fun ret operation => operation.change classes ret) ret =
      (Operation.mk operator letters).change classes ret := by
  split
  case isTrue => rfl
  case isFalse unnamed =>
    rw [not_not.mp unnamed]
    apply eq_of_agreeAt
    intro bit
    unfold AgreeAt Operation.change
    cases operator with
    | add => simp
    | remove => simp
    | assign => exact absurd rfl partly

theorem changeClass_bit {ret : PosixChmod} (inside : has classes bit = true)
    (untouched : AgreeAt bit ret .none) :
    AgreeAt bit (changeClass change classes bit.who ret) (confined change) := by
  obtain ⟨unmasked, unset⟩ := untouched
  have within (perms : PosixPermissions) :
      (lettersOf (perms &&& (change.mask_ &&& bit.who.mask))).contains bit.letter =
        (has perms bit && has change.mask_ bit) := by
    rw [contains_letter]
    · simp
    · intro other set
      simp at set
      exact set.2.2
  have owned : has bit.who.mask bit = true := by simp
  unfold changeClass classOperations
  dsimp only
  split
  case isTrue whole =>
    have changed := congrArg (has · bit) whole
    simp only [has_and, owned, Bool.and_true] at changed
    simp only [foldl_cons, foldl_nil, AgreeAt, Operation.change, confined, has_or,
      has_and, has_not, Operation.has_mask, within, inside, changed]
    simp
  case isFalse =>
    rw [foldl_append, foldl_named _ _ _ _ (by decide), foldl_named _ _ _ _ (by decide)]
    simp only [AgreeAt, Operation.change, confined, has_or, has_and, has_not,
      Operation.has_mask, within, inside, owned, unmasked, unset, PosixChmod.none, has_none]
    cases has change.perms_ bit <;> cases has change.mask_ bit <;> exact ⟨rfl, rfl⟩

def Listing (text : List Char) (clauses : List Clause) : Prop :=
  (text = [] ∧ clauses = []) ∨
    (text ≠ [] ∧ clauses ≠ [] ∧ text.splitOn ',' = clauses.map Clause.text)

theorem Listing.strtokenizer (listing : Listing text clauses) :
    strtokenizer ',' text = clauses.map Clause.text := by
  rcases listing with ⟨rfl, rfl⟩ | ⟨-, some, split⟩
  · rfl
  · rw [strtokenizer_eq_clausesOf, clausesOf, split]
    refine if_neg ?_
    rw [getLast?_map, getLast?_eq_some_getLast some]
    obtain ⟨first, rest, written, -⟩ := (clauses.getLast some).text_cons
    rw [Option.map_some, written]
    simp

theorem Listing.append {ret : List Char} (listing : Listing ret clauses) (clause : Clause)
    {letter : Char} (written : clause.text = letter :: text) (printed : text ≠ []) :
    Listing (append ret text letter) (clauses ++ [clause]) := by
  right
  have alone : (letter :: text).splitOn ',' = [clause.text] := by
    rw [← written]
    exact splitOn_eq_singleton clause.comma_notMem
  unfold Chmod.append
  rw [if_neg printed]
  refine ⟨by simp, by simp, ?_⟩
  rcases listing with ⟨rfl, rfl⟩ | ⟨started, -, split⟩
  · exact alone
  · rw [if_pos started, append_assoc, singleton_append,
      splitOn_append_cons_self, split, alone, map_append]
    rfl

theorem changeAll_concat (clauses : List Clause) (clause : Clause) (ret : PosixChmod) :
    changeAll (clauses ++ [clause]) ret = clause.change (changeAll clauses ret) :=
  foldl_append

theorem Listing.append_class {ret : List Char} (listing : Listing ret clauses)
    (change : PosixChmod) (who : Who) :
    ∃ following, Listing (Chmod.append ret
        (classToString change.perms_ change.mask_ who.mask) (ClassLetter.of who).char) following ∧
      changeAll following .none = changeClass change who.mask who (changeAll clauses .none) := by
  rw [classToString_eq, changeClass]
  cases operations : classOperations change.perms_ change.mask_ who with
  | nil => exact ⟨clauses, listing, rfl⟩
  | cons first others =>
    refine ⟨clauses ++ [⟨[.of who], first, others⟩], ?_, ?_⟩
    · exact listing.append ⟨[.of who], first, others⟩ rfl (by simp [Operation.text])
    · have addressed : Clause.mask ⟨[.of who], first, others⟩ = who.mask := by
        apply has_ext
        intro bit
        rw [Clause.has_mask, has_whoMask]
        cases who <;> cases bit.who <;> rfl
      rw [changeAll_concat, Clause.change, addressed]
      rfl

theorem parseChmod_alike
    (alike : ∀ who : Who, classToString change.perms_ change.mask_ who.mask = text) :
    parseChmod text = confined change := by
  have parsed (who : Who) : parseChmod text = changeClass change mask who .none := by
    have printed := alike who
    rw [classToString_eq] at printed
    rw [changeClass]
    cases operations : classOperations change.perms_ change.mask_ who with
    | nil =>
      rw [operations] at printed
      rw [← printed]
      rfl
    | cons first others =>
      rw [operations] at printed
      have written : text = Clause.text ⟨[], first, others⟩ := printed.symm
      have listing : Listing text [⟨[], first, others⟩] := by
        obtain ⟨start, rest, cons, -⟩ := Clause.text_cons ⟨[], first, others⟩
        right
        rw [written]
        refine ⟨by simp [cons], by simp, ?_⟩
        exact splitOn_eq_singleton (Clause.comma_notMem _)
      rw [parseChmod_clauses listing.strtokenizer]
      rfl
  apply eq_of_agreeAt
  intro bit
  rw [parsed bit.who]
  exact changeClass_bit (Chmod.has_mask bit) ⟨rfl, rfl⟩

theorem changeClass_each (change : PosixChmod) :
    changeClass change (Who.mask .other) .other (changeClass change (Who.mask .group) .group
      (changeClass change (Who.mask .user) .user .none)) = confined change := by
  apply eq_of_agreeAt
  intro bit
  have foreign {who : Who} (other : bit.who ≠ who) (ret : PosixChmod) :
      AgreeAt bit (changeClass change who.mask who ret) ret :=
    changeClass_elsewhere (by rw [has_whoMask]; exact beq_eq_false_iff_ne.mpr other)
  have own {ret : PosixChmod} (untouched : AgreeAt bit ret .none) :
      AgreeAt bit (changeClass change bit.who.mask bit.who ret) (confined change) :=
    changeClass_bit (by simp) untouched
  have trans {left middle right : PosixChmod} (first : AgreeAt bit left middle)
      (second : AgreeAt bit middle right) : AgreeAt bit left right :=
    ⟨first.1.trans second.1, first.2.trans second.2⟩
  cases who : bit.who with
  | user =>
    rw [who] at own foreign
    exact trans (foreign (by decide) _) (trans (foreign (by decide) _) (own ⟨rfl, rfl⟩))
  | group =>
    rw [who] at own foreign
    exact trans (foreign (by decide) _) (own (foreign (by decide) _))
  | other =>
    rw [who] at own foreign
    exact own (trans (foreign (by decide) _) (foreign (by decide) _))

theorem digit_val {value : Nat} (octal : value < 8) :
    ¬(Char.ofNat ('0'.toNat + value) < '0' ∨ '7' < Char.ofNat ('0'.toNat + value)) ∧
      (Char.ofNat ('0'.toNat + value)).toNat - '0'.toNat = value := by
  interval_cases value <;> decide

theorem octalDigits_octalDigit (read : PosixPermissions) {place shift : Nat}
    (inside : shift < 12) (rest : List Char) :
    octalDigits read shift (octalDigit perms place :: rest) =
      octalDigits (read ||| (((perms >>> place) &&& 7#12) <<< shift)) (shift + 3) rest := by
  have octal : ((perms >>> place) &&& 7#12).toNat < 8 := by
    rw [BitVec.toNat_and]
    exact Nat.lt_succ_of_le Nat.and_le_right
  obtain ⟨digit, val⟩ := digit_val octal
  rw [octalDigits, octalDigit, if_neg digit, val, if_neg (by omega), if_neg (by omega),
    if_pos (by omega), BitVec.ofNat_toNat, BitVec.setWidth_eq]

theorem octal_join :
    (((PosixPermissions.none ||| (((perms >>> 0) &&& 7#12) <<< 0)) |||
      (((perms >>> 3) &&& 7#12) <<< 3)) ||| (((perms >>> 6) &&& 7#12) <<< 6)) |||
      (((perms >>> 9) &&& 7#12) <<< 9) = perms := by
  apply BitVec.eq_of_getLsbD_eq
  intro position inside
  interval_cases position <;> simp [PosixPermissions.none]

theorem parseOctal_toOctal :
    parseOctal (toOctal perms true) = some ⟨perms, mask⟩ := by
  have digits : (toOctal perms true).reverse = [octalDigit perms 0, octalDigit perms 3,
      octalDigit perms 6, octalDigit perms 9, '0'] := rfl
  have leading (read : PosixPermissions) : octalDigits read 12 ['0'] = some (read, 15) := by
    simp [octalDigits]
  rw [parseOctal, digits, octalDigits_octalDigit _ _ (by decide),
    octalDigits_octalDigit _ _ (by decide), octalDigits_octalDigit _ _ (by decide),
    octalDigits_octalDigit _ _ (by decide), leading, octal_join]
  rfl

theorem parseChmod_toString (change : PosixChmod) :
    parseChmod (toString change) = confined change := by
  unfold toString
  dsimp only
  split
  case isTrue whole =>
    rw [parseChmod]
    have octal : startsOctal (toOctal change.perms_ true) = true := rfl
    rw [if_pos octal, parseOctal_toOctal]
    apply eq_of_agreeAt
    intro bit
    simp [AgreeAt, confined, whole]
  case isFalse =>
    split
    case isTrue alike =>
      apply parseChmod_alike
      intro who
      cases who with
      | user => rfl
      | group => exact alike.1.symm
      | other => exact (alike.1.trans alike.2).symm
    case isFalse =>
      have start : Listing [] [] := .inl ⟨rfl, rfl⟩
      obtain ⟨users, listing, user⟩ := start.append_class change .user
      obtain ⟨groups, listing, group⟩ := listing.append_class change .group
      obtain ⟨others, listing, other⟩ := listing.append_class change .other
      rw [group, user] at other
      exact (parseChmod_clauses listing.strtokenizer).trans
        (other.trans (changeClass_each change))

def Octal (text : List Char) : Prop :=
  text ≠ [] ∧ ∀ digit ∈ text, '0' ≤ digit ∧ digit ≤ '7'

theorem octalDigits_some {perms : PosixPermissions} {shift : Nat} {read : PosixPermissions × Nat}
    (parsed : octalDigits perms shift text = some read) :
    ∀ digit ∈ text, '0' ≤ digit ∧ digit ≤ '7' := by
  induction text generalizing perms shift with
  | nil => simp
  | cons first rest induction =>
    rw [octalDigits] at parsed
    obtain ⟨octal, parsed⟩ := of_refusal parsed
    obtain ⟨-, parsed⟩ := of_refusal parsed
    rw [not_or, Char.not_lt, Char.not_lt] at octal
    intro digit member
    rcases mem_cons.mp member with rfl | member
    · exact octal
    · exact induction parsed digit member

theorem parseChmod_malformed (symbolic : ¬Octal text)
    (malformed : ∃ part ∈ clausesOf text, ∀ clause : Clause, clause.text ≠ part) :
    parseChmod text = .none := by
  unfold parseChmod
  split
  case isTrue starts =>
    cases parsed : octalDigits .none 0 text.reverse with
    | none => rw [parseOctal, parsed]; rfl
    | some read =>
      refine absurd ⟨?_, ?_⟩ symbolic
      · rintro rfl
        cases starts
      · intro digit member
        exact octalDigits_some parsed digit (mem_reverse.mpr member)
  case isFalse =>
    obtain ⟨part, member, unlike⟩ := malformed
    rw [strtokenizer_eq_clausesOf]
    cases parsed : (clausesOf text).foldlM parseSegment PosixChmod.none with
    | none => rfl
    | some next =>
      obtain ⟨clause, written⟩ := foldlM_parseSegment_some parsed part member
      exact absurd written (unlike clause)

/-- A text of clauses means these one after the other, a text with anything else changes nothing,
and what is printed of the change means the same. -/
theorem parseChmod_meaning (text : List Char) :
    (∀ clauses : List Clause, clausesOf text = clauses.map Clause.text →
      ∀ perms, has (apply perms (parseChmod text)) = runAll clauses (has perms)) ∧
    (¬Octal text → (∃ part ∈ clausesOf text, ∀ clause : Clause, clause.text ≠ part) →
      parseChmod text = .none) ∧
    ∀ perms, apply perms (parseChmod (toString (parseChmod text))) =
      apply perms (parseChmod text) := by
  refine ⟨?_, parseChmod_malformed, ?_⟩
  · intro clauses split perms
    rw [← strtokenizer_eq_clausesOf] at split
    rw [parseChmod_clauses split, apply_changeAll, apply_none]
  · intro perms
    rw [parseChmod_toString, apply_confined]

theorem parseChmod_meaning_example :
    (∀ perms, has (apply perms (parseChmod "go-w+s,=x,".toList)) =
      runAll [⟨[.of .group, .of .other], ⟨.remove, [.write]⟩, [⟨.add, [.setid]⟩]⟩,
        ⟨[], ⟨.assign, [.execute]⟩, []⟩] (has perms)) ∧
    parseChmod "u+r,,".toList = .none := by
  refine ⟨(parseChmod_meaning _).1 _ (by decide), (parseChmod_meaning _).2.1 ?_ ?_⟩
  · simp [Octal]
  · refine ⟨[], by decide, ?_⟩
    intro clause empty
    obtain ⟨first, rest, written, -⟩ := clause.text_cons
    rw [written] at empty
    cases empty

/-- An empty part after the last comma is no clause, but it is not seen. -/
theorem parseChmod_trailing :
    ¬∀ text : List Char, ¬Octal text →
      (∃ part ∈ text.splitOn ',', ∀ clause : Clause, clause.text ≠ part) →
      parseChmod text = .none := by
  intro rejects
  have none := rejects "u+r,".toList (by simp [Octal]) (by
    refine ⟨[], by decide, ?_⟩
    intro clause empty
    obtain ⟨first, rest, written, -⟩ := clause.text_cons
    rw [written] at empty
    cases empty)
  have split : strtokenizer ',' "u+r,".toList =
      [(⟨[.of .user], ⟨.add, [.read]⟩, []⟩ : Clause)].map Clause.text := by decide
  rw [parseChmod_clauses split] at none
  cases none

end Chmod

end FileZilla
