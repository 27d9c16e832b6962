import FileZilla.Engine.PosixChmodClauses

namespace FileZilla

open List

namespace Chmod

open PosixPermissions

def Operation.mask (operation : Operation) : PosixPermissions :=
  operation.letters.foldl (fun perms letter => perms ||| letter.mask) .none

variable (clause : Clause)

def Clause.mask : PosixPermissions :=
  let classes := clause.classes.foldl (fun classes letter => classes ||| letter.mask)
    PosixPermissions.none
  if classes = .none then PosixPermissions.mask else classes

def Operation.change (operation : Operation) (classes : PosixPermissions) (ret : PosixChmod) :
    PosixChmod :=
  match operation.operator with
  | .add =>
    { mask_ := ret.mask_ ||| (operation.mask &&& classes)
      perms_ := ret.perms_ ||| (operation.mask &&& classes) }
  | .remove =>
    { mask_ := ret.mask_ ||| (operation.mask &&& classes)
      perms_ := ret.perms_ &&& ~~~(operation.mask &&& classes) }
  | .assign =>
    { mask_ := ret.mask_ ||| classes
      perms_ := (ret.perms_ &&& ~~~classes) ||| (operation.mask &&& classes) }

def Clause.change (ret : PosixChmod) : PosixChmod :=
  clause.operations.foldl (fun ret operation => operation.change clause.mask ret) ret

def changeAll (clauses : List Clause) (ret : PosixChmod) : PosixChmod :=
  clauses.foldl (fun ret clause => clause.change ret) ret

theorem has_foldl_letters (letters : List PermLetter) (start : PosixPermissions) (bit : Bit) :
    has (letters.foldl (fun perms letter => perms ||| letter.mask) start) bit =
      (has start bit || letters.contains bit.letter) := by
  induction letters generalizing start with
  | nil => simp
  | cons letter letters induction =>
    rw [foldl_cons, induction, has_or, has_letterMask, contains_cons, Bool.or_assoc]

variable (operation : Operation)

@[simp] theorem Operation.has_mask (bit : Bit) :
    has operation.mask bit = operation.letters.contains bit.letter := by
  rw [Operation.mask, has_foldl_letters, has_none, Bool.false_or]

theorem has_classLetterMask (letter : ClassLetter) (bit : Bit) :
    has letter.mask bit = (ClassLetter.all == letter || ClassLetter.of bit.who == letter) := by
  cases letter with
  | all => rw [ClassLetter.mask, Chmod.has_mask]; rfl
  | of who =>
    rw [ClassLetter.mask, has_whoMask]
    cases bit.who <;> cases who <;> rfl

theorem has_foldl_classes (classes : List ClassLetter) (start : PosixPermissions) (bit : Bit) :
    has (classes.foldl (fun classes letter => classes ||| letter.mask) start) bit =
      (has start bit || classes.contains .all || classes.contains (.of bit.who)) := by
  induction classes generalizing start with
  | nil => simp
  | cons letter classes induction =>
    rw [foldl_cons, induction, has_or, has_classLetterMask, contains_cons,
      contains_cons]
    ac_rfl

theorem foldl_classes_ne_none {classes : List ClassLetter} (some : classes ≠ []) :
    classes.foldl (fun classes letter => classes ||| letter.mask) PosixPermissions.none ≠
      .none := by
  intro none
  have empty (bit : Bit) :
      (classes.contains .all || classes.contains (.of bit.who)) = false := by
    have bits := has_foldl_classes classes .none bit
    rw [none, has_none, Bool.false_or] at bits
    exact bits.symm
  cases classes with
  | nil => exact some rfl
  | cons letter classes =>
    cases letter with
    | all =>
      have unset := empty .sticky
      simp at unset
    | of who =>
      have unset := empty (.read who)
      simp [Bit.who] at unset

@[simp] theorem Clause.has_mask (bit : Bit) :
    has clause.mask bit = clause.addresses bit.who := by
  unfold Clause.mask Clause.addresses
  cases classes : clause.classes with
  | nil => exact Chmod.has_mask bit
  | cons letter rest =>
    rw [← classes, if_neg (foldl_classes_ne_none (by rw [classes]; exact cons_ne_nil _ _)),
      has_foldl_classes, has_none, Bool.false_or, classes]
    rfl

variable {classes : PosixPermissions}

theorem Operation.apply_change {addresses : Who → Bool}
    (addressed : ∀ bit, has classes bit = addresses bit.who) (perms : PosixPermissions)
    (ret : PosixChmod) :
    has (apply perms (operation.change classes ret)) =
      operation.run addresses (has (apply perms ret)) := by
  funext bit
  unfold Operation.change Operation.run
  cases operation.operator with
  | add =>
    simp only [has_apply, has_or, has_and, Operation.has_mask, addressed]
    cases addresses bit.who <;> cases operation.letters.contains bit.letter <;> simp
  | remove =>
    simp only [has_apply, has_or, has_and, has_not, Operation.has_mask, addressed]
    cases addresses bit.who <;> cases operation.letters.contains bit.letter <;> simp
  | assign =>
    simp only [has_apply, has_or, has_and, has_not, Operation.has_mask, addressed]
    cases addresses bit.who <;> simp

theorem Clause.apply_change (perms : PosixPermissions) (ret : PosixChmod) :
    has (apply perms (clause.change ret)) = clause.run (has (apply perms ret)) := by
  unfold Clause.change Clause.run
  generalize clause.operations = operations
  induction operations generalizing ret with
  | nil => rfl
  | cons operation operations induction =>
    rw [foldl_cons, foldl_cons, induction, operation.apply_change clause.has_mask]

theorem apply_changeAll (clauses : List Clause) (perms : PosixPermissions) (ret : PosixChmod) :
    has (apply perms (changeAll clauses ret)) = runAll clauses (has (apply perms ret)) := by
  unfold changeAll runAll
  induction clauses generalizing ret with
  | nil => rfl
  | cons clause clauses induction =>
    rw [foldl_cons, foldl_cons, induction, clause.apply_change]

@[simp] theorem apply_none (perms : PosixPermissions) : apply perms .none = perms := by
  apply has_ext
  intro bit
  rw [has_apply, PosixChmod.none, has_none]
  rfl

theorem classLetters_text (classes : List ClassLetter) (start : PosixPermissions)
    (operator : Operator) (rest : List Char) :
    classLetters start (classes.map ClassLetter.char ++ operator.char :: rest) =
      (let addressed := classes.foldl (fun classes letter => classes ||| letter.mask) start
       if addressed = .none then mask else addressed, operator.char :: rest) := by
  induction classes generalizing start with
  | nil => cases operator <;> rfl
  | cons letter classes induction =>
    rw [map_cons, cons_append, foldl_cons, ← induction]
    cases letter with
    | all => rfl
    | of who => cases who <;> rfl

theorem operations_letters (letters : List PermLetter) (classes : PosixPermissions)
    (ret : PosixChmod) (mode : Char) (perms : PosixPermissions) (rest : List Char) :
    operations classes ret mode perms (letters.map PermLetter.char ++ rest) =
      operations classes ret mode
        (letters.foldl (fun perms letter => perms ||| letter.mask) perms) rest := by
  induction letters generalizing perms with
  | nil => rfl
  | cons letter letters induction =>
    rw [map_cons, cons_append, foldl_cons, ← induction]
    cases letter <;> rfl

theorem operations_operator (classes : PosixPermissions) (ret : PosixChmod) (mode : Char)
    (perms : PosixPermissions) (operator : Operator) (rest : List Char) :
    operations classes ret mode perms (operator.char :: rest) =
      (permsDone ret classes mode perms).bind fun ret =>
        operations classes ret operator.char .none rest := by
  cases operator <;> rfl

theorem permsDone_operator (classes : PosixPermissions) (ret : PosixChmod) :
    permsDone ret classes operation.operator.char operation.mask =
      some (operation.change classes ret) := by
  unfold Operation.change
  cases operation.operator <;> rfl

theorem operations_text (first : Operation) (others : List Operation)
    (classes : PosixPermissions) (ret : PosixChmod) :
    operations classes ret first.operator.char .none
        (first.letters.map PermLetter.char ++ others.flatMap Operation.text) =
      some ((first :: others).foldl (fun ret operation => operation.change classes ret) ret) := by
  induction others generalizing first ret with
  | nil =>
    rw [operations_letters]
    exact permsDone_operator first classes ret
  | cons second others induction =>
    rw [operations_letters, flatMap_cons, Operation.text, cons_append,
      operations_operator]
    have done := permsDone_operator first classes ret
    rw [Operation.mask] at done
    rw [done, Option.bind_some, induction]
    rfl

theorem parseSegment_text (ret : PosixChmod) :
    parseSegment ret clause.text = some (clause.change ret) := by
  rw [parseSegment, Clause.text, Clause.operations, flatMap_cons, Operation.text,
    cons_append, classLetters_text]
  exact operations_text clause.first clause.others clause.mask ret

theorem foldlM_parseSegment (clauses : List Clause) (ret : PosixChmod) :
    (clauses.map Clause.text).foldlM parseSegment ret = some (changeAll clauses ret) := by
  induction clauses generalizing ret with
  | nil => rfl
  | cons clause clauses induction =>
    rw [map_cons, foldlM_cons, parseSegment_text]
    exact induction (clause.change ret)

theorem classLetters_split (start : PosixPermissions) (text : List Char) :
    ∃ classes : List ClassLetter,
      text = classes.map ClassLetter.char ++ (classLetters start text).2 := by
  fun_induction classLetters start text with
  | case1 => exact ⟨[], rfl⟩
  | case2 start rest induction => exact letter (.of .user) induction
  | case3 start rest induction => exact letter (.of .group) induction
  | case4 start rest induction => exact letter (.of .other) induction
  | case5 start rest induction => exact letter .all induction
  | case6 => exact ⟨[], rfl⟩
where
  letter {text rest : List Char} (first : ClassLetter)
      (split : ∃ classes : List ClassLetter, text = classes.map ClassLetter.char ++ rest) :
      ∃ classes : List ClassLetter,
        first.char :: text = classes.map ClassLetter.char ++ rest := by
    obtain ⟨classes, split⟩ := split
    exact ⟨first :: classes, congrArg (first.char :: ·) split⟩

variable {ret next : PosixChmod}

theorem permsDone_some {mode : Char} {perms : PosixPermissions}
    (done : permsDone ret classes mode perms = some next) :
    ∃ operator : Operator, operator.char = mode := by
  unfold permsDone at done
  split at done
  · exact ⟨.add, rfl⟩
  · exact ⟨.remove, rfl⟩
  · exact ⟨.assign, rfl⟩
  · cases done

theorem operations_some {mode : Char} {perms : PosixPermissions} {text : List Char}
    (done : operations classes ret mode perms text = some next) :
    ∃ first : Operation, ∃ others : List Operation,
      mode :: text = first.text ++ others.flatMap Operation.text := by
  fun_induction operations classes ret mode perms text with
  | case1 ret mode perms =>
    obtain ⟨operator, char⟩ := permsDone_some done
    exact ⟨⟨operator, []⟩, [], by rw [← char]; rfl⟩
  | case2 ret mode perms rest induction => exact named .read (induction done)
  | case3 ret mode perms rest induction => exact named .write (induction done)
  | case4 ret mode perms rest induction => exact named .execute (induction done)
  | case5 ret mode perms rest induction => exact named .setid (induction done)
  | case6 ret mode perms rest induction => exact named .sticky (induction done)
  | case7 ret mode perms letter rest _ _ _ _ _ ends induction =>
    obtain ⟨performed, first, following⟩ := Option.bind_eq_some_iff.mp done
    obtain ⟨operator, char⟩ := permsDone_some first
    obtain ⟨second, others, split⟩ := induction performed following
    refine ⟨⟨operator, []⟩, second :: others, ?_⟩
    rw [split, ← char]
    rfl
  | case8 => cases done
where
  named {mode : Char} {rest : List Char} (letter : PermLetter)
      (split : ∃ first : Operation, ∃ others : List Operation,
        mode :: rest = first.text ++ others.flatMap Operation.text) :
      ∃ first : Operation, ∃ others : List Operation,
        mode :: letter.char :: rest = first.text ++ others.flatMap Operation.text := by
    obtain ⟨first, others, split⟩ := split
    rw [Operation.text, List.cons_append, List.cons.injEq] at split
    refine ⟨⟨first.operator, letter :: first.letters⟩, others, ?_⟩
    rw [split.1, split.2]
    rfl

theorem parseSegment_some {segment : List Char} (parsed : parseSegment ret segment = some next) :
    ∃ clause : Clause, clause.text = segment := by
  obtain ⟨classes, split⟩ := classLetters_split .none segment
  unfold parseSegment at parsed
  split at parsed
  case h_1 => cases parsed
  case h_2 addressed mode rest letters =>
    rw [letters] at split
    obtain ⟨first, others, operations⟩ := operations_some parsed
    refine ⟨⟨classes, first, others⟩, ?_⟩
    rw [split, operations]
    rfl

theorem foldlM_parseSegment_some {segments : List (List Char)}
    (parsed : segments.foldlM parseSegment ret = some next) :
    ∀ segment ∈ segments, ∃ clause : Clause, clause.text = segment := by
  induction segments generalizing ret with
  | nil => simp
  | cons segment segments induction =>
    rw [foldlM_cons] at parsed
    obtain ⟨middle, first, rest⟩ := Option.bind_eq_some_iff.mp parsed
    intro text member
    rcases mem_cons.mp member with rfl | member
    · exact parseSegment_some first
    · exact induction rest text member

end Chmod

end FileZilla
