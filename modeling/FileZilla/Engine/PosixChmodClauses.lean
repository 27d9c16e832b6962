import FileZilla.Engine.PosixChmod

namespace FileZilla

namespace Chmod

inductive Who
  | user
  | group
  | other
  deriving DecidableEq

inductive ClassLetter
  | of (who : Who)
  | all
  deriving DecidableEq

inductive PermLetter
  | read
  | write
  | execute
  | setid
  | sticky
  deriving DecidableEq

inductive Operator
  | add
  | remove
  | assign
  deriving DecidableEq

structure Operation where
  operator : Operator
  letters : List PermLetter

structure Clause where
  classes : List ClassLetter
  first : Operation
  others : List Operation

def ClassLetter.char : ClassLetter → Char
  | .of .user => 'u'
  | .of .group => 'g'
  | .of .other => 'o'
  | .all => 'a'

def PermLetter.char : PermLetter → Char
  | read => 'r'
  | write => 'w'
  | execute => 'x'
  | setid => 's'
  | sticky => 't'

def Operator.char : Operator → Char
  | add => '+'
  | remove => '-'
  | assign => '='

def Operation.text (operation : Operation) : List Char :=
  operation.operator.char :: operation.letters.map PermLetter.char

variable (clause : Clause)

def Clause.operations : List Operation :=
  clause.first :: clause.others

def Clause.text : List Char :=
  clause.classes.map ClassLetter.char ++ clause.operations.flatMap Operation.text

inductive Bit
  | read (who : Who)
  | write (who : Who)
  | execute (who : Who)
  | setuid
  | setgid
  | sticky

namespace Bit

def who : Bit → Who
  | read who => who
  | write who => who
  | execute who => who
  | setuid => .user
  | setgid => .group
  | sticky => .other

def letter : Bit → PermLetter
  | read _ => .read
  | write _ => .write
  | execute _ => .execute
  | setuid => .setid
  | setgid => .setid
  | sticky => .sticky

def position : Bit → Nat
  | read .user => 8
  | write .user => 7
  | execute .user => 6
  | read .group => 5
  | write .group => 4
  | execute .group => 3
  | read .other => 2
  | write .other => 1
  | execute .other => 0
  | setuid => 11
  | setgid => 10
  | sticky => 9

end Bit

variable (perms : PosixPermissions)

def has (bit : Bit) : Bool :=
  perms.getLsbD bit.position

/-- A clause without class letters addresses every class. -/
def Clause.addresses (who : Who) : Bool :=
  clause.classes.isEmpty || clause.classes.contains .all || clause.classes.contains (.of who)

/-- `+` sets and `-` clears the bits it names in the addressed classes, and `=` replaces all
bits of these classes. -/
def Operation.run (operation : Operation) (addresses : Who → Bool) (perms : Bit → Bool) :
    Bit → Bool := fun bit =>
  if addresses bit.who then
    match operation.operator with
    | .add => perms bit || operation.letters.contains bit.letter
    | .remove => perms bit && !operation.letters.contains bit.letter
    | .assign => operation.letters.contains bit.letter
  else perms bit

def Clause.run (perms : Bit → Bool) : Bit → Bool :=
  clause.operations.foldl (fun perms operation => operation.run clause.addresses perms) perms

def runAll (clauses : List Clause) (perms : Bit → Bool) : Bit → Bool :=
  clauses.foldl (fun perms clause => clause.run perms) perms

open PosixPermissions

def Who.mask : Who → PosixPermissions
  | user => userMask ||| PosixPermissions.setuid
  | group => groupMask ||| PosixPermissions.setgid
  | other => otherMask ||| PosixPermissions.sticky

def ClassLetter.mask : ClassLetter → PosixPermissions
  | .of who => who.mask
  | .all => PosixPermissions.mask

def PermLetter.mask : PermLetter → PosixPermissions
  | read => allRead
  | write => allWrite
  | execute => allExecute
  | setid => allSetid
  | sticky => PosixPermissions.sticky

theorem has_ext {left right : PosixPermissions} (same : ∀ bit, has left bit = has right bit) :
    left = right := by
  apply BitVec.eq_of_getLsbD_eq
  intro position inside
  interval_cases position
  · exact same (.execute .other)
  · exact same (.write .other)
  · exact same (.read .other)
  · exact same (.execute .group)
  · exact same (.write .group)
  · exact same (.read .group)
  · exact same (.execute .user)
  · exact same (.write .user)
  · exact same (.read .user)
  · exact same .sticky
  · exact same .setgid
  · exact same .setuid

variable (bit : Bit)

theorem Bit.position_lt : bit.position < 12 := by
  rcases bit with who | who | who | _ | _ | _
  case read => cases who <;> decide
  case write => cases who <;> decide
  case execute => cases who <;> decide
  all_goals decide

@[simp] theorem has_or (left right : PosixPermissions) (bit : Bit) :
    has (left ||| right) bit = (has left bit || has right bit) :=
  BitVec.getLsbD_or

@[simp] theorem has_and (left right : PosixPermissions) (bit : Bit) :
    has (left &&& right) bit = (has left bit && has right bit) :=
  BitVec.getLsbD_and

@[simp] theorem has_not (bit : Bit) :
    has (~~~perms) bit = !has perms bit := by
  simp [has, bit.position_lt]

@[simp] theorem has_none : has .none bit = false :=
  BitVec.getLsbD_zero

@[simp] theorem has_whoMask (who : Who) (bit : Bit) : has who.mask bit = (bit.who == who) := by
  rcases bit with owner | owner | owner | _ | _ | _ <;> cases who <;> try cases owner
  all_goals rfl

@[simp] theorem has_mask : has mask bit = true := by
  rcases bit with owner | owner | owner | _ | _ | _ <;> try cases owner
  all_goals rfl

@[simp] theorem has_letterMask (letter : PermLetter) (bit : Bit) :
    has letter.mask bit = (bit.letter == letter) := by
  rcases bit with owner | owner | owner | _ | _ | _ <;> cases letter <;> try cases owner
  all_goals rfl

theorem Bit.eq_of_who_of_letter {left right : Bit} (who : left.who = right.who)
    (letter : left.letter = right.letter) : left = right := by
  cases left <;> cases right <;> simp_all [Bit.who, Bit.letter]

@[simp] theorem has_apply (change : PosixChmod) (bit : Bit) :
    has (apply perms change) bit =
      if has change.mask_ bit then has change.perms_ bit else has perms bit := by
  simp only [apply, has_or, has_and, has_not]
  cases has change.mask_ bit <;> simp

end Chmod

end FileZilla
