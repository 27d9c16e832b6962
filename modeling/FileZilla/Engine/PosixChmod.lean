import Mathlib.Data.List.Basic
import Mathlib.Tactic.IntervalCases

namespace FileZilla

/-- `posix_permissions`: twelve bits, and no operation of them leaves the twelve. -/
abbrev PosixPermissions := BitVec 12

namespace PosixPermissions

def none : PosixPermissions := 0o0000#12
def userMask : PosixPermissions := 0o0700#12
def groupMask : PosixPermissions := 0o0070#12
def otherMask : PosixPermissions := 0o0007#12
def ugoMask : PosixPermissions := 0o0777#12
def setuid : PosixPermissions := 0o4000#12
def setgid : PosixPermissions := 0o2000#12
def sticky : PosixPermissions := 0o1000#12
def allRead : PosixPermissions := 0o0444#12
def allWrite : PosixPermissions := 0o0222#12
def allExecute : PosixPermissions := 0o0111#12
def allSetid : PosixPermissions := 0o6000#12
def mask : PosixPermissions := 0o7777#12

end PosixPermissions

structure PosixChmod where
  perms_ : PosixPermissions
  mask_ : PosixPermissions
  deriving DecidableEq

namespace PosixChmod

/-- The value-initialised change, which changes nothing -/
def none : PosixChmod := ⟨.none, .none⟩

end PosixChmod

def apply (orig : PosixPermissions) (change : PosixChmod) : PosixPermissions :=
  (orig &&& ~~~change.mask_) ||| (change.perms_ &&& change.mask_)

namespace Chmod

open PosixPermissions

def octalDigits (perms : PosixPermissions) (shift : Nat) :
    List Char → Option (PosixPermissions × Nat)
  | [] => some (perms, shift)
  | digit :: rest =>
    if digit < '0' ∨ '7' < digit then Option.none
    else if 12 ≤ shift ∧ digit ≠ '0' then Option.none
    else
      octalDigits (if 12 ≤ shift then perms
          else perms ||| (BitVec.ofNat 12 (digit.toNat - '0'.toNat) <<< shift))
        (if shift < 15 then shift + 3 else shift) rest

def parseOctal (text : List Char) : Option PosixChmod :=
  (octalDigits .none 0 text.reverse).map fun (perms, shift) =>
    if 12 < shift then ⟨perms, mask⟩
    else ⟨perms, if perms &&& 0o7000#12 ≠ .none then mask else ugoMask⟩

/-- `fz::strtokenizer` that does not ignore empty tokens: it ends where nothing is left. -/
def strtokenizer (delim : Char) : List Char → List (List Char)
  | [] => []
  | char :: rest =>
    if char = delim then [] :: strtokenizer delim rest
    else
      match strtokenizer delim rest with
      | [] => [[char]]
      | token :: tokens => (char :: token) :: tokens

def classLetters (classes : PosixPermissions) : List Char → PosixPermissions × List Char
  | [] => (classes, [])
  | 'u' :: rest => classLetters (classes ||| (userMask ||| setuid)) rest
  | 'g' :: rest => classLetters (classes ||| (groupMask ||| setgid)) rest
  | 'o' :: rest => classLetters (classes ||| (otherMask ||| sticky)) rest
  | 'a' :: rest => classLetters (classes ||| mask) rest
  | other :: rest => (if classes = .none then mask else classes, other :: rest)

/-- What is done at `perms_done`. The operator is checked only here. -/
def permsDone (ret : PosixChmod) (classes : PosixPermissions) (mode : Char)
    (perms : PosixPermissions) : Option PosixChmod :=
  match mode with
  | '+' => some
      { mask_ := ret.mask_ ||| (perms &&& classes)
        perms_ := ret.perms_ ||| (perms &&& classes) }
  | '-' => some
      { mask_ := ret.mask_ ||| (perms &&& classes)
        perms_ := ret.perms_ &&& ~~~(perms &&& classes) }
  | '=' => some
      { mask_ := ret.mask_ ||| classes
        perms_ := (ret.perms_ &&& ~~~classes) ||| (perms &&& classes) }
  | _ => Option.none

/-- From `ugoa_done` on, after the operator `mode`. Where an operator ends the letters of the
one before, it becomes the next one. -/
def operations (classes : PosixPermissions) (ret : PosixChmod) (mode : Char)
    (perms : PosixPermissions) : List Char → Option PosixChmod
  | [] => permsDone ret classes mode perms
  | 'r' :: rest => operations classes ret mode (perms ||| allRead) rest
  | 'w' :: rest => operations classes ret mode (perms ||| allWrite) rest
  | 'x' :: rest => operations classes ret mode (perms ||| allExecute) rest
  | 's' :: rest => operations classes ret mode (perms ||| allSetid) rest
  | 't' :: rest => operations classes ret mode (perms ||| sticky) rest
  | letter :: rest =>
    if letter = '=' ∨ letter = '-' ∨ letter = '+' then
      (permsDone ret classes mode perms).bind fun ret =>
        operations classes ret letter .none rest
    else Option.none

def parseSegment (ret : PosixChmod) (segment : List Char) : Option PosixChmod :=
  match classLetters .none segment with
  | (_, []) => Option.none
  | (classes, mode :: rest) => operations classes ret mode .none rest

def startsOctal (text : List Char) : Bool :=
  match text with
  | [] => false
  | first :: _ => '0' ≤ first && first ≤ '7'

def parseChmod (text : List Char) : PosixChmod :=
  (if startsOctal text then parseOctal text
    else (strtokenizer ',' text).foldlM parseSegment .none).getD .none

variable (perms : PosixPermissions)

/-- A digit of `to_octal` -/
def octalDigit (shift : Nat) : Char :=
  Char.ofNat ('0'.toNat + ((perms >>> shift) &&& 7#12).toNat)

def toOctal (alwaysWithSetidSticky : Bool) : List Char :=
  '0' :: (if alwaysWithSetidSticky ∨ perms &&& (allSetid ||| sticky) ≠ .none then
    [octalDigit perms 9] else []) ++
  [octalDigit perms 6, octalDigit perms 3, octalDigit perms 0]

def componentToString : List Char :=
  (if perms &&& allRead ≠ .none then ['r'] else []) ++
  (if perms &&& allWrite ≠ .none then ['w'] else []) ++
  (if perms &&& allExecute ≠ .none then ['x'] else []) ++
  (if perms &&& allSetid ≠ .none then ['s'] else []) ++
  (if perms &&& sticky ≠ .none then ['t'] else [])

/-- The local `to_string` of one class. Its `=` branch has the letters' tests of
`component_to_string` once more. -/
def classToString (perms changed component : PosixPermissions) : List Char :=
  let changed := changed &&& component
  let perms := perms &&& changed
  if changed = component then
    '=' :: componentToString perms
  else
    let toAdd := componentToString (perms &&& changed)
    let toRemove := componentToString (~~~perms &&& changed)
    (if toAdd ≠ [] then '+' :: toAdd else []) ++
    (if toRemove ≠ [] then '-' :: toRemove else [])

/-- The local `append` -/
def append (ret text : List Char) (letter : Char) : List Char :=
  if text = [] then ret
  else (if ret ≠ [] then ret ++ [','] else ret) ++ letter :: text

def toString (chmod : PosixChmod) : List Char :=
  if chmod.mask_ = mask then toOctal chmod.perms_ true
  else
    let user := classToString chmod.perms_ chmod.mask_ (userMask ||| setuid)
    let group := classToString chmod.perms_ chmod.mask_ (groupMask ||| setgid)
    let other := classToString chmod.perms_ chmod.mask_ (otherMask ||| sticky)
    if user = group ∧ group = other then user
    else append (append (append [] user 'u') group 'g') other 'o'

example : parseChmod "u+rs,g-w+x,o=t".toList = ⟨0o5410#12, 0o5437#12⟩ := by
  simp [parseChmod, startsOctal, strtokenizer, parseSegment, classLetters, operations,
    permsDone, PosixChmod.none, PosixPermissions.none, userMask, setuid, groupMask, setgid,
    otherMask, sticky, allRead, allWrite, allExecute, allSetid]

end Chmod

end FileZilla
