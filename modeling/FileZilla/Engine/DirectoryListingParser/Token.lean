import FileZilla.Text
import Mathlib.Data.List.DropRight
import Mathlib.Algebra.Order.Ring.Int

namespace FileZilla

/-! Tokens of a listing line. The flags in which a token caches its answers are
left out. -/

abbrev CToken := WString

def isDigit (char : WChar) : Bool :=
  48 ≤ char && char ≤ 57

def int64Max : Nat := 2 ^ 63 - 1

def int64Min : Int := -2 ^ 63

/-- A 64-bit number stored in an `int`. -/
def toInt (number : Int) : Int :=
  Int.bmod number (2 ^ 32)

def strToLowerAscii (text : WString) : WString :=
  text.map fun char => if 65 ≤ char ∧ char ≤ 90 then char + 32 else char

inductive NumberBase
  | decimal
  | hex

def NumberBase.radix : NumberBase → Nat
  | .decimal => 10
  | .hex => 16

def NumberBase.digit : NumberBase → WChar → Option Nat
  | .decimal, char => if isDigit char then some (char - 48) else none
  | .hex, char =>
    if isDigit char then some (char - 48)
    else if 97 ≤ char ∧ char ≤ 102 then some (char - 97 + 10)
    else if 65 ≤ char ∧ char ≤ 70 then some (char - 65 + 10)
    else none

/-- `value * radix + digit`, unless that exceeds the 64-bit range. -/
def appendDigit (radix value digit : Nat) : Option Nat :=
  if value > int64Max / radix then none
  else if int64Max - digit < value * radix then none
  else some (value * radix + digit)

namespace CToken

variable (token : CToken)

def isNumeric : Bool :=
  !token.isEmpty && token.all isDigit

def isHexNumeric : Bool :=
  !token.isEmpty && token.all fun char => (NumberBase.hex.digit char).isSome

def isNumericAt (start len : Nat) : Bool :=
  start < token.length && len != 0 && len ≤ token.length - start &&
    ((token.drop start).take len).all isDigit

def isLeftNumeric : Bool :=
  2 ≤ token.length && token.head?.any isDigit

def isRightNumeric : Bool :=
  2 ≤ token.length && token.getLast?.any isDigit

def find (chars : WString) (start : Nat := 0) : Option Nat :=
  ((token.drop start).findIdx? (chars.contains ·)).map (start + ·)

/-- The loop of the static `GetNumber`. -/
def digitsValue (base : NumberBase) (trailingDataIsError : Bool) :
    WString → Bool → Nat → Int
  | [], _, value => value
  | char :: rest, isFirst, value =>
    match base.digit char with
    | none => if isFirst || trailingDataIsError then -1 else value
    | some digit =>
      match appendDigit base.radix value digit with
      | none => -1
      | some value => digitsValue base trailingDataIsError rest false value

def numberOf (text : WString) (base : NumberBase := .decimal)
    (trailingDataIsError : Bool := false) : Int :=
  if text.isEmpty then -1 else digitsValue base trailingDataIsError text true 0

def getNumberAt (start : Nat) (len : Int) : Int :=
  if token.length ≤ start then -1
  else if len = -1 then numberOf (token.drop start)
  else if len < 1 then -1
  else if (token.length - start : Nat) < len then -1
  else numberOf ((token.drop start).take len.toNat)

def getNumber (base : NumberBase := .decimal) : Int :=
  match base with
  | .hex => numberOf token .hex true
  | .decimal =>
    if token.isNumeric || token.isLeftNumeric then numberOf token
    else if token.isRightNumeric then numberOf (token.rtakeWhile isDigit)
    else int64Min

end CToken

def isBlank (char : WChar) : Bool :=
  char == 32 || char == 9

def trailingBlanks (text : WString) : Nat :=
  (text.rtakeWhile isBlank).length

structure CLine where
  text : WString
  trailingWhitespace : Nat
  deriving DecidableEq

namespace CLine

def ofText (text : WString) : CLine :=
  { text, trailingWhitespace := trailingBlanks text }

def fromToken (line : CLine) : Nat → WString
  | 0 => line.text.dropWhile isBlank
  | n + 1 => ((line.fromToken n).dropWhile (!isBlank ·)).dropWhile isBlank

def getToken (line : CLine) (n : Nat) : CToken :=
  (line.fromToken n).takeWhile (!isBlank ·)

def getToken? (line : CLine) (n : Nat) : Option CToken :=
  if (line.getToken n).isEmpty then none else some (line.getToken n)

def getEndToken (line : CLine) (n : Nat) : CToken :=
  if (line.getToken n).isEmpty then []
  else (line.fromToken n).take ((line.fromToken n).length - line.trailingWhitespace)

def getEndToken? (line : CLine) (n : Nat) : Option CToken :=
  if (line.getEndToken n).isEmpty then none else some (line.getEndToken n)

def tokensFrom (line : CLine) (n : Nat) : List CToken :=
  ((List.range line.text.length).map fun i => line.getToken (n + i)).takeWhile (!·.isEmpty)

/-- `GetEndToken` with its flag: what follows the token before the `n`-th one and one
blank. -/
def getEndTokenWithWhitespace (line : CLine) (n : Nat) : CToken :=
  let ref := line.getToken (n - 1)
  if ref.isEmpty then ref else (line.fromToken (n - 1)).drop (ref.length + 1)

end CLine

end FileZilla
