import Mathlib.Data.List.TakeWhile

namespace FileZilla

/-! Texts are lists of `wchar_t` values, so that any value the code can hold
is covered, valid or not. -/

abbrev WChar := Nat

abbrev WString := List WChar

instance lawfulBytes : LawfulBEq (List UInt8) := inferInstance

def wide (text : String) : WString :=
  text.toList.map Char.toNat

def asciiBytes (text : String) : List UInt8 :=
  text.toList.map fun char => UInt8.ofNat char.toNat

def cString (text : WString) : WString :=
  text.takeWhile (· != 0)

def wcscmp (left right : WString) : Ordering :=
  compare (cString left) (cString right)

def findText (pattern : WString) : WString → Option Nat
  | [] => if pattern.isEmpty then some 0 else none
  | char :: rest =>
    if pattern.isPrefixOf (char :: rest) then some 0 else (findText pattern rest).map (· + 1)

theorem cString_of_not_mem {text : WString} (clean : 0 ∉ text) :
    cString text = text := by
  rw [cString, List.takeWhile_eq_self_iff]
  intro char member
  simpa using fun zero : char = 0 => clean (zero ▸ member)

end FileZilla
