import FileZilla.Engine.DirectoryListingParser.Token

namespace FileZilla

/-! Bytes written in hexadecimal digits, as `fz::hex_encode` and `fz::hex_decode` have them. -/

open NumberBase

def hexPairs : WString → Option (List UInt8)
  | [] => some []
  | [_] => none
  | high :: low :: rest =>
    match hex.digit high, hex.digit low, hexPairs rest with
    | some high, some low, some bytes => some (UInt8.ofNat (high * 16 + low) :: bytes)
    | _, _, _ => none

/-- Nothing for a text that is no sequence of pairs of digits -/
def hexDecode (text : WString) : List UInt8 :=
  (hexPairs text).getD []

def intToHexChar (digit : Nat) : WChar :=
  if digit > 9 then 'a'.toNat + digit - 10 else '0'.toNat + digit

def hexEncode (bytes : List UInt8) : WString :=
  bytes.flatMap fun byte => [intToHexChar (byte.toNat / 16), intToHexChar (byte.toNat % 16)]

def isHexDigit (char : WChar) : Bool :=
  ('a'.toNat ≤ char && char ≤ 'f'.toNat) || ('0'.toNat ≤ char && char ≤ '9'.toNat)

theorem hexDigit_lower (char : WChar) :
    hex.digit (if 65 ≤ char ∧ char ≤ 90 then char + 32 else char) =
      hex.digit char := by
  unfold digit isDigit
  grind

theorem hexDigit_intToHexChar :
    ∀ {digit : Nat}, digit < 16 → hex.digit (intToHexChar digit) = some digit := by
  decide

theorem hexPairs_of_lower {bytes : List UInt8} {text : WString}
    (lower : strToLowerAscii text = hexEncode bytes) : hexPairs text = some bytes := by
  induction bytes generalizing text with
  | nil =>
    have empty : text = [] := List.map_eq_nil_iff.mp lower
    rw [empty]
    rfl
  | cons byte bytes ih =>
    match text, lower with
    | high :: low :: rest, lower =>
      simp only [strToLowerAscii, hexEncode, List.map_cons, List.flatMap_cons,
        List.cons_append, List.nil_append, List.cons.injEq] at lower
      obtain ⟨highSame, lowSame, restSame⟩ := lower
      have small : byte.toNat < 256 := UInt8.toNat_lt byte
      have highDigit : hex.digit high = some (byte.toNat / 16) := by
        rw [← hexDigit_lower high, highSame]
        exact hexDigit_intToHexChar (by omega)
      have lowDigit : hex.digit low = some (byte.toNat % 16) := by
        rw [← hexDigit_lower low, lowSame]
        exact hexDigit_intToHexChar (by omega)
      have whole : byte.toNat / 16 * 16 + byte.toNat % 16 = byte.toNat := by omega
      rw [hexPairs, highDigit, lowDigit, ih restSame]
      simp only [whole, UInt8.ofNat_toNat]
    | [], lower => cases lower
    | [_], lower => simp [strToLowerAscii, hexEncode] at lower

theorem hexDecode_of_lower {bytes : List UInt8} {text : WString}
    (lower : strToLowerAscii text = hexEncode bytes) : hexDecode text = bytes := by
  rw [hexDecode, hexPairs_of_lower lower]
  rfl

end FileZilla
