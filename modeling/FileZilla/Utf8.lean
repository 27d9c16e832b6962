import FileZilla.Text

namespace FileZilla

open List

def isScalar (char : WChar) : Bool :=
  char < 0xd800 || (0xdfff < char && char < 0x110000)

def utf8OfChar (char : WChar) : List UInt8 :=
  String.utf8EncodeChar (Char.ofNat char)

def toUtf8Bytes (text : WString) : List UInt8 :=
  if text.all isScalar then text.flatMap utf8OfChar else []

variable {char : WChar}

theorem toNat_charOfNat (scalar : isScalar char = true) :
    (Char.ofNat char).val.toNat = char := by
  have valid : char.isValidChar := by
    simpa [isScalar, Nat.isValidChar] using scalar
  rw [Char.ofNat, dif_pos valid]
  rfl

theorem mem_utf8OfChar (scalar : isScalar char = true) {byte : UInt8} (ascii : byte.toNat < 128) :
    byte ∈ utf8OfChar char ↔ char = byte.toNat := by
  have continued {lead : Nat} (low : 128 ≤ lead) (high : lead < 256) :
      byte ≠ UInt8.ofNat lead := by
    rintro rfl
    rw [UInt8.toNat_ofNat'] at ascii
    omega
  unfold utf8OfChar String.utf8EncodeChar
  dsimp only
  rw [toNat_charOfNat scalar]
  split
  case isTrue low =>
    rw [mem_singleton]
    refine ⟨fun same => ?_, fun same => ?_⟩
    · rw [same, UInt8.toNat_ofNat']
      exact (Nat.mod_eq_of_lt (by omega)).symm
    · rw [same, UInt8.ofNat_toNat]
  case isFalse high =>
    have absent : char ≠ byte.toNat := fun same => high (by rw [same]; omega)
    refine iff_of_false ?_ absent
    split
    case isTrue =>
      simp only [mem_cons, not_mem_nil, or_false, not_or]
      exact ⟨continued (by omega) (by omega), continued (by omega) (by omega)⟩
    case isFalse =>
      split
      case isTrue =>
        simp only [mem_cons, not_mem_nil, or_false, not_or]
        exact ⟨continued (by omega) (by omega), continued (by omega) (by omega),
          continued (by omega) (by omega)⟩
      case isFalse =>
        simp only [mem_cons, not_mem_nil, or_false, not_or]
        exact ⟨continued (by omega) (by omega), continued (by omega) (by omega),
          continued (by omega) (by omega), continued (by omega) (by omega)⟩

variable {text : WString}

theorem toUtf8Bytes_of_unicode (unicode : text.all isScalar = true) :
    toUtf8Bytes text = text.flatMap utf8OfChar :=
  if_pos unicode

theorem toUtf8Bytes_append {first second : WString} (left : first.all isScalar = true)
    (right : second.all isScalar = true) :
    toUtf8Bytes (first ++ second) = toUtf8Bytes first ++ toUtf8Bytes second := by
  have both : (first ++ second).all isScalar = true := by
    rw [all_append, left, right]
    rfl
  rw [toUtf8Bytes_of_unicode both, toUtf8Bytes_of_unicode left, toUtf8Bytes_of_unicode right,
    flatMap_append]

theorem mem_toUtf8Bytes (unicode : text.all isScalar = true) {byte : UInt8}
    (ascii : byte.toNat < 128) : byte ∈ toUtf8Bytes text ↔ byte.toNat ∈ text := by
  rw [toUtf8Bytes_of_unicode unicode, mem_flatMap]
  constructor
  · rintro ⟨char, member, here⟩
    have same := (mem_utf8OfChar (all_eq_true.mp unicode char member) ascii).mp here
    exact same ▸ member
  · intro member
    have scalar := all_eq_true.mp unicode _ member
    exact ⟨byte.toNat, member, (mem_utf8OfChar scalar ascii).mpr rfl⟩

theorem utf8OfChar_ne_nil : utf8OfChar char ≠ [] := by
  unfold utf8OfChar String.utf8EncodeChar
  dsimp only
  split
  · exact cons_ne_nil _ _
  · split
    · exact cons_ne_nil _ _
    · split <;> exact cons_ne_nil _ _

theorem toUtf8Bytes_eq_nil (given : text ≠ []) :
    toUtf8Bytes text = [] ↔ text.all isScalar = false := by
  unfold toUtf8Bytes
  split
  case isTrue unicode =>
    refine iff_of_false (fun empty => ?_) (by simp [unicode])
    obtain ⟨char, member⟩ := exists_mem_of_ne_nil text given
    exact utf8OfChar_ne_nil (flatMap_eq_nil_iff.mp empty char member)
  case isFalse invalid => exact iff_of_true rfl (Bool.eq_false_iff.mpr invalid)

end FileZilla
