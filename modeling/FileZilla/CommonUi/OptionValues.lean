import FileZilla.CommonUi.SiteRoundTrip
import FileZilla.CommonUi.XmlOptions

namespace FileZilla

namespace OptionDef

variable {Xml : Type} {definition : OptionDef Xml} {val : OptionValue Xml} {value : Datum Xml}

def Fits (definition : OptionDef Xml) : Datum Xml → Prop
  | .number _ => definition.type = .number ∨ definition.type = .boolean
  | .text _ => definition.type = .string
  | .xml _ => definition.type = .xml

theorem datum_number (numeric : definition.type = .number ∨ definition.type = .boolean) :
    definition.datum val = .number val.v := by
  rcases numeric with type | type
  · rw [datum, type]
  · rw [datum, type]

theorem datum_text (type : definition.type = .string) : definition.datum val = .text val.str := by
  rw [datum, type]

theorem datum_xml (type : definition.type = .xml) : definition.datum val = .xml val.xml := by
  rw [datum, type]

theorem fromContent_fits {format : SettingsXml Xml} {content : SettingContent Xml} :
    definition.Fits (definition.fromContent format content) := by
  cases type : definition.type with
  | number => rw [fromContent, type]; exact .inl type
  | boolean => rw [fromContent, type]; exact .inr type
  | string => rw [fromContent, type]; exact type
  | xml => rw [fromContent, type]; exact type

theorem fromInt_fits {number : Int} (converted : definition.fromInt number = some value) :
    definition.Fits value := by
  unfold fromInt at converted
  cases type : definition.type with
  | number => rw [type] at converted; cases converted; exact .inl type
  | boolean => rw [type] at converted; cases converted; exact .inr type
  | string => rw [type] at converted; cases converted; exact type
  | xml => rw [type] at converted; cases converted

theorem fromString_fits {text : WString} (converted : definition.fromString text = some value) :
    definition.Fits value := by
  unfold fromString at converted
  cases type : definition.type with
  | number =>
    rw [type] at converted
    dsimp only at converted
    split at converted
    case isTrue => cases converted; exact .inl type
    case isFalse => cases converted; exact .inl type
  | boolean => rw [type] at converted; cases converted; exact .inr type
  | string => rw [type] at converted; cases converted; exact type
  | xml => rw [type] at converted; cases converted

theorem fromXml_fits {children : Xml} (converted : definition.fromXml children = some value) :
    definition.Fits value := by
  unfold fromXml at converted
  split at converted
  case isTrue type => cases converted; exact type
  case isFalse => cases converted

variable {predefined : Bool}

theorem datum_set (fits : definition.Fits value)
    (free : definition.refuses val predefined = false) :
    definition.datum (definition.set val value predefined).1 =
      (definition.accept value).getD (definition.datum val) := by
  unfold set accept
  rw [free]
  cases value with
  | number number =>
    dsimp only
    cases taken : definition.acceptInt number with
    | none => rfl
    | some taken =>
      rw [if_neg Bool.false_ne_true]
      dsimp only
      split
      case isTrue same =>
        rw [datum_number fits, same]
        rfl
      case isFalse => rw [datum_number fits]; rfl
  | text text =>
    dsimp only
    cases taken : definition.acceptString text with
    | none => rfl
    | some taken =>
      rw [if_neg Bool.false_ne_true]
      dsimp only
      split
      case isTrue same =>
        rw [datum_text fits, same]
        rfl
      case isFalse => rw [datum_text fits]; rfl
  | xml children =>
    dsimp only
    cases taken : definition.validateXml children with
    | none => rfl
    | some taken =>
      rw [if_neg Bool.false_ne_true]
      dsimp only
      rw [datum_xml fits]
      rfl

theorem set_of_refuses (refused : definition.refuses val predefined = true) :
    definition.set val value predefined = (val, false) := by
  unfold set
  exact if_pos refused

theorem datum_of_unchanged (fits : definition.Fits value)
    (unchanged : (definition.set val value predefined).2 = false) :
    definition.datum (definition.set val value predefined).1 = definition.datum val := by
  unfold set at unchanged ⊢
  split at unchanged
  case isTrue refused => rw [if_pos refused]
  case isFalse free =>
    rw [if_neg free]
    cases value with
    | number number =>
      dsimp only at unchanged ⊢
      cases taken : definition.acceptInt number with
      | none => rfl
      | some taken =>
        rw [taken] at unchanged
        dsimp only at unchanged ⊢
        split at unchanged
        case isTrue same => rw [if_pos same, datum_number fits, datum_number fits]
        case isFalse => cases unchanged
    | text text =>
      dsimp only at unchanged ⊢
      cases taken : definition.acceptString text with
      | none => rfl
      | some taken =>
        rw [taken] at unchanged
        dsimp only at unchanged ⊢
        split at unchanged
        case isTrue same => rw [if_pos same, datum_text fits, datum_text fits]
        case isFalse => cases unchanged
    | xml children =>
      dsimp only at unchanged ⊢
      cases taken : definition.validateXml children with
      | none => rfl
      | some taken =>
        rw [taken] at unchanged
        cases unchanged

theorem isHeld_set : definition.isHeld (definition.set val value false).1 =
    definition.isHeld val := by
  unfold set
  split
  case isTrue => rfl
  case isFalse free =>
    have loose : (definition.flags.predefinedPriority && val.predefined) = false := by
      simp only [refuses, Bool.not_false, Bool.and_true, Bool.not_eq_true,
        Bool.or_eq_false_iff] at free
      exact free.2
    have reset : (definition.flags.predefinedPriority && false) = false := Bool.and_false _
    unfold isHeld
    split
    case h_1 =>
      split
      case h_1 => rfl
      case h_2 =>
        split
        case isTrue => rw [loose, reset]
        case isFalse => rw [loose, reset]
    case h_2 =>
      split
      case h_1 => rfl
      case h_2 =>
        split
        case isTrue => rw [loose, reset]
        case isFalse => rw [loose, reset]
    case h_3 =>
      split
      case h_1 => rfl
      case h_2 => rfl

def Canonical (definition : OptionDef Xml) (val : OptionValue Xml) : Prop :=
  definition.isNumeric = true → IsInt val.v ∧ val.str = toWString val.v

theorem isNumeric_iff :
    definition.isNumeric = true ↔ definition.type = .number ∨ definition.type = .boolean := by
  rw [isNumeric, decide_eq_true_iff]

theorem canonical_set (fits : definition.Fits value)
    (ints : ∀ value taken, definition.acceptInt value = some taken → IsInt taken)
    (canonical : definition.Canonical val) :
    definition.Canonical (definition.set val value predefined).1 := by
  intro numeric
  have before := canonical numeric
  unfold set
  split
  case isTrue => exact before
  case isFalse =>
    rw [isNumeric_iff] at numeric
    cases value with
    | number number =>
      dsimp only
      cases taken : definition.acceptInt number with
      | none => exact before
      | some taken' =>
        dsimp only
        split
        case isTrue => exact before
        case isFalse => exact ⟨ints _ _ taken, rfl⟩
    | text text =>
      rw [Fits] at fits
      rw [fits] at numeric
      exact numeric.elim (fun same => by cases same) fun same => by cases same
    | xml children =>
      rw [Fits] at fits
      rw [fits] at numeric
      exact numeric.elim (fun same => by cases same) fun same => by cases same

/-- A text that can be converted to UTF-8, without NUL, and not only of blanks -/
def IsPlain (text : WString) : Prop :=
  XmlSite.IsUnicode text ∧ 0 ∉ text ∧ (text = [] ∨ blankText (toUtf8 text) = false)

theorem IsPlain.read {pugi : Pugixml} {text : WString} (plain : IsPlain text) :
    wide (pugi.value (toUtf8 text)) = text := by
  obtain ⟨unicode, _, rfl | visible⟩ := plain
  · exact XmlSite.IsElementText.nil.read
  · rw [pugi.value_of_not_blank _ visible, unicode.wide_toUtf8]

theorem not_blank_of_mem {text : String} {char : Char} (member : char ∈ text.toList)
    (visible : blankText (String.singleton char) = false) : blankText text = false := by
  unfold blankText at visible ⊢
  rw [String.toList_singleton, List.all_cons, List.all_nil, Bool.and_true] at visible
  exact List.all_eq_false.mpr ⟨char, member, by rw [visible]; exact Bool.false_ne_true⟩

theorem not_blank_of_isDigit {char : Char} (digit : char.isDigit = true) :
    blankText (String.singleton char) = false := by
  unfold blankText
  rw [String.toList_singleton, List.all_cons, List.all_nil, Bool.and_true]
  simp only [Bool.or_eq_false_iff, beq_eq_false_iff_ne]
  refine ⟨⟨⟨?_, ?_⟩, ?_⟩, ?_⟩
  all_goals
    rintro rfl
    cases digit

theorem toString_not_blank (number : Int) : blankText (toString number) = false := by
  cases number with
  | ofNat number =>
    have text : (toString (Int.ofNat number)).toList = Nat.toDigits 10 number := Nat.toList_repr
    cases digits : Nat.toDigits 10 number with
    | nil => exact absurd digits Nat.toDigits_ne_nil
    | cons char rest =>
      have member : char ∈ Nat.toDigits 10 number := by
        rw [digits]
        exact List.mem_cons_self
      have digit : char.isDigit = true :=
        Nat.isDigit_of_mem_toDigits (by decide) (by decide) member
      exact not_blank_of_mem (text ▸ member) (not_blank_of_isDigit digit)
  | negSucc number =>
    have text : (toString (Int.negSucc number)).toList = '-' :: Nat.toDigits 10 (number + 1) := by
      change ("-" ++ Nat.repr (number + 1)).toList = _
      rw [String.toList_append, Nat.toList_repr]
      rfl
    have member : '-' ∈ (toString (Int.negSucc number)).toList := by
      rw [text]
      exact List.mem_cons_self
    exact not_blank_of_mem member (by decide)

theorem asInt_toWString {pugi : Pugixml} {number : Int} (int : IsInt number) :
    pugi.asInt (pugi.value (toUtf8 (toWString number))) = number := by
  rw [toWString, XmlSite.toUtf8_wide, pugi.value_of_not_blank _ (toString_not_blank number)]
  exact pugi.asInt_toString number int.1 int.2

end OptionDef

namespace XmlOptions

variable {Xml : Type} {format : SettingsXml Xml} {definition : OptionDef Xml}
  {val : OptionValue Xml}

open OptionDef

theorem fromContent_stored (canonical : definition.Canonical val)
    (plain : definition.type = .string → IsPlain val.str) :
    definition.fromContent format (format.stored (contentOf definition val)) =
      definition.datum val := by
  have number (numeric : definition.type = .number ∨ definition.type = .boolean) :
      format.asIntOf (format.stored (contentOf definition val)) = val.v := by
    obtain ⟨int, text⟩ := canonical (isNumeric_iff.mpr numeric)
    have notXml : definition.type ≠ .xml := by
      rcases numeric with type | type
      · rw [type]; exact fun same => by cases same
      · rw [type]; exact fun same => by cases same
    rw [contentOf, if_neg notXml, text]
    exact asInt_toWString int
  cases type : definition.type with
  | number =>
    rw [fromContent, type, datum_number (.inl type)]
    exact congrArg Datum.number (number (.inl type))
  | boolean =>
    rw [fromContent, type, datum_number (.inr type)]
    exact congrArg Datum.number (number (.inr type))
  | string =>
    rw [fromContent, type, datum_text type, contentOf,
      if_neg (by rw [type]; exact fun same => by cases same)]
    exact congrArg Datum.text (plain type).read
  | xml =>
    rw [fromContent, type, datum_xml type, contentOf, if_pos type]
    rfl

end XmlOptions

end FileZilla
