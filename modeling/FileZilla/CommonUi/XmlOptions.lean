import FileZilla.CommonUi.SavedSites
import FileZilla.Engine.DirectoryListingParser.Token
import FileZilla.Runs

namespace FileZilla

/-! Options and the settings file they are kept in. Watchers, change counters, the directory of
the settings and what else is in the file are left out. -/

inductive OptionType
  | string
  | number
  | boolean
  | xml
  deriving DecidableEq

structure OptionFlags where
  internal : Bool := false
  predefinedOnly : Bool := false
  predefinedPriority : Bool := false
  platform : Bool := false
  numericClamp : Bool := false
  sensitiveData : Bool := false
  product : Bool := false

/-- A definition. An option without validator has one that takes everything. -/
structure OptionDef (Xml : Type) where
  name : WString
  default : WString
  type : OptionType
  flags : OptionFlags := {}
  min : Int := 0
  max : Int := 0
  validateInt : Int → Option Int := some
  validateString : WString → Option WString := some
  validateXml : Xml → Option Xml := some
  mnemonics : List WString := []

structure OptionValue (Xml : Type) where
  str : WString
  xml : Xml
  v : Int
  predefined : Bool := false

inductive Datum (Xml : Type)
  | number (value : Int)
  | text (value : WString)
  | xml (value : Xml)

/-- What is in a `Setting` element, as text or as its children -/
inductive SettingContent (Xml : Type)
  | text (text : String)
  | xml (children : Xml)

structure Setting (Xml : Type) where
  name : WString
  platform : WString := []
  product : WString := []
  sensitive : WString := []
  content : SettingContent Xml

inductive SettingsNode (Xml : Type)
  | setting (setting : Setting Xml)
  | other

/-- What pugixml makes of the text and the children of an element. The children of an option
are as they were written once they have been read. -/
structure SettingsXml (Xml : Type) extends Pugixml where
  xmlText : Xml → String
  textXml : String → Xml
  loadString : WString → Xml

def intMin : Int := -2 ^ 31

def IsInt (number : Int) : Prop :=
  intMin ≤ number ∧ number < 2 ^ 31

def toIntegralInt (error : Int) (text : WString) : Int :=
  let negative : Bool := text.head? = some '-'.toNat
  let digits := if negative ∨ text.head? = some '+'.toNat then text.tail else text
  if digits = [] ∨ !digits.all isDigit then error
  else
    let magnitude : Nat := digits.foldl (fun number char => number * 10 + (char - 48)) 0
    let number : Int := if negative then -magnitude else magnitude
    if intMin ≤ number ∧ number < 2 ^ 31 then number else error

def toWString (number : Int) : WString :=
  wide (toString number)

variable {Xml : Type}

namespace SettingsXml

variable (format : SettingsXml Xml)

def childValue : SettingContent Xml → WString
  | .text text => wide text
  | .xml children => wide (format.xmlText children)

def asIntOf : SettingContent Xml → Int
  | .text text => format.asInt text
  | .xml children => format.asInt (format.xmlText children)

def childrenOf : SettingContent Xml → Xml
  | .text text => format.textXml text
  | .xml children => children

def stored : SettingContent Xml → SettingContent Xml
  | .text text => .text (format.value text)
  | .xml children => .xml children

def storedNode : SettingsNode Xml → SettingsNode Xml
  | .setting setting => .setting { setting with content := format.stored setting.content }
  | .other => .other

def storedNodes (nodes : List (SettingsNode Xml)) : List (SettingsNode Xml) :=
  nodes.map format.storedNode

end SettingsXml

namespace OptionDef

variable (definition : OptionDef Xml)

def isNumeric : Bool :=
  definition.type = .number ∨ definition.type = .boolean

def clamped (value : Int) : Option Int :=
  if value < definition.min then
    if definition.flags.numericClamp then some definition.min else none
  else if definition.max < value then
    if definition.flags.numericClamp then some definition.max else none
  else some value

def acceptInt (value : Int) : Option Int :=
  (definition.clamped value).bind definition.validateInt

def acceptString (value : WString) : Option WString :=
  if definition.max.toNat < value.length then none else definition.validateString value

def accept : Datum Xml → Option (Datum Xml)
  | .number value => (definition.acceptInt value).map .number
  | .text value => (definition.acceptString value).map .text
  | .xml value => (definition.validateXml value).map .xml

variable (val : OptionValue Xml)

/-- A value that `fzdefaults.xml` gives may not be replaced. -/
def refuses (predefined : Bool) : Bool :=
  (definition.flags.predefinedOnly && !predefined) ||
    (definition.flags.predefinedPriority && !predefined && val.predefined)

/-- `set` of a value, and whether the option has changed -/
def set (value : Datum Xml) (predefined : Bool) :
    OptionValue Xml × Bool :=
  if definition.refuses val predefined then (val, false)
  else
    match value with
    | .number value =>
      match definition.acceptInt value with
      | none => (val, false)
      | some value =>
        if value = val.v then ({ val with predefined := predefined }, false)
        else
          ({ val with v := value, str := toWString value, predefined := predefined }, true)
    | .text value =>
      match definition.acceptString value with
      | none => (val, false)
      | some v =>
        if v = val.str then ({ val with predefined := predefined }, false)
        else
          ({ val with v := toIntegralInt 0 v, str := v, predefined := predefined }, true)
    | .xml value =>
      match definition.validateXml value with
      | none => (val, false)
      | some value => ({ val with xml := value }, true)

def valFromMnemonic (value : WString) : Int :=
  (definition.mnemonics.idxOf value : Nat)

def fromInt (value : Int) : Option (Datum Xml) :=
  match definition.type with
  | .number => some (.number value)
  | .boolean => some (.number (if value ≠ 0 then 1 else 0))
  | .string => some (.text (toWString value))
  | .xml => none

def fromString (value : WString) : Option (Datum Xml) :=
  match definition.type with
  | .number =>
    let v := toIntegralInt intMin value
    if v = intMin ∧ definition.mnemonics ≠ [] then some (.number (definition.valFromMnemonic value))
    else some (.number v)
  | .boolean => some (.number (toIntegralInt 0 value))
  | .string => some (.text value)
  | .xml => none

def fromXml (value : Xml) : Option (Datum Xml) :=
  if definition.type = .xml then some (.xml value) else none

def fromContent (format : SettingsXml Xml) (content : SettingContent Xml) : Datum Xml :=
  match definition.type with
  | .number => .number (format.asIntOf content)
  | .boolean => .number (format.asIntOf content)
  | .xml => .xml (format.childrenOf content)
  | .string => .text (format.childValue content)

def datum : Datum Xml :=
  match definition.type with
  | .number => .number val.v
  | .boolean => .number val.v
  | .string => .text val.str
  | .xml => .xml val.xml

def defaultValue (format : SettingsXml Xml) : OptionValue Xml :=
  if definition.type = .xml then
    { str := [], v := 0, xml := format.loadString definition.default }
  else { str := definition.default, v := toIntegralInt 0 definition.default, xml := format.loadString [] }

def isPersisted : Bool :=
  !definition.flags.internal && !definition.flags.predefinedOnly && definition.name ≠ []

/-- Whether a value of `fzdefaults.xml` overrides that of the user -/
def isHeld : Bool :=
  definition.flags.predefinedPriority && val.predefined

end OptionDef

/-- The options that are registered, of which one is the kiosk mode. Every default is either
taken as it is or cannot be set at all; a default of sensitive data can be set. -/
structure OptionTable (format : SettingsXml Xml) where
  defs : List (OptionDef Xml)
  kiosk : Nat
  distinct : ∀ (i j : Nat) (first second : OptionDef Xml), defs[i]? = some first →
    defs[j]? = some second → first.name = second.name → first.name ≠ [] → i = j
  kioskDef : ∃ definition, defs[kiosk]? = some definition ∧ definition.type = .number ∧
    definition.isPersisted = true ∧ definition.flags.sensitiveData = false
  idempotent : ∀ definition ∈ defs, ∀ value taken, definition.accept value = some taken →
    definition.accept taken = some taken
  ints : ∀ definition ∈ defs, ∀ value taken, definition.acceptInt value = some taken → IsInt taken
  defaultNumbers : ∀ definition ∈ defs, definition.isNumeric = true →
    IsInt (toIntegralInt 0 definition.default) ∧
      definition.default = toWString (toIntegralInt 0 definition.default)
  defaults : ∀ definition ∈ defs, ∀ taken,
    definition.accept (definition.datum (definition.defaultValue format)) = some taken →
      taken = definition.datum (definition.defaultValue format)
  sensitiveDefaults : ∀ definition ∈ defs, definition.flags.sensitiveData = true →
    (definition.accept (definition.datum (definition.defaultValue format))).isSome = true

structure OptionsEnvironment (Xml : Type) where
  format : SettingsXml Xml
  table : OptionTable format
  platformName : WString
  productName : WString
  /-- The settings in `fzdefaults.xml` -/
  globalDefaults : List (SettingsNode Xml)

/-- `file` is what the settings file holds, `lost` whether writing it has failed since it was
last written. -/
structure XmlOptions (Xml : Type) where
  values : Nat → OptionValue Xml
  changed : Nat → Bool
  settings : List (SettingsNode Xml)
  dirty : Bool
  file : List (SettingsNode Xml)
  lost : Bool

namespace XmlOptions

variable (env : OptionsEnvironment Xml) (definition : OptionDef Xml)

def isFor (setting : Setting Xml) : Bool :=
  setting.name = definition.name &&
    (!definition.flags.platform || setting.platform = [] || setting.platform = env.platformName) &&
    (!definition.flags.product || setting.product = env.productName)

def nameToOption (name : WString) : Option Nat :=
  if name = [] then none
  else env.table.defs.findIdx? fun definition => definition.name = name

def optionOf (setting : Setting Xml) : Option (Nat × OptionDef Xml) :=
  match nameToOption env setting.name with
  | none => none
  | some opt =>
    match env.table.defs[opt]? with
    | none => none
    | some definition => if isFor env definition setting then some (opt, definition) else none

structure Loading (Xml : Type) where
  values : Nat → OptionValue Xml
  seen : Nat → Bool
  dirty : Bool

/-- The loop over the settings, with those that are left. Only those of the user are cleared of
duplicates. -/
def loadNodes (predefined : Bool) :
    List (SettingsNode Xml) → Loading Xml → Loading Xml × List (SettingsNode Xml)
  | [], loading => (loading, [])
  | node :: rest, loading =>
    match node with
    | .other =>
      let (loading, left) := loadNodes predefined rest loading
      (loading, node :: left)
    | .setting setting =>
      match optionOf env setting with
      | none =>
        let (loading, left) := loadNodes predefined rest loading
        (loading, node :: left)
      | some (opt, definition) =>
        if loading.seen opt then
          if predefined then
            let (loading, left) := loadNodes predefined rest loading
            (loading, node :: left)
          else loadNodes predefined rest { loading with dirty := true }
        else
          let value := definition.fromContent env.format setting.content
          let (loading, left) := loadNodes predefined rest
            { loading with
              seen := Function.update loading.seen opt true
              values := Function.update loading.values opt
                (definition.set (loading.values opt) value predefined).1 }
          (loading, node :: left)

def contentOf (val : OptionValue Xml) : SettingContent Xml :=
  if definition.type = .xml then .xml val.xml else .text (toUtf8 val.str)

def newSetting (val : OptionValue Xml) : Setting Xml where
  name := definition.name
  platform := if definition.flags.platform then env.platformName else []
  product := if definition.flags.product then env.productName else []
  sensitive := if definition.flags.sensitiveData then wide "1" else []
  content := contentOf definition val

def SettingsNode.isFor : SettingsNode Xml → Bool
  | .setting setting => XmlOptions.isFor env definition setting
  | .other => false

variable (opt : Nat)

def setXmlValue (clean : Bool) (self : XmlOptions Xml) : XmlOptions Xml :=
  match env.table.defs[opt]? with
  | none => self
  | some definition =>
    if !definition.isPersisted then self
    else
      let settings :=
        if clean then
          self.settings.filter fun node => !SettingsNode.isFor env definition node
        else self.settings
      { self with
        settings := settings ++ [.setting (newSetting env definition (self.values opt))]
        dirty := true }

def options : List Nat :=
  List.range env.table.defs.length

def defaultValues : OptionValue Xml :=
  match env.table.defs[opt]? with
  | none => { str := [], xml := env.format.loadString [], v := 0 }
  | some definition => definition.defaultValue env.format

def loadGlobalDefaultOptions : Nat → OptionValue Xml :=
  (loadNodes env true env.globalDefaults
    { values := defaultValues env, seen := fun _ => false, dirty := false }).1.values

/-- `Load` of a settings file; what is missing in it is added. -/
def load (file : List (SettingsNode Xml)) : XmlOptions Xml :=
  let (loading, settings) := loadNodes env false file
    { values := loadGlobalDefaultOptions env, seen := fun _ => false, dirty := false }
  let loaded : XmlOptions Xml :=
    { values := loading.values
      changed := fun _ => false
      settings := settings
      dirty := loading.dirty
      file := file
      lost := false }
  ((options env).filter fun opt => !loading.seen opt).foldl
    (fun self opt => setXmlValue env opt false self) loaded

def setValue (convert : OptionDef Xml → Option (Datum Xml)) (self : XmlOptions Xml) :
    XmlOptions Xml :=
  match env.table.defs[opt]? with
  | none => self
  | some definition =>
    match convert definition with
    | none => self
    | some value =>
      let (val, changed) := definition.set (self.values opt) value false
      { self with
        values := Function.update self.values opt val
        changed := if changed then Function.update self.changed opt true else self.changed }

def setInt (value : Int) : XmlOptions Xml → XmlOptions Xml :=
  setValue env opt fun definition => definition.fromInt value

def setString (value : WString) : XmlOptions Xml → XmlOptions Xml :=
  setValue env opt fun definition => definition.fromString value

def setXml (value : Xml) : XmlOptions Xml → XmlOptions Xml :=
  setValue env opt fun definition => definition.fromXml value

def processChanged (changed : List Nat) (self : XmlOptions Xml) : XmlOptions Xml :=
  changed.foldl (fun self opt => setXmlValue env opt true self) self

variable (self : XmlOptions Xml)

def continueNotifyChanged : XmlOptions Xml :=
  processChanged env ((options env).filter self.changed)
    { self with changed := fun _ => false }

def isSensitive : Bool :=
  match env.table.defs[opt]? with
  | none => false
  | some definition => definition.flags.sensitiveData

def isKept : SettingsNode Xml → Bool
  | .setting setting => setting.sensitive ≠ wide "1"
  | .other => false

def cleanup : XmlOptions Xml :=
  { self with
    values := fun opt =>
      if isSensitive env opt then
        { defaultValues env opt with predefined := (self.values opt).predefined }
      else self.values opt
    changed := fun opt => isSensitive env opt || self.changed opt
    settings := self.settings.filter isKept
    dirty := self.dirty || !self.settings.all isKept }

inductive Writing (Xml : Type)
  | written
  | failed (left : List (SettingsNode Xml))

def kioskMode : Int :=
  (self.values env.table.kiosk).v

def save (notify : Bool) (writing : Writing Xml) (self : XmlOptions Xml) :
    XmlOptions Xml × Bool :=
  let self := if notify then continueNotifyChanged env self else self
  if !self.dirty then (self, true)
  else
    let self := { self with dirty := false }
    if kioskMode env self = 2 then (self, true)
    else
      match writing with
      | .written =>
        ({ self with file := env.format.storedNodes self.settings, lost := false }, true)
      | .failed left => ({ self with file := left, lost := true }, false)

inductive Event (Xml : Type)
  | setInt (opt : Nat) (value : Int)
  | setString (opt : Nat) (value : WString)
  | setXml (opt : Nat) (value : Xml)
  | continueNotifyChanged
  | cleanup
  | save (notify : Bool) (writing : Writing Xml)

def step : Event Xml → Option (XmlOptions Xml)
  | .setInt opt value => some (setInt env opt value self)
  | .setString opt value => some (setString env opt value self)
  | .setXml opt value => some (setXml env opt value self)
  | .continueNotifyChanged => some (continueNotifyChanged env self)
  | .cleanup => some (cleanup env self)
  | .save notify writing => some (save env notify writing self).1

end XmlOptions

end FileZilla
