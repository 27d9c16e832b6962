import FileZilla.CommonUi.OptionsFile

namespace FileZilla

open Option Function

namespace XmlOptions

open OptionDef

section Properties

variable {Xml : Type} (env : OptionsEnvironment Xml) (self : XmlOptions Xml)

def Survives : Prop :=
  ∀ (opt : Nat) (definition : OptionDef Xml), env.table.defs[opt]? = some definition →
    definition.isPersisted = true → definition.isHeld (self.values opt) = false →
      definition.datum ((load env self.file).values opt) = definition.datum (self.values opt)

def PlainStrings : Prop :=
  ∀ (opt : Nat) (definition : OptionDef Xml), env.table.defs[opt]? = some definition →
    definition.type = .string → IsPlain (self.values opt).str

def HasNews : Prop :=
  self.dirty = true ∨ ∃ (opt : Nat) (definition : OptionDef Xml),
    env.table.defs[opt]? = some definition ∧ definition.isPersisted = true ∧
      self.changed opt = true

/-- The element of an option is marked as sensitive only if the option is. -/
def MarkedSensitive : Prop :=
  ∀ (opt : Nat) (definition : OptionDef Xml) (setting : Setting Xml),
    env.table.defs[opt]? = some definition → definition.isPersisted = true → .setting setting ∈ self.settings →
      isFor env definition setting = true → setting.sensitive = wide "1" →
        definition.flags.sensitiveData = true

def Event.Regular : Event Xml → Prop
  | .cleanup => PlainStrings env self ∧ MarkedSensitive env self
  | .save true _ => PlainStrings env self ∧ (self.lost = true → HasNews env self)
  | _ => PlainStrings env self

end Properties

open List

section Values

variable {Xml : Type} {env : OptionsEnvironment Xml} {definition : OptionDef Xml} {opt : Nat}
  {val : OptionValue Xml}

structure Sound (env : OptionsEnvironment Xml) (opt : Nat) (definition : OptionDef Xml)
    (val : OptionValue Xml) : Prop where
  canonical : definition.Canonical val
  held : definition.isHeld val = definition.isHeld (loadGlobalDefaultOptions env opt)
  settled : definition.accept (definition.datum val) = some (definition.datum val) ∨
    (definition.datum val = definition.datum (loadGlobalDefaultOptions env opt) ∧
      definition.accept (definition.datum val) = none)

theorem accept_set {value : Datum Xml} {predefined : Bool} (member : definition ∈ env.table.defs)
    (fits : definition.Fits value) :
    definition.datum (definition.set val value predefined).1 = definition.datum val ∨
      definition.accept (definition.datum (definition.set val value predefined).1) =
        some (definition.datum (definition.set val value predefined).1) := by
  cases refused : definition.refuses val predefined with
  | true => exact .inl (by rw [set_of_refuses refused])
  | false =>
    rw [datum_set fits refused]
    cases accepted : definition.accept value with
    | none => exact .inl rfl
    | some taken => exact .inr (env.table.idempotent definition member value taken accepted)

theorem Sound.set {value : Datum Xml} (member : definition ∈ env.table.defs)
    (fits : definition.Fits value) (sound : Sound env opt definition val) :
    Sound env opt definition (definition.set val value false).1 where
  canonical := canonical_set fits (env.table.ints definition member) sound.canonical
  held := isHeld_set.trans sound.held
  settled := by
    rcases accept_set member fits with same | accepted
    · rw [same]
      exact sound.settled
    · exact .inl accepted

theorem datum_defaultValues (here : env.table.defs[opt]? = some definition) :
    defaultValues env opt = definition.defaultValue env.format := by
  rw [defaultValues, here]

theorem canonical_default (member : definition ∈ env.table.defs) :
    definition.Canonical (definition.defaultValue env.format) := by
  intro numeric
  have number := env.table.defaultNumbers definition member numeric
  have notXml : definition.type ≠ .xml := by
    rcases isNumeric_iff.mp numeric with type | type
    · rw [type]; exact fun same => by cases same
    · rw [type]; exact fun same => by cases same
  rw [defaultValue, if_neg notXml]
  exact number

theorem settled_default (member : definition ∈ env.table.defs) :
    definition.accept (definition.datum (definition.defaultValue env.format)) =
        some (definition.datum (definition.defaultValue env.format)) ∨
      definition.accept (definition.datum (definition.defaultValue env.format)) = none := by
  cases accepted : definition.accept (definition.datum (definition.defaultValue env.format)) with
  | none => exact .inr rfl
  | some taken =>
    rw [env.table.defaults definition member taken accepted]
    exact .inl rfl

theorem sound_loadGlobalDefaultOptions (here : env.table.defs[opt]? = some definition)
    (name : definition.name ≠ []) :
    Sound env opt definition (loadGlobalDefaultOptions env opt) := by
  have member : definition ∈ env.table.defs := mem_of_getElem? here
  have loaded := (loadNodes_loaded here name true env.globalDefaults
    { values := defaultValues env, seen := fun _ => false, dirty := false }).value
  dsimp only at loaded
  rw [if_neg Bool.false_ne_true, datum_defaultValues here] at loaded
  have read : loadGlobalDefaultOptions env opt =
      readValue env definition true (definition.defaultValue env.format)
        (contentFor env definition env.globalDefaults) := loaded
  rw [read]
  refine ⟨?_, by rw [read], ?_⟩
  · cases contentFor env definition env.globalDefaults with
    | none => exact canonical_default member
    | some content =>
      exact canonical_set fromContent_fits
        (env.table.ints definition member) (canonical_default member)
  · rw [read]
    cases contentFor env definition env.globalDefaults with
    | none => exact (settled_default member).imp id fun rejected => ⟨rfl, rejected⟩
    | some content =>
      rcases accept_set member fromContent_fits with same | accepted
      · dsimp only [readValue]
        rw [same]
        exact (settled_default member).imp id fun rejected => ⟨rfl, rejected⟩
      · exact .inl accepted

theorem sound_default (here : env.table.defs[opt]? = some definition)
    (sensitive : definition.flags.sensitiveData = true) (sound : Sound env opt definition val) :
    Sound env opt definition
      { defaultValues env opt with predefined := val.predefined } := by
  have member : definition ∈ env.table.defs := mem_of_getElem? here
  have accepted := env.table.sensitiveDefaults definition member sensitive
  rw [datum_defaultValues here]
  refine ⟨canonical_default member, sound.held, .inl ?_⟩
  rcases settled_default member with taken | rejected
  · exact taken
  · rw [rejected] at accepted
    cases accepted

theorem Sound.readValue (member : definition ∈ env.table.defs)
    (sound : Sound env opt definition val) (content : Option (SettingContent Xml)) :
    Sound env opt definition (readValue env definition false val content) := by
  cases content with
  | none => exact sound
  | some content => exact sound.set member fromContent_fits

theorem refuses_of_persisted (persisted : definition.isPersisted = true)
    (free : definition.isHeld val = false) : definition.refuses val false = false := by
  unfold isPersisted at persisted
  unfold isHeld at free
  simp only [Bool.and_eq_true, Bool.not_eq_true'] at persisted
  unfold refuses
  rw [persisted.1.2, Bool.false_and, Bool.false_or, Bool.not_false, Bool.and_true]
  exact free

theorem readValue_contentOf (persisted : definition.isPersisted = true)
    (free : definition.isHeld val = false) (sound : Sound env opt definition val)
    (plain : definition.type = .string → IsPlain val.str) :
    definition.datum (XmlOptions.readValue env definition false (loadGlobalDefaultOptions env opt)
        (some (env.format.stored (contentOf definition val)))) =
      definition.datum val := by
  have loose := refuses_of_persisted persisted (sound.held.symm.trans free)
  rw [XmlOptions.readValue, datum_set fromContent_fits loose,
    fromContent_stored sound.canonical plain]
  rcases sound.settled with accepted | ⟨same, rejected⟩
  · rw [accepted]
    rfl
  · rw [rejected, same]
    rfl

end Values

section Invariant

variable {Xml : Type} {env : OptionsEnvironment Xml} {definition : OptionDef Xml} {opt : Nat}
  {self : XmlOptions Xml}

def Current (env : OptionsEnvironment Xml) (nodes : List (SettingsNode Xml))
    (values : Nat → OptionValue Xml) (changed : Nat → Bool) : Prop :=
  ∀ (opt : Nat) (definition : OptionDef Xml), env.table.defs[opt]? = some definition →
    definition.isPersisted = true → definition.isHeld (values opt) = false → changed opt = false →
        definition.datum (readValue env definition false (loadGlobalDefaultOptions env opt)
          (contentFor env definition nodes)) = definition.datum (values opt)

/-- In kiosk mode nothing is written; leaving it is a change to be written. -/
def Kiosk (env : OptionsEnvironment Xml) (options : XmlOptions Xml) : Prop :=
  kioskMode env options = 2 ∨ options.changed env.table.kiosk = true

structure Consistent (env : OptionsEnvironment Xml) (options : XmlOptions Xml) : Prop where
  sound : ∀ (opt : Nat) (definition : OptionDef Xml),
    env.table.defs[opt]? = some definition → definition.name ≠ [] →
      Sound env opt definition (options.values opt)
  settings : Current env (env.format.storedNodes options.settings) options.values options.changed
  file : options.dirty = false → options.lost = false →
    Current env options.file options.values options.changed ∨ Kiosk env options

/-- What a step leaves as it is, where it does not mark an option as changed -/
def Keeps (env : OptionsEnvironment Xml) (before after : XmlOptions Xml) : Prop :=
  ∀ (opt : Nat) (definition : OptionDef Xml), env.table.defs[opt]? = some definition →
    after.changed opt = false → before.changed opt = false ∧
      definition.datum (after.values opt) = definition.datum (before.values opt) ∧
      definition.isHeld (after.values opt) = definition.isHeld (before.values opt)

theorem Current.keeps {nodes : List (SettingsNode Xml)} {before after : XmlOptions Xml}
    (current : Current env nodes before.values before.changed) (keeps : Keeps env before after) :
    Current env nodes after.values after.changed := by
  intro opt definition here persisted free still
  obtain ⟨earlier, datum, held⟩ := keeps opt definition here still
  rw [datum]
  exact current opt definition here persisted (held.symm.trans free) earlier

theorem Kiosk.keeps {before after : XmlOptions Xml} (kiosk : Kiosk env before)
    (keeps : Keeps env before after) : Kiosk env after := by
  cases changed : after.changed env.table.kiosk with
  | true => exact .inr changed
  | false =>
    obtain ⟨definition, here, type, _, _⟩ := env.table.kioskDef
    obtain ⟨earlier, datum, _⟩ := keeps env.table.kiosk definition here changed
    rw [datum_number (.inl type), datum_number (.inl type)] at datum
    rcases kiosk with mode | left
    · exact .inl ((Datum.number.inj datum).trans mode)
    · rw [left] at earlier
      cases earlier

theorem setValue_consistent {convert : OptionDef Xml → Option (Datum Xml)}
    (fits : ∀ definition value, convert definition = some value → Fits definition value)
    (consistent : Consistent env self) : Consistent env (setValue env opt convert self) := by
  unfold setValue
  cases here : env.table.defs[opt]? with
  | none => exact consistent
  | some definition =>
    dsimp only
    cases converted : convert definition with
    | none => exact consistent
    | some value =>
      dsimp only
      have member : definition ∈ env.table.defs := mem_of_getElem? here
      have fit := fits definition value converted
      have held : definition.isHeld (definition.set (self.values opt) value false).1 =
          definition.isHeld (self.values opt) := isHeld_set
      have unchanged := @datum_of_unchanged _ definition (self.values opt) value
        false fit
      have sound (name : definition.name ≠ []) :=
        (consistent.sound opt definition here name).set member fit
      generalize definition.set (self.values opt) value false = result at held unchanged sound ⊢
      obtain ⟨val, changed⟩ := result
      dsimp only at held unchanged sound ⊢
      have keeps : Keeps env self
          { self with
            values := update self.values opt val
            changed :=
              if changed then update self.changed opt true else self.changed } := by
        intro index other there still
        dsimp only at still ⊢
        by_cases same : index = opt
        · subst same
          cases here.symm.trans there
          rw [update_self]
          cases changed with
          | true =>
            rw [if_pos rfl, update_self] at still
            cases still
          | false => exact ⟨still, unchanged rfl, held⟩
        · rw [update_of_ne same]
          refine ⟨?_, rfl, rfl⟩
          cases changed with
          | true =>
            rw [if_pos rfl, update_of_ne same] at still
            exact still
          | false => exact still
      refine ⟨?_, consistent.settings.keeps keeps, fun clean found => ?_⟩
      · intro index other there name
        dsimp only
        by_cases same : index = opt
        · subst same
          cases here.symm.trans there
          rw [update_self]
          exact sound name
        · rw [update_of_ne same]
          exact consistent.sound index other there name
      · exact (consistent.file clean found).imp (·.keeps keeps) (·.keeps keeps)

theorem isSensitive_of_def (here : env.table.defs[opt]? = some definition) :
    isSensitive env opt = definition.flags.sensitiveData := by
  rw [isSensitive, here]

theorem cleanup_consistent (marked : MarkedSensitive env self)
    (consistent : Consistent env self) : Consistent env (cleanup env self) := by
  have keeps : Keeps env self (cleanup env self) := by
    intro opt definition _ still
    obtain ⟨plain, before⟩ := Bool.or_eq_false_iff.mp still
    have value : (cleanup env self).values opt = self.values opt :=
      if_neg (by rw [plain]; exact Bool.false_ne_true)
    rw [value]
    exact ⟨before, rfl, rfl⟩
  refine ⟨?_, ?_, fun clean found => ?_⟩
  · intro opt definition here name
    have sound := consistent.sound opt definition here name
    unfold cleanup
    dsimp only
    split
    case isTrue sensitive =>
      rw [isSensitive_of_def here] at sensitive
      exact sound_default here sensitive sound
    case isFalse => exact sound
  · have current := consistent.settings.keeps keeps
    intro opt definition here persisted free still
    rw [← current opt definition here persisted free still, contentFor_storedNodes,
      contentFor_storedNodes]
    have plain := (Bool.or_eq_false_iff.mp still).1
    rw [isSensitive_of_def here] at plain
    have same : contentFor env definition (cleanup env self).settings =
        contentFor env definition self.settings := by
      apply contentFor_filter_of
      intro setting inside named
      rw [isKept, decide_eq_true_iff]
      intro sensitive
      rw [marked opt definition setting here persisted inside named sensitive] at plain
      cases plain
    rw [same]
  · have before : self.dirty = false := (Bool.or_eq_false_iff.mp clean).1
    exact (consistent.file before found).imp (·.keeps keeps) (·.keeps keeps)

theorem mem_options (here : env.table.defs[opt]? = some definition) : opt ∈ options env := by
  obtain ⟨bound, _⟩ := List.getElem?_eq_some_iff.mp here
  exact mem_range.mpr bound

theorem continueNotifyChanged_written :
    Written { self with changed := fun _ => false } (continueNotifyChanged env self) :=
  foldl_setXmlValue_written

theorem continueNotifyChanged_clean (clean : (continueNotifyChanged env self).dirty = false) :
    self.dirty = false ∧ ∀ (opt : Nat) (definition : OptionDef Xml),
      env.table.defs[opt]? = some definition → definition.isPersisted = true →
        self.changed opt = false := by
  obtain ⟨before, untouched⟩ := foldl_setXmlValue_clean clean
  refine ⟨before, fun opt definition here persisted => ?_⟩
  by_contra changed
  rw [Bool.not_eq_false] at changed
  have member : opt ∈ (options env).filter self.changed :=
    mem_filter.mpr ⟨mem_options here, changed⟩
  rw [untouched opt member definition here] at persisted
  cases persisted

theorem continueNotifyChanged_consistent (plain : PlainStrings env self)
    (consistent : Consistent env self) : Consistent env (continueNotifyChanged env self) := by
  have written : Written { self with changed := fun _ => false }
      (continueNotifyChanged env self) := continueNotifyChanged_written
  refine ⟨?_, ?_, fun clean found => ?_⟩
  · rw [written.values]
    exact consistent.sound
  · rw [written.values, written.changed]
    intro opt definition here persisted free _
    have sound := consistent.sound opt definition here (name_of_persisted persisted)
    rw [contentFor_storedNodes, continueNotifyChanged, processChanged,
      contentFor_foldl_setXmlValue here persisted]
    split
    case isTrue => exact readValue_contentOf persisted free sound (plain opt definition here)
    case isFalse unchanged =>
      have before : self.changed opt = false := by
        by_contra changed
        rw [Bool.not_eq_false] at changed
        exact unchanged (mem_filter.mpr ⟨mem_options here, changed⟩)
      have current := consistent.settings opt definition here persisted free before
      rw [contentFor_storedNodes] at current
      exact current
  · obtain ⟨before, untouched⟩ := continueNotifyChanged_clean clean
    rw [written.lost] at found
    rw [written.file, written.values, written.changed]
    rcases consistent.file before found with current | kiosk
    · refine .inl fun opt definition here persisted free _ => ?_
      exact current opt definition here persisted free (untouched opt definition here persisted)
    · obtain ⟨definition, here, _, persisted, _⟩ := env.table.kioskDef
      rcases kiosk with mode | left
      · refine .inr (.inl ?_)
        rw [kioskMode, written.values]
        exact mode
      · rw [untouched _ definition here persisted] at left
        cases left

theorem save_consistent {notify : Bool} {writing : Writing Xml}
    (plain : notify = true → PlainStrings env self) (consistent : Consistent env self) :
    Consistent env (save env notify writing self).1 := by
  have middle : Consistent env (if notify then continueNotifyChanged env self else self) := by
    split
    case isTrue notified => exact continueNotifyChanged_consistent (plain notified) consistent
    case isFalse => exact consistent
  unfold save
  dsimp only
  generalize (if notify then continueNotifyChanged env self else self) = next at middle ⊢
  split
  case isTrue => exact middle
  case isFalse =>
    split
    case isTrue mode => exact ⟨middle.sound, middle.settings, fun _ _ => .inr (.inl mode)⟩
    case isFalse =>
      cases writing with
      | written => exact ⟨middle.sound, middle.settings, fun _ _ => .inl middle.settings⟩
      | failed left => exact ⟨middle.sound, middle.settings, fun _ found => by cases found⟩

variable (file : List (SettingsNode Xml))

theorem load_values (here : env.table.defs[opt]? = some definition)
    (name : definition.name ≠ []) :
    (load env file).values opt = readValue env definition false (loadGlobalDefaultOptions env opt)
        (contentFor env definition file) := by
  have loaded := (loadNodes_loaded here name false file
    { values := loadGlobalDefaultOptions env, seen := fun _ => false, dirty := false }).value
  rw [if_neg Bool.false_ne_true] at loaded
  unfold load
  dsimp only
  rw [foldl_setXmlValue_written.values]
  exact loaded

theorem contentFor_load
    (here : env.table.defs[opt]? = some definition) (persisted : definition.isPersisted = true) :
    contentFor env definition (load env file).settings = (contentFor env definition file).or
        (some (contentOf definition ((load env file).values opt))) := by
  have name := name_of_persisted persisted
  have loaded := loadNodes_loaded here name false file
    { values := loadGlobalDefaultOptions env, seen := fun _ => false, dirty := false }
  have left := loaded.left rfl
  have seen := loaded.seen
  rw [if_neg Bool.false_ne_true] at left
  rw [Bool.false_or] at seen
  unfold load
  dsimp only
  rw [contentFor_foldl_setXmlValue here persisted, foldl_setXmlValue_written.values]
  dsimp only
  rw [left]
  cases content : contentFor env definition file with
  | none =>
    rw [content] at seen
    rw [if_pos (mem_filter.mpr ⟨mem_options here, by rw [seen]; rfl⟩)]
    rfl
  | some content' =>
    rw [content] at seen
    have absent : opt ∉ (options env).filter fun opt =>
        !(loadNodes env false file
          { values := loadGlobalDefaultOptions env, seen := fun _ => false, dirty := false }).1.seen
            opt := by
      intro member
      have unseen := (mem_filter.mp member).2
      rw [seen] at unseen
      cases unseen
    rw [if_neg absent]
    rfl

theorem load_consistent (plain : PlainStrings env (load env (env.format.storedNodes file))) :
    Consistent env (load env (env.format.storedNodes file)) := by
  have sound (opt : Nat) (definition : OptionDef Xml)
      (here : env.table.defs[opt]? = some definition) (name : definition.name ≠ []) :
      Sound env opt definition ((load env (env.format.storedNodes file)).values opt) := by
    rw [load_values _ here name]
    exact (sound_loadGlobalDefaultOptions here name).readValue (mem_of_getElem? here) _
  refine ⟨sound, ?_, fun _ _ => .inl ?_⟩
  · intro opt definition here persisted free _
    have name := name_of_persisted persisted
    rw [contentFor_storedNodes, contentFor_load _ here persisted]
    cases content : contentFor env definition (env.format.storedNodes file) with
    | none =>
      exact readValue_contentOf persisted free (sound opt definition here name)
        (plain opt definition here)
    | some found =>
      have twice : env.format.stored found = found := by
        rw [contentFor_storedNodes] at content
        obtain ⟨original, _, rfl⟩ := map_eq_some_iff.mp content
        cases original with
        | text text => exact congrArg SettingContent.text (env.format.value_value text)
        | xml => rfl
      rw [some_or, map_some, twice, load_values _ here name, content]
  · have original : (load env (env.format.storedNodes file)).file =
        env.format.storedNodes file := by
      rw [load]
      exact foldl_setXmlValue_written.file
    intro opt definition here persisted _ _
    rw [original, load_values _ here (name_of_persisted persisted)]

end Invariant

section Runs

variable {Xml : Type} {env : OptionsEnvironment Xml} {self : XmlOptions Xml}

theorem step_consistent {event : Event Xml} {next : XmlOptions Xml}
    (consistent : Consistent env self) (regular : event.Regular env self)
    (taken : step env self event = some next) : Consistent env next := by
  cases event with
  | setInt opt value =>
    cases taken
    exact setValue_consistent (fun _ _ => fromInt_fits) consistent
  | setString opt value =>
    cases taken
    exact setValue_consistent (fun _ _ => fromString_fits) consistent
  | setXml opt value =>
    cases taken
    exact setValue_consistent (fun _ _ => fromXml_fits) consistent
  | continueNotifyChanged =>
    cases taken
    exact continueNotifyChanged_consistent regular consistent
  | cleanup =>
    cases taken
    exact cleanup_consistent regular.2 consistent
  | save notify writing =>
    cases taken
    refine save_consistent (fun notified => ?_) consistent
    subst notified
    exact regular.1

theorem survives_of_current {options : XmlOptions Xml}
    (current : Current env options.file options.values fun _ => false) :
    Survives env options := by
  intro opt definition here persisted free
  rw [load_values _ here (name_of_persisted persisted)]
  exact current opt definition here persisted free rfl

/-- After a `Save` that reports success, a later start has the values of the options. -/
theorem saved_options_survive {file : List (SettingsNode Xml)}
    {trace : List (XmlOptions Xml × Event Xml)} {writing : Writing Xml}
    (plain : PlainStrings env (load env (env.format.storedNodes file)))
    (run : Run (step env) (load env (env.format.storedNodes file)) trace self)
    (regular : ∀ taken ∈ trace, taken.2.Regular env taken.1)
    (last : Event.Regular env self (.save true writing))
    (saved : (save env true writing self).2 = true)
    (normal : kioskMode env self ≠ 2) : Survives env (save env true writing self).1 := by
  have consistent : Consistent env self := run.invariant_of_forall (load_consistent file plain)
      (fun _ _ _ consistent regular taken => step_consistent consistent regular taken) regular
  have middle := continueNotifyChanged_consistent last.1 consistent
  have written : Written { self with changed := fun _ => false }
      (continueNotifyChanged env self) := continueNotifyChanged_written
  have mode : kioskMode env (continueNotifyChanged env self) ≠ 2 := by
    rw [kioskMode, written.values]
    exact normal
  have clean := @continueNotifyChanged_clean _ env self
  unfold save at saved ⊢
  dsimp only at saved ⊢
  rw [if_pos rfl] at saved ⊢
  have changed : (continueNotifyChanged env self).changed = fun _ => false := written.changed
  have lost : (continueNotifyChanged env self).lost = self.lost := written.lost
  generalize continueNotifyChanged env self = next at middle mode clean changed lost saved ⊢
  split
  case isTrue untouched =>
    rw [Bool.not_eq_true'] at untouched
    obtain ⟨before, unchanged⟩ := clean untouched
    -- Nothing is to be written, so the last writing was not one that failed
    have kept : self.lost = false := by
      by_contra failed
      rw [Bool.not_eq_false] at failed
      rcases last.2 failed with dirty | ⟨opt, definition, here, persisted, new⟩
      · rw [before] at dirty
        cases dirty
      · rw [unchanged opt definition here persisted] at new
        cases new
    rcases middle.file untouched (lost.trans kept) with current | mode' | left
    · rw [changed] at current
      exact survives_of_current current
    · exact absurd mode' mode
    · rw [changed] at left
      cases left
  case isFalse dirty =>
    rw [if_neg dirty] at saved
    have running : kioskMode env { next with dirty := false } ≠ 2 := mode
    rw [if_neg running] at saved ⊢
    cases writing with
    | written =>
      have current := middle.settings
      rw [changed] at current
      exact survives_of_current current
    | failed left => cases saved

end Runs

/-! A change that is lost after a `Save` that failed, and an option that is reset by the mark
of its element -/

section Lost

def kioskDefinition : OptionDef String where
  name := wide "Kiosk mode"
  default := wide "0"
  type := .number
  flags := { predefinedPriority := true }
  max := 2

def languageDefinition : OptionDef String where
  name := wide "Language Code"
  default := []
  type := .string
  max := 50

def tabDefinition : OptionDef String where
  name := wide "Tab data"
  default := []
  type := .xml
  flags := { sensitiveData := true }
  max := 10000000

def someDefinitions : List (OptionDef String) :=
  [kioskDefinition, languageDefinition, tabDefinition]

def plainSettings : SettingsXml String :=
  { XmlSite.plainPugixml with
    xmlText := id
    textXml := id
    loadString := toUtf8 }

theorem acceptInt_someDefinitions {definition : OptionDef String}
    (member : definition ∈ someDefinitions) {value taken : Int}
    (accepted : definition.acceptInt value = some taken) :
    taken = value ∧ 0 ≤ value ∧ value ≤ 10000000 := by
  have bounds : definition.min = 0 ∧ definition.max ≤ 10000000 ∧
      definition.flags.numericClamp = false ∧ definition.validateInt = some := by
    simp only [someDefinitions, mem_cons, not_mem_nil, or_false] at member
    rcases member with rfl | rfl | rfl
    · exact ⟨rfl, by decide, rfl, rfl⟩
    · exact ⟨rfl, by decide, rfl, rfl⟩
    · exact ⟨rfl, by decide, rfl, rfl⟩
  obtain ⟨least, most, unclamped, unvalidated⟩ := bounds
  rw [acceptInt, unvalidated, bind_fun_some, clamped, unclamped,
    least] at accepted
  split at accepted
  case isTrue => cases accepted
  case isFalse =>
    split at accepted
    case isTrue => cases accepted
    case isFalse =>
      cases accepted
      exact ⟨rfl, by omega, by omega⟩

theorem accept_someDefinitions {definition : OptionDef String}
    (member : definition ∈ someDefinitions) {value taken : Datum String}
    (accepted : definition.accept value = some taken) : taken = value := by
  have unvalidated : definition.validateString = some ∧ definition.validateXml = some := by
    simp only [someDefinitions, mem_cons, not_mem_nil, or_false] at member
    rcases member with rfl | rfl | rfl
    · exact ⟨rfl, rfl⟩
    · exact ⟨rfl, rfl⟩
    · exact ⟨rfl, rfl⟩
  cases value with
  | number value =>
    obtain ⟨number, found, rfl⟩ := map_eq_some_iff.mp accepted
    exact congrArg Datum.number (acceptInt_someDefinitions member found).1
  | text value =>
    obtain ⟨text, found, rfl⟩ := map_eq_some_iff.mp accepted
    rw [acceptString, unvalidated.1] at found
    split at found
    case isTrue => contradiction
    case isFalse => exact congrArg Datum.text (some.inj found).symm
  | xml value =>
    obtain ⟨children, found, rfl⟩ := map_eq_some_iff.mp accepted
    rw [unvalidated.2] at found
    exact congrArg Datum.xml (some.inj found).symm

def someOptions : OptionTable plainSettings where
  defs := someDefinitions
  kiosk := 0
  distinct := by
    intro i j first second here there same _
    have distinct : (someDefinitions.map name).Nodup := by decide +kernel
    obtain ⟨bound, _⟩ := List.getElem?_eq_some_iff.mp here
    apply (getElem?_inj (by simpa using bound) distinct).mp
    rw [getElem?_map, getElem?_map, here, there]
    exact congrArg some same
  kioskDef := ⟨_, rfl, rfl, by decide, rfl⟩
  idempotent := by
    intro definition member value taken accepted
    have same := accept_someDefinitions member accepted
    rw [same] at accepted ⊢
    exact accepted
  ints := by
    intro definition member value taken accepted
    obtain ⟨rfl, least, most⟩ := acceptInt_someDefinitions member accepted
    unfold IsInt intMin
    omega
  defaultNumbers := by
    intro definition member numeric
    simp only [someDefinitions, mem_cons, not_mem_nil, or_false] at member
    rcases member with rfl | rfl | rfl
    · exact ⟨⟨by decide, by decide⟩, by decide +kernel⟩
    · cases numeric
    · cases numeric
  defaults := fun definition member taken accepted => accept_someDefinitions member accepted
  sensitiveDefaults := by
    intro definition member sensitive
    simp only [someDefinitions, mem_cons, not_mem_nil, or_false] at member
    rcases member with rfl | rfl | rfl
    · cases sensitive
    · cases sensitive
    · rfl

def someEnvironment : OptionsEnvironment String where
  format := plainSettings
  table := someOptions
  platformName := wide "unix"
  productName := []
  globalDefaults := []

theorem not_survives {self : XmlOptions String}
    (differs : ((load someEnvironment self.file).values 1).str ≠ (self.values 1).str) :
    ¬Survives someEnvironment self := by
  intro survives
  have same := survives 1 languageDefinition rfl (by decide) rfl
  exact differs (Datum.text.inj same)

/-- Whether a `Save` reports success although the language is another after a restart -/
def loses (self : XmlOptions String) : Bool :=
  let saved := save someEnvironment true .written self
  saved.2 && kioskMode someEnvironment self ≠ 2 &&
    ((load someEnvironment saved.1.file).values 1).str ≠ (saved.1.values 1).str

def Loses (file : List (SettingsNode String)) : Prop :=
  ∃ trace self, Run (step someEnvironment) (load someEnvironment file) trace self ∧
    (save someEnvironment true .written self).2 = true ∧ kioskMode someEnvironment self ≠ 2 ∧
      ¬Survives someEnvironment (save someEnvironment true .written self).1

theorem loses_of_execute {file : List (SettingsNode String)} {events : List (Event String)}
    (passed : (execute (step someEnvironment) (load someEnvironment file) events).any
      (fun result => loses result.2) = true) : Loses file := by
  obtain ⟨trace, self, run, lost⟩ :=
    @exists_run_of_execute _ _ _ _ _ (fun _ self => loses self) passed
  simp only [loses, Bool.and_eq_true, decide_eq_true_eq] at lost
  exact ⟨trace, self, run, lost.1.1, lost.1.2, not_survives lost.2⟩

def markedLanguage : List (SettingsNode String) :=
  [.setting { name := wide "Language Code", sensitive := wide "1", content := .text "de" }]

theorem changes_lost : Loses [] ∧ Loses markedLanguage := by
  have forgotten : (execute (step someEnvironment) (load someEnvironment [])
      [.setString 1 (wide "fr"), .save true (.failed [])]).any
        (fun result => loses result.2) = true := by decide +kernel
  have removed : (execute (step someEnvironment) (load someEnvironment markedLanguage)
      [.cleanup]).any (fun result => loses result.2) = true := by decide +kernel
  exact ⟨loses_of_execute forgotten, loses_of_execute removed⟩

def languageSet : XmlOptions String :=
  setString someEnvironment 1 (wide "fr") (load someEnvironment [])

def saveFailed : XmlOptions String :=
  (save someEnvironment true (.failed []) languageSet).1

def languageSetAgain : XmlOptions String :=
  setString someEnvironment 1 (wide "de") saveFailed

theorem plainStrings_of_language {self : XmlOptions String} (text : String)
    (language : (self.values 1).str = wide text) (clean : 0 ∉ wide text)
    (visible : text = "" ∨ blankText text = false) : PlainStrings someEnvironment self := by
  intro opt definition here type
  match opt, here with
  | 0, here =>
    cases here
    cases type
  | 1, _ =>
    rw [language]
    refine ⟨⟨text, rfl⟩, clean, ?_⟩
    rw [XmlSite.wide_eq_nil, XmlSite.toUtf8_wide]
    exact visible
  | 2, here =>
    cases here
    cases type
  | _ + 3, here => cases here

theorem later_change_kept :
    Survives someEnvironment (save someEnvironment true .written languageSetAgain).1 ∧
      ((save someEnvironment true .written languageSetAgain).1.values 1).str = wide "de" := by
  have empty : PlainStrings someEnvironment (load someEnvironment []) :=
    plainStrings_of_language "" (by decide +kernel) (by decide) (.inl rfl)
  have french : PlainStrings someEnvironment languageSet :=
    plainStrings_of_language "fr" (by decide +kernel) (by decide) (.inr (by decide))
  have failed : PlainStrings someEnvironment saveFailed :=
    plainStrings_of_language "fr" (by decide +kernel) (by decide) (.inr (by decide))
  have german : PlainStrings someEnvironment languageSetAgain :=
    plainStrings_of_language "de" (by decide +kernel) (by decide) (.inr (by decide))
  have run : Run (step someEnvironment)
      (load someEnvironment (someEnvironment.format.storedNodes []))
      [(load someEnvironment [], .setString 1 (wide "fr")),
        (languageSet, .save true (.failed [])),
        (saveFailed, .setString 1 (wide "de"))] languageSetAgain :=
    .cons rfl (.cons rfl (.cons rfl .refl))
  refine ⟨@saved_options_survive _ _ _ [] _ _ empty run ?_ ?_ (by decide +kernel)
    (by decide +kernel), by decide +kernel⟩
  · intro taken member
    simp only [mem_cons, not_mem_nil, or_false] at member
    rcases member with rfl | rfl | rfl
    · exact empty
    · exact ⟨french, fun lost => absurd lost (by decide +kernel)⟩
    · exact failed
  · exact ⟨german, fun _ => .inr ⟨1, languageDefinition, rfl, by decide, by decide +kernel⟩⟩

end Lost

end XmlOptions

end FileZilla
