import FileZilla.CommonUi.OptionValues

namespace FileZilla

open List Option Function

namespace XmlOptions

section Elements

variable {Xml : Type} {env : OptionsEnvironment Xml} {definition other : OptionDef Xml}
  {opt : Nat} {nodes : List (SettingsNode Xml)}

def contentFor (env : OptionsEnvironment Xml) (definition : OptionDef Xml)
    (nodes : List (SettingsNode Xml)) : Option (SettingContent Xml) :=
  nodes.findSome? fun node =>
    match node with
    | .setting setting => if isFor env definition setting then some setting.content else none
    | .other => none

theorem contentFor_cons_other :
    contentFor env definition (.other :: nodes) = contentFor env definition nodes :=
  rfl

variable {setting : Setting Xml}

theorem contentFor_cons_of_isFor (named : isFor env definition setting = true) :
    contentFor env definition (.setting setting :: nodes) = some setting.content := by
  rw [contentFor, findSome?_cons]
  dsimp only
  rw [if_pos named]

theorem contentFor_cons_of_not (unnamed : isFor env definition setting = false) :
    contentFor env definition (.setting setting :: nodes) = contentFor env definition nodes := by
  rw [contentFor, findSome?_cons]
  dsimp only
  rw [if_neg (by rw [unnamed]; exact Bool.false_ne_true)]
  rfl

theorem contentFor_append {more : List (SettingsNode Xml)} :
    contentFor env definition (nodes ++ more) =
      (contentFor env definition nodes).or (contentFor env definition more) :=
  findSome?_append

theorem isFor_name (named : isFor env definition setting = true) :
    setting.name = definition.name := by
  unfold isFor at named
  simp only [Bool.and_eq_true, decide_eq_true_eq] at named
  exact named.1.1

theorem optionOf_eq_some (found : optionOf env setting = some (opt, definition)) :
    env.table.defs[opt]? = some definition ∧ isFor env definition setting = true := by
  unfold optionOf at found
  split at found
  case h_1 => cases found
  case h_2 index named =>
    split at found
    case h_1 => cases found
    case h_2 candidate here =>
      obtain ⟨matching, found⟩ := of_guard found
      cases found
      exact ⟨here, matching⟩

theorem optionOf_of_isFor (here : env.table.defs[opt]? = some definition)
    (name : definition.name ≠ []) (named : isFor env definition setting = true) :
    optionOf env setting = some (opt, definition) := by
  have same := isFor_name named
  have member : definition ∈ env.table.defs := mem_of_getElem? here
  have index : nameToOption env setting.name = some opt := by
    rw [nameToOption, if_neg (by rw [same]; exact name)]
    cases search : env.table.defs.findIdx? fun definition => definition.name = setting.name with
    | none =>
      have absent := findIdx?_eq_none_iff.mp search definition member
      simp [same] at absent
    | some first =>
      obtain ⟨bound, matching, _⟩ := findIdx?_eq_some_iff_getElem.mp search
      have firstSame : env.table.defs[first].name = setting.name := by simpa using matching
      have unique := env.table.distinct first opt _ definition (getElem?_eq_getElem bound)
        here (firstSame.trans same) (by rw [firstSame, same]; exact name)
      rw [unique]
  rw [optionOf, index]
  dsimp only
  rw [here]
  exact if_pos named

theorem isFor_newSetting (val : OptionValue Xml) :
    isFor env definition (newSetting env definition val) = true := by
  unfold isFor newSetting
  cases definition.flags.platform <;> cases definition.flags.product <;> simp

theorem isFor_of_name_ne (apart : setting.name ≠ definition.name) :
    isFor env definition setting = false := by
  unfold isFor
  rw [decide_eq_false apart]
  rfl

theorem contentFor_filter :
    contentFor env definition
      (nodes.filter fun node => !SettingsNode.isFor env definition node) = none := by
  induction nodes with
  | nil => rfl
  | cons node rest ih =>
    cases node with
    | other =>
      rw [filter_cons_of_pos rfl, contentFor_cons_other]
      exact ih
    | setting setting =>
      cases named : isFor env definition setting with
      | true =>
        rw [filter_cons_of_neg (by simp [SettingsNode.isFor, named])]
        exact ih
      | false =>
        rw [filter_cons_of_pos (by simp [SettingsNode.isFor, named]),
          contentFor_cons_of_not named]
        exact ih

theorem contentFor_filter_of {keep : SettingsNode Xml → Bool}
    (kept : ∀ setting, .setting setting ∈ nodes → isFor env definition setting = true →
      keep (.setting setting) = true) :
    contentFor env definition (nodes.filter keep) = contentFor env definition nodes := by
  induction nodes with
  | nil => rfl
  | cons node rest ih =>
    have later := ih fun setting member => kept setting (mem_cons_of_mem _ member)
    cases node with
    | other =>
      rw [contentFor_cons_other, ← later, filter_cons]
      split
      case isTrue => exact contentFor_cons_other
      case isFalse => rfl
    | setting setting =>
      cases named : isFor env definition setting with
      | true =>
        rw [filter_cons_of_pos (kept setting mem_cons_self named),
          contentFor_cons_of_isFor named, contentFor_cons_of_isFor named]
      | false =>
        rw [contentFor_cons_of_not named, ← later, filter_cons]
        split
        case isTrue => exact contentFor_cons_of_not named
        case isFalse => rfl

theorem contentFor_storedNodes :
    contentFor env definition (env.format.storedNodes nodes) =
      (contentFor env definition nodes).map env.format.stored := by
  induction nodes with
  | nil => rfl
  | cons node rest ih =>
    cases node with
    | other => exact ih
    | setting setting =>
      cases named : isFor env definition setting with
      | true =>
        rw [contentFor_cons_of_isFor named]
        exact contentFor_cons_of_isFor named
      | false =>
        rw [contentFor_cons_of_not named, ← ih]
        exact contentFor_cons_of_not named

end Elements

section Loading

variable {Xml : Type} {env : OptionsEnvironment Xml} {definition : OptionDef Xml} {opt : Nat}

def readValue (env : OptionsEnvironment Xml) (definition : OptionDef Xml) (predefined : Bool)
    (val : OptionValue Xml) : Option (SettingContent Xml) → OptionValue Xml
  | none => val
  | some content => (definition.set val (definition.fromContent env.format content) predefined).1

/-- What the loop over the settings does for one option -/
structure Loaded (env : OptionsEnvironment Xml) (definition : OptionDef Xml) (opt : Nat)
    (predefined : Bool) (nodes : List (SettingsNode Xml)) (before after : Loading Xml)
    (left : List (SettingsNode Xml)) : Prop where
  value : after.values opt = readValue env definition predefined (before.values opt)
      (if before.seen opt then none else contentFor env definition nodes)
  seen : after.seen opt = (before.seen opt || (contentFor env definition nodes).isSome)
  left : predefined = false → contentFor env definition left =
    if before.seen opt then none else contentFor env definition nodes

theorem Loaded.skip {predefined : Bool} {rest left more : List (SettingsNode Xml)}
    {setting : Setting Xml} {before between after : Loading Xml}
    (later : Loaded env definition opt predefined rest between after left)
    (unnamed : isFor env definition setting = false)
    (sameValue : between.values opt = before.values opt)
    (sameSeen : between.seen opt = before.seen opt)
    (kept : contentFor env definition more = contentFor env definition left) :
    Loaded env definition opt predefined (.setting setting :: rest) before after more := by
  refine ⟨?_, ?_, fun user => ?_⟩
  · rw [contentFor_cons_of_not unnamed, ← sameValue, ← sameSeen]
    exact later.value
  · rw [contentFor_cons_of_not unnamed, ← sameSeen]
    exact later.seen
  · rw [contentFor_cons_of_not unnamed, ← sameSeen, kept]
    exact later.left user

theorem Loaded.again {predefined : Bool} {rest left more : List (SettingsNode Xml)}
    {setting : Setting Xml} {before between after : Loading Xml}
    (later : Loaded env definition opt predefined rest between after left)
    (seen : before.seen opt = true) (stillSeen : between.seen opt = true)
    (sameValue : between.values opt = before.values opt) (kept : predefined = false →
      contentFor env definition more = contentFor env definition left) :
    Loaded env definition opt predefined (.setting setting :: rest) before after more := by
  obtain ⟨value, seenAfter, without⟩ := later
  rw [if_pos stillSeen] at value without
  rw [stillSeen, Bool.true_or] at seenAfter
  refine ⟨?_, ?_, fun user => ?_⟩
  · rw [if_pos seen, ← sameValue]
    exact value
  · rw [seen, Bool.true_or]
    exact seenAfter
  · rw [if_pos seen, kept user]
    exact without user

theorem loadNodes_loaded (here : env.table.defs[opt]? = some definition)
    (name : definition.name ≠ []) (predefined : Bool) (nodes : List (SettingsNode Xml))
    (loading : Loading Xml) :
    Loaded env definition opt predefined nodes loading (loadNodes env predefined nodes loading).1
      (loadNodes env predefined nodes loading).2 := by
  induction nodes generalizing loading with
  | nil =>
    refine ⟨?_, ?_, fun _ => ?_⟩
    · cases loading.seen opt <;> rfl
    · rw [contentFor, findSome?_nil, isSome_none, Bool.or_false]
      rfl
    · cases loading.seen opt <;> rfl
  | cons node rest ih =>
    cases node with
    | other =>
      have later := ih loading
      exact ⟨later.value, later.seen, later.left⟩
    | setting setting =>
      rw [loadNodes]
      cases found : optionOf env setting with
      | none =>
        have unnamed : isFor env definition setting = false := by
          by_contra named
          rw [Bool.not_eq_false] at named
          rw [optionOf_of_isFor here name named] at found
          cases found
        exact (ih loading).skip unnamed rfl rfl (contentFor_cons_of_not unnamed)
      | some result =>
        obtain ⟨index, candidate⟩ := result
        obtain ⟨there, named⟩ := optionOf_eq_some found
        dsimp only
        by_cases same : index = opt
        · subst same
          have equal : candidate = definition := some.inj (there.symm.trans here)
          subst equal
          cases seen : loading.seen index with
          | true =>
            rw [if_pos rfl]
            cases predefined with
            | true =>
              exact (ih loading).again seen seen rfl fun user => by cases user
            | false =>
              rw [if_neg Bool.false_ne_true]
              have later := ih { loading with dirty := true }
              exact later.again seen seen rfl fun _ => rfl
          | false =>
            rw [if_neg Bool.false_ne_true]
            obtain ⟨value, seenAfter, _⟩ := ih
              { loading with
                seen := update loading.seen index true
                values := update loading.values index
                  (candidate.set (loading.values index)
                    (candidate.fromContent env.format setting.content) predefined).1 }
            dsimp only at value seenAfter
            rw [if_pos (update_self ..), update_self] at value
            rw [update_self, Bool.true_or] at seenAfter
            refine ⟨?_, ?_, fun _ => ?_⟩
            · rw [contentFor_cons_of_isFor named, if_neg (by rw [seen]; exact Bool.false_ne_true)]
              exact value
            · rw [contentFor_cons_of_isFor named, isSome_some, Bool.or_true]
              exact seenAfter
            · rw [contentFor_cons_of_isFor named, contentFor_cons_of_isFor named,
                if_neg (by rw [seen]; exact Bool.false_ne_true)]
        · have unnamed : isFor env definition setting = false := by
            by_contra matching
            rw [Bool.not_eq_false] at matching
            rw [optionOf_of_isFor here name matching] at found
            exact same (congrArg Prod.fst (some.inj found)).symm
          split
          case isTrue =>
            split
            case isTrue => exact (ih loading).skip unnamed rfl rfl (contentFor_cons_of_not unnamed)
            case isFalse => exact (ih { loading with dirty := true }).skip unnamed rfl rfl rfl
          case isFalse =>
            exact (ih _).skip unnamed (update_of_ne (Ne.symm same) _ _)
              (update_of_ne (Ne.symm same) _ _) (contentFor_cons_of_not unnamed)

end Loading

section Writing

variable {Xml : Type} {env : OptionsEnvironment Xml} {definition : OptionDef Xml} {opt : Nat}
  {self : XmlOptions Xml}

structure Written (before after : XmlOptions Xml) : Prop where
  values : after.values = before.values
  changed : after.changed = before.changed
  file : after.file = before.file
  lost : after.lost = before.lost

theorem Written.trans {first second third : XmlOptions Xml} (earlier : Written first second)
    (later : Written second third) : Written first third :=
  ⟨later.values.trans earlier.values, later.changed.trans earlier.changed,
    later.file.trans earlier.file, later.lost.trans earlier.lost⟩

variable {clean : Bool}

theorem setXmlValue_written : Written self (setXmlValue env opt clean self) := by
  unfold setXmlValue
  split
  case h_1 => exact ⟨rfl, rfl, rfl, rfl⟩
  case h_2 =>
    split
    case isTrue => exact ⟨rfl, rfl, rfl, rfl⟩
    case isFalse => exact ⟨rfl, rfl, rfl, rfl⟩

theorem setXmlValue_of_persisted (here : env.table.defs[opt]? = some definition)
    (persisted : definition.isPersisted = true) :
    setXmlValue env opt clean self =
      { self with
        settings := (if clean then
            self.settings.filter fun node => !SettingsNode.isFor env definition node
          else self.settings) ++
            [.setting (newSetting env definition (self.values opt))]
        dirty := true } := by
  unfold setXmlValue
  rw [here]
  dsimp only
  rw [persisted, if_neg (by decide)]

theorem contentFor_setXmlValue (here : env.table.defs[opt]? = some definition)
    (persisted : definition.isPersisted = true) :
    contentFor env definition (setXmlValue env opt clean self).settings =
      (if clean then none else contentFor env definition self.settings).or
        (some (contentOf definition (self.values opt))) := by
  rw [setXmlValue_of_persisted here persisted]
  dsimp only
  rw [contentFor_append, contentFor_cons_of_isFor (isFor_newSetting _)]
  cases clean with
  | true =>
    rw [if_pos rfl, if_pos rfl, contentFor_filter]
    rfl
  | false =>
    rw [if_neg Bool.false_ne_true, if_neg Bool.false_ne_true]
    rfl

theorem name_of_persisted (persisted : definition.isPersisted = true) : definition.name ≠ [] := by
  unfold OptionDef.isPersisted at persisted
  simp only [Bool.and_eq_true, decide_eq_true_eq] at persisted
  exact persisted.2

theorem contentFor_setXmlValue_of_ne {index : Nat} (here : env.table.defs[opt]? = some definition)
    (name : definition.name ≠ []) (apart : index ≠ opt) :
    contentFor env definition (setXmlValue env index clean self).settings =
      contentFor env definition self.settings := by
  unfold setXmlValue
  split
  case h_1 => rfl
  case h_2 other there =>
    split
    case isTrue => rfl
    case isFalse =>
      have names : other.name ≠ definition.name := by
        intro same
        exact apart (env.table.distinct index opt other definition there here same
          (by rw [same]; exact name))
      dsimp only
      have unnamed : isFor env definition (newSetting env other (self.values index)) = false :=
        isFor_of_name_ne names
      rw [contentFor_append, contentFor_cons_of_not unnamed]
      have nothing : contentFor env definition ([] : List (SettingsNode Xml)) = none := rfl
      rw [nothing, or_none]
      split
      case isTrue =>
        apply contentFor_filter_of
        intro setting _ named
        have unlike : isFor env other setting = false :=
          isFor_of_name_ne (by rw [isFor_name named]; exact names.symm)
        rw [SettingsNode.isFor, unlike]
        rfl
      case isFalse => rfl

variable {written : List Nat}

theorem foldl_setXmlValue_written :
    Written self (written.foldl (fun self opt => setXmlValue env opt clean self) self) := by
  induction written generalizing self with
  | nil => exact ⟨rfl, rfl, rfl, rfl⟩
  | cons first rest ih => exact setXmlValue_written.trans ih

theorem contentFor_foldl_setXmlValue (here : env.table.defs[opt]? = some definition)
    (persisted : definition.isPersisted = true) :
    contentFor env definition
        (written.foldl (fun self opt => setXmlValue env opt clean self) self).settings =
      if opt ∈ written then
        (if clean then none else contentFor env definition self.settings).or
          (some (contentOf definition (self.values opt)))
      else contentFor env definition self.settings := by
  induction written generalizing self with
  | nil => rw [if_neg not_mem_nil]; rfl
  | cons first rest ih =>
    have one : Written self (setXmlValue env first clean self) := setXmlValue_written
    rw [foldl_cons, ih, one.values]
    by_cases same : first = opt
    · subst same
      rw [if_pos mem_cons_self, contentFor_setXmlValue here persisted]
      split
      case isTrue =>
        cases clean with
        | true => rfl
        | false =>
          rw [if_neg Bool.false_ne_true]
          cases contentFor env definition self.settings <;> rfl
      case isFalse => rfl
    · rw [contentFor_setXmlValue_of_ne here (name_of_persisted persisted) same]
      have member : opt ∈ first :: rest ↔ opt ∈ rest := by
        rw [mem_cons]
        exact or_iff_right (Ne.symm same)
      simp only [member]

theorem foldl_setXmlValue_clean
    (untouched : (written.foldl (fun self opt => setXmlValue env opt clean self) self).dirty =
      false) :
    self.dirty = false ∧ ∀ opt ∈ written, ∀ definition, env.table.defs[opt]? = some definition →
      definition.isPersisted = false := by
  induction written generalizing self with
  | nil => exact ⟨untouched, fun _ member => by cases member⟩
  | cons first rest ih =>
    obtain ⟨before, others⟩ := ih untouched
    change (setXmlValue env first clean self).dirty = false at before
    have kept : ∀ definition, env.table.defs[first]? = some definition →
        definition.isPersisted = false := by
      intro definition here
      by_contra persisted
      rw [Bool.not_eq_false] at persisted
      rw [setXmlValue_of_persisted here persisted] at before
      cases before
    refine ⟨?_, fun opt member => ?_⟩
    · unfold setXmlValue at before
      split at before
      case h_1 => exact before
      case h_2 definition here =>
        rw [kept definition here, if_pos (by decide)] at before
        exact before
    · rcases mem_cons.mp member with same | later
      · rw [same]
        exact kept
      · exact others opt later

end Writing

end XmlOptions

end FileZilla
