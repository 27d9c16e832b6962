import FileZilla.CommonUi.OptionsRestart

namespace FileZilla

namespace XmlOptions

open OptionDef Function List

/-! What the options hold in the course of a run, one option at a time. -/

variable {Xml : Type} {env : OptionsEnvironment Xml} {definition : OptionDef Xml} {opt : Nat}
  {self next : XmlOptions Xml} {event : Event Xml}

/-- The value that an event asks an option to take -/
def received (definition : OptionDef Xml) (opt : Nat) : Event Xml → Option (Datum Xml)
  | .setInt index value => if index = opt then definition.fromInt value else none
  | .setString index value => if index = opt then definition.fromString value else none
  | .setXml index value => if index = opt then definition.fromXml value else none
  | _ => none

theorem received_fits {value : Datum Xml} (asked : received definition opt event = some value) :
    definition.Fits value := by
  cases event with
  | setInt => exact fromInt_fits (of_guard asked).2
  | setString => exact fromString_fits (of_guard asked).2
  | setXml => exact fromXml_fits (of_guard asked).2
  | continueNotifyChanged => cases asked
  | cleanup => cases asked
  | save => cases asked

theorem setValue_value (here : env.table.defs[opt]? = some definition) (index : Nat)
    (convert : OptionDef Xml → Option (Datum Xml)) :
    (setValue env index convert self).values opt =
      ((if index = opt then convert definition else none).map fun value =>
        (definition.set (self.values opt) value false).1).getD (self.values opt) := by
  by_cases same : index = opt
  · subst same
    rw [setValue, here, if_pos rfl]
    dsimp only
    cases convert definition with
    | none => rfl
    | some value => exact update_self ..
  · rw [setValue, if_neg same]
    split
    case h_1 => rfl
    case h_2 =>
      split
      case h_1 => rfl
      case h_2 => exact update_of_ne (Ne.symm same) ..

theorem save_values {notify : Bool} {writing : Writing Xml} :
    (save env notify writing self).1.values = self.values := by
  have middle : (if notify then continueNotifyChanged env self else self).values =
      self.values := by
    split
    case isTrue => exact continueNotifyChanged_written.values
    case isFalse => rfl
  rw [← middle, save]
  generalize (if notify then continueNotifyChanged env self else self) = reached
  dsimp only
  split
  case isTrue => rfl
  case isFalse =>
    split
    case isTrue => rfl
    case isFalse => cases writing <;> rfl

theorem step_value (here : env.table.defs[opt]? = some definition)
    (taken : step env self event = some next) :
    next.values opt = ((received definition opt event).map fun value =>
        (definition.set (self.values opt) value false).1).getD (self.values opt) ∨
      (definition.flags.sensitiveData = true ∧ next.values opt =
        { defaultValues env opt with predefined := (self.values opt).predefined }) := by
  cases event with
  | setInt index => cases taken; exact .inl (setValue_value here index _)
  | setString index => cases taken; exact .inl (setValue_value here index _)
  | setXml index => cases taken; exact .inl (setValue_value here index _)
  | continueNotifyChanged =>
    cases taken
    exact .inl (congrFun continueNotifyChanged_written.values opt)
  | save => cases taken; exact .inl (congrFun save_values opt)
  | cleanup =>
    cases taken
    cases sensitive : definition.flags.sensitiveData with
    | true => exact .inr ⟨rfl, if_pos (by rw [isSensitive_of_def here, sensitive])⟩
    | false => exact .inl (if_neg (by rw [isSensitive_of_def here, sensitive]; decide))

variable {file : List (SettingsNode Xml)} {trace : List (XmlOptions Xml × Event Xml)}

/-- Whatever is in the settings file and whatever is set, an option has a value that its own
checks take as it is, or its default. -/
theorem options_sound (here : env.table.defs[opt]? = some definition)
    (name : definition.name ≠ []) (run : Run (step env) (load env file) trace self) :
    Sound env opt definition (self.values opt) := by
  have member : definition ∈ env.table.defs := mem_of_getElem? here
  induction run with
  | refl =>
    rw [load_values _ here name]
    exact (sound_loadGlobalDefaultOptions here name).readValue member _
  | @step _ _ _ event _ taken sound =>
    rcases step_value here taken with value | ⟨sensitive, value⟩
    · rw [value]
      cases asked : received definition opt event with
      | none => exact sound
      | some value => exact sound.set member (received_fits asked)
    · rw [value]
      exact sound_default here sensitive sound

/-- An option that is left to the user has the last value that was taken. -/
theorem free_option_follows (here : env.table.defs[opt]? = some definition)
    (persisted : definition.isPersisted = true) (plain : definition.flags.sensitiveData = false)
    (free : definition.isHeld ((load env file).values opt) = false)
    (run : Run (step env) (load env file) trace self) :
    definition.datum (self.values opt) =
      (trace.filterMap fun taken =>
          (received definition opt taken.2).bind definition.accept).getLast?.getD
        (definition.datum ((load env file).values opt)) := by
  suffices definition.isHeld (self.values opt) = false ∧ _ from this.2
  induction run with
  | refl => exact ⟨free, rfl⟩
  | @step trace before after event _ taken ih =>
    obtain ⟨loose, datum⟩ := ih
    rw [filterMap_append]
    rcases step_value here taken with value | ⟨sensitive, _⟩
    · rw [value]
      cases asked : received definition opt event with
      | none => exact ⟨loose, by simp [asked, datum]⟩
      | some value =>
        refine ⟨isHeld_set.trans loose, ?_⟩
        rw [Option.map_some, Option.getD_some,
          datum_set (received_fits asked) (refuses_of_persisted persisted loose), datum]
        cases accepted : definition.accept value <;> simp [asked, accepted]
    · rw [plain] at sensitive
      cases sensitive

theorem languageRun : Run (step someEnvironment) (load someEnvironment [])
    [(load someEnvironment [], .setString 1 (wide "fr"))] languageSet :=
  .cons rfl .refl

theorem options_sound_language :
    Sound someEnvironment 1 languageDefinition (languageSet.values 1) :=
  options_sound rfl (by decide) languageRun

theorem free_option_follows_language : (languageSet.values 1).str = wide "fr" := by
  have here : someEnvironment.table.defs[1]? = some languageDefinition := rfl
  exact Datum.text.inj (free_option_follows here rfl rfl rfl languageRun)

def kioskEnvironment : OptionsEnvironment String :=
  { someEnvironment with
    globalDefaults := [.setting { name := kioskDefinition.name, content := .text "1" }] }

end XmlOptions

end FileZilla
