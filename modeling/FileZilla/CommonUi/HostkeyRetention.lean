import FileZilla.CommonUi.HostkeyConsent

namespace FileZilla

open Bool Function Prod

namespace HostkeyStore

/-! What a store remembers that alone changes its file: the table is loaded again while the time of
the file's last modification is not known. -/

/-- The file may be `present` without there being a document in it that can be read. -/
structure Process where
  store : Store := {}
  present : Bool := false
  known : Bool := false

open Store

structure Input where
  call : Call
  kiosk : Bool := false
  saved : Bool := true

namespace Process

def loading (self : Process) : Loading :=
  if self.known then .unmodified else if self.store.file.isSome then .loaded else .failed

def loaded (self : Process) : Process :=
  { self with
    store := self.store.load self.loading
    known := self.known || self.store.file.isSome }

variable (lowered : WString → List UInt8)

def call (self : Process) (input : Input) : Call :=
  { input.call with
    first := self.loading
    second := self.loaded.loading
    writes := !input.kiosk && input.saved }

def verdict (self : Process) (input : Input) : Verdict :=
  (self.store.isTrusted lowered (self.call input)).1

def saves (self : Process) (input : Input) : Bool :=
  match self.verdict lowered input with
  | .silently => (self.loaded.store.hostData (input.call.place lowered)).any fun (_, entry) =>
      getInsecureAlgorithms input.call.info ≠ entry.allowedInsecureAlgorithms
  | .asked _ true => input.call.answer.remember
  | _ => false

/-- What becomes of the file and its time if `Save` has been called -/
def noted (self : Process) (saves : Bool) (input : Input) (store : Store) : Process :=
  if saves && !input.kiosk then
    { store, present := self.present || input.saved, known := self.present || input.saved }
  else { self with store }

def next (self : Process) (input : Input) : Process :=
  self.loaded.noted (self.saves lowered input) input
    (self.store.isTrusted lowered (self.call input)).2

def step (self : Process) (input : Input) : Option Process :=
  some (self.next lowered input)

def data (self : Process) (place : Place) : Option Entry :=
  (self.loaded.store.hostData place).map Prod.snd

structure Valid (process : Process) : Prop where
  known : process.known = true → process.present = true
  file : process.store.file.isSome = true → process.present = true

/-- There is nothing to load but the empty table. -/
def Settled (self : Process) : Prop :=
  self.known = true ∨ self.store.file = none

def view (self : Process) (place : Place) : Option Entry :=
  (self.store.sessionTrustedKeys place).or
    (if self.known then self.store.trustedKeys place else none)

variable {self : Process} {lowered}

theorem hostData_map (store : Store) (place : Place) :
    (store.hostData place).map Prod.snd =
      (store.sessionTrustedKeys place).or (store.trustedKeys place) := by
  rw [hostData]
  split
  case h_1 there => simp [there]
  case h_2 absent => simp [absent, comp_def]

theorem loaded_settled (self : Process) :
    self.loaded.Settled ∧
      (self.loaded.known = false → self.loaded.store.trustedKeys = fun _ => none) ∧
      self.loaded.store.file = self.store.file := by
  rw [Settled, loaded, loading]
  cases self.known <;> cases there : self.store.file <;> simp [load, there]

theorem loaded_again (self : Process) :
    self.loaded.store.load self.loaded.loading = self.loaded.store := by
  rw [loaded, loading, loading]
  cases self.known <;> cases there : self.store.file <;> simp [load, there]

theorem known_of_found {place : Place} {entry : Entry}
    (found : self.loaded.store.hostData place = some (false, entry)) :
    self.loaded.known = true := by
  obtain ⟨_, empty, _⟩ := self.loaded_settled
  by_contra unknown
  rw [hostData, empty (eq_false_iff.mpr unknown)] at found
  split at found <;> cases found

theorem data_eq_loaded_view : self.data = self.loaded.view := by
  obtain ⟨_, empty, _⟩ := self.loaded_settled
  funext place
  rw [data, view, hostData_map]
  cases known : self.loaded.known with
  | true => rfl
  | false =>
    rw [empty known]
    rfl

theorem data_eq_view (settled : self.Settled) : self.data = self.view := by
  funext place
  rw [data, view, hostData_map, loaded, loading]
  cases known : self.known with
  | true => rfl
  | false =>
    have absent : self.store.file = none := settled.resolve_left (by simp [known])
    simp [load, absent]

theorem loaded_valid (valid : self.Valid) : self.loaded.Valid := by
  have file := self.loaded_settled.2.2
  refine ⟨fun known => ?_, fun there => valid.file (file ▸ there)⟩
  rcases or_eq_true_iff.mp known with known | readable
  · exact valid.known known
  · exact valid.file readable

variable {saves : Bool} {input : Input} {store : Store}

theorem noted_valid (valid : self.Valid) (settled : self.Settled)
    (file : store.file = self.store.file ∨
      (saves && !input.kiosk) = true ∧ input.saved = true) :
    (self.noted saves input store).Valid ∧ (self.noted saves input store).Settled ∧
      (self.known = true → (self.noted saves input store).known = true) := by
  rw [noted]
  split
  case isTrue noting =>
    refine ⟨⟨id, fun there => ?_⟩, ?_, fun known => ?_⟩
    · rcases file with same | ⟨_, saved⟩
      · exact or_eq_true_iff.mpr (.inl (valid.file (same ▸ there)))
      · exact or_eq_true_iff.mpr (.inr saved)
    · rcases file with same | ⟨_, saved⟩
      · cases present : self.present with
        | true => exact .inl rfl
        | false =>
          refine .inr (Option.not_isSome_iff_eq_none.mp fun there => ?_)
          exact false_ne_true (present.symm.trans (valid.file (same ▸ there)))
      · exact .inl (or_eq_true_iff.mpr (.inr saved))
    · exact or_eq_true_iff.mpr (.inl (valid.known known))
  case isFalse quiet =>
    have same := file.resolve_right fun noting => quiet noting.1
    exact ⟨⟨valid.known, fun there => valid.file (same ▸ there)⟩,
      settled.imp_right same.trans, id⟩

/-- What is in the store for one host after a change -/
structure Changed (before after : Store) (place : Place) (session : Bool) (entry : Entry) :
    Prop where
  elsewhere : ∀ other, other ≠ place →
    after.sessionTrustedKeys other = before.sessionTrustedKeys other ∧
      after.trustedKeys other = before.trustedKeys other
  here : after.hostData place = some (session, entry)

theorem noted_data (valid : self.Valid) (settled : self.Settled)
    (empty : self.known = false → self.store.trustedKeys = fun _ => none)
    (file : store.file = self.store.file ∨
      (saves && !input.kiosk) = true ∧ input.saved = true)
    {place : Place} {session : Bool} {entry : Entry}
    (changed : Changed self.store store place session entry) :
    (∀ other, other ≠ place → (self.noted saves input store).data other = self.view other) ∧
      (session = true ∨ (self.noted saves input store).known = true →
        (self.noted saves input store).data place = some entry) := by
  obtain ⟨_, after, kept⟩ := noted_valid valid settled file
  have same : (self.noted saves input store).store = store := by
    rw [noted]
    split <;> rfl
  rw [data_eq_view after]
  constructor
  · intro other away
    obtain ⟨sessions, trusted⟩ := changed.elsewhere other away
    rw [view, view, same, sessions, trusted]
    cases known : self.known with
    | true => rw [kept known]
    | false => simp [empty known]
  · intro lasting
    have here := changed.here
    rw [view, same]
    rw [hostData] at here
    split at here
    case h_1 there =>
      cases here
      rw [there]
      rfl
    case h_2 absent =>
      obtain ⟨found, there, equal⟩ := Option.map_eq_some_iff.mp here
      cases equal
      rw [absent, there, lasting.resolve_left false_ne_true]
      rfl

theorem save_same (writes : Bool) (self : Store) :
    (self.save writes).sessionTrustedKeys = self.sessionTrustedKeys ∧
      (self.save writes).trustedKeys = self.trustedKeys ∧
      ((self.save writes).file = self.file ∨ writes = true) := by
  rw [save]
  split
  case isTrue writing => exact ⟨rfl, rfl, .inr writing⟩
  case isFalse => exact ⟨rfl, rfl, .inl rfl⟩

theorem changed_save {before after : Store} {place : Place} {session : Bool} {entry : Entry}
    (writes : Bool) (changed : Changed before after place session entry) :
    Changed before (after.save writes) place session entry := by
  obtain ⟨sessions, trusted, _⟩ := save_same writes after
  refine ⟨fun other away => ?_, ?_⟩
  · rw [sessions, trusted]
    exact changed.elsewhere other away
  · rw [hostData, sessions, trusted]
    exact changed.here

theorem changed_session (self : Store) (place : Place) (entry : Entry) :
    Changed self { self with
      sessionTrustedKeys := Function.update self.sessionTrustedKeys place (some entry) }
      place true entry :=
  ⟨fun _ away => ⟨update_of_ne away .., rfl⟩, by simp [hostData]⟩

theorem changed_trusted (self : Store) (place : Place) (entry : Entry) (unsaved : Bool) :
    Changed self { self with
      sessionTrustedKeys := Function.update self.sessionTrustedKeys place none
      trustedKeys := Function.update self.trustedKeys place (some entry)
      unsaved } place false entry :=
  ⟨fun _ away => ⟨update_of_ne away .., update_of_ne away ..⟩,
    by simp [hostData]⟩

theorem updateAllowed_changed {self : Store} {call : Call} {session : Bool} {entry : Entry}
    (found : self.hostData (call.place lowered) = some (session, entry)) :
    Changed self (self.updateAllowed lowered call session entry) (call.place lowered) session
      { entry with allowedInsecureAlgorithms := getInsecureAlgorithms call.info } ∧
    ((self.updateAllowed lowered call session entry).file = self.file ∨
      getInsecureAlgorithms call.info ≠ entry.allowedInsecureAlgorithms ∧ call.writes = true) := by
  rw [updateAllowed]
  dsimp only
  split
  case isFalse same =>
    rw [not_not.mp same]
    exact ⟨⟨fun _ _ => ⟨rfl, rfl⟩, found⟩, .inl rfl⟩
  case isTrue narrowed =>
    cases session with
    | true =>
      exact ⟨changed_save _ (changed_session ..),
        (save_same ..).2.2.imp_right fun writes => ⟨narrowed, writes⟩⟩
    | false =>
      have absent : self.sessionTrustedKeys (call.place lowered) = none := by
        rw [hostData] at found
        split at found
        case h_1 => cases found
        case h_2 absent => exact absent
      have changed := changed_trusted self (call.place lowered)
        { entry with allowedInsecureAlgorithms := getInsecureAlgorithms call.info } true
      rw [update_eq_self_iff.mpr absent.symm] at changed
      exact ⟨changed_save _ changed,
        (save_same ..).2.2.imp_right fun writes => ⟨narrowed, writes⟩⟩

theorem accept_changed {self : Store} {call : Call}
    (again : self.load call.second = self) :
    Changed self (self.accept lowered call) (call.place lowered) (!call.answer.remember)
      ⟨[call.key], getInsecureAlgorithms call.info⟩ ∧
    ((self.accept lowered call).file = self.file ∨
      call.answer.remember = true ∧ call.writes = true) := by
  rw [accept]
  dsimp only
  split
  case isFalse forgets =>
    rw [eq_false_iff.mpr forgets]
    exact ⟨changed_session .., .inl rfl⟩
  case isTrue remembers =>
    rw [load_session, again, remembers]
    exact ⟨changed_save _ (changed_trusted ..),
      (save_same ..).2.2.imp_right fun writes => ⟨rfl, writes⟩⟩

theorem isTrusted_cases (self : Store) (call : Call) :
    let base := self.load call.first
    let place := call.place lowered
    (∃ session entry, base.hostData place = some (session, entry) ∧
      entry.knownKey call.key = true ∧
      isSubset (getInsecureAlgorithms call.info) entry.allowedInsecureAlgorithms = true ∧
      self.isTrusted lowered call = (.silently,
        (base.updateAllowed lowered call session entry).noteConsent
          { place, key := none, info := call.info })) ∨
    ¬ (∃ session entry, base.hostData place = some (session, entry) ∧
      entry.knownKey call.key = true ∧
      isSubset (getInsecureAlgorithms call.info) entry.allowedInsecureAlgorithms = true) ∧
      ((∃ flags, self.isTrusted lowered call = (.asked flags true,
        (base.accept lowered call).noteConsent
          { place, key := some call.key, info := call.info })) ∨
      ∃ verdict, self.isTrusted lowered call = (verdict, base) ∧ ∀ flags,
        verdict ≠ .silently ∧ verdict ≠ .asked flags true) := by
  rw [isTrusted]
  dsimp only
  split
  case h_1 session entry known =>
    obtain ⟨found, both⟩ := Option.filter_eq_some_iff.mp known
    rw [and_eq_true] at both
    exact .inl ⟨session, entry, found, both.1, both.2, rfl⟩
  case h_2 unknown =>
    refine .inr ⟨?_, ?_⟩
    · rintro ⟨session, entry, found, known, subset⟩
      rw [found] at unknown
      simp [known, subset] at unknown
    · split
      case isTrue => exact .inr ⟨_, rfl, fun _ => ⟨by simp, by simp⟩⟩
      case isFalse =>
        split
        case isTrue => exact .inl ⟨_, rfl⟩
        case isFalse => exact .inr ⟨_, rfl, fun _ => ⟨by simp, by simp⟩⟩

/-- A key that is to be remembered is saved, or the file is there whose time shows that nothing is
to be loaded. -/
def Retains (self : Process) (input : Input) : Prop :=
  input.call.answer.remember = true →
    (if input.kiosk then self.loaded.known else self.present || input.saved) = true

instance (self : Process) (input : Input) : Decidable (self.Retains input) :=
  inferInstanceAs (Decidable (_ → _))

structure Outcome (lowered : WString → List UInt8) (before after : Process) (input : Input) :
    Prop where
  valid : after.Valid
  elsewhere : ∀ place, place ≠ input.call.place lowered → after.data place = before.data place
  silently : before.verdict lowered input = .silently →
    ∃ entry, before.data (input.call.place lowered) = some entry ∧
      after.data (input.call.place lowered) =
        some { entry with allowedInsecureAlgorithms := getInsecureAlgorithms input.call.info }
  accepted : ∀ flags, before.verdict lowered input = .asked flags true → before.Retains input →
    after.data (input.call.place lowered) =
      some ⟨[input.call.key], getInsecureAlgorithms input.call.info⟩
  refused : (∀ flags, before.verdict lowered input ≠ .silently ∧
    before.verdict lowered input ≠ .asked flags true) →
    after.data (input.call.place lowered) = before.data (input.call.place lowered)

theorem next_outcome (valid : self.Valid) (input : Input) :
    Outcome lowered self (self.next lowered input) input := by
  have ⟨settled, empty, _⟩ := self.loaded_settled
  have loadedValid := loaded_valid valid
  have data := self.data_eq_loaded_view
  obtain ⟨store, stored⟩ : ∃ store, (self.store.isTrusted lowered (self.call input)).2 = store :=
    ⟨_, rfl⟩
  have nexts : self.next lowered input =
      self.loaded.noted (self.saves lowered input) input store := congrArg _ stored
  rcases @isTrusted_cases lowered self.store (self.call input) with
    ⟨session, entry, found, _, _, result⟩ |
      ⟨_, ⟨flags, result⟩ | ⟨verdict, result, refused⟩⟩
  · have verdicts : self.verdict lowered input = .silently := congrArg fst result
    obtain ⟨changed, file⟩ : Changed self.loaded.store store _ session _ ∧
        (store.file = self.loaded.store.file ∨ _) := by
      rw [← stored, result]
      have ⟨⟨others, here⟩, file⟩ := updateAllowed_changed found
      exact ⟨⟨others, here⟩, file⟩
    have narrows : self.saves lowered input = decide
        (getInsecureAlgorithms input.call.info ≠ entry.allowedInsecureAlgorithms) := by
      rw [saves, verdicts]
      exact congrArg (Option.any _) found
    have written := file.imp_right fun narrowed => by
      have ⟨forbidden, saved⟩ := and_eq_true_iff.mp narrowed.2
      exact And.intro (and_eq_true_iff.mpr
        ⟨narrows.trans (decide_eq_true narrowed.1), forbidden⟩) saved
    obtain ⟨after, _, kept⟩ := noted_valid loadedValid settled written
    obtain ⟨away, there⟩ := noted_data loadedValid settled empty written changed
    rw [← nexts] at after kept away there
    refine {
      valid := after
      elsewhere := fun place other => (away place other).trans (congrFun data place).symm
      silently := fun _ => ⟨entry, ?_, there ?_⟩
      accepted := fun _ asked => absurd (verdicts.symm.trans asked) (by simp)
      refused := fun refused => absurd verdicts (refused ⟨false, false, false⟩).1 }
    · rw [Process.data]
      exact congrArg (Option.map snd) found
    · cases session with
      | true => exact .inl rfl
      | false =>
        exact .inr (kept (known_of_found found))
  · have verdicts : self.verdict lowered input = .asked flags true := congrArg fst result
    have again : (self.store.load (self.call input).first).load (self.call input).second =
        self.store.load (self.call input).first := self.loaded_again
    obtain ⟨changed, file⟩ : Changed self.loaded.store store _ _ _ ∧
        (store.file = self.loaded.store.file ∨ _) := by
      rw [← stored, result]
      have ⟨⟨others, here⟩, file⟩ := @accept_changed lowered _ _ again
      exact ⟨⟨others, here⟩, file⟩
    have remembers : self.saves lowered input = input.call.answer.remember := by
      rw [saves, verdicts]
    have written := file.imp_right fun remembered => by
      have ⟨forbidden, saved⟩ := and_eq_true_iff.mp remembered.2
      exact And.intro (and_eq_true_iff.mpr ⟨remembers.trans remembered.1, forbidden⟩) saved
    obtain ⟨after, _, _⟩ := noted_valid loadedValid settled written
    obtain ⟨away, there⟩ := noted_data loadedValid settled empty written changed
    rw [← nexts] at after away there
    refine {
      valid := after
      elsewhere := fun place other => (away place other).trans (congrFun data place).symm
      silently := fun silently => absurd (verdicts.symm.trans silently) (by simp)
      accepted := fun _ _ retains => there ?_
      refused := fun refused => absurd verdicts (refused flags).2 }
    cases remember : input.call.answer.remember with
    | false => exact .inl (congrArg not remember)
    | true =>
      have lasting := retains remember
      rw [nexts, noted, remembers, remember]
      cases kiosk : input.kiosk <;> rw [kiosk] at lasting <;> exact .inr lasting
  · have quiet : self.saves lowered input = false := by
      rw [saves, Process.verdict, result]
      have ⟨loud, _⟩ := refused ⟨false, false, false⟩
      cases verdict with
      | silently => exact absurd rfl loud
      | silent => rfl
      | asked flags trusted =>
        cases trusted with
        | false => rfl
        | true => exact absurd rfl (refused flags).2
    have next : self.next lowered input = self.loaded := by
      rw [Process.next, quiet, result]
      rfl
    have same : (self.next lowered input).data = self.data := by
      rw [next, data_eq_view settled, data]
    have verdicts : self.verdict lowered input = verdict := congrArg fst result
    exact {
      valid := next ▸ loadedValid
      elsewhere := fun place _ => congrFun same place
      silently := fun silently =>
        absurd (verdicts.symm.trans silently) (refused ⟨false, false, false⟩).1
      accepted := fun flags accepted => absurd (verdicts.symm.trans accepted) (refused flags).2
      refused := fun _ => congrFun same _ }

theorem verdict_silently_iff (self : Process) (input : Input) :
    self.verdict lowered input = .silently ↔
      ∃ entry, self.data (input.call.place lowered) = some entry ∧
        entry.knownKey input.call.key = true ∧
        isSubset (getInsecureAlgorithms input.call.info) entry.allowedInsecureAlgorithms = true := by
  rcases @isTrusted_cases lowered self.store (self.call input) with
    ⟨session, entry, found, known, subset, result⟩ | ⟨unknown, asked⟩
  · exact ⟨fun _ => ⟨entry, congrArg (Option.map snd) found, known, subset⟩,
      fun _ => congrArg fst result⟩
  · constructor
    · intro silently
      rcases asked with ⟨flags, result⟩ | ⟨verdict, result, refused⟩
      · cases silently.symm.trans (congrArg fst result)
      · exact absurd ((congrArg fst result).symm.trans silently)
          (refused ⟨false, false, false⟩).1
    · rintro ⟨entry, found, trusted⟩
      obtain ⟨⟨session, _⟩, there, rfl⟩ := Option.map_eq_some_iff.mp found
      exact absurd ⟨session, _, there, trusted⟩ unknown

variable (lowered) in
/-- A call for the place that trusts a key has these insecure algorithms as well, and no other key
is accepted for it. -/
def Undisturbed (place : Place) (key : List UInt8) (info : AlgorithmInfo) (self : Process)
    (input : Input) : Prop :=
  input.call.place lowered = place →
    (self.verdict lowered input = .silently →
      isSubset (getInsecureAlgorithms info) (getInsecureAlgorithms input.call.info) = true) ∧
    ∀ flags, self.verdict lowered input = .asked flags true →
      isSubset (getInsecureAlgorithms info) (getInsecureAlgorithms input.call.info) = true ∧
        input.call.key = key ∧ self.Retains input

def Trusts (place : Place) (key : List UInt8) (info : AlgorithmInfo) (self : Process) : Prop :=
  ∃ entry, self.data place = some entry ∧ entry.knownKey key = true ∧
    isSubset (getInsecureAlgorithms info) entry.allowedInsecureAlgorithms = true

theorem Trusts.next {place : Place} {key : List UInt8} {info : AlgorithmInfo} (valid : self.Valid)
    (trusts : self.Trusts place key info)
    (undisturbed : Undisturbed lowered place key info self input) :
    (self.next lowered input).Trusts place key info := by
  have outcome := @next_outcome lowered _ valid input
  obtain ⟨entry, there, known, subset⟩ := trusts
  by_cases here : input.call.place lowered = place
  case neg => exact ⟨entry, (outcome.elsewhere place (Ne.symm here)).trans there, known, subset⟩
  obtain ⟨silently, accepted⟩ := undisturbed here
  subst here
  cases verdict : self.verdict lowered input with
  | silently =>
    obtain ⟨found, same, after⟩ := outcome.silently verdict
    cases there.symm.trans same
    exact ⟨_, after, known, silently verdict⟩
  | silent => exact ⟨entry, (outcome.refused (by simp [verdict])).trans there, known, subset⟩
  | asked flags trusted =>
    cases trusted with
    | false => exact ⟨entry, (outcome.refused (by simp [verdict])).trans there, known, subset⟩
    | true =>
      obtain ⟨allowed, rfl, retains⟩ := accepted flags verdict
      exact ⟨_, outcome.accepted flags verdict retains, by simp [Entry.knownKey], allowed⟩

theorem accepted_key_stays {start : Process} {earlier : List (Process × Input)}
    (unread : start.known = false)
    (file : start.store.file.isSome = true → start.present = true)
    (run : Run (step lowered) start earlier self) :
    (∀ input flags, self.verdict lowered input = .asked flags true → self.Retains input →
      ∀ trace last, Run (step lowered) (self.next lowered input) trace last →
      (∀ taken ∈ trace, Undisturbed lowered (input.call.place lowered) input.call.key
        input.call.info taken.1 taken.2) →
      ∀ query, query.call.place lowered = input.call.place lowered →
        query.call.key = input.call.key →
        getInsecureAlgorithms query.call.info = getInsecureAlgorithms input.call.info →
        last.verdict lowered query = .silently) ∧
    ∀ input query, query.call.place lowered ≠ input.call.place lowered →
      ((self.next lowered input).verdict lowered query = .silently ↔
        self.verdict lowered query = .silently) := by
  have preserved : ∀ before input after, before.Valid → step lowered before input = some after →
      after.Valid := fun before input after valid taken => by
    cases taken
    exact (next_outcome valid input).valid
  have valid := Run.invariant
    ⟨fun known => absurd (unread.symm.trans known) (by decide), file⟩ preserved run
  constructor
  · intro input flags asked retains trace last after undisturbed query place key algorithms
    have outcome := @next_outcome lowered _ valid input
    have trusts : (self.next lowered input).Valid ∧
        (self.next lowered input).Trusts (input.call.place lowered) input.call.key input.call.info :=
      ⟨outcome.valid, _, outcome.accepted flags asked retains, by simp [Entry.knownKey],
        (isSubset_iff ..).mpr fun _ => id⟩
    obtain ⟨_, kept⟩ := @Run.invariant_of_forall _ _ _ _ _ _ (fun process : Process =>
      process.Valid ∧ process.Trusts (input.call.place lowered) input.call.key input.call.info)
      _ trusts (fun before next after both undisturbed taken => by
        cases taken
        exact ⟨(next_outcome both.1 next).valid, both.2.next both.1 undisturbed⟩) after undisturbed
    rw [verdict_silently_iff, place, key, algorithms]
    exact kept
  · intro input query away
    rw [verdict_silently_iff, verdict_silently_iff, (next_outcome valid input).elsewhere _ away]

theorem accepted_key_stays_saved :
    let lowered : WString → List UInt8 := fun host => host.map UInt8.ofNat
    let call : Call :=
      { host := wide "a", port := 22, key := [1], info := ⟨[], [], [], [], [], []⟩ }
    (({} : Process).next lowered { call := { call with answer := ⟨true, true⟩ } }).verdict lowered
      { call } = .silently := by
  intro lowered call
  exact (accepted_key_stays rfl (fun there => absurd there (by decide)) (.refl)).1
    { call := { call with answer := ⟨true, true⟩ } } ⟨true, false, false⟩ (by decide +kernel)
    (by decide +kernel) [] _ .refl (fun _ taken => absurd taken List.not_mem_nil) { call } rfl rfl rfl

/-- A server that is more secure once, and a key that cannot be saved and has no file -/
theorem accepted_key_asked_again :
    let lowered : WString → List UInt8 := fun host => host.map UInt8.ofNat
    let weak : AlgorithmInfo := ⟨[], asciiBytes "aes256-cbc", [], [], [], []⟩
    let call : Call := { host := wide "a", port := 22, key := [1], info := weak }
    let accepted := ({} : Process).next lowered { call := { call with answer := ⟨true, false⟩ } }
    let safer := accepted.next lowered { call := { call with info := ⟨[], [], [], [], [], []⟩ } }
    let kept := ({} : Process).next lowered
      { call := { call with answer := ⟨true, true⟩ }, kiosk := true }
    accepted.verdict lowered { call } = .silently ∧ safer.verdict lowered { call } ≠ .silently ∧
      kept.verdict lowered { call } ≠ .silently := by
  decide +kernel

end Process

end HostkeyStore

end FileZilla
