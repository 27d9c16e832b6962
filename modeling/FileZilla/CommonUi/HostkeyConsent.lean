import FileZilla.CommonUi.HostkeyStore

namespace FileZilla

open List Function

namespace HostkeyStore

def Plain (name : List UInt8) : Prop :=
  name ≠ [] ∧ ∀ byte ∈ name, separators.contains byte = false

instance (name : List UInt8) : Decidable (Plain name) :=
  inferInstanceAs (Decidable (_ ∧ _))

theorem insecureAlgorithms_plain : ∀ name ∈ insecureAlgorithms, Plain name := by
  decide +kernel

/-- The delimiters contain the comma, and no character of a name. -/
def Delimits (delims : List UInt8) : Prop :=
  delims.contains ','.toNat.toUInt8 = true ∧ ∀ byte, delims.contains byte = true →
    separators.contains byte = true

theorem delimits_comma : Delimits (asciiBytes ",") := by
  refine ⟨by decide +kernel, fun byte member => ?_⟩
  have same : byte = ','.toNat.toUInt8 := by
    simpa [asciiBytes] using member
  rw [same]
  decide +kernel

theorem delimits_separators : Delimits separators :=
  ⟨by decide +kernel, fun _ member => member⟩

variable {delims : List UInt8}

variable {name : List UInt8}

theorem strtokenizer_plain (delimits : Delimits delims) (plain : Plain name) :
    strtokenizer delims name = [name] := by
  have none : ∀ byte ∈ name, delims.contains byte = false := fun byte member => by
    rw [Bool.eq_false_iff]
    exact fun delim => Bool.eq_false_iff.mp (plain.2 byte member) (delimits.2 byte delim)
  unfold strtokenizer
  rw [splitOnP_eq_singleton none]
  simp [plain.1]

theorem strtokenizer_append (delimits : Delimits delims) (algorithms : List UInt8)
    (plain : Plain name) :
    strtokenizer delims (algorithms ++ asciiBytes "," ++ name) =
      strtokenizer delims algorithms ++ [name] := by
  have comma : asciiBytes "," ++ name = ','.toNat.toUInt8 :: name := rfl
  rw [append_assoc, comma, ← strtokenizer_plain delimits plain]
  unfold strtokenizer
  rw [splitOnP_append_cons _ _ delimits.1, filter_append]

theorem mem_addAlgorithm (delimits : Delimits delims) (algorithms : List UInt8)
    (same : ∀ token, token ∈ strtokenizer separators algorithms →
      token ∈ strtokenizer delims algorithms) (plain : Plain name) (token : List UInt8) :
    token ∈ strtokenizer delims (addAlgorithm algorithms name) ↔
      token ∈ strtokenizer delims algorithms ∨ token = name := by
  unfold addAlgorithm
  split
  case isTrue known =>
    exact ⟨.inl, fun either => either.elim id fun here => here ▸ same name known⟩
  case isFalse =>
    split
    case isTrue empty =>
      rw [strtokenizer_plain delimits plain, empty]
      simp [strtokenizer]
    case isFalse =>
      rw [strtokenizer_append delimits algorithms plain, mem_append, mem_singleton]

def Insecure (info : AlgorithmInfo) (algorithm : List UInt8) : Prop :=
  algorithm ∈ info.algorithms ∧ isInsecureAlgorithm algorithm = true

theorem mem_getInsecureAlgorithms (delimits : Delimits delims) (info : AlgorithmInfo)
    (token : List UInt8) :
    token ∈ strtokenizer delims (getInsecureAlgorithms info) ↔ Insecure info token := by
  have collect (algorithms : List (List UInt8)) (insecure : List UInt8)
      (same : ∀ token, token ∈ strtokenizer separators insecure ↔
        token ∈ strtokenizer delims insecure) :
      token ∈ strtokenizer delims (algorithms.foldl (fun insecure algorithm =>
          if isInsecureAlgorithm algorithm then addAlgorithm insecure algorithm else insecure)
          insecure) ↔
        token ∈ strtokenizer delims insecure ∨
          token ∈ algorithms ∧ isInsecureAlgorithm token = true := by
    induction algorithms generalizing insecure with
    | nil => simp
    | cons algorithm algorithms ih =>
      rw [foldl_cons]
      split
      case isTrue weak =>
        have plain := insecureAlgorithms_plain algorithm (of_decide_eq_true weak)
        have added := mem_addAlgorithm delimits insecure (fun token => (same token).mp) plain
        have kept (token : List UInt8) :
            token ∈ strtokenizer separators (addAlgorithm insecure algorithm) ↔
              token ∈ strtokenizer delims (addAlgorithm insecure algorithm) := by
          rw [added, mem_addAlgorithm delimits_separators insecure (fun _ => id) plain, same]
        rw [ih _ kept, added, mem_cons]
        constructor
        · rintro ((known | rfl) | later)
          · exact .inl known
          · exact .inr ⟨.inl rfl, weak⟩
          · exact .inr ⟨.inr later.1, later.2⟩
        · rintro (known | ⟨rfl | later, weak⟩)
          · exact .inl (.inl known)
          · exact .inl (.inr rfl)
          · exact .inr ⟨later, weak⟩
      case isFalse strong =>
        rw [ih insecure same, mem_cons]
        refine or_congr_right ⟨fun later => ⟨.inr later.1, later.2⟩, ?_⟩
        rintro ⟨rfl | later, weak⟩
        · exact absurd weak strong
        · exact ⟨later, weak⟩
  have whole := collect info.algorithms [] fun _ => by simp [strtokenizer]
  rw [getInsecureAlgorithms, whole]
  simp [strtokenizer, Insecure]

theorem isSubset_iff (subset all : AlgorithmInfo) :
    isSubset (getInsecureAlgorithms subset) (getInsecureAlgorithms all) = true ↔
      ∀ algorithm, Insecure subset algorithm → Insecure all algorithm := by
  simp only [isSubset, knownAlgorithm, all_eq_true, decide_eq_true_eq,
    mem_getInsecureAlgorithms delimits_comma, mem_getInsecureAlgorithms delimits_separators]

/-- The last key that the user accepted for the place is this one, and the insecure algorithms
were in use then and whenever it was trusted without asking since. -/
def Approved (history : List Consent) (place : Place) (key : List UInt8)
    (info : AlgorithmInfo) : Prop :=
  ∃ before accepted after, history = before ++ ⟨place, some key, accepted⟩ :: after ∧
    (∀ algorithm, Insecure info algorithm → Insecure accepted algorithm) ∧
    ∀ consent ∈ after, consent.place = place → consent.key = none ∧
      ∀ algorithm, Insecure info algorithm → Insecure consent.info algorithm

namespace Approved

variable {history : List Consent} {place : Place} {key : List UInt8} {info : AlgorithmInfo}

theorem accepted (history : List Consent) (place : Place) (key : List UInt8)
    (info : AlgorithmInfo) : Approved (history ++ [⟨place, some key, info⟩]) place key info :=
  ⟨history, info, [], rfl, fun _ => id, fun _ member => by cases member⟩

theorem elsewhere (approved : Approved history place key info) {consent : Consent}
    (other : consent.place ≠ place) : Approved (history ++ [consent]) place key info := by
  obtain ⟨before, accepted, after, whole, first, later⟩ := approved
  refine ⟨before, accepted, after ++ [consent], by rw [whole]; simp, first, ?_⟩
  intro noted member same
  rcases mem_append.mp member with member | member
  · exact later noted member same
  · rw [mem_singleton.mp member] at same
    exact absurd same other

theorem silently (approved : Approved history place key info) {used : AlgorithmInfo}
    (narrower : ∀ algorithm, Insecure used algorithm → Insecure info algorithm) :
    Approved (history ++ [⟨place, none, used⟩]) place key used := by
  obtain ⟨before, accepted, after, whole, first, later⟩ := approved
  refine ⟨before, accepted, after ++ [⟨place, none, used⟩], by rw [whole]; simp,
    fun algorithm insecure => first algorithm (narrower algorithm insecure), ?_⟩
  intro noted member same
  rcases mem_append.mp member with member | member
  · obtain ⟨none, allowed⟩ := later noted member same
    exact ⟨none, fun algorithm insecure => allowed algorithm (narrower algorithm insecure)⟩
  · rw [mem_singleton.mp member]
    exact ⟨rfl, fun _ => id⟩

theorem narrower (approved : Approved history place key info) {used : AlgorithmInfo}
    (narrower : ∀ algorithm, Insecure used algorithm → Insecure info algorithm) :
    Approved history place key used := by
  obtain ⟨before, accepted, after, whole, first, later⟩ := approved
  refine ⟨before, accepted, after, whole,
    fun algorithm insecure => first algorithm (narrower algorithm insecure), ?_⟩
  intro noted member same
  obtain ⟨none, allowed⟩ := later noted member same
  exact ⟨none, fun algorithm insecure => allowed algorithm (narrower algorithm insecure)⟩

end Approved

def Justified (history : List Consent) (place : Place) (entry : Entry) : Prop :=
  ∃ key info, entry = ⟨[key], getInsecureAlgorithms info⟩ ∧ Approved history place key info

theorem Justified.elsewhere {history : List Consent} {place : Place} {entry : Entry}
    (justified : Justified history place entry) {consent : Consent}
    (other : consent.place ≠ place) : Justified (history ++ [consent]) place entry := by
  obtain ⟨key, info, same, approved⟩ := justified
  exact ⟨key, info, same, approved.elsewhere other⟩

theorem accepted_justified {history : List Consent} {place : Place} {entries : Entries}
    {entry : Entry} (loaded : accepted entries place = some entry)
    (justified : ∀ written, entries place = some written → Justified history place written) :
    entries place = some entry := by
  unfold accepted at loaded
  cases there : entries place with
  | none =>
    rw [there] at loaded
    cases loaded
  | some written =>
    obtain ⟨key, info, rfl, _⟩ := justified written there
    rw [there] at loaded
    simp only [Option.ite_none_left_eq_some, Option.some.injEq, not_or] at loaded
    obtain ⟨⟨_, _, filled⟩, rfl⟩ := loaded
    cases key with
    | nil => exact absurd rfl filled
    | cons _ _ => rfl

namespace Store

structure Trustworthy (history : List Consent) (store : Store) : Prop where
  session : ∀ place entry, store.sessionTrustedKeys place = some entry →
    Justified history place entry
  trusted : ∀ place entry, store.sessionTrustedKeys place = none →
    store.trustedKeys place = some entry → Justified history place entry
  file : store.unsaved = false → ∀ entries place entry, store.file = some entries →
    store.sessionTrustedKeys place = none → entries place = some entry →
      Justified history place entry
  agrees : store.unsaved = false → ∀ entries place entry written, store.file = some entries →
    store.sessionTrustedKeys place = none → store.trustedKeys place = some entry →
      entries place = some written → written = entry

variable {history : List Consent} {self : Store}

theorem load_trustworthy (trustworthy : Trustworthy history self) {loading : Loading}
    (allowed : loading = .loaded → self.unsaved = false) :
    Trustworthy history (self.load loading) := by
  have cleared : Trustworthy history { self with trustedKeys := fun _ => none } :=
    ⟨trustworthy.session, fun _ _ _ there => (by cases there), trustworthy.file,
      fun _ _ _ _ _ _ _ there => (by cases there)⟩
  unfold load
  split
  case h_1 => exact trustworthy
  case h_2 => exact cleared
  case h_3 =>
    split
    case h_1 => exact cleared
    case h_2 entries there =>
      have saved := allowed rfl
      refine ⟨trustworthy.session, fun place entry none loaded => ?_, trustworthy.file, ?_⟩
      · have written := accepted_justified loaded fun written =>
          trustworthy.file saved entries place written there none
        exact trustworthy.file saved entries place entry there none written
      · intro _ others place entry written same none loaded kept
        cases there.symm.trans same
        have read := accepted_justified loaded fun written =>
          trustworthy.file saved entries place written there none
        exact Option.some.inj (kept.symm.trans read)

theorem save_trustworthy (trustworthy : Trustworthy history self) (writes : Bool) :
    Trustworthy history (self.save writes) := by
  unfold save
  split
  case isTrue =>
    refine ⟨trustworthy.session, trustworthy.trusted, fun _ entries place entry same none there =>
      ?_, fun _ entries place entry written same none there kept => ?_⟩
    · cases same
      exact trustworthy.trusted place entry none there
    · cases same
      exact Option.some.inj (kept.symm.trans there)
  case isFalse => exact trustworthy

variable {lowered : WString → List UInt8} {call : Call}

variable {place : Place} {entry : Entry}

theorem session_trustworthy (trustworthy : Trustworthy history self) (consent : Consent)
    (here : consent.place = place) (justified : Justified (history ++ [consent]) place entry) :
    Trustworthy (history ++ [consent]) { self with
      sessionTrustedKeys := Function.update self.sessionTrustedKeys place (some entry) } := by
  have elsewhere {other : Place}
      (absent : update self.sessionTrustedKeys place (some entry) other = none) :
      consent.place ≠ other ∧ self.sessionTrustedKeys other = none := by
    rcases Classical.em (other = place) with rfl | away
    · rw [update_self] at absent
      cases absent
    · rw [update_of_ne away] at absent
      exact ⟨fun same => away (same.symm.trans here), absent⟩
  refine ⟨fun other found there => ?_, fun other found absent there => ?_,
    fun saved entries other found same absent there => ?_,
    fun saved entries other found written same absent there kept => ?_⟩
  · dsimp only at there
    rcases Classical.em (other = place) with rfl | away
    · rw [update_self] at there
      exact Option.some.inj there ▸ justified
    · rw [update_of_ne away] at there
      exact (trustworthy.session other found there).elsewhere
        fun same => away (same.symm.trans here)
  · obtain ⟨away, absent⟩ := elsewhere absent
    exact (trustworthy.trusted other found absent there).elsewhere away
  · obtain ⟨away, absent⟩ := elsewhere absent
    exact (trustworthy.file saved entries other found same absent there).elsewhere away
  · obtain ⟨_, absent⟩ := elsewhere absent
    exact trustworthy.agrees saved entries other found written same absent there kept

variable {consent : Consent}

theorem trusted_trustworthy (trustworthy : Trustworthy history self)
    (here : consent.place = place) (absent : self.sessionTrustedKeys place = none)
    (justified : Justified (history ++ [consent]) place entry) :
    Trustworthy (history ++ [consent]) { self with
      trustedKeys := Function.update self.trustedKeys place (some entry), unsaved := true } := by
  refine ⟨fun other found there => ?_, fun other found absent there => ?_,
    fun saved => (by cases saved), fun saved => (by cases saved)⟩
  · refine (trustworthy.session other found there).elsewhere fun same => ?_
    obtain rfl := here.symm.trans same
    rw [absent] at there
    cases there
  · dsimp only at there
    rcases Classical.em (other = place) with rfl | away
    · rw [update_self] at there
      exact Option.some.inj there ▸ justified
    · rw [update_of_ne away] at there
      exact (trustworthy.trusted other found absent there).elsewhere
        fun same => away (same.symm.trans here)

theorem hostData_justified (trustworthy : Trustworthy history self) {session : Bool}
    (found : self.hostData place = some (session, entry)) :
    Justified history place entry ∧
      (session = false → self.sessionTrustedKeys place = none) := by
  unfold hostData at found
  split at found
  case h_1 kept there =>
    cases found
    exact ⟨trustworthy.session place entry there, fun impossible => by cases impossible⟩
  case h_2 absent =>
    obtain ⟨kept, there, same⟩ := Option.map_eq_some_iff.mp found
    cases same
    exact ⟨trustworthy.trusted place entry absent there, fun _ => absent⟩

theorem unchanged_trustworthy (trustworthy : Trustworthy history self)
    (here : consent.place = place) (absent : self.sessionTrustedKeys place = none)
    (there : self.trustedKeys place = some entry)
    (justified : Justified (history ++ [consent]) place entry) :
    Trustworthy (history ++ [consent]) self := by
  refine ⟨fun other found kept => ?_, fun other found nowhere kept => ?_,
    fun saved entries other found same nowhere kept => ?_, trustworthy.agrees⟩
  · refine (trustworthy.session other found kept).elsewhere fun same => ?_
    obtain rfl := here.symm.trans same
    rw [absent] at kept
    cases kept
  · rcases Classical.em (other = place) with rfl | away
    · exact Option.some.inj (there.symm.trans kept) ▸ justified
    · exact (trustworthy.trusted other found nowhere kept).elsewhere
        fun same => away (same.symm.trans here)
  · rcases Classical.em (other = place) with rfl | away
    · rw [trustworthy.agrees saved entries other entry found same absent there kept]
      exact justified
    · exact (trustworthy.file saved entries other found same nowhere kept).elsewhere
        fun same => away (same.symm.trans here)

theorem updateAllowed_trustworthy (trustworthy : Trustworthy history self) {session : Bool}
    (found : self.hostData (call.place lowered) = some (session, entry))
    (known : entry.knownKey call.key = true)
    (subset : isSubset (getInsecureAlgorithms call.info) entry.allowedInsecureAlgorithms = true) :
    Approved history (call.place lowered) call.key call.info ∧
      Trustworthy (history ++ [⟨call.place lowered, none, call.info⟩])
        (self.updateAllowed lowered call session entry) := by
  obtain ⟨⟨key, info, rfl, approved⟩, persistent⟩ := hostData_justified trustworthy found
  obtain rfl : call.key = key := by
    simpa [Entry.knownKey] using known
  have narrower := (isSubset_iff call.info info).mp subset
  refine ⟨approved.narrower narrower, ?_⟩
  have justified : Justified (history ++ [⟨call.place lowered, none, call.info⟩])
      (call.place lowered) ⟨[call.key], getInsecureAlgorithms call.info⟩ :=
    ⟨call.key, call.info, rfl, approved.silently narrower⟩
  unfold updateAllowed
  dsimp only
  split
  case isTrue =>
    refine save_trustworthy ?_ call.writes
    cases session with
    | true => exact session_trustworthy trustworthy _ rfl justified
    | false => exact trusted_trustworthy trustworthy rfl (persistent rfl) justified
  case isFalse same =>
    rw [not_not] at same
    rw [← same] at found
    unfold hostData at found
    split at found
    case h_1 kept there =>
      cases found
      have update : update self.sessionTrustedKeys (call.place lowered)
          (some ⟨[call.key], getInsecureAlgorithms call.info⟩) =
            self.sessionTrustedKeys := by
        rw [← there]
        exact update_eq_self _ _
      have after := session_trustworthy trustworthy
        ⟨call.place lowered, none, call.info⟩ rfl justified
      rw [update] at after
      exact after
    case h_2 absent =>
      obtain ⟨kept, there, same⟩ := Option.map_eq_some_iff.mp found
      cases same
      exact unchanged_trustworthy trustworthy rfl absent there justified

theorem remember_trustworthy (trustworthy : Trustworthy history self)
    (there : self.sessionTrustedKeys place = some entry) :
    Trustworthy history { self with
      sessionTrustedKeys := Function.update self.sessionTrustedKeys place none
      trustedKeys := Function.update self.trustedKeys place (some entry)
      unsaved := true } := by
  refine ⟨fun other found kept => ?_, fun other found absent kept => ?_,
    fun saved => (by cases saved), fun saved => (by cases saved)⟩
  · dsimp only at kept
    rcases Classical.em (other = place) with rfl | away
    · rw [update_self] at kept
      cases kept
    · rw [update_of_ne away] at kept
      exact trustworthy.session other found kept
  · dsimp only at absent kept
    rcases Classical.em (other = place) with rfl | away
    · rw [update_self] at kept
      exact Option.some.inj kept ▸ trustworthy.session other entry there
    · rw [update_of_ne away] at absent kept
      exact trustworthy.trusted other found absent kept

variable (loading : Loading)

theorem load_session (entries : Entries) (self : Store) :
    { self with sessionTrustedKeys := entries }.load loading =
      { self.load loading with sessionTrustedKeys := entries } := by
  unfold load
  split
  · rfl
  · rfl
  · dsimp only
    split <;> rfl

theorem accept_trustworthy (trustworthy : Trustworthy history self)
    (allowed : call.second = .loaded → self.unsaved = false) :
    Trustworthy (history ++ [⟨call.place lowered, some call.key, call.info⟩])
      (self.accept lowered call) := by
  have justified : Justified (history ++ [⟨call.place lowered, some call.key, call.info⟩])
      (call.place lowered) ⟨[call.key], getInsecureAlgorithms call.info⟩ :=
    ⟨call.key, call.info, rfl, .accepted history (call.place lowered) call.key call.info⟩
  have session := session_trustworthy trustworthy _ rfl justified
  unfold accept
  dsimp only
  split
  case isFalse => exact session
  case isTrue =>
    refine save_trustworthy ?_ call.writes
    -- as if the entry had been one of the session first
    have loaded := load_trustworthy session allowed
    rw [load_session] at loaded ⊢
    have kept := remember_trustworthy loaded (update_self ..)
    rw [update_idem] at kept
    exact kept

/-- The file is only read again while it holds what the store keeps. -/
def Allowed (self : Store) (call : Call) : Prop :=
  call.first = .loaded ∨ call.second = .loaded → self.unsaved = false

instance (self : Store) (call : Call) : Decidable (self.Allowed call) :=
  inferInstanceAs (Decidable (_ → _))

theorem load_unsaved (self : Store) :
    (self.load loading).unsaved = self.unsaved := by
  unfold load
  split
  · rfl
  · rfl
  · split <;> rfl

theorem load_history (self : Store) :
    (self.load loading).history = self.history := by
  unfold load
  split
  · rfl
  · rfl
  · split <;> rfl

theorem save_history (writes : Bool) (self : Store) :
    (self.save writes).history = self.history := by
  unfold save
  split <;> rfl

theorem updateAllowed_history (session : Bool) (entry : Entry) (self : Store) :
    (self.updateAllowed lowered call session entry).history = self.history := by
  unfold updateAllowed
  dsimp only
  split
  · rw [save_history]
    split <;> rfl
  · rfl

theorem accept_history (self : Store) :
    (self.accept lowered call).history = self.history := by
  unfold accept
  dsimp only
  split
  · rw [save_history]
    exact load_history call.second _
  · rfl

theorem noteConsent_trustworthy {before : Store}
    (trustworthy : Trustworthy (before.history ++ [consent]) self)
    (same : self.history = before.history) :
    Trustworthy (self.noteConsent consent).history (self.noteConsent consent) := by
  unfold noteConsent
  dsimp only
  rw [same]
  exact ⟨trustworthy.session, trustworthy.trusted, trustworthy.file, trustworthy.agrees⟩

/-- `IsTrusted` keeps what is known, and trusts without asking only what has been approved. -/
theorem isTrusted_trustworthy (trustworthy : Trustworthy self.history self)
    (allowed : self.Allowed call) :
    Trustworthy (self.isTrusted lowered call).2.history (self.isTrusted lowered call).2 ∧
      ((self.isTrusted lowered call).1 = .silently →
        Approved self.history (call.place lowered) call.key call.info) := by
  have loaded := load_trustworthy trustworthy fun reads => allowed (.inl reads)
  have history := load_history call.first self
  have unsaved := load_unsaved call.first self
  unfold isTrusted
  dsimp only
  generalize self.load call.first = after at loaded history unsaved ⊢
  split
  case h_1 session entry known =>
    obtain ⟨found, both⟩ := Option.filter_eq_some_iff.mp known
    rw [Bool.and_eq_true] at both
    obtain ⟨approved, kept⟩ := updateAllowed_trustworthy loaded found both.1 both.2
    rw [← history] at kept
    exact ⟨noteConsent_trustworthy kept (updateAllowed_history session entry after),
      fun _ => approved⟩
  case h_2 =>
    split
    case isTrue => exact ⟨history ▸ loaded, fun silently => (by cases silently)⟩
    case isFalse =>
      split
      case isTrue =>
        have kept := @accept_trustworthy _ _ lowered call loaded
          fun reads => unsaved.trans (allowed (.inr reads))
        rw [← history] at kept
        exact ⟨noteConsent_trustworthy kept (accept_history after),
          fun silently => (by cases silently)⟩
      case isFalse => exact ⟨history ▸ loaded, fun silently => (by cases silently)⟩

theorem start_trustworthy : Trustworthy [] {} where
  session _ _ there := nomatch there
  trusted _ _ _ there := nomatch there
  file _ _ _ _ there := nomatch there
  agrees _ _ _ _ _ there := nomatch there

end Store

end HostkeyStore

end FileZilla
