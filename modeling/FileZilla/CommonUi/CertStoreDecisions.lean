import FileZilla.CommonUi.CertStore

namespace FileZilla

open List

namespace CertContainers

variable {self : CertContainers} {place other : HostPort} {cert : CertData}

def Holds (self : CertContainers) (decision : CertDecision) (place : HostPort) : Prop :=
  match decision with
  | .trusted => self.hasCertificate place = true
  | .insecure => place ∈ self.insecureHosts

structure Settles (after : CertContainers) (decision : CertDecision) (place : HostPort)
    (before : CertContainers) : Prop where
  here : ∀ other, after.Holds other place ↔ other = decision
  elsewhere : ∀ other earlier, other ≠ place →
    (after.Holds earlier other ↔ before.Holds earlier other)

theorem removeCertificates_holds (self : CertContainers) (place other : HostPort)
    (decision : CertDecision) : (self.removeCertificates place).Holds decision other ↔
      self.Holds decision other ∧ (other = place → decision = .insecure) := by
  cases decision with
  | insecure => exact ⟨fun held => ⟨held, fun _ => rfl⟩, And.left⟩
  | trusted =>
    simp only [Holds, hasCertificate, removeCertificates, any_filter, any_eq_true,
      Bool.and_eq_true, decide_eq_true_eq]
    constructor
    · rintro ⟨cert, member, kept, rfl⟩
      exact ⟨⟨cert, member, rfl⟩, fun same => absurd same kept⟩
    · rintro ⟨⟨cert, member, rfl⟩, kept⟩
      exact ⟨cert, member, fun same => (nomatch kept same), rfl⟩

theorem eraseInsecure_holds (self : CertContainers) (place other : HostPort)
    (decision : CertDecision) : (self.eraseInsecure place).Holds decision other ↔
      self.Holds decision other ∧ (other = place → decision = .trusted) := by
  cases decision with
  | trusted => exact ⟨fun held => ⟨held, fun _ => rfl⟩, And.left⟩
  | insecure => simp [Holds, eraseInsecure, and_comm]

@[simp] theorem hasCertificate_addCertificate :
    (self.addCertificate cert).hasCertificate other = true ↔
      self.hasCertificate other = true ∨ other = cert.place := by
  simp only [hasCertificate, addCertificate, any_append, any_cons, any_nil,
    Bool.or_false, Bool.or_eq_true, decide_eq_true_eq]
  exact or_congr_right eq_comm

@[simp] theorem hasCertificate_addInsecure :
    (self.addInsecure place).hasCertificate other = self.hasCertificate other :=
  rfl

@[simp] theorem mem_addInsecure :
    other ∈ (self.addInsecure place).insecureHosts ↔
      other ∈ self.insecureHosts ∨ other = place := by
  simp [addInsecure, or_comm]

theorem insecure_settles (self : CertContainers) (place : HostPort) :
    ((self.removeCertificates place).addInsecure place).Settles .insecure place self := by
  have removed := self.removeCertificates_holds place
  constructor
  · intro decision
    cases decision with
    | insecure => exact ⟨fun _ => rfl, fun _ => mem_addInsecure.mpr (.inr rfl)⟩
    | trusted => exact ⟨fun held => ((removed place .trusted).mp held).2 rfl, fun same => (by cases same)⟩
  · intro other decision elsewhere
    have kept := (removed other decision).trans (and_iff_left fun same => absurd same elsewhere)
    cases decision with
    | trusted => exact kept
    | insecure => exact (mem_addInsecure.trans (or_iff_left elsewhere)).trans kept

theorem trusted_settles (self : CertContainers) (cert : CertData) :
    ((self.eraseInsecure cert.place).addCertificate cert).Settles .trusted cert.place self := by
  have removed := self.eraseInsecure_holds cert.place
  constructor
  · intro decision
    cases decision with
    | trusted => exact ⟨fun _ => rfl, fun _ => hasCertificate_addCertificate.mpr (.inr rfl)⟩
    | insecure => exact ⟨fun held => ((removed _ .insecure).mp held).2 rfl, fun same => (by cases same)⟩
  · intro other decision elsewhere
    have kept := (removed other decision).trans (and_iff_left fun same => absurd same elsewhere)
    cases decision with
    | trusted => exact (hasCertificate_addCertificate.trans (or_iff_left elsewhere)).trans kept
    | insecure => exact kept

def Apart (self : CertContainers) : Prop :=
  ∀ place, ¬ (self.hasCertificate place = true ∧ place ∈ self.insecureHosts)

theorem apart_empty : ({} : CertContainers).Apart := fun _ both => by
  simp [hasCertificate] at both

end CertContainers

variable {system : CertSystem}

open CertContainers

theorem doIsTrusted_hasCertificate {isDnsName : List UInt8 → Bool} {place : HostPort}
    {data : List UInt8} {containers : CertContainers}
    (trusted : doIsTrusted isDnsName place data containers.trustedCerts false = true) :
    containers.hasCertificate place = true := by
  simp only [doIsTrusted, Bool.and_false, Bool.false_and, Bool.or_false, Bool.and_eq_true,
    any_eq_true, decide_eq_true_eq] at trusted
  obtain ⟨_, cert, member, ⟨port, _⟩, host⟩ := trusted
  simp only [hasCertificate, any_eq_true, decide_eq_true_eq]
  exact ⟨cert, member, Prod.ext host.symm port.symm⟩

theorem processEntries_invariant {Element : Type}
    {process : CertContainers → Element → Option CertContainers}
    {Invariant : CertContainers → Prop}
    (preserved : ∀ containers element next, Invariant containers →
      process containers element = some next → Invariant next)
    {containers : CertContainers} (initial : Invariant containers) (elements : List Element) :
    Invariant (processEntries process containers elements).1 := by
  induction elements generalizing containers with
  | nil => exact initial
  | cons element elements ih =>
    unfold processEntries
    cases processed : process containers element with
    | none => exact ih initial
    | some next => exact ih (preserved _ _ _ initial processed)

theorem processDocument_apart (now : Int) (document : XmlCertDocument) :
    (processDocument system now document).1.Apart := by
  have certificates : (processEntries (processCertificate system now) {}
      document.certificates).1.insecureHosts = ∅ := by
    refine @processEntries_invariant _ _ (fun containers => containers.insecureHosts = ∅)
      ?_ _ rfl _
    intro containers cert next none processed
    unfold processCertificate at processed
    simp only [Option.ite_none_left_eq_some, Option.some.injEq] at processed
    obtain ⟨_, _, _, _, _, rfl⟩ := processed
    exact none
  unfold processDocument
  dsimp only
  generalize processEntries (processCertificate system now) {} document.certificates = loaded
    at certificates
  have apart : loaded.1.Apart := fun place both => by
    rw [certificates] at both
    exact absurd both.2 (Finset.notMem_empty place)
  refine processEntries_invariant ?_ apart document.insecureHosts
  intro containers place next apart processed
  unfold processInsecureHost at processed
  simp only [Option.ite_none_left_eq_some, Option.some.injEq] at processed
  obtain ⟨_, untrusted, rfl⟩ := processed
  intro other both
  rw [hasCertificate_addInsecure, mem_addInsecure] at both
  rcases both.2 with insecure | rfl
  · exact apart other ⟨both.1, insecure⟩
  · exact untrusted both.1

namespace CertStore

variable {self : CertStore} {io : CertIo} {place : HostPort}

def Present (self : CertStore) : Prop :=
  self.seen = true → self.file ≠ .missing

/-- Loading does not change what is known. -/
def Steady (self : CertStore) : Prop :=
  self.seen = true ∨ self.file = .invalid

/-- What `CXmlFile::Save` leaves alone -/
structure Saved (before after : CertStore) : Prop where
  session : after.session = before.session
  persistent : after.persistent = before.persistent
  decisions : after.decisions = before.decisions
  present : before.Present → after.Present
  steady : before.Present → before.Steady → after.Steady

theorem Saved.refl (self : CertStore) : self.Saved self :=
  ⟨rfl, rfl, rfl, id, fun _ => id⟩

theorem save_saved (io : CertIo) (self : CertStore) : self.Saved (self.save io) := by
  unfold save
  split
  · exact .refl self
  · split
    · exact ⟨rfl, rfl, rfl, fun _ _ => by simp, fun _ _ => .inl rfl⟩
    · refine ⟨rfl, rfl, rfl, fun _ there => of_decide_eq_true there, fun present steady => ?_⟩
      rcases steady with seen | invalid
      · exact .inl (decide_eq_true (present seen))
      · exact .inr invalid

theorem edit_saved (io : CertIo) (change : XmlCertDocument → XmlCertDocument)
    (self : CertStore) : self.Saved (self.edit io change) := by
  unfold edit
  split
  · split
    · exact .refl self
    case h_2 root _ =>
      have saved := save_saved io { self with element := some (change root) }
      exact ⟨saved.session, saved.persistent, saved.decisions, saved.present, saved.steady⟩
  · exact .refl self

def upcoming (system : CertSystem) (io : CertIo) (self : CertStore) : CertContainers :=
  if self.seen then self.persistent
  else
    match self.file with
    | .invalid => self.persistent
    | .missing => {}
    | .document document => (processDocument system io.now document).1

/-- What loading the file does -/
structure Loaded (system : CertSystem) (io : CertIo) (before after : CertStore) : Prop where
  session : after.session = before.session
  decisions : after.decisions = before.decisions
  persistent : after.persistent = before.upcoming system io
  present : before.Present → after.Present
  kept : before.Steady → after.persistent = before.persistent ∧ after.Steady
  known : after.Steady ∨
    before.file = .missing ∧ after.persistent = {} ∧ after.element.isSome = true
  apart : before.persistent.Apart → after.persistent.Apart

theorem loadTrustedCerts_loaded (system : CertSystem) (io : CertIo) (self : CertStore) :
    Loaded system io self (self.loadTrustedCerts system io) := by
  unfold loadTrustedCerts
  split
  case isTrue seen =>
    have same : self.upcoming system io = self.persistent := if_pos seen
    exact ⟨rfl, rfl, same.symm, id, fun steady => ⟨rfl, steady⟩, .inl (.inl seen), id⟩
  case isFalse unseen =>
    have pending : self.upcoming system io = _ := if_neg unseen
    split
    case h_1 invalid =>
      rw [invalid] at pending
      exact ⟨rfl, rfl, pending.symm, id, fun steady => ⟨rfl, steady⟩, .inl (.inr invalid), id⟩
    case h_2 missing =>
      rw [missing] at pending
      refine ⟨rfl, rfl, pending.symm, id, fun steady => ?_, .inr ⟨missing, rfl, rfl⟩,
        fun _ => apart_empty⟩
      rcases steady with seen | invalid
      · exact absurd seen unseen
      · rw [missing] at invalid
        cases invalid
    case h_3 document there =>
      rw [there] at pending
      have fresh : ¬ self.Steady := fun steady => by
        rcases steady with seen | invalid
        · exact unseen seen
        · rw [there] at invalid
          cases invalid
      have apart := @processDocument_apart system io.now document
      dsimp only at pending
      generalize processDocument system io.now document = loaded at apart pending
      have present : Present { self with
          persistent := loaded.1, element := some loaded.2, seen := true } := fun _ => by
        simp [there]
      dsimp only
      split
      · exact ⟨rfl, rfl, pending.symm, fun _ => present, fun steady => absurd steady fresh,
          .inl (.inl rfl), fun _ => apart⟩
      · have saved := save_saved io { self with
          persistent := loaded.1, element := some loaded.2, seen := true }
        refine ⟨saved.session, saved.decisions, saved.persistent.trans pending.symm,
          fun _ => saved.present present, fun steady => absurd steady fresh,
          .inl (saved.steady present (.inl rfl)), fun _ => ?_⟩
        rw [saved.persistent]
        exact apart

theorem loadTrustedCerts_twice (system : CertSystem) (io : CertIo) (self : CertStore) :
    (self.loadTrustedCerts system io).loadTrustedCerts system io =
      self.loadTrustedCerts system io := by
  have again (seen : (self.loadTrustedCerts system io).seen = true) :
      (self.loadTrustedCerts system io).loadTrustedCerts system io =
        self.loadTrustedCerts system io := if_pos seen
  cases seen : self.seen with
  | true =>
    have same : self.loadTrustedCerts system io = self := if_pos seen
    rw [same, same]
  | false =>
    have unseen : ¬ self.seen = true := by simp [seen]
    cases there : self.file with
    | invalid =>
      have same : self.loadTrustedCerts system io = { self with element := none } := by
        rw [loadTrustedCerts, if_neg unseen, there]
      rw [same, loadTrustedCerts, if_neg unseen]
      simp only [there]
    | missing =>
      have same : self.loadTrustedCerts system io =
          { self with element := some {}, persistent := {} } := by
        rw [loadTrustedCerts, if_neg unseen, there]
      rw [same, loadTrustedCerts, if_neg unseen]
      simp only [there]
    | document document =>
      refine again ?_
      rw [loadTrustedCerts, if_neg unseen, there]
      dsimp only
      split
      · rfl
      · unfold save
        dsimp only
        split
        · rfl
        · simp [there]

/-- What the file holds for a host and a port does not contradict what holds for the session. -/
def Agrees (system : CertSystem) (io : CertIo) (self : CertStore) (place : HostPort) : Prop :=
  ¬ (self.session.hasCertificate place = true ∧
      place ∈ (self.upcoming system io).insecureHosts) ∧
    ¬ (place ∈ self.session.insecureHosts ∧
      (self.upcoming system io).hasCertificate place = true)

/-- A decision for the session does not contradict a permanent one, nor does the file when it is
loaded; and where there is no file, a permanent decision can be saved. -/
def Allowed (system : CertSystem) (self : CertStore) : Call → Prop
  | .setTrusted io cert _ _ true =>
    (∀ place, place ≠ cert.place → self.Agrees system io place) ∧
      (self.file = .missing → io.allowedToSave = true ∧ io.saves = true)
  | .setTrusted _ cert _ _ false => cert.place ∉ self.persistent.insecureHosts
  | .setInsecure io place true =>
    (∀ other, other ≠ place → self.Agrees system io other) ∧
      (self.file = .missing → io.allowedToSave = true ∧ io.saves = true)
  | .setInsecure _ place false => self.persistent.hasCertificate place = false
  | .loadTrustedCerts io => ∀ place, self.Agrees system io place
  | .changed _ => True

def ApartAt (session persistent : CertContainers) (place : HostPort) : Prop :=
  ¬ ((session.hasCertificate place = true ∨ persistent.hasCertificate place = true) ∧
    (place ∈ session.insecureHosts ∨ place ∈ persistent.insecureHosts))

/-- The decision is respected as long as the file is not changed from outside. -/
def Decided (self : CertStore) (place : HostPort) : CertDecision → Prop
  | .trusted => self.session.hasCertificate place = true ∨
      self.persistent.hasCertificate place = true ∧ self.Steady
  | .insecure => place ∈ self.session.insecureHosts ∨
      place ∈ self.persistent.insecureHosts ∧ self.Steady

structure Consistent (store : CertStore) : Prop where
  present : store.Present
  apart : ∀ place, ApartAt store.session store.persistent place
  decided : ∀ place decision, store.decisions place = some decision → store.Decided place decision

theorem Consistent.persistent_apart (consistent : self.Consistent) : self.persistent.Apart :=
  fun place both => consistent.apart place ⟨.inr both.1, .inr both.2⟩

theorem Consistent.upcoming_apart (consistent : self.Consistent) (system : CertSystem)
    (io : CertIo) : (self.upcoming system io).Apart := by
  have loaded := loadTrustedCerts_loaded system io self
  rw [← loaded.persistent]
  exact loaded.apart consistent.persistent_apart

theorem apartAt_upcoming (consistent : self.Consistent) (agrees : self.Agrees system io place) :
    ApartAt self.session (self.upcoming system io) place := by
  rintro ⟨trusted | trusted, insecure | insecure⟩
  · exact consistent.apart place ⟨.inl trusted, .inl insecure⟩
  · exact agrees.1 ⟨trusted, insecure⟩
  · exact agrees.2 ⟨insecure, trusted⟩
  · exact consistent.upcoming_apart system io place ⟨trusted, insecure⟩

variable {after : CertStore}

theorem Decided.loaded {decision : CertDecision} (decided : self.Decided place decision)
    (loaded : Loaded system io self after) :
    after.Decided place decision := by
  cases decision with
  | trusted =>
    rcases decided with session | ⟨persistent, steady⟩
    · exact .inl (loaded.session ▸ session)
    · exact .inr ⟨(loaded.kept steady).1 ▸ persistent, (loaded.kept steady).2⟩
  | insecure =>
    rcases decided with session | ⟨persistent, steady⟩
    · exact .inl (loaded.session ▸ session)
    · exact .inr ⟨(loaded.kept steady).1 ▸ persistent, (loaded.kept steady).2⟩

theorem loadTrustedCerts_consistent (consistent : self.Consistent)
    (agrees : ∀ place, self.Agrees system io place) :
    (self.loadTrustedCerts system io).Consistent := by
  have loaded := loadTrustedCerts_loaded system io self
  refine ⟨loaded.present consistent.present, fun place => ?_, fun place decision noted => ?_⟩
  · rw [loaded.session, loaded.persistent]
    exact apartAt_upcoming consistent (agrees place)
  · rw [loaded.decisions] at noted
    exact (consistent.decided place decision noted).loaded loaded

theorem edit_steady {change : XmlCertDocument → XmlCertDocument} (present : self.Present)
    (known : self.Steady ∨ self.element.isSome = true ∧ io.allowedToSave = true ∧
      io.saves = true) : (self.edit io change).Steady := by
  rcases known with steady | ⟨there, allowed, saves⟩
  · exact (edit_saved io change self).steady present steady
  · obtain ⟨root, element⟩ := Option.isSome_iff_exists.mp there
    unfold edit
    rw [if_pos allowed, element]
    dsimp only
    unfold save
    dsimp only
    rw [if_pos saves]
    exact .inl rfl

theorem setInsecure_permanent (system : CertSystem) (io : CertIo) (place : HostPort)
    (self : CertStore)
    (loaded : { self with session := self.session.removeCertificates place }.loadTrustedCerts
      system io = after) :
    self.setInsecure system io place true =
      if place ∈ after.persistent.insecureHosts then after
      else { after.edit io (setInsecureToXml place) with
        persistent := ((after.edit io (setInsecureToXml place)).persistent.removeCertificates
          place).addInsecure place } := by
  have again : after.loadTrustedCerts system io = after := by
    rw [← loaded, loadTrustedCerts_twice]
  unfold setInsecure doSetInsecure isInsecure
  simp only [Bool.not_true, Bool.false_eq_true, if_false, Bool.false_and, loaded, again]
  split
  case isTrue known =>
    rw [if_pos (of_decide_eq_true known)]
    rfl
  case isFalse unknown =>
    rw [if_neg fun known => unknown (decide_eq_true known)]
    rfl

theorem setTrusted_permanent (system : CertSystem) (io : CertIo) (cert : CertData)
    (activationTime expirationTime : Int) (self : CertStore)
    (loaded : { self with session := self.session.eraseInsecure cert.place }.loadTrustedCerts
      system io = after) :
    self.setTrusted system io cert activationTime expirationTime true =
      if doIsTrusted system.isDnsName cert.place cert.data after.persistent.trustedCerts false
        then after
      else
        let edited := after.edit io (setTrustedInXml system cert activationTime expirationTime)
        { edited with
          persistent := (edited.persistent.eraseInsecure cert.place).addCertificate cert } := by
  unfold setTrusted doSetTrusted
  simp only [Bool.not_true, Bool.false_eq_true, if_false, loaded]
  split
  case isTrue known => rfl
  case isFalse unknown => rfl

theorem noteDecision_consistent (before : CertStore) {decision : CertDecision}
    (noted : after.decisions = before.decisions) (present : after.Present)
    (apart : ∀ other, ApartAt after.session after.persistent other)
    (decided : after.Decided place decision)
    (others : ∀ other, other ≠ place → ∀ earlier, before.decisions other = some earlier →
      after.Decided other earlier) :
    (after.noteDecision place decision).Consistent := by
  refine ⟨present, apart, fun other later same => ?_⟩
  unfold noteDecision at same
  dsimp only at same
  split at same
  case isTrue here =>
    subst here
    cases same
    cases decision <;> exact decided
  case isFalse elsewhere =>
    rw [noted] at same
    have kept := others other elsewhere later same
    cases later <;> exact kept

variable {decision : CertDecision} {session : CertContainers}

theorem holds_empty : ¬ ({} : CertContainers).Holds decision place := by
  cases decision with
  | trusted => exact Bool.false_ne_true
  | insecure => exact Finset.notMem_empty place

theorem decided_iff : self.Decided place decision ↔
    self.session.Holds decision place ∨ self.persistent.Holds decision place ∧ self.Steady := by
  cases decision <;> exact Iff.rfl

theorem apartAt_mono {persistent wideSession widePersistent : CertContainers}
    (apart : ApartAt wideSession widePersistent place)
    (within : ∀ decision, session.Holds decision place ∨ persistent.Holds decision place →
      wideSession.Holds decision place ∨ widePersistent.Holds decision place) :
    ApartAt session persistent place :=
  fun both => apart ⟨within .trusted both.1, within .insecure both.2⟩

theorem apartAt_of_decided {persistent : CertContainers}
    (settled : ∀ other, session.Holds other place ∨ persistent.Holds other place →
      other = decision) : ApartAt session persistent place :=
  fun both => by cases (settled .trusted both.1).trans (settled .insecure both.2).symm

theorem session_consistent (consistent : self.Consistent)
    (settles : session.Settles decision place self.session)
    (allowed : ∀ other, self.persistent.Holds other place → other = decision) :
    ({ self with session }.noteDecision place decision).Consistent := by
  refine noteDecision_consistent self rfl consistent.present (fun other => ?_) ?_ ?_
  · rcases Classical.em (other = place) with rfl | elsewhere
    · exact apartAt_of_decided fun other held =>
        held.elim (settles.here other).mp (allowed other)
    · exact apartAt_mono (consistent.apart other) fun earlier =>
        Or.imp_left (settles.elsewhere other earlier elsewhere).mp
  · exact decided_iff.mpr (.inl ((settles.here decision).mpr rfl))
  · intro other elsewhere earlier noted
    exact decided_iff.mpr ((decided_iff.mp (consistent.decided other earlier noted)).imp_left
      (settles.elsewhere other earlier elsewhere).mpr)

/-- The file is loaded first, and the decision is in it already or gets written. -/
theorem permanent_consistent (consistent : self.Consistent)
    (cleared : ∀ other earlier, session.Holds earlier other ↔
      self.session.Holds earlier other ∧ (other = place → earlier = decision))
    (loaded : Loaded system io { self with session } after)
    (agrees : ∀ other, other ≠ place → self.Agrees system io other) {store : CertStore}
    (result : store = after ∧ after.persistent.Holds decision place ∨
      ∃ edited : CertStore, after.Saved edited ∧ edited.Steady ∧
        ∃ persistent : CertContainers, persistent.Settles decision place edited.persistent ∧
          store = { edited with persistent }) :
    (store.noteDecision place decision).Consistent := by
  have kept (other : HostPort) (elsewhere : other ≠ place) (earlier : CertDecision)
      (noted : self.decisions other = some earlier) : after.Decided other earlier := by
    refine Decided.loaded (decided_iff.mpr ?_) loaded
    exact (decided_iff.mp (consistent.decided other earlier noted)).imp_left fun held =>
      (cleared other earlier).mpr ⟨held, fun same => absurd same elsewhere⟩
  have present : after.Present := loaded.present consistent.present
  have same : after.session = session := loaded.session
  have here (other : CertDecision) (held : after.session.Holds other place) : other = decision :=
    ((cleared place other).mp (same ▸ held)).2 rfl
  have elsewhereApart (other : HostPort) (elsewhere : other ≠ place) :
      ApartAt after.session after.persistent other := by
    rw [loaded.persistent]
    refine apartAt_mono (apartAt_upcoming consistent (agrees other elsewhere)) fun earlier => ?_
    exact Or.imp_left fun held => ((cleared other earlier).mp (same ▸ held)).1
  rcases result with ⟨rfl, known⟩ | ⟨edited, saved, steady, persistent, settles, rfl⟩
  · refine noteDecision_consistent self loaded.decisions present (fun other => ?_) ?_ kept
    · rcases Classical.em (other = place) with rfl | elsewhere
      · refine apartAt_of_decided fun earlier held => held.elim (here earlier) fun held => ?_
        have apart := loaded.apart consistent.persistent_apart other
        cases earlier <;> cases decision
        · rfl
        · exact absurd ⟨held, known⟩ apart
        · exact absurd ⟨known, held⟩ apart
        · rfl
      · exact elsewhereApart other elsewhere
    · refine decided_iff.mpr (.inr ⟨known, loaded.known.resolve_right ?_⟩)
      rintro ⟨_, none, _⟩
      exact holds_empty (none ▸ known)
  · refine noteDecision_consistent self (saved.decisions.trans loaded.decisions)
      (saved.present present) (fun other => ?_) ?_ ?_
    · rw [saved.persistent] at settles
      dsimp only
      rw [saved.session]
      rcases Classical.em (other = place) with rfl | elsewhere
      · exact apartAt_of_decided fun earlier held =>
          held.elim (here earlier) (settles.here earlier).mp
      · exact apartAt_mono (elsewhereApart other elsewhere) fun earlier =>
          Or.imp_right (settles.elsewhere other earlier elsewhere).mp
    · exact decided_iff.mpr (.inr ⟨(settles.here decision).mpr rfl, steady⟩)
    · intro other elsewhere earlier noted
      have decided := decided_iff.mp (kept other elsewhere earlier noted)
      rw [← saved.session, ← saved.persistent] at decided
      exact decided_iff.mpr (decided.imp_right fun held =>
        ⟨(settles.elsewhere other earlier elsewhere).mpr held.1, steady⟩)

theorem setInsecure_consistent {permanent : Bool} (consistent : self.Consistent)
    (allowed : self.Allowed system (.setInsecure io place permanent)) :
    ((self.setInsecure system io place permanent).noteDecision place .insecure).Consistent := by
  cases permanent with
  | false =>
    have settled := session_consistent consistent
      (insecure_settles self.session place) (by
        rintro (_ | _) held
        · cases held.symm.trans allowed
        · rfl)
    exact settled
  | true =>
    obtain ⟨agrees, creates⟩ := allowed
    have loaded := loadTrustedCerts_loaded system io
      { self with session := self.session.removeCertificates place }
    refine permanent_consistent consistent (removeCertificates_holds self.session place)
      loaded agrees ?_
    rw [setInsecure_permanent system io place self rfl]
    split
    case isTrue known => exact .inl ⟨rfl, known⟩
    case isFalse =>
      exact .inr ⟨_, edit_saved io (setInsecureToXml place) _,
        edit_steady (loaded.present consistent.present) (loaded.known.imp_right fun missing =>
          ⟨missing.2.2, creates missing.1⟩), _, insecure_settles _ place, rfl⟩

theorem setTrusted_consistent {cert : CertData} {activationTime expirationTime : Int}
    {permanent : Bool} (consistent : self.Consistent) (allowed : self.Allowed system
      (.setTrusted io cert activationTime expirationTime permanent)) :
    ((self.setTrusted system io cert activationTime expirationTime permanent).noteDecision
      cert.place .trusted).Consistent := by
  cases permanent with
  | false =>
    have settled := session_consistent consistent
      (trusted_settles self.session cert) (by
        rintro (_ | _) held
        · rfl
        · exact absurd held allowed)
    exact settled
  | true =>
    obtain ⟨agrees, creates⟩ := allowed
    have loaded := loadTrustedCerts_loaded system io
      { self with session := self.session.eraseInsecure cert.place }
    refine permanent_consistent consistent (eraseInsecure_holds self.session cert.place)
      loaded agrees ?_
    rw [setTrusted_permanent system io cert activationTime expirationTime self rfl]
    split
    case isTrue known => exact .inl ⟨rfl, doIsTrusted_hasCertificate known⟩
    case isFalse =>
      exact .inr ⟨_, edit_saved io (setTrustedInXml system cert activationTime expirationTime) _,
        edit_steady (loaded.present consistent.present) (loaded.known.imp_right fun missing =>
          ⟨missing.2.2, creates missing.1⟩), _, trusted_settles _ cert, rfl⟩

theorem step_consistent {next : CertStore} {call : Call} (consistent : self.Consistent)
    (allowed : self.Allowed system call) (taken : self.step system call = some next) :
    next.Consistent := by
  cases call with
  | setTrusted io cert activationTime expirationTime permanent =>
    cases taken
    exact setTrusted_consistent consistent allowed
  | setInsecure io place permanent =>
    cases taken
    exact setInsecure_consistent consistent allowed
  | loadTrustedCerts io =>
    cases taken
    exact loadTrustedCerts_consistent consistent allowed
  | changed file =>
    cases taken
    exact ⟨fun seen => (by cases seen), consistent.apart, fun _ _ noted => (by cases noted)⟩

theorem start_consistent (file : CertFile) : Consistent { file } where
  present seen := nomatch seen
  apart place both := by
    rcases both.1 with trusted | trusted
    · cases trusted
    · cases trusted
  decided _ _ noted := nomatch noted

/-- No host and port are both trusted and insecure, and the last decision since the file was
changed from outside tells which of the two they are. -/
structure Respected (system : CertSystem) (io : CertIo) (store : CertStore) (place : HostPort) :
    Prop where
  apart : ¬ ((store.hasCertificate system io place).1 = true ∧
    (store.isInsecure system io place false).1 = true)
  trusted : store.decisions place = some .trusted →
    (store.hasCertificate system io place).1 = true
  insecure : store.decisions place = some .insecure →
    (store.isInsecure system io place false).1 = true

theorem hasCertificate_iff (system : CertSystem) (io : CertIo) (self : CertStore)
    (place : HostPort) :
    (self.hasCertificate system io place).1 = true ↔
      self.session.hasCertificate place = true ∨
        (self.upcoming system io).hasCertificate place = true := by
  rw [← (loadTrustedCerts_loaded system io self).persistent]
  unfold hasCertificate
  split
  case isTrue session => exact ⟨fun _ => .inl session, fun _ => rfl⟩
  case isFalse session => exact ⟨.inr, fun either => either.resolve_left session⟩

theorem isInsecure_iff (system : CertSystem) (io : CertIo) (self : CertStore) (place : HostPort) :
    (self.isInsecure system io place false).1 = true ↔
      place ∈ self.session.insecureHosts ∨
        place ∈ (self.upcoming system io).insecureHosts := by
  rw [← (loadTrustedCerts_loaded system io self).persistent]
  unfold isInsecure
  split
  case isTrue session =>
    exact ⟨fun _ => .inl (of_decide_eq_true (by simpa using session)), fun _ => rfl⟩
  case isFalse session =>
    have session : place ∉ self.session.insecureHosts := by simpa using session
    exact ⟨fun known => .inr (of_decide_eq_true known),
      fun either => decide_eq_true (either.resolve_left session)⟩

theorem Consistent.respected (consistent : self.Consistent)
    (agrees : self.Agrees system io place) : Respected system io self place := by
  have loaded := loadTrustedCerts_loaded system io self
  refine ⟨fun both => ?_, fun noted => ?_, fun noted => ?_⟩
  · exact apartAt_upcoming consistent agrees ⟨(hasCertificate_iff system io self place).mp both.1,
        (isInsecure_iff system io self place).mp both.2⟩
  · rw [hasCertificate_iff, ← loaded.persistent]
    rcases consistent.decided place .trusted noted with session | ⟨persistent, steady⟩
    · exact .inl session
    · exact .inr ((loaded.kept steady).1 ▸ persistent)
  · rw [isInsecure_iff, ← loaded.persistent]
    rcases consistent.decided place .insecure noted with session | ⟨persistent, steady⟩
    · exact .inl session
    · exact .inr ((loaded.kept steady).1 ▸ persistent)

/-- In every run whose calls are all allowed, decisions are respected by whoever asks then. -/
theorem decisions_respected (system : CertSystem) {file : CertFile}
    {trace : List (CertStore × Call)} {store : CertStore}
    (run : Run (step system) { file } trace store)
    (allowed : ∀ taken ∈ trace, Allowed system taken.1 taken.2) (io : CertIo)
    (place : HostPort) (agrees : store.Agrees system io place) :
    Respected system io store place := by
  have consistent : store.Consistent := run.invariant_of_forall (start_consistent file)
      (fun _ _ _ consistent allowed taken => step_consistent consistent allowed taken) allowed
  exact consistent.respected agrees

def asciiSystem : CertSystem where
  isDnsName _ := true
  toWstring bytes := bytes.map UInt8.toNat
  getTextElement bytes := bytes.map UInt8.toNat

/-- A certificate of one host for good, and another host that is insecure for the session -/
theorem decisions_respected_session :
    let cert : CertData := { host := asciiBytes "a", port := 21, data := [1] }
    let place : HostPort := (asciiBytes "b", 21)
    ∃ trace store, Run (step asciiSystem) { file := .missing } trace store ∧
      store.decisions cert.place = some .trusted ∧ store.decisions place = some .insecure ∧
      Respected asciiSystem { now := 5 } store place := by
  intro cert place
  have run := Run.cons
    (show step asciiSystem { file := .missing } (.setTrusted { now := 5 } cert 1 9 true) = some _
      from rfl)
    (Run.cons (show step asciiSystem _ (.setInsecure { now := 5 } place false) = some _ from rfl)
      .refl)
  refine ⟨_, _, run, rfl, rfl, decisions_respected asciiSystem run ?_ _ _ ?_⟩
  · refine forall_mem_cons.mpr ⟨⟨fun other _ => ⟨?_, ?_⟩, fun _ => ⟨rfl, rfl⟩⟩,
      forall_mem_cons.mpr ⟨?_, forall_mem_nil _⟩⟩
    · exact fun session => by cases session.1
    · exact fun session => absurd session.1 (Finset.notMem_empty other)
    · change CertContainers.hasCertificate _ _ = false
      decide +kernel
  · unfold Agrees
    decide +kernel

/-- A certificate is trusted for good, and the user allows an insecure connection to its host for
the session. -/
theorem decision_disregarded :
    ¬ ∀ (system : CertSystem) (file : CertFile) (trace : List (CertStore × Call))
      (store : CertStore) (io : CertIo) (place : HostPort),
      Run (step system) { file } trace store → Respected system io store place := by
  intro every
  let cert : CertData := { host := asciiBytes "a", port := 21, data := [1] }
  have run := Run.cons
    (show step asciiSystem { file := .missing } (.setTrusted { now := 5 } cert 1 9 true) = some _
      from rfl)
    (Run.cons (show step asciiSystem _ (.setInsecure { now := 5 } cert.place false) = some _
      from rfl) .refl)
  exact (every asciiSystem .missing _ _ { now := 5 } cert.place run).apart
    ⟨by decide +kernel, by decide +kernel⟩

end CertStore

end FileZilla
