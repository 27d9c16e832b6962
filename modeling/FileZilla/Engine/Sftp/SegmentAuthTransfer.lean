import FileZilla.Engine.Sftp.SegmentAuthSteps
import FileZilla.Engine.Sftp.Segments

namespace FileZilla.Sftp.SegmentAuth

open List Function SegmentConnection

namespace SegmentConnection

variable {settings : Settings} {self conn : SegmentConnection} {channelOpens : Bool}

/-- The transfer is told nothing, or that the connection failed. -/
def Modest (self : SegmentConnection) : Prop :=
  self.notice = none ∨ self.notice = some .failed

theorem Modest.fail (modest : Modest self) : Modest self.fail := by
  unfold SegmentConnection.fail
  split
  case isTrue => exact modest
  case isFalse => exact .inr rfl

theorem Modest.offerKey (modest : Modest self) (key : PublicKey) :
    Modest (self.offerKey key) := by
  unfold SegmentConnection.offerKey
  dsimp only
  split <;> exact modest

theorem Modest.nextOtherAuth (modest : Modest self) :
    Modest (self.nextOtherAuth settings) := by
  unfold SegmentConnection.nextOtherAuth
  split
  case isTrue => exact modest
  case isFalse =>
    split
    case isTrue => exact modest
    case isFalse => exact modest.fail

theorem Modest.nextAuth (modest : Modest self) : Modest (self.nextAuth settings) := by
  rcases nextAuth_cases settings self with same | ⟨-, -, -, asks⟩ |
    ⟨-, -, skipped, info, rest, key, -, -, offers⟩ | other | ⟨-, -, other⟩
  · rw [same]
    exact modest
  · rw [asks]
    exact modest
  · have kept : Modest (self.backKey info rest key) := modest
    rw [offers]
    exact kept.offerKey key
  · rw [other]
    exact modest.nextOtherAuth
  · have kept : Modest { self with keys := [] } := modest
    rw [other]
    exact kept.nextOtherAuth

theorem Modest.onDone (modest : Modest self) (establishing : self.ready = false) :
    Modest self.onDone := by
  unfold SegmentConnection.onDone
  split
  case isTrue => exact modest
  case isFalse =>
    rw [if_neg (by simp [establishing])]
    exact modest.fail

theorem notice_handle (modest : Modest self) (establishing : self.ready = false)
    (event : Notification) (still : (self.handle settings channelOpens event).ready = false) :
    Modest (self.handle settings channelOpens event) ∨
      (self.handle settings channelOpens event).notice = some .hostkeyMismatch := by
  cases event with
  | hostkeyVerification key =>
    simp only [handle, onHostkeyVerification]
    split
    case isTrue => exact .inl modest
    case isFalse => exact .inr rfl
  | authRequested methods isContinuation =>
    have told : Modest { self with methods } := modest
    have popped : Modest { self with methods }.popKey := modest
    refine .inl ?_
    simp only [handle, onAuthRequested]
    split
    case isTrue => exact popped.nextAuth
    case isFalse => exact told.nextAuth
  | authDone =>
    refine .inl ?_
    simp only [handle, onAuthDone]
    split
    case isTrue => exact modest
    case isFalse => exact modest.fail
  | publicKeyOkay =>
    have popped : Modest self.popKey := modest
    refine .inl ?_
    simp only [handle, onAuthPubkeyOk]
    split
    case h_1 => exact modest.fail
    case h_2 =>
      split
      case isTrue => exact popped.nextAuth
      case isFalse => exact modest
  | signatureFailure =>
    have popped : Modest self.popKey := modest
    exact .inl popped.nextAuth
  | interactivePrompt prompts =>
    refine .inl ?_
    simp only [handle, onAuthKeyboardInteractivePrompt]
    split
    case isTrue => exact modest
    case isFalse => exact modest.fail
  | passwordChangeRequest => exact .inl modest.fail
  | sftpReady => contradiction
  | sftpDone => exact .inl (modest.onDone establishing)
  | sessionDone => exact .inl (modest.onDone establishing)
  | availableKeys keys =>
    refine .inl ?_
    simp only [handle, onAgentKeys]
    split
    case isTrue => exact modest
    case isFalse =>
      refine Modest.nextAuth ?_
      unfold setKeysLoaded
      split <;> exact modest

theorem notice_step {next : SegmentConnection} {event : Event}
    (taken : self.step settings event = some next) (establishing : self.ready = false)
    (still : next.ready = false) : Modest next ∨ next.notice = some .hostkeyMismatch := by
  have modest : Modest { self with notice := none } := .inl rfl
  cases event with
  | connection error =>
    obtain ⟨-, rfl⟩ := some_of_guard taken
    cases error with
    | true => exact .inl modest.fail
    | false => exact .inl modest
  | server message =>
    simp only [step] at taken
    split at taken
    case h_1 => contradiction
    case h_2 client found =>
      obtain ⟨-, rfl⟩ := some_of_refusal taken
      exact .inl modest
  | signature made =>
    obtain ⟨-, rfl⟩ := some_of_guard taken
    unfold onSignature
    dsimp only
    split <;> exact .inl modest
  | agentAnswer =>
    obtain ⟨-, rfl⟩ := some_of_guard taken
    exact .inl modest
  | sessionEnds =>
    obtain ⟨-, rfl⟩ := some_of_guard taken
    exact .inl modest
  | sftpReady =>
    obtain ⟨-, rfl⟩ := some_of_guard taken
    exact .inl modest
  | sftpDone =>
    obtain ⟨-, rfl⟩ := some_of_guard taken
    exact .inl modest
  | dispatch channelOpens =>
    simp only [step] at taken
    split at taken
    case h_1 => contradiction
    case h_2 notification events queue =>
      cases taken
      have popped : ∀ {handled : Nat}, Modest { self with
          notice := none, events := events, handled := handled } := modest
      exact notice_handle popped establishing notification still
  | timeout =>
    obtain ⟨-, rfl⟩ := some_of_guard taken
    have late : Modest { self with notice := none, connectTimer := false } := modest
    unfold onEstablishTimeout
    dsimp only
    split
    case isTrue => exact .inl late
    case isFalse => exact .inl late.fail

end SegmentConnection

structure Transfer (count : Nat) where
  download : SegmentedDownload count
  connections : Nat → SegmentConnection := fun _ => {}

variable {count : Nat}

def fromConnection : SegmentedDownload.Event count → Bool
  | .connectionReady _ => true
  | .connectionFailed _ => true
  | .connectionDropped _ => true
  | .hostkeyMismatch _ => true
  | _ => false

def notify (index : Nat) (op : SegmentedDownload count) : Notice → SegmentedDownload count
  | .ready => (op.setConnection index .ready).onSegmentConnectionReady index
  | .failed => (op.setConnection index .failed).onSegmentConnectionFailed
  | .dropped =>
    ((op.setConnection index .failed).disconnect (some index)).onSegmentConnectionDropped
  | .hostkeyMismatch =>
    ((op.setConnection index .failed).disconnect (some index)).fail .criticalError

namespace Transfer

inductive Event (count : Nat)
  | connection (index : Nat) (event : SegmentAuth.Event)
  | download (event : SegmentedDownload.Event count)

def told (index : Nat) (op : SegmentedDownload count) (conn : SegmentConnection) :
    SegmentedDownload count :=
  match conn.notice with
  | none => op
  | some notice => notify index op notice

def step (settings : Settings) (self : Transfer count) : Event count → Option (Transfer count)
  | .connection index event =>
    if index < self.download.connections.length then
      match (self.connections index).step settings event with
      | none => none
      | some conn =>
        some {
          download := told index self.download conn
          connections := Function.update self.connections index conn }
    else
      none
  | .download event =>
    if fromConnection event then none
    else (self.download.step event).map fun download => { self with download }

end Transfer

structure Untouched (index : Nat) (before after : SegmentedDownload count) : Prop where
  segments : after.segments = before.segments
  endpoints : after.endpoints = before.endpoints
  opState : after.opState = before.opState
  segFailed : after.segFailed = before.segFailed
  result : after.result = before.result
  others : ∀ other ≠ index, other < before.connections.length →
    after.connections[other]? = before.connections[other]?
  further : ∀ other ≥ before.connections.length,
    after.connections[other]? = none ∨ after.connections[other]? = some .establishing

theorem Untouched.refl (index : Nat) (op : SegmentedDownload count) : Untouched index op op :=
  ⟨rfl, rfl, rfl, rfl, rfl, fun _ _ _ => rfl, fun _ beyond =>
    .inl (getElem?_eq_none_iff.mpr beyond)⟩

theorem untouched_setConnection (index : Nat) (op : SegmentedDownload count)
    (state : ConnectionState) : Untouched index op (op.setConnection index state) where
  segments := rfl
  endpoints := rfl
  opState := rfl
  segFailed := rfl
  result := rfl
  others := fun _ different _ => getElem?_set_ne (Ne.symm different)
  further := fun other beyond => by
    refine .inl (getElem?_eq_none_iff.mpr ?_)
    simpa [SegmentedDownload.setConnection] using beyond

variable {index : Nat}

theorem Untouched.startNext {before after : SegmentedDownload count}
    (untouched : Untouched index before after)
    (length : after.connections.length = before.connections.length) :
    Untouched index before after.startNextSegmentConnection := by
  unfold SegmentedDownload.startNextSegmentConnection
  split
  case isTrue => exact untouched
  case isFalse =>
    split
    case isFalse => exact untouched
    case isTrue =>
      refine ⟨untouched.segments, untouched.endpoints, untouched.opState, untouched.segFailed,
        untouched.result, fun other different inside => ?_, fun other beyond => ?_⟩
      · have within : other < after.connections.length := length ▸ inside
        exact (getElem?_append_left within).trans (untouched.others other different inside)
      · have outside : after.connections.length ≤ other := length ▸ beyond
        rw [getElem?_append_right outside]
        cases other - after.connections.length with
        | zero => exact .inr rfl
        | succ further => exact .inl rfl

theorem untouched_failed (index : Nat) (op : SegmentedDownload count) :
    Untouched index op (notify index op .failed) := by
  have untouched := untouched_setConnection index op .failed
  unfold notify SegmentedDownload.onSegmentConnectionFailed
  dsimp only
  split
  case isTrue => exact untouched
  case isFalse =>
    exact untouched.startNext (by simp [SegmentedDownload.setConnection])

structure Guarantee (settings : Settings) (conn : SegmentConnection) : Prop where
  accepted : ∀ key, .acceptHostkey key ∈ conn.calls → key = settings.verifiedHostkey
  guarded : ∀ before made after, conn.calls = before ++ made :: after →
    (∀ key, made ≠ .acceptHostkey key) → .acceptHostkey settings.verifiedHostkey ∈ before
  asksNobody : .askUser ∉ conn.calls
  offered : conn.offeredKeys.Nodup
  password : conn.calls.count .sendPassword ≤ 1
  response : conn.calls.count .sendResponse ≤ 1
  finite : conn.ready = false → conn.failed = false → conn.handled ≤ settings.bound ∧
      ∃ next, conn.step settings .timeout = some next ∧ next.failed = true

section Guarantee

open SegmentConnection

variable {settings : Settings} {conn : SegmentConnection}

theorem guarded_of_opened (opened : Opened settings conn) {before after : List Call} {made : Call}
    (split : conn.calls = before ++ made :: after) (other : ∀ key, made ≠ .acceptHostkey key) :
    .acceptHostkey settings.verifiedHostkey ∈ before := by
  rcases opened with quiet | head
  · rw [quiet.noCalls] at split
    simp at split
  · rw [split] at head
    cases before with
    | nil => exact absurd (Option.some.inj head) (other _)
    | cons first rest =>
      cases head
      exact mem_cons_self

theorem timeout_fails (core : Core settings conn) (establishing : conn.ready = false)
    (alive : conn.failed = false) :
    ∃ next, conn.step settings .timeout = some next ∧ next.failed = true := by
  have timer := core.timer alive establishing
  refine ⟨{ conn with notice := none }.onEstablishTimeout, ?_, ?_⟩
  · simp [step, timer]
  · simp [onEstablishTimeout, fail, establishing, alive]

theorem guarantee (invariant : Invariant settings conn) (opened : Opened settings conn) :
    Guarantee settings conn where
  accepted := fun key member => (invariant.core.accepted key member).1
  guarded := fun _ _ _ split other => guarded_of_opened opened split other
  asksNobody := invariant.core.asksNobody
  offered := (nodup_append.mp invariant.core.keysOnce).1
  password := invariant.core.passwords.trans (Bool.toNat_le _)
  response := invariant.core.responses
  finite := fun establishing alive => by
    have bound := invariant.bounded alive establishing
    exact ⟨by omega, timeout_fails invariant.core establishing alive⟩

end Guarantee

namespace Transfer

variable {settings : Settings}

def Event.NotAskedAgain (settings : Settings) (self : Transfer count) : Event count → Prop
  | .connection index event => SegmentAuth.NotAskedAgain settings (self.connections index) event
  | .download _ => True

def start (op : SegmentedDownload count) : Transfer count :=
  { download := op }

variable {self next : Transfer count}

theorem step_connection {index : Nat} {event : SegmentAuth.Event}
    (taken : self.step settings (.connection index event) = some next) :
    ∃ conn, (self.connections index).step settings event = some conn ∧
      next = {
        download := told index self.download conn
        connections := Function.update self.connections index conn } := by
  obtain ⟨-, taken⟩ := of_guard taken
  split at taken
  case h_1 => contradiction
  case h_2 conn stepped =>
    cases taken
    exact ⟨conn, stepped, rfl⟩

theorem step_download {event : SegmentedDownload.Event count}
    (taken : self.step settings (.download event) = some next) :
    next.connections = self.connections := by
  obtain ⟨-, taken⟩ := of_refusal taken
  obtain ⟨download, -, rfl⟩ := Option.map_eq_some_iff.mp taken
  rfl

def Every (Kept : SegmentConnection → Prop) (self : Transfer count) : Prop :=
  ∀ index, Kept (self.connections index)

theorem kept_step {Kept : SegmentConnection → Prop} {event : Event count}
    (keeps : ∀ index inner conn, event = .connection index inner → Kept (self.connections index) →
      (self.connections index).step settings inner = some conn → Kept conn)
    (kept : self.Every Kept) (taken : self.step settings event = some next) :
    next.Every Kept := by
  cases event with
  | download event =>
    rw [Every, step_download taken]
    exact kept
  | connection index inner =>
    obtain ⟨conn, stepped, rfl⟩ := step_connection taken
    intro other
    by_cases same : other = index
    · subst same
      dsimp only
      rw [update_self]
      exact keeps other inner conn rfl (kept other) stepped
    · dsimp only
      rw [update_of_ne same]
      exact kept other

end Transfer

section Runs

variable {settings : Settings} {op : SegmentedDownload count}
  {trace : List (Transfer count × Transfer.Event count)} {self : Transfer count}

theorem untouched_step {before next : Transfer count} {index : Nat} {event : SegmentAuth.Event}
    (taken : before.step settings (.connection index event) = some next)
    (establishing : (before.connections index).ready = false)
    (still : (next.connections index).ready = false)
    (verified : (next.connections index).notice ≠ some .hostkeyMismatch) :
    Untouched index before.download next.download := by
  obtain ⟨conn, stepped, rfl⟩ := Transfer.step_connection taken
  have updated : update before.connections index conn index = conn :=
    update_self ..
  simp only [updated] at still verified
  rcases notice_step stepped establishing still with (none | failed) | mismatch
  · simp only [Transfer.told, none]
    exact Untouched.refl index before.download
  · simp only [Transfer.told, failed]
    exact untouched_failed index before.download
  · exact absurd mismatch verified

/-- As long as no server asks again for the password that it got as a response -/
theorem segment_connections_are_safe
    (run : Run (Transfer.step settings) (Transfer.start op) trace self)
    (once : ∀ taken ∈ trace, taken.2.NotAskedAgain settings taken.1) :
    (∀ index, Guarantee settings (self.connections index)) ∧
      ∀ before index event next, (before, .connection index event) ∈ trace →
        before.step settings (.connection index event) = some next →
          (before.connections index).ready = false → (next.connections index).ready = false →
            (next.connections index).notice ≠ some .hostkeyMismatch →
              Untouched index before.download next.download := by
  have opened : self.Every (Opened settings) := by
    refine Run.invariant ?_ ?_ run
    · intro index
      exact .inl ⟨rfl, fun _ none => (by cases none), fun _ member => (by cases member), rfl, rfl⟩
    · intro before event next kept taken
      exact Transfer.kept_step (fun _ _ _ _ opened stepped => opened.step stepped) kept taken
  have invariant : self.Every (Invariant settings) := by
    refine Run.invariant_of_forall ?_ ?_ run once
    · exact fun _ => invariant_initial settings
    · intro before event next kept allowed taken
      refine Transfer.kept_step ?_ kept taken
      rintro index inner conn rfl invariant stepped
      exact invariant.step allowed stepped
  constructor
  · exact fun index => guarantee (invariant index) (opened index)
  · intro before index event next _ taken establishing still verified
    exact untouched_step taken establishing still verified

def passwordOnly : Settings where
  verifiedHostkey := [1]
  password := asciiBytes "secret"
  anonymous := false
  user := asciiBytes "me"
  host := asciiBytes "server"
  keyFiles := []
  readKeyInfos := fun _ => none
  agentKeys := []

def twoSegments : SegmentedDownload 2 where
  remoteFileSize := 20
  segments := fun index => { offset := 10 * index, length := 10, requestOffset := 10 * index }
  connections := [.establishing]
  opState := .segmented

def passwordLogon : List (Transfer.Event 2) :=
  [.connection false, .server (.dhReply [1] false), .dispatch true, .server .serviceAccept,
    .server (.authFailure (asciiBytes "password") false), .dispatch true, .server .authSuccess,
    .dispatch true, .sftpReady, .dispatch true].map (.connection 0)

theorem segment_connections_are_safe_passwordLogon :
    ∃ trace self, Run (Transfer.step passwordOnly) (Transfer.start twoSegments) trace self ∧
      trace.map Prod.snd = passwordLogon ∧
        (self.connections 0).ready = true ∧
          (self.connections 0).calls = [.acceptHostkey [1], .sendPassword] ∧
            ∀ index, Guarantee passwordOnly (self.connections index) := by
  have run := @execute_run _ _ (Transfer.step passwordOnly) (Transfer.start twoSegments) _
    passwordLogon _ rfl
  refine ⟨_, _, run, rfl, rfl, rfl, (segment_connections_are_safe run ?_).1⟩
  intro taken member
  simp only [mem_cons, not_mem_nil, or_false] at member
  obtain rfl | rfl | rfl | rfl | rfl | rfl | rfl | rfl | rfl | rfl := member
  · trivial
  · trivial
  · exact fun _ _ queue => Notification.noConfusion (cons.inj queue).1
  · trivial
  · trivial
  · exact fun _ _ queue => Notification.noConfusion (cons.inj queue).1
  · trivial
  · exact fun _ _ queue => Notification.noConfusion (cons.inj queue).1
  · trivial
  · exact fun _ _ queue => Notification.noConfusion (cons.inj queue).1

def askedThrice : List (Transfer.Event 2) :=
  [.connection false, .server (.dhReply [1] false), .dispatch true, .server .serviceAccept,
    .server (.authFailure (asciiBytes "keyboard-interactive") false), .dispatch true,
    .server (.infoRequest [] [] [asciiBytes "Password: "]), .dispatch true,
    .server (.infoRequest [] [] [asciiBytes "Password: "]), .dispatch true,
    .server (.infoRequest [] [] [asciiBytes "Password: "]), .dispatch true].map (.connection 0)

theorem password_is_sent_again_and_again :
    ∃ trace self, Run (Transfer.step passwordOnly) (Transfer.start twoSegments) trace self ∧
      trace.map Prod.snd = askedThrice ∧ (self.connections 0).ready = false ∧
        (self.connections 0).failed = false ∧
          (self.connections 0).calls.count .sendResponse = 3 ∧
            ¬Guarantee passwordOnly (self.connections 0) := by
  have run := @execute_run _ _ (Transfer.step passwordOnly) (Transfer.start twoSegments) _
    askedThrice _ rfl
  refine ⟨_, _, run, rfl, rfl, rfl, rfl, fun guarantee => ?_⟩
  exact absurd guarantee.response (by decide)

end Runs

end FileZilla.Sftp.SegmentAuth
