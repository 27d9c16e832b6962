import FileZilla.Engine.Sftp.SegmentAuthRuns

namespace FileZilla.Sftp.SegmentAuth

open List Option Nat

/-- No further prompt asks for the password once it has been sent as a response. -/
def NotAskedAgain (settings : Settings) (self : SegmentConnection) : Event → Prop
  | .dispatch _ => ∀ prompts rest, self.events = .interactivePrompt prompts :: rest →
      self.answersPrompts settings prompts = true → .sendResponse ∉ self.calls
  | _ => True

namespace SshClient

/-- What a message of the server leaves to be handled, and that it is no answer of the agent -/
structure Reads (client : SshClient) (received : SshClient × Option Notification) : Prop where
  ordered : received.1.Ordered
  weight : received.1.weight + (received.2.toList.map (·.weight)).sum ≤ client.weight
  other : ∀ event ∈ received.2, event.isAvailableKeys = false

variable {client : SshClient}

theorem reads_disconnect (ordered : client.Ordered) : client.Reads (client.sendDisconnect, none) :=
  ⟨ordered, (add_zero _).le, fun _ none => (by cases none)⟩

theorem reads_none (ordered : client.Ordered) : client.Reads (client, none) :=
  ⟨ordered, (add_zero _).le, fun _ none => (by cases none)⟩

theorem reads_answer (ordered : client.Ordered) {auth : PendingAuth} {rest : List PendingAuth}
    (pending : client.pendingAuths = auth :: rest) {event : Notification}
    (lighter : event.weight ≤ auth.weight) (other : event.isAvailableKeys = false) :
    client.Reads ({ client with pendingAuths := rest }, some event) where
  ordered := ordered
  weight := by
    simp only [SshClient.weight, pending, map_cons, sum_cons, toList_some,
      map_nil, sum_nil]
    omega
  other := fun found member => by
    cases member
    exact other

theorem one_le_weight (auth : PendingAuth) : 1 ≤ auth.weight := by
  unfold PendingAuth.weight
  split <;> omega

theorem reads_processUserauth (ordered : client.Ordered) (started : client.initialKex = false)
    (message : ServerMessage) : client.Reads (client.processUserauth message) := by
  unfold processUserauth
  split
  case h_1 auth rest methods continues pending =>
    split
    case isTrue =>
      refine ⟨ordered, ?_, fun _ none => absurd none (by simp)⟩
      simp only [sendDisconnect, SshClient.weight, pending, map_cons, sum_cons,
        toList_none, map_nil, sum_nil]
      omega
    case isFalse => exact reads_answer ordered pending (one_le_weight auth) rfl
  case h_2 auth rest pending =>
    split
    case isTrue => exact reads_disconnect ordered
    case isFalse =>
      refine ⟨fun initial => absurd (started.symm.trans initial) (by decide), ?_, ?_⟩
      · have paid := one_le_weight auth
        simp only [SshClient.weight, pending, map_cons, sum_cons,
          toList_some, map_nil, sum_nil, Notification.weight, Service.weight]
        omega
      · intro event member
        cases member
        rfl
  case h_3 auth rest pending =>
    split
    case isTrue => exact reads_answer ordered pending (zero_le _) rfl
    case isFalse => exact reads_disconnect ordered
  case h_4 auth rest pending =>
    split
    case isTrue requested =>
      refine reads_answer ordered pending ?_ rfl
      rw [PendingAuth.weight, if_pos requested]
      exact le_refl _
    case isFalse => exact reads_disconnect ordered
  case h_5 auth rest name instruction prompts pending =>
    split
    case isTrue => exact reads_disconnect ordered
    case isFalse fits =>
      have interactive : auth.method = .keyboardInteractive := by
        by_contra other
        exact fits (.inl other)
      split
      case isTrue =>
        split
        case isTrue => exact reads_disconnect ordered
        case isFalse =>
          refine ⟨ordered, ?_, fun _ none => absurd none (by simp)⟩
          simp [SshClient.weight, pending, PendingAuth.weight, interactive]
      case isFalse =>
        refine ⟨ordered, (add_zero _).le, fun event member => ?_⟩
        cases member
        rfl
  case h_6 => exact reads_disconnect ordered

open ServerMessage (noConfusion)

theorem reads_receive (ordered : client.Ordered) (message : ServerMessage) :
    client.Reads (client.receive message) := by
  have userauth (other : ∀ key same, message ≠ .dhReply key same) (request : message ≠ .serviceAccept)
      (present : message ≠ .disconnect) : client.receive message =
        if client.service = .connection then (client, none)
        else if client.service = .userauth then client.processUserauth message
        else (client.sendDisconnect, none) := by
    cases message <;> first | rfl | exact absurd rfl (other _ _) | contradiction
  have reads (other : ∀ key same, message ≠ .dhReply key same)
      (request : message ≠ .serviceAccept) (present : message ≠ .disconnect) :
      client.Reads (client.receive message) := by
    rw [userauth other request present]
    split
    case isTrue => exact reads_none ordered
    case isFalse =>
      split
      case isTrue serves =>
        refine reads_processUserauth ordered ?_ message
        by_contra initial
        have fresh := ordered (by simpa using initial)
        cases serves.symm.trans fresh
      case isFalse => exact reads_disconnect ordered
  cases message with
  | dhReply key sameAlgorithms =>
    unfold receive
    dsimp only
    split
    case isTrue => exact reads_none ordered
    case isFalse =>
      refine ⟨ordered, (add_zero _).le, fun event member => ?_⟩
      cases member
      rfl
  | serviceAccept =>
    unfold receive
    dsimp only
    split
    case isTrue requested =>
      refine ⟨?_, ?_, fun _ none => (by cases none)⟩
      · intro initial
        exact absurd (requested.symm.trans (ordered initial)) (by decide)
      · simp only [SshClient.weight, request, requested, Service.weight, map_append,
          sum_append, map_cons, map_nil, sum_cons, sum_nil,
          toList_none, PendingAuth.weight, reduceCtorEq, false_and, if_false]
        omega
    case isFalse => exact reads_disconnect ordered
  | disconnect => exact reads_disconnect ordered
  | authFailure methods continues =>
    exact reads (fun _ _ => noConfusion) noConfusion
      noConfusion
  | authSuccess =>
    exact reads (fun _ _ => noConfusion) noConfusion
      noConfusion
  | passwordChangeRequest =>
    exact reads (fun _ _ => noConfusion) noConfusion
      noConfusion
  | publicKeyOkay =>
    exact reads (fun _ _ => noConfusion) noConfusion
      noConfusion
  | infoRequest name instruction prompts =>
    exact reads (fun _ _ => noConfusion) noConfusion
      noConfusion

end SshClient

namespace SegmentConnection

variable {settings : Settings} {self : SegmentConnection} {channelOpens : Bool}

open Bounded

section Handle

variable {event : Notification} {events : List Notification}

theorem Core.availableKeys (core : Core settings self) {keys : List AgentKey}
    (queue : self.events = .availableKeys keys :: events) :
    self.agent = true ∧ self.keysLoaded = false ∧
      (self.taken (.availableKeys keys) events).agentAnswers = 0 := by
  have answers := core.answers
  have one : self.agentAnswers = (self.taken (.availableKeys keys) events).agentAnswers + 1 := by
    rw [agentAnswers, queue, countP_cons_of_pos rfl]
    rfl
  cases agent : self.agent with
  | false => simp [agent] at answers; omega
  | true =>
    cases loaded : self.keysLoaded with
    | true => simp [loaded] at answers; omega
    | false =>
      simp only [agent, loaded, Bool.not_false, Bool.and_self, Bool.toNat_true] at answers
      exact ⟨rfl, rfl, by omega⟩

theorem Core.handle (core : Core settings self) (queue : self.events = event :: events)
    (first : NotAskedAgain settings self (.dispatch channelOpens)) :
    Core settings ((self.taken event events).handle settings channelOpens event) := by
  have taken := core.taken queue
  cases event with
  | hostkeyVerification key => exact taken.onHostkeyVerification key
  | authRequested methods isContinuation => exact taken.onAuthRequested methods isContinuation
  | authDone => exact taken.onAuthDone channelOpens
  | publicKeyOkay => exact taken.onAuthPubkeyOk
  | signatureFailure => exact taken.popKey.nextAuth
  | interactivePrompt prompts => exact taken.onPrompt prompts (first prompts events queue)
  | passwordChangeRequest => exact taken.fail
  | sftpReady => exact taken.onSftpReady
  | sftpDone => exact taken.onDone
  | sessionDone => exact taken.onDone
  | availableKeys keys =>
    obtain ⟨agent, unloaded, last⟩ := core.availableKeys queue
    have loads : (self.taken (.availableKeys keys) events).onAgentKeys settings keys =
        ((self.taken (.availableKeys keys) events).agentKeysLoaded keys).nextAuth settings :=
      onAgentKeys_eq keys agent unloaded
    simp only [SegmentConnection.handle, loads]
    exact (taken.agentKeysLoaded keys unloaded last).nextAuth

theorem Bounded.handle (core : Core settings self) (bounded : Bounded settings 0 self)
    (queue : self.events = event :: events)
    (first : NotAskedAgain settings self (.dispatch channelOpens)) :
    Bounded settings 0 ((self.taken event events).handle settings channelOpens event) := by
  cases event with
  | hostkeyVerification key =>
    exact (bounded.taken queue (le_refl _)).onHostkeyVerification (core.taken queue) key
  | authRequested methods isContinuation =>
    exact (bounded.taken queue (le_refl _)).onAuthRequested methods isContinuation
  | authDone => exact (bounded.taken queue (le_refl _)).onAuthDone channelOpens
  | publicKeyOkay => exact (bounded.taken queue (le_succ 1)).onAuthPubkeyOk
  | signatureFailure => exact (bounded.taken queue (le_refl _)).popKey.nextAuth
  | interactivePrompt prompts =>
    exact bounded.onPrompt prompts queue (first prompts events queue)
  | passwordChangeRequest => exact fail
  | sftpReady => exact fun _ establishing => (by cases establishing)
  | sftpDone => exact onDone
  | sessionDone => exact onDone
  | availableKeys keys =>
    obtain ⟨agent, unloaded, -⟩ := core.availableKeys queue
    have loads : (self.taken (.availableKeys keys) events).onAgentKeys settings keys =
        ((self.taken (.availableKeys keys) events).agentKeysLoaded keys).nextAuth settings :=
      onAgentKeys_eq keys agent unloaded
    have paid : Notification.cost (.availableKeys keys) ≤
        Notification.weight (.availableKeys keys) := by
      simp [Notification.cost, Notification.weight]
    have slack : Notification.weight (.availableKeys keys) -
        Notification.cost (.availableKeys keys) = 0 + 2 * keys.length := by
      simp [Notification.cost, Notification.weight]
    have taken : Bounded settings (0 + 2 * keys.length)
        (self.taken (.availableKeys keys) events) := slack ▸ bounded.taken queue paid
    simp only [SegmentConnection.handle, loads]
    exact (taken.agentKeysLoaded keys (core.unloaded unloaded).1).nextAuth

end Handle

theorem Core.silent (core : Core settings self) : Core settings { self with notice := none } :=
  ⟨core.answers, core.keysOnce, core.unloaded, core.asksNobody, core.passwords,
    core.responses, core.accepted, core.timer, core.ordered⟩

variable {client : SshClient}

theorem Core.receive (core : Core settings self) (found : self.ssh = some client)
    (message : ServerMessage) :
    Core settings (self.receive message client) := by
  have reads := SshClient.reads_receive (core.ordered client found) message
  exact {
    answers := by
      have answers := core.answers
      have none : ((client.receive message).2.toList).countP (·.isAvailableKeys) = 0 := by
        rw [countP_eq_zero]
        intro event member
        simp [reads.other event (by simpa using member)]
      simp only [agentAnswers, SegmentConnection.receive, countP_append, none] at answers ⊢
      exact answers
    __ := core
    ordered := fun _ received => some.inj received ▸ reads.ordered }

theorem Bounded.receive (core : Core settings self) (bounded : Bounded settings 0 self)
    (found : self.ssh = some client) (message : ServerMessage) :
    Bounded settings 0 (self.receive message client) := by
  intro alive establishing
  have bound := bounded alive establishing
  have lighter := (SshClient.reads_receive (core.ordered client found) message).weight
  have weighs : (self.receive message client).weight settings =
      (client.receive message).1.weight +
        ((self.events ++ (client.receive message).2.toList).map (·.weight)).sum +
          self.agentWeight settings + 2 * self.waitingKeys.length + (!self.triedPw).toNat +
            (!self.triedInteractive).toNat + (1 - self.calls.count .sendResponse) := rfl
  have ssh : self.sshWeight = client.weight := by simp [sshWeight, found]
  have handled : (self.receive message client).handled = self.handled := rfl
  rw [weighs, handled, map_append, sum_append]
  rw [weight, ssh] at bound
  omega

theorem Core.onSignature (core : Core settings self) (made : Bool) :
    Core settings (self.onSignature made) := by
  unfold SegmentConnection.onSignature
  have signed : Core settings (self.updateSsh fun client => { client with signing := false }) :=
    core.updateSsh fun _ ordered => ordered
  dsimp only
  split
  case isTrue => exact signed.updateSsh fun _ ordered => ordered
  case isFalse => exact signed.send _ rfl

theorem Bounded.onSignature (bounded : Bounded settings 0 self) (made : Bool)
    (signing : self.ssh.any (·.signing) = true) : Bounded settings 0 (self.onSignature made) := by
  unfold SegmentConnection.onSignature
  have signed : Bounded settings 1
      (self.updateSsh fun client => { client with signing := false }) := by
    intro alive establishing
    have bound := bounded alive establishing
    have lighter : (self.updateSsh fun client => { client with signing := false }).sshWeight + 1 =
        self.sshWeight := by
      unfold sshWeight SegmentConnection.updateSsh
      cases found : self.ssh with
      | none => simp [found] at signing
      | some client =>
        have signs : client.signing = true := by simpa [found] using signing
        simp [SshClient.weight, signs]
    have weighs : (self.updateSsh fun client => { client with signing := false }).weight settings =
        (self.updateSsh fun client => { client with signing := false }).sshWeight +
          (self.events.map (·.weight)).sum + self.agentWeight settings +
            2 * self.waitingKeys.length + (!self.triedPw).toNat + (!self.triedInteractive).toNat +
              (1 - self.calls.count .sendResponse) := rfl
    have handled : (self.updateSsh fun client => { client with signing := false }).handled =
        self.handled := rfl
    rw [weighs, handled]
    rw [weight] at bound
    omega
  have slack : Bounded settings (0 + 1)
      (self.updateSsh fun client => { client with signing := false }) := signed
  dsimp only
  split
  case isTrue => exact slack.updateSsh fun client _ => (weight_request .publickey false client).le
  case isFalse => exact send slack

theorem Core.agent_of_asked (core : Core settings self) (asked : self.agentAsked = true) :
    self.agent = true := by
  have answers := core.answers
  simp only [agentAnswers, asked, Bool.toNat_true] at answers
  cases agent : self.agent with
  | true => rfl
  | false => simp [agent] at answers

theorem Core.agentAnswer (core : Core settings self) (asked : self.agentAsked = true)
    (keys : List AgentKey) :
    Core settings ({ self with agentAsked := false }.send (.availableKeys keys)) where
  answers := by
    have answers := core.answers
    have same : ({ self with agentAsked := false }.send (.availableKeys keys)).agentAnswers =
        self.agentAnswers := by
      simp [agentAnswers, SegmentConnection.send, asked, Notification.isAvailableKeys]
      omega
    rw [same]
    exact answers
  __ := core

theorem Bounded.agentAnswer (core : Core settings self) (bounded : Bounded settings 0 self)
    (asked : self.agentAsked = true) :
    Bounded settings 0
      ({ self with agentAsked := false }.send (.availableKeys settings.agentKeys)) := by
  have agent := core.agent_of_asked asked
  have unasked : Bounded settings (1 + 2 * settings.agentKeys.length)
      { self with agentAsked := false } := by
    intro alive establishing
    have bound := bounded alive establishing
    have before : self.agentWeight settings = 1 + 2 * settings.agentKeys.length := by
      simp [agentWeight, agent, asked]
    have weighs : ({ self with agentAsked := false } : SegmentConnection).weight settings =
        self.sshWeight + (self.events.map (·.weight)).sum +
          ({ self with agentAsked := false } : SegmentConnection).agentWeight settings +
            2 * self.waitingKeys.length + (!self.triedPw).toNat + (!self.triedInteractive).toNat +
              (1 - self.calls.count .sendResponse) := rfl
    have after : ({ self with agentAsked := false } : SegmentConnection).agentWeight settings =
        0 := by
      simp [agentWeight, agent]
    rw [weighs, after]
    rw [weight, before] at bound
    dsimp only
    omega
  exact send (unasked.weaken (by simp [Notification.weight]))

theorem Core.onEstablishTimeout (core : Core settings self) :
    Core settings self.onEstablishTimeout := by
  unfold SegmentConnection.onEstablishTimeout
  dsimp only
  split
  case isTrue finished =>
    refine ⟨core.answers, core.keysOnce, core.unloaded, core.asksNobody, core.passwords,
      core.responses, core.accepted, fun alive establishing => ?_, core.ordered⟩
    rw [show self.ready = false from establishing, show self.failed = false from alive]
      at finished
    contradiction
  case isFalse unfinished =>
    have alive : self.failed = false := by simpa using (Bool.or_eq_false_iff.mp
      (by simpa using unfinished)).2
    unfold SegmentConnection.fail
    rw [if_neg (by simp [alive])]
    exact {
      answers := by simp [agentAnswers, teardown]
      __ := core
      timer := fun alive => (by cases alive)
      ordered := fun _ none => (by cases none) }

theorem Bounded.onEstablishTimeout : Bounded settings 0 self.onEstablishTimeout := by
  unfold SegmentConnection.onEstablishTimeout
  dsimp only
  split
  case isTrue finished =>
    intro alive establishing
    rw [show self.ready = false from establishing, show self.failed = false from alive]
      at finished
    contradiction
  case isFalse => exact fail

structure Invariant (settings : Settings) (conn : SegmentConnection) : Prop where
  core : Core settings conn
  bounded : Bounded settings 0 conn

theorem invariant_initial (settings : Settings) : Invariant settings {} where
  core := {
    answers := by simp [agentAnswers]
    keysOnce := by simp [offeredKeys, waitingKeys, blobs]
    unloaded := fun _ => ⟨rfl, rfl, by simp [blobs]⟩
    asksNobody := by simp
    passwords := by simp
    responses := by simp
    accepted := by simp
    timer := fun _ _ => rfl
    ordered := fun _ none => (by cases none) }
  bounded := by
    intro _ _
    simp [weight, sshWeight, agentWeight, waitingKeys, Settings.bound]
    omega

theorem Invariant.step {next : SegmentConnection} {event : Event}
    (invariant : Invariant settings self) (first : NotAskedAgain settings self event)
    (taken : self.step settings event = some next) : Invariant settings next := by
  have core := invariant.core.silent
  have bounded : Bounded settings 0 { self with notice := none } := invariant.bounded
  cases event with
  | connection error =>
    obtain ⟨fresh, rfl⟩ := some_of_guard taken
    have none : self.ssh = none := by
      simpa using (Bool.and_eq_true_iff.mp fresh).1
    cases error with
    | true => exact ⟨core.fail, Bounded.fail⟩
    | false =>
      refine ⟨⟨core.answers, core.keysOnce, core.unloaded, core.asksNobody,
        core.passwords, core.responses, core.accepted, core.timer, ?_⟩, ?_⟩
      · intro client found
        cases found
        exact fun _ => rfl
      · intro alive establishing
        have bound := invariant.bounded alive establishing
        have before : self.sshWeight = 1 := by simp [sshWeight, none]
        rw [weight, before] at bound
        exact bound
  | server message =>
    simp only [SegmentConnection.step] at taken
    split at taken
    case h_1 => contradiction
    case h_2 client found =>
      obtain ⟨-, rfl⟩ := some_of_refusal taken
      exact ⟨core.receive found message, Bounded.receive core bounded found message⟩
  | signature made =>
    obtain ⟨signing, rfl⟩ := some_of_guard taken
    exact ⟨core.onSignature made, bounded.onSignature made signing⟩
  | agentAnswer =>
    simp only [SegmentConnection.step] at taken
    obtain ⟨asked, rfl⟩ := some_of_guard taken
    exact ⟨core.agentAnswer asked _, agentAnswer invariant.core invariant.bounded asked⟩
  | sessionEnds =>
    obtain ⟨-, rfl⟩ := some_of_guard taken
    have ended : Bounded settings (0 + 0)
        ({ self with notice := none }.updateSsh
          fun client => { client with stopped := true }) :=
      Bounded.updateSsh bounded fun client _ => (add_zero client.weight).ge
    have endedCore : Core settings ({ self with notice := none }.updateSsh
        fun client => { client with stopped := true }) :=
      core.updateSsh fun _ ordered => ordered
    exact ⟨endedCore.send _ rfl, Bounded.send ended⟩
  | sftpReady =>
    obtain ⟨-, rfl⟩ := some_of_guard taken
    exact ⟨core.send _ rfl, Bounded.send bounded⟩
  | sftpDone =>
    obtain ⟨-, rfl⟩ := some_of_guard taken
    exact ⟨core.send _ rfl, Bounded.send bounded⟩
  | dispatch channelOpens =>
    simp only [SegmentConnection.step] at taken
    split at taken
    case h_1 => contradiction
    case h_2 notification events queue =>
      cases taken
      exact ⟨core.handle queue first, bounded.handle core queue first⟩
  | timeout =>
    obtain ⟨-, rfl⟩ := some_of_guard taken
    exact ⟨core.onEstablishTimeout, Bounded.onEstablishTimeout⟩

/-- Nothing but a host key can have been asked for yet. -/
structure Quiet (conn : SegmentConnection) : Prop where
  noCalls : conn.calls = []
  ssh : ∀ client, conn.ssh = some client → client.service = .none ∧ client.signing = false
  events : ∀ event ∈ conn.events, (∃ key, event = .hostkeyVerification key) ∨ event = .sessionDone
  agentAsked : conn.agentAsked = false
  sftp : conn.sftp = false

def Opened (settings : Settings) (self : SegmentConnection) : Prop :=
  Quiet self ∨ self.calls.head? = some (.acceptHostkey settings.verifiedHostkey)

theorem head?_of_extended {first : Call} {calls more : List Call} (extended : calls <+: more)
    (head : calls.head? = some first) : more.head? = some first := by
  obtain ⟨rest, rfl⟩ := extended
  exact head?_append_of_ne_nil calls (by rintro rfl; contradiction) ▸ head

theorem calls_fail : self.fail.calls = self.calls := by
  unfold fail
  split <;> rfl

section Calls

variable {conn : SegmentConnection}

theorem calls_offerKey (key : PublicKey) (same : conn.calls = self.calls) :
    self.calls <+: (conn.offerKey key).calls := by
  rw [← same]
  unfold offerKey
  dsimp only
  split
  case isTrue => exact prefix_append _ _
  case isFalse => exact prefix_append _ _

theorem calls_nextOtherAuth (same : conn.calls = self.calls) :
    self.calls <+: (conn.nextOtherAuth settings).calls := by
  rw [← same]
  unfold nextOtherAuth
  split
  case isTrue => exact prefix_append _ _
  case isFalse =>
    split
    case isTrue => exact prefix_rfl
    case isFalse => exact calls_fail ▸ prefix_rfl

theorem calls_nextAuth (same : conn.calls = self.calls) :
    self.calls <+: (conn.nextAuth settings).calls := by
  rw [← same]
  rcases nextAuth_cases settings conn with same | ⟨-, -, -, asks⟩ |
    ⟨-, -, skipped, info, rest, key, -, -, offers⟩ | other | ⟨-, -, other⟩
  · exact (congrArg calls same).symm ▸ prefix_rfl
  · exact asks.symm ▸ prefix_rfl
  · rw [offers]
    exact calls_offerKey key rfl
  · rw [other]
    exact calls_nextOtherAuth rfl
  · rw [other]
    exact calls_nextOtherAuth rfl

end Calls

theorem calls_onDone : self.onDone.calls = self.calls := by
  unfold onDone
  split
  case isTrue => rfl
  case isFalse =>
    split
    case isTrue => rfl
    case isFalse => exact calls_fail

theorem calls_handle (event : Notification) :
    self.calls <+: (self.handle settings channelOpens event).calls := by
  cases event with
  | hostkeyVerification key =>
    simp only [handle, onHostkeyVerification]
    split
    case isTrue => exact prefix_append _ _
    case isFalse => exact prefix_rfl
  | authRequested methods isContinuation =>
    simp only [handle, onAuthRequested]
    split
    case isTrue => exact calls_nextAuth rfl
    case isFalse => exact calls_nextAuth rfl
  | authDone =>
    simp only [handle, onAuthDone]
    split
    case isTrue => exact prefix_rfl
    case isFalse => exact calls_fail ▸ prefix_rfl
  | publicKeyOkay =>
    simp only [handle, onAuthPubkeyOk]
    split
    case h_1 => exact calls_fail ▸ prefix_rfl
    case h_2 =>
      split
      case isTrue => exact calls_nextAuth rfl
      case isFalse => exact prefix_append _ _
  | signatureFailure => exact calls_nextAuth rfl
  | interactivePrompt prompts =>
    simp only [handle, onAuthKeyboardInteractivePrompt]
    split
    case isTrue => exact prefix_append _ _
    case isFalse => exact calls_fail ▸ prefix_rfl
  | passwordChangeRequest => exact calls_fail ▸ prefix_rfl
  | sftpReady => exact prefix_rfl
  | sftpDone => exact calls_onDone ▸ prefix_rfl
  | sessionDone => exact calls_onDone ▸ prefix_rfl
  | availableKeys keys =>
    simp only [handle, onAgentKeys]
    split
    case isTrue => exact prefix_rfl
    case isFalse =>
      refine calls_nextAuth ?_
      unfold setKeysLoaded
      split <;> rfl

theorem quiet_fail (quiet : Quiet self) : Quiet self.fail := by
  unfold fail
  split
  case isTrue => exact quiet
  case isFalse =>
    exact ⟨quiet.noCalls, fun _ none => (by cases none), fun _ member => (by cases member), rfl, rfl⟩

theorem quiet_onDone (quiet : Quiet self) : Quiet self.onDone := by
  unfold onDone
  split
  case isTrue => exact quiet
  case isFalse =>
    split
    case isTrue =>
      exact ⟨quiet.noCalls, quiet.ssh, quiet.events, quiet.agentAsked, quiet.sftp⟩
    case isFalse => exact quiet_fail quiet

theorem quiet_receive (quiet : Quiet self) (found : self.ssh = some client)
    (message : ServerMessage) : Quiet (self.receive message client) := by
  obtain ⟨service, signing⟩ := quiet.ssh client found
  have early : (client.receive message).1.service = .none ∧
      (client.receive message).1.signing = false ∧
        ∀ event ∈ (client.receive message).2, ∃ key, event = .hostkeyVerification key := by
    cases message with
    | dhReply key sameAlgorithms =>
      unfold SshClient.receive
      dsimp only
      split
      case isTrue => exact ⟨service, signing, fun _ none => (by cases none)⟩
      case isFalse =>
        refine ⟨service, signing, fun event member => ⟨some key, ?_⟩⟩
        cases member
        rfl
    | _ =>
      simp [SshClient.receive, SshClient.sendDisconnect, service, signing]
  refine ⟨quiet.noCalls, ?_, ?_, quiet.agentAsked, quiet.sftp⟩
  · intro next received
    cases received
    exact ⟨early.1, early.2.1⟩
  · intro event member
    rcases mem_append.mp member with earlier | now
    · exact quiet.events event earlier
    · exact .inl (early.2.2 event (by simpa using now))

theorem Opened.step {next : SegmentConnection} {event : Event} (opened : Opened settings self)
    (taken : self.step settings event = some next) : Opened settings next := by
  cases event with
  | connection error =>
    obtain ⟨-, rfl⟩ := some_of_guard taken
    rcases opened with quiet | head
    · cases error with
      | true => exact .inl (quiet_fail ⟨quiet.noCalls, quiet.ssh, quiet.events,
          quiet.agentAsked, quiet.sftp⟩)
      | false =>
        refine .inl ⟨quiet.noCalls, fun client found => ?_, quiet.events,
          quiet.agentAsked, quiet.sftp⟩
        cases found
        exact ⟨rfl, rfl⟩
    · cases error with
      | true => exact .inr ((congrArg head? calls_fail).trans head)
      | false => exact .inr head
  | server message =>
    simp only [SegmentConnection.step] at taken
    split at taken
    case h_1 => contradiction
    case h_2 client found =>
      obtain ⟨-, rfl⟩ := some_of_refusal taken
      rcases opened with quiet | head
      · have silent : Quiet { self with notice := none } :=
          ⟨quiet.noCalls, quiet.ssh, quiet.events, quiet.agentAsked, quiet.sftp⟩
        exact .inl (quiet_receive silent found message)
      · exact .inr head
  | signature made =>
    obtain ⟨signing, rfl⟩ := some_of_guard taken
    rcases opened with quiet | head
    · cases found : self.ssh with
      | none => simp [found] at signing
      | some client => simp [found, (quiet.ssh client found).2] at signing
    · refine .inr ?_
      unfold onSignature
      dsimp only
      split <;> exact head
  | agentAnswer =>
    obtain ⟨asked, rfl⟩ := some_of_guard taken
    rcases opened with quiet | head
    · cases asked.symm.trans quiet.agentAsked
    · exact .inr head
  | sessionEnds =>
    obtain ⟨-, rfl⟩ := some_of_guard taken
    rcases opened with quiet | head
    · refine .inl ⟨quiet.noCalls, ?_, ?_, quiet.agentAsked, quiet.sftp⟩
      · intro client found
        obtain ⟨old, before, rfl⟩ := map_eq_some_iff.mp found
        exact quiet.ssh old before
      · intro event member
        rcases mem_append.mp member with earlier | now
        · exact quiet.events event earlier
        · exact .inr (mem_singleton.mp now)
    · exact .inr head
  | sftpReady =>
    obtain ⟨opens, rfl⟩ := some_of_guard taken
    rcases opened with quiet | head
    · simp [quiet.sftp] at opens
    · exact .inr head
  | sftpDone =>
    obtain ⟨opens, rfl⟩ := some_of_guard taken
    rcases opened with quiet | head
    · cases opens.symm.trans quiet.sftp
    · exact .inr head
  | dispatch channelOpens =>
    simp only [SegmentConnection.step] at taken
    split at taken
    case h_1 => contradiction
    case h_2 notification events queue =>
      cases taken
      rcases opened with quiet | head
      · have rest : ∀ {handled : Nat}, Quiet { self with
            notice := none, events := events, handled := handled } :=
          ⟨quiet.noCalls, quiet.ssh, fun event member => quiet.events event
              ((congrArg (event ∈ ·) queue).mpr (mem_cons_of_mem _ member)),
            quiet.agentAsked, quiet.sftp⟩
        have member : notification ∈ self.events :=
          (congrArg (notification ∈ ·) queue).mpr mem_cons_self
        rcases quiet.events notification member with ⟨key, rfl⟩ | rfl
        · simp only [handle, onHostkeyVerification]
          split
          case isTrue =>
            refine .inr ?_
            have none := quiet.noCalls
            simp [call, updateSsh, none]
          case isFalse =>
            exact .inl ⟨quiet.noCalls, fun _ none => absurd none (some_ne_none _).symm,
              fun _ member => absurd member not_mem_nil, rfl, rfl⟩
        · exact .inl (quiet_onDone rest)
      · exact .inr (head?_of_extended (calls_handle notification) head)
  | timeout =>
    obtain ⟨-, rfl⟩ := some_of_guard taken
    unfold onEstablishTimeout
    dsimp only
    rcases opened with quiet | head
    · have late : Quiet { self with notice := none, connectTimer := false } :=
        ⟨quiet.noCalls, quiet.ssh, quiet.events, quiet.agentAsked, quiet.sftp⟩
      split
      case isTrue => exact .inl late
      case isFalse => exact .inl (quiet_fail late)
    · split
      case isTrue => exact .inr head
      case isFalse => exact .inr ((congrArg head? calls_fail).trans head)

end SegmentConnection

end FileZilla.Sftp.SegmentAuth
