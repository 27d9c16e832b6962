import FileZilla.Engine.Sftp.SegmentAuth
import Mathlib.Data.List.Nodup

namespace FileZilla.Sftp.SegmentAuth

open List

def offeredKey : Call → Option Bytes
  | .offerKey blob => some blob
  | _ => none

def blobs (keys : List PrivateKeyInfo) : List Bytes :=
  keys.filterMap fun info => info.publicKey.map (·.blob)

def Call.Plain (settings : Settings) : Call → Prop
  | .sign _ => True
  | .acceptHostkey key => key = settings.verifiedHostkey ∧ settings.verifiedHostkey ≠ []
  | _ => False

def Notification.isAvailableKeys : Notification → Bool
  | .availableKeys _ => true
  | _ => false

def SshClient.Ordered (client : SshClient) : Prop :=
  client.initialKex = true → client.service = .none

namespace SegmentConnection

variable {settings : Settings} {self : SegmentConnection}

def offeredKeys (self : SegmentConnection) : List Bytes :=
  self.calls.filterMap offeredKey

def waitingKeys (self : SegmentConnection) : List PrivateKeyInfo :=
  if self.triedKey then self.keys.tail else self.keys

def agentAnswers (self : SegmentConnection) : Nat :=
  self.agentAsked.toNat + self.events.countP (·.isAvailableKeys)

structure Core (settings : Settings) (conn : SegmentConnection) : Prop where
  answers : conn.agentAnswers ≤ (conn.agent && !conn.keysLoaded).toNat
  keysOnce : (conn.offeredKeys ++ blobs conn.waitingKeys).Nodup
  unloaded : conn.keysLoaded = false →
    conn.triedKey = false ∧ conn.offeredKeys = [] ∧ ∀ blob ∈ blobs conn.keys, blob ∈ conn.usedKeys
  asksNobody : .askUser ∉ conn.calls
  passwords : conn.calls.count .sendPassword ≤ conn.triedPw.toNat
  responses : conn.calls.count .sendResponse ≤ 1
  accepted : ∀ key, .acceptHostkey key ∈ conn.calls →
    key = settings.verifiedHostkey ∧ settings.verifiedHostkey ≠ []
  timer : conn.failed = false → conn.ready = false → conn.connectTimer = true
  ordered : ∀ client, conn.ssh = some client → client.Ordered

end SegmentConnection

def Notification.weight : Notification → Nat
  | .authRequested _ _ => 1
  | .authDone => 1
  | .publicKeyOkay => 2
  | .signatureFailure => 1
  | .availableKeys keys => 1 + 2 * keys.length
  | _ => 0

def PendingAuth.weight (auth : PendingAuth) : Nat :=
  if auth.method = .publickey ∧ auth.requestOnly then 2 else 1

def Service.weight : Service → Nat
  | .none => 1
  | .userauthRequested => 1
  | _ => 0

def SshClient.weight (client : SshClient) : Nat :=
  client.service.weight + (client.pendingAuths.map (·.weight)).sum + client.signing.toNat

def Settings.bound (settings : Settings) : Nat :=
  2 * (settings.fileKeys.length + settings.agentKeys.length) + 5

namespace SegmentConnection

variable {settings : Settings} {self : SegmentConnection}

def agentWeight (settings : Settings) (self : SegmentConnection) : Nat :=
  if !self.agent then 1 + 2 * (settings.fileKeys.length + settings.agentKeys.length)
  else if self.agentAsked then 1 + 2 * settings.agentKeys.length
  else 0

def sshWeight (self : SegmentConnection) : Nat :=
  match self.ssh with
  | none => 1
  | some client => client.weight

def weight (settings : Settings) (self : SegmentConnection) : Nat :=
  self.sshWeight + (self.events.map (·.weight)).sum + self.agentWeight settings +
    2 * self.waitingKeys.length + (!self.triedPw).toNat + (!self.triedInteractive).toNat +
    (1 - self.calls.count .sendResponse)

def Bounded (settings : Settings) (slack : Nat) (self : SegmentConnection) : Prop :=
  self.failed = false → self.ready = false →
    self.handled + self.weight settings + slack ≤ settings.bound

theorem offeredKeys_call (made : Call) :
    (self.call made).offeredKeys = self.offeredKeys ++ (offeredKey made).toList := by
  cases made <;> simp [offeredKeys, call, offeredKey]

structure LoadedOnce (loaded : List PrivateKeyInfo × List Bytes) : Prop where
  nodup : (blobs loaded.1).Nodup
  used : ∀ blob ∈ blobs loaded.1, blob ∈ loaded.2

variable {loaded : List PrivateKeyInfo × List Bytes}

theorem LoadedOnce.addKeyInfo (once : LoadedOnce loaded) (info : PrivateKeyInfo) :
    LoadedOnce (addKeyInfo loaded info) := by
  unfold SegmentAuth.addKeyInfo
  cases known : info.publicKey with
  | none => exact once
  | some key =>
    dsimp only
    split
    case isTrue => exact once
    case isFalse unused =>
      have added : blobs (info :: loaded.1) = key.blob :: blobs loaded.1 := by
        simp [blobs, known]
      constructor
      · rw [added]
        exact nodup_cons.mpr ⟨fun present => unused (once.used _ present), once.nodup⟩
      · intro blob member
        rw [added] at member
        rcases mem_cons.mp member with rfl | present
        · exact mem_cons_self
        · exact mem_cons_of_mem _ (once.used _ present)

theorem LoadedOnce.addAgentKey (once : LoadedOnce loaded) (key : AgentKey) :
    LoadedOnce (addAgentKey loaded key) := by
  unfold SegmentAuth.addAgentKey
  split
  case isTrue => exact once
  case isFalse unused =>
    cases recognised : key.recognised with
    | false =>
      have added : blobs (key.info :: loaded.1) = blobs loaded.1 := by
        simp [blobs, AgentKey.info, recognised]
      refine ⟨added ▸ once.nodup, fun blob member => ?_⟩
      exact mem_cons_of_mem _ (once.used _ (added ▸ member))
    | true =>
      have added : blobs (key.info :: loaded.1) = key.publicKey.blob :: blobs loaded.1 := by
        simp [blobs, AgentKey.info, recognised]
      constructor
      · rw [added]
        exact nodup_cons.mpr ⟨fun present => unused (once.used _ present), once.nodup⟩
      · intro blob member
        rw [added] at member
        rcases mem_cons.mp member with rfl | present
        · exact mem_cons_self
        · exact mem_cons_of_mem _ (once.used _ present)

theorem LoadedOnce.foldl {Source : Type} {add : List PrivateKeyInfo × List Bytes → Source →
      List PrivateKeyInfo × List Bytes}
    (keeps : ∀ loaded source, LoadedOnce loaded → LoadedOnce (add loaded source))
    (once : LoadedOnce loaded) (sources : List Source) :
    LoadedOnce (sources.foldl add loaded) := by
  induction sources generalizing loaded with
  | nil => exact once
  | cons source sources ih => exact ih (keeps loaded source once)

theorem length_foldl_le {Source : Type} {add : List PrivateKeyInfo × List Bytes → Source →
      List PrivateKeyInfo × List Bytes}
    (grows : ∀ loaded source, (add loaded source).1.length ≤ loaded.1.length + 1)
    (loaded : List PrivateKeyInfo × List Bytes) (sources : List Source) :
    (sources.foldl add loaded).1.length ≤ loaded.1.length + sources.length := by
  induction sources generalizing loaded with
  | nil => simp
  | cons source sources ih =>
    have rest := ih (add loaded source)
    have first := grows loaded source
    simp only [foldl_cons, length_cons]
    omega

theorem length_addKeyInfo_le (loaded : List PrivateKeyInfo × List Bytes) (info : PrivateKeyInfo) :
    (addKeyInfo loaded info).1.length ≤ loaded.1.length + 1 := by
  unfold addKeyInfo
  cases info.publicKey with
  | none => simp
  | some key =>
    dsimp only
    split <;> simp

theorem length_addAgentKey_le (loaded : List PrivateKeyInfo × List Bytes) (key : AgentKey) :
    (addAgentKey loaded key).1.length ≤ loaded.1.length + 1 := by
  unfold addAgentKey
  split <;> simp

theorem offerBackKey_cases (self : SegmentConnection) (keys : List PrivateKeyInfo) :
    (∃ skipped info rest key, keys = skipped ++ info :: rest ∧ info.publicKey = some key ∧
      self.offerBackKey keys =
        (true, { self with
          keys := info :: rest
          triedKey := true
          usedKeys := key.blob :: self.usedKeys }.offerKey key)) ∨
      self.offerBackKey keys = (false, { self with keys := [] }) := by
  induction keys with
  | nil => exact .inr rfl
  | cons info rest ih =>
    cases known : info.publicKey with
    | some key =>
      exact .inl ⟨[], info, rest, key, rfl, known, by simp [offerBackKey, known]⟩
    | none =>
      have skips : self.offerBackKey (info :: rest) = self.offerBackKey rest := by
        simp [offerBackKey, known]
      rw [skips]
      rcases ih with ⟨skipped, found, others, key, split, foundKey, offers⟩ | none
      · exact .inl ⟨info :: skipped, found, others, key, by simp [split], foundKey, offers⟩
      · exact .inr none

/-- The keys that `load_keys` has when it asks the agent -/
def askAgent (settings : Settings) (self : SegmentConnection) : SegmentConnection :=
  let loaded := settings.fileKeys.foldl addKeyInfo (self.keys, self.usedKeys)
  { self with
    keys := loaded.1
    usedKeys := loaded.2
    agent := true
    agentPending := true
    agentAsked := true }

def backKey (info : PrivateKeyInfo) (rest : List PrivateKeyInfo) (key : PublicKey)
    (self : SegmentConnection) : SegmentConnection :=
  { self with
    keys := info :: rest
    triedKey := true
    usedKeys := key.blob :: self.usedKeys }

theorem nextAuth_cases (settings : Settings) (self : SegmentConnection) :
    self.nextAuth settings = self ∨
      (self.keysLoaded = false ∧ self.agent = false ∧ self.triedKey = false ∧
        self.nextAuth settings = self.askAgent settings) ∨
      (self.keysLoaded = true ∧ self.triedKey = false ∧
        ∃ skipped info rest key, self.keys = skipped ++ info :: rest ∧
          info.publicKey = some key ∧
          self.nextAuth settings = (self.backKey info rest key).offerKey key) ∨
      self.nextAuth settings = self.nextOtherAuth settings ∨
      (self.keysLoaded = true ∧ self.triedKey = false ∧
        self.nextAuth settings = { self with keys := [] }.nextOtherAuth settings) := by
  unfold nextAuth
  split
  case isFalse => exact .inr (.inr (.inr (.inl rfl)))
  case isTrue wanted =>
    have untried : self.triedKey = false := by
      simpa using (Bool.and_eq_true_iff.mp wanted).2
    unfold authWithKey loadKeys
    cases loaded : self.keysLoaded with
    | false =>
      cases asked : self.agent with
      | true => exact .inl (by simp)
      | false => exact .inr (.inl ⟨rfl, rfl, untried, by simp [askAgent, loaded]⟩)
    | true =>
      rcases offerBackKey_cases self self.keys with
        ⟨skipped, info, rest, key, split, known, offers⟩ | none
      · refine .inr (.inr (.inl ⟨rfl, untried, skipped, info, rest, key, split, known, ?_⟩))
        simp [offers, backKey]
      · exact .inr (.inr (.inr (.inr ⟨rfl, untried, by simp [none, loaded]⟩)))

theorem Core.fail (core : Core settings self) : Core settings self.fail := by
  unfold SegmentConnection.fail
  split
  case isTrue => exact core
  case isFalse =>
    exact {
      answers := by simp [agentAnswers, teardown]
      __ := core
      timer := fun alive => (by cases alive)
      ordered := fun _ none => (by cases none) }

variable {slack : Nat}

theorem Bounded.fail : Bounded settings slack self.fail := by
  intro alive
  unfold SegmentConnection.fail at alive
  split at alive
  case isTrue failed => exact absurd alive (by simp [failed])
  case isFalse => cases alive

theorem Core.updateSsh (core : Core settings self) {update : SshClient → SshClient}
    (keeps : ∀ client : SshClient, client.Ordered → (update client).Ordered) :
    Core settings (self.updateSsh update) where
  __ := core
  ordered := fun client found => by
    obtain ⟨old, before, rfl⟩ := Option.map_eq_some_iff.mp found
    exact keeps old (core.ordered old before)

theorem Core.send (core : Core settings self) (event : Notification)
    (other : event.isAvailableKeys = false) : Core settings (self.send event) where
  answers := by
    have answers := core.answers
    simp only [agentAnswers] at answers
    simpa [agentAnswers, SegmentConnection.send, countP_append, other] using answers
  __ := core

theorem Core.callPlain (core : Core settings self) (made : Call) (plain : made.Plain settings) :
    Core settings (self.call made) := by
  have unoffered : (self.call made).offeredKeys = self.offeredKeys := by
    rw [offeredKeys_call]
    cases made <;> first | contradiction | simp [offeredKey]
  exact {
    __ := core
    keysOnce := by
      rw [unoffered]
      exact core.keysOnce
    unloaded := by
      rw [unoffered]
      exact core.unloaded
    asksNobody := by
      have asksNobody := core.asksNobody
      cases made <;> first | contradiction | simpa [SegmentConnection.call] using asksNobody
    passwords := by
      have passwords := core.passwords
      cases made <;> first | contradiction | simpa [SegmentConnection.call] using passwords
    responses := by
      have responses := core.responses
      cases made <;> first | contradiction | simpa [SegmentConnection.call] using responses
    accepted := by
      intro key member
      rcases mem_append.mp member with earlier | now
      · exact core.accepted key earlier
      · cases mem_singleton.mp now
        exact plain }

theorem Core.popKey (core : Core settings self) : Core settings self.popKey := by
  have fewer : (blobs self.popKey.waitingKeys).Sublist (blobs self.waitingKeys) := by
    apply List.Sublist.filterMap
    cases tried : self.triedKey with
    | true => simp [waitingKeys, SegmentConnection.popKey, tried]
    | false => simpa [waitingKeys, SegmentConnection.popKey, tried] using tail_sublist self.keys
  exact {
    __ := core
    keysOnce := core.keysOnce.sublist ((List.Sublist.refl _).append fewer)
    unloaded := fun unloaded => by
      obtain ⟨-, unoffered, used⟩ := core.unloaded unloaded
      refine ⟨rfl, unoffered, fun blob member => used blob ?_⟩
      exact ((tail_sublist self.keys).filterMap _).subset member }

theorem weight_popKey_le (settings : Settings) (self : SegmentConnection) :
    self.popKey.weight settings ≤ self.weight settings := by
  have fewer : self.popKey.waitingKeys.length ≤ self.waitingKeys.length := by
    cases tried : self.triedKey with
    | true => simp [waitingKeys, SegmentConnection.popKey, tried]
    | false => simp [waitingKeys, SegmentConnection.popKey, tried]
  have same : self.popKey.weight settings =
      self.sshWeight + (self.events.map (·.weight)).sum + self.agentWeight settings +
        2 * self.popKey.waitingKeys.length + (!self.triedPw).toNat +
          (!self.triedInteractive).toNat + (1 - self.calls.count .sendResponse) := rfl
  rw [same, weight]
  omega

theorem Bounded.popKey (bounded : Bounded settings slack self) :
    Bounded settings slack self.popKey := by
  intro alive establishing
  have bound := bounded alive establishing
  have lighter := weight_popKey_le settings self
  have same : self.popKey.handled = self.handled := rfl
  omega

theorem Bounded.weaken {less : Nat} (bounded : Bounded settings slack self)
    (smaller : less ≤ slack) : Bounded settings less self := by
  intro alive establishing
  have bound := bounded alive establishing
  omega

theorem Bounded.updateSsh {extra : Nat} (bounded : Bounded settings (slack + extra) self)
    {update : SshClient → SshClient}
    (heavier : ∀ client, self.ssh = some client → (update client).weight ≤ client.weight + extra) :
    Bounded settings slack (self.updateSsh update) := by
  intro alive establishing
  have bound := bounded alive establishing
  have ssh : (self.updateSsh update).sshWeight ≤ self.sshWeight + extra := by
    unfold sshWeight SegmentConnection.updateSsh
    cases found : self.ssh with
    | none => simp
    | some client => exact heavier client found
  have weighs : (self.updateSsh update).weight settings =
      (self.updateSsh update).sshWeight + (self.events.map (·.weight)).sum +
        self.agentWeight settings + 2 * self.waitingKeys.length + (!self.triedPw).toNat +
          (!self.triedInteractive).toNat + (1 - self.calls.count .sendResponse) := rfl
  have handled : (self.updateSsh update).handled = self.handled := rfl
  rw [weighs, handled]
  rw [weight] at bound
  omega

theorem weight_request (method : AuthMethod) (requestOnly : Bool) (client : SshClient) :
    (client.request method requestOnly).weight =
      client.weight + (PendingAuth.mk method requestOnly false).weight := by
  simp only [SshClient.weight, SshClient.request, map_append, map_cons, map_nil,
    sum_append, sum_cons, sum_nil]
  omega

theorem Bounded.call (bounded : Bounded settings slack self) {made : Call}
    (other : made ≠ .sendResponse) : Bounded settings slack (self.call made) := by
  intro alive establishing
  have bound := bounded alive establishing
  have calls : (self.calls ++ [made]).count .sendResponse = self.calls.count .sendResponse := by
    simp [count_append, other]
  have weighs : (self.call made).weight settings =
      self.sshWeight + (self.events.map (·.weight)).sum + self.agentWeight settings +
        2 * self.waitingKeys.length + (!self.triedPw).toNat + (!self.triedInteractive).toNat +
          (1 - (self.calls ++ [made]).count .sendResponse) := rfl
  rw [weighs, calls]
  exact bound

theorem Bounded.send {event : Notification}
    (bounded : Bounded settings (slack + event.weight) self) :
    Bounded settings slack (self.send event) := by
  intro alive establishing
  have bound := bounded alive establishing
  have queue : ((self.events ++ [event]).map (·.weight)).sum =
      (self.events.map (·.weight)).sum + event.weight := by simp
  have weighs : (self.send event).weight settings =
      self.sshWeight + ((self.events ++ [event]).map (·.weight)).sum +
        self.agentWeight settings + 2 * self.waitingKeys.length + (!self.triedPw).toNat +
          (!self.triedInteractive).toNat + (1 - self.calls.count .sendResponse) := rfl
  have handled : (self.send event).handled = self.handled := rfl
  rw [weighs, handled, queue]
  rw [weight] at bound
  omega

theorem Bounded.tryPassword (bounded : Bounded settings slack self)
    (untried : self.triedPw = false) :
    Bounded settings (slack + 1) { self with triedPw := true } := by
  intro alive establishing
  have bound := bounded alive establishing
  have weighs : ({ self with triedPw := true } : SegmentConnection).weight settings =
      self.sshWeight + (self.events.map (·.weight)).sum + self.agentWeight settings +
        2 * self.waitingKeys.length + 0 + (!self.triedInteractive).toNat +
          (1 - self.calls.count .sendResponse) := rfl
  rw [weighs]
  simp only [weight, untried, Bool.not_false, Bool.toNat_true] at bound
  dsimp only
  omega

theorem Bounded.tryInteractive (bounded : Bounded settings slack self)
    (untried : self.triedInteractive = false) :
    Bounded settings (slack + 1) { self with triedInteractive := true } := by
  intro alive establishing
  have bound := bounded alive establishing
  have weighs : ({ self with triedInteractive := true } : SegmentConnection).weight settings =
      self.sshWeight + (self.events.map (·.weight)).sum + self.agentWeight settings +
        2 * self.waitingKeys.length + (!self.triedPw).toNat + 0 +
          (1 - self.calls.count .sendResponse) := rfl
  rw [weighs]
  simp only [weight, untried, Bool.not_false, Bool.toNat_true] at bound
  dsimp only
  omega

theorem Bounded.backKey (bounded : Bounded settings slack self)
    {skipped rest : List PrivateKeyInfo} {info : PrivateKeyInfo} (key : PublicKey)
    (untried : self.triedKey = false) (split : self.keys = skipped ++ info :: rest) :
    Bounded settings (slack + 2) (self.backKey info rest key) := by
  intro alive establishing
  have bound := bounded alive establishing
  have waits : rest.length + 1 ≤ self.waitingKeys.length := by
    simp [waitingKeys, untried, split]
  have weighs : (self.backKey info rest key).weight settings =
      self.sshWeight + (self.events.map (·.weight)).sum + self.agentWeight settings +
        2 * rest.length + (!self.triedPw).toNat + (!self.triedInteractive).toNat +
          (1 - self.calls.count .sendResponse) := rfl
  have handled : (self.backKey info rest key).handled = self.handled := rfl
  rw [weighs, handled]
  rw [weight] at bound
  omega

theorem Core.nextOtherAuth (core : Core settings self) :
    Core settings (self.nextOtherAuth settings) := by
  unfold SegmentConnection.nextOtherAuth
  split
  case isTrue wanted =>
    have untried : self.triedPw = false := by
      simp only [Bool.and_eq_true, Bool.not_eq_true'] at wanted
      exact wanted.1.2
    refine Core.updateSsh ?_ fun _ ordered => ordered
    have passwords := core.passwords
    rw [untried] at passwords
    exact {
      __ := core
      keysOnce := by
        rw [offeredKeys_call, show (offeredKey .sendPassword).toList = [] from rfl,
          append_nil]
        exact core.keysOnce
      unloaded := by
        rw [offeredKeys_call, show (offeredKey .sendPassword).toList = [] from rfl,
          append_nil]
        exact core.unloaded
      asksNobody := by simpa [SegmentConnection.call] using core.asksNobody
      passwords := by
        simp only [SegmentConnection.call, count_append, count_cons_self,
          count_nil]
        simpa using passwords
      responses := by simpa [SegmentConnection.call] using core.responses
      accepted := by simpa [SegmentConnection.call] using core.accepted }
  case isFalse =>
    split
    case isTrue =>
      refine Core.updateSsh ?_ fun _ ordered => ordered
      exact ⟨core.answers, core.keysOnce, core.unloaded, core.asksNobody, core.passwords,
        core.responses, core.accepted, core.timer, core.ordered⟩
    case isFalse => exact core.fail

theorem Bounded.nextOtherAuth (bounded : Bounded settings slack self) :
    Bounded settings slack (self.nextOtherAuth settings) := by
  unfold SegmentConnection.nextOtherAuth
  split
  case isTrue wanted =>
    have untried : self.triedPw = false := by
      simp only [Bool.and_eq_true, Bool.not_eq_true'] at wanted
      exact wanted.1.2
    exact ((bounded.tryPassword untried).call (by decide)).updateSsh
      fun client _ => (weight_request .password false client).le
  case isFalse =>
    split
    case isTrue wanted =>
      have untried : self.triedInteractive = false := by
        simp only [Bool.and_eq_true, Bool.not_eq_true'] at wanted
        exact wanted.1.2
      exact (bounded.tryInteractive untried).updateSsh
        fun client _ => (weight_request .keyboardInteractive true client).le
    case isFalse => exact Bounded.fail

theorem Core.askAgent (core : Core settings self) (unloaded : self.keysLoaded = false)
    (unasked : self.agent = false) : Core settings (self.askAgent settings) := by
  obtain ⟨untried, unoffered, used⟩ := core.unloaded unloaded
  have nodup : (blobs self.keys).Nodup := by
    have once := core.keysOnce
    simpa [unoffered, waitingKeys, untried] using once
  have loaded : LoadedOnce (settings.fileKeys.foldl addKeyInfo (self.keys, self.usedKeys)) :=
    LoadedOnce.foldl (fun _ info once => once.addKeyInfo info) ⟨nodup, used⟩ settings.fileKeys
  exact {
    answers := by
      have answers := core.answers
      simp only [agentAnswers, unasked, Bool.false_and, Bool.toNat_false] at answers
      simp only [agentAnswers, SegmentConnection.askAgent, unloaded, Bool.not_false,
        Bool.and_self, Bool.toNat_true]
      omega
    keysOnce := by
      have waiting : (self.askAgent settings).waitingKeys =
          (settings.fileKeys.foldl addKeyInfo (self.keys, self.usedKeys)).1 := by
        simp [waitingKeys, SegmentConnection.askAgent, untried]
      have offered : (self.askAgent settings).offeredKeys = [] := unoffered
      rw [waiting, offered]
      exact loaded.nodup
    unloaded := fun _ => ⟨untried, unoffered, loaded.used⟩
    __ := core }

theorem Bounded.askAgent (bounded : Bounded settings slack self) (untried : self.triedKey = false)
    (unasked : self.agent = false) :
    Bounded settings slack (self.askAgent settings) := by
  intro alive establishing
  have bound := bounded alive establishing
  have loaded : (settings.fileKeys.foldl addKeyInfo (self.keys, self.usedKeys)).1.length ≤
      self.keys.length + settings.fileKeys.length :=
    length_foldl_le length_addKeyInfo_le _ _
  have waiting : (self.askAgent settings).waitingKeys =
      (settings.fileKeys.foldl addKeyInfo (self.keys, self.usedKeys)).1 := by
    simp [waitingKeys, SegmentConnection.askAgent, untried]
  have waits : self.waitingKeys = self.keys := by simp [waitingKeys, untried]
  have asks : (self.askAgent settings).agentWeight settings =
      1 + 2 * settings.agentKeys.length := by
    simp [agentWeight, SegmentConnection.askAgent]
  have asked : self.agentWeight settings =
      1 + 2 * (settings.fileKeys.length + settings.agentKeys.length) := by
    simp [agentWeight, unasked]
  have weighs : (self.askAgent settings).weight settings =
      self.sshWeight + (self.events.map (·.weight)).sum +
        (self.askAgent settings).agentWeight settings +
          2 * (self.askAgent settings).waitingKeys.length + (!self.triedPw).toNat +
            (!self.triedInteractive).toNat + (1 - self.calls.count .sendResponse) := rfl
  have handled : (self.askAgent settings).handled = self.handled := rfl
  rw [weighs, handled, waiting, asks]
  rw [weight, waits, asked] at bound
  omega

section Offer

variable {skipped rest : List PrivateKeyInfo} {info : PrivateKeyInfo} {key : PublicKey}

theorem Core.offer (core : Core settings self) (loaded : self.keysLoaded = true)
    (untried : self.triedKey = false) (split : self.keys = skipped ++ info :: rest)
    (known : info.publicKey = some key) :
    Core settings ((self.backKey info rest key).offerKey key) := by
  have once := core.keysOnce
  have waiting : blobs self.waitingKeys = blobs skipped ++ key.blob :: blobs rest := by
    simp [waitingKeys, untried, split, blobs, known]
  rw [waiting] at once
  have fewer : (self.offeredKeys ++ [key.blob] ++ blobs rest).Nodup := by
    rw [append_assoc, singleton_append]
    exact once.sublist ((List.Sublist.refl _).append (sublist_append_right _ _))
  have called : Core settings ((self.backKey info rest key).call (.offerKey key.blob)) := {
    __ := core
    keysOnce := by
      rw [offeredKeys_call]
      exact fewer
    unloaded := fun unloaded => absurd (loaded.symm.trans unloaded) (by decide)
    asksNobody := by simpa [call, backKey] using core.asksNobody
    passwords := by simpa [call, backKey] using core.passwords
    responses := by simpa [call, backKey] using core.responses
    accepted := by simpa [call, backKey] using core.accepted }
  unfold offerKey
  dsimp only
  split
  case isTrue => exact called.updateSsh fun _ ordered => ordered
  case isFalse => exact called.send _ rfl

theorem Bounded.offer {slack : Nat} (bounded : Bounded settings slack self)
    (untried : self.triedKey = false) (split : self.keys = skipped ++ info :: rest) :
    Bounded settings slack ((self.backKey info rest key).offerKey key) := by
  have called : Bounded settings (slack + 2)
      ((self.backKey info rest key).call (.offerKey key.blob)) :=
    (bounded.backKey key untried split).call (by simp)
  unfold offerKey
  dsimp only
  split
  case isTrue => exact called.updateSsh fun client _ => (weight_request .publickey true client).le
  case isFalse => exact Bounded.send (called.weaken (by simp [Notification.weight]))

end Offer

theorem Core.dropKeys (core : Core settings self) : Core settings { self with keys := [] } where
  __ := core
  keysOnce := by
    have once := core.keysOnce
    have none : blobs { self with keys := [] }.waitingKeys = [] := by simp [waitingKeys, blobs]
    rw [none, append_nil]
    exact once.sublist (sublist_append_left _ _)
  unloaded := fun unloaded => by
    obtain ⟨untried, unoffered, -⟩ := core.unloaded unloaded
    exact ⟨untried, unoffered, by simp [blobs]⟩

theorem Bounded.dropKeys (bounded : Bounded settings slack self) :
    Bounded settings slack { self with keys := [] } := by
  intro alive establishing
  have bound := bounded alive establishing
  have none : ({ self with keys := [] } : SegmentConnection).waitingKeys.length = 0 := by
    simp [waitingKeys]
  have weighs : ({ self with keys := [] } : SegmentConnection).weight settings =
      self.sshWeight + (self.events.map (·.weight)).sum + self.agentWeight settings +
        2 * ({ self with keys := [] } : SegmentConnection).waitingKeys.length +
          (!self.triedPw).toNat + (!self.triedInteractive).toNat +
            (1 - self.calls.count .sendResponse) := rfl
  rw [weighs, none]
  rw [weight] at bound
  dsimp only
  omega

theorem Core.nextAuth (core : Core settings self) : Core settings (self.nextAuth settings) := by
  rcases nextAuth_cases settings self with same | ⟨unloaded, unasked, -, asks⟩ |
    ⟨loaded, untried, skipped, info, rest, key, split, known, offers⟩ | other | ⟨-, -, other⟩
  · rw [same]
    exact core
  · exact asks ▸ core.askAgent unloaded unasked
  · exact offers ▸ core.offer loaded untried split known
  · exact other ▸ core.nextOtherAuth
  · exact other ▸ core.dropKeys.nextOtherAuth

theorem Bounded.nextAuth (bounded : Bounded settings slack self) :
    Bounded settings slack (self.nextAuth settings) := by
  rcases nextAuth_cases settings self with same | ⟨-, unasked, untried, asks⟩ |
    ⟨-, untried, skipped, info, rest, key, split, -, offers⟩ | other | ⟨-, -, other⟩
  · rw [same]
    exact bounded
  · exact asks ▸ bounded.askAgent untried unasked
  · exact offers ▸ bounded.offer untried split
  · exact other ▸ bounded.nextOtherAuth
  · exact other ▸ bounded.dropKeys.nextOtherAuth

section Dispatch

variable {event : Notification} {events : List Notification}

def taken (event : Notification) (events : List Notification) (self : SegmentConnection) :
    SegmentConnection :=
  { self with events, handled := self.handled + event.cost }

theorem Core.taken (core : Core settings self) (queue : self.events = event :: events) :
    Core settings (self.taken event events) where
  answers := by
    have answers := core.answers
    simp only [agentAnswers, queue, countP_cons] at answers
    simp only [agentAnswers, SegmentConnection.taken]
    omega
  __ := core

theorem Bounded.taken (bounded : Bounded settings 0 self) (queue : self.events = event :: events)
    (paid : event.cost ≤ event.weight) :
    Bounded settings (event.weight - event.cost) (self.taken event events) := by
  intro alive establishing
  have bound := bounded alive establishing
  have weighs : (self.taken event events).weight settings =
      self.sshWeight + (events.map (·.weight)).sum + self.agentWeight settings +
        2 * self.waitingKeys.length + (!self.triedPw).toNat + (!self.triedInteractive).toNat +
          (1 - self.calls.count .sendResponse) := rfl
  have handled : (self.taken event events).handled = self.handled + event.cost := rfl
  rw [weighs, handled]
  rw [weight, queue, map_cons, sum_cons] at bound
  omega

end Dispatch

theorem Core.mismatch (core : Core settings self) :
    Core settings { self.teardown with failed := true, notice := some .hostkeyMismatch } where
  answers := by simp [agentAnswers, teardown]
  __ := core
  timer := fun alive => (by cases alive)
  ordered := fun _ none => (by cases none)

variable (client : SshClient)

theorem ordered_hostkeyDecision (ordered : client.Ordered) :
    (client.hostkeyDecision true).Ordered := by
  unfold SshClient.hostkeyDecision
  split
  case isTrue => exact ordered
  case isFalse =>
    rw [if_neg (by simp)]
    split
    case isTrue => exact fun initial => (by cases initial)
    case isFalse => exact ordered

theorem weight_hostkeyDecision (ordered : client.Ordered) :
    (client.hostkeyDecision true).weight = client.weight := by
  unfold SshClient.hostkeyDecision
  split
  case isTrue => rfl
  case isFalse =>
    rw [if_neg (by simp)]
    split
    case isTrue initial =>
      have fresh := ordered initial
      simp [SshClient.weight, fresh, Service.weight]
    case isFalse => rfl

theorem Core.onHostkeyVerification (core : Core settings self) (key : Option Bytes) :
    Core settings (self.onHostkeyVerification settings key) := by
  unfold SegmentConnection.onHostkeyVerification
  split
  case isTrue verified =>
    exact (core.callPlain (.acceptHostkey settings.verifiedHostkey)
      ⟨rfl, verified.1⟩).updateSsh ordered_hostkeyDecision
  case isFalse => exact core.mismatch

theorem Bounded.onHostkeyVerification (core : Core settings self)
    (bounded : Bounded settings slack self) (key : Option Bytes) :
    Bounded settings slack (self.onHostkeyVerification settings key) := by
  unfold SegmentConnection.onHostkeyVerification
  split
  case isTrue =>
    have called : Bounded settings (slack + 0)
        (self.call (.acceptHostkey settings.verifiedHostkey)) := bounded.call (by simp)
    refine called.updateSsh fun client found => ?_
    exact (weight_hostkeyDecision client (core.ordered client found)).le
  case isFalse => exact fun alive => (by cases alive)

theorem Core.onAuthRequested (core : Core settings self) (methods : Bytes)
    (isContinuation : Bool) :
    Core settings (self.onAuthRequested settings methods isContinuation) := by
  have told : Core settings { self with methods } :=
    ⟨core.answers, core.keysOnce, core.unloaded, core.asksNobody, core.passwords,
      core.responses, core.accepted, core.timer, core.ordered⟩
  unfold SegmentConnection.onAuthRequested
  dsimp only
  split
  case isTrue => exact told.popKey.nextAuth
  case isFalse => exact told.nextAuth

theorem Bounded.onAuthRequested (bounded : Bounded settings 0 self) (methods : Bytes)
    (isContinuation : Bool) :
    Bounded settings 0 (self.onAuthRequested settings methods isContinuation) := by
  have told : Bounded settings 0 { self with methods } := bounded
  unfold SegmentConnection.onAuthRequested
  dsimp only
  split
  case isTrue => exact told.popKey.nextAuth
  case isFalse => exact told.nextAuth

theorem Core.onAuthPubkeyOk (core : Core settings self) :
    Core settings (self.onAuthPubkeyOk settings) := by
  unfold SegmentConnection.onAuthPubkeyOk
  split
  case h_1 => exact core.fail
  case h_2 key rest keys =>
    split
    case isTrue => exact core.popKey.nextAuth
    case isFalse =>
      exact (core.callPlain (.sign _) trivial).updateSsh fun _ ordered => ordered

theorem Bounded.onAuthPubkeyOk (bounded : Bounded settings 1 self) :
    Bounded settings 0 (self.onAuthPubkeyOk settings) := by
  unfold SegmentConnection.onAuthPubkeyOk
  split
  case h_1 => exact Bounded.fail
  case h_2 key rest keys =>
    split
    case isTrue => exact bounded.popKey.nextAuth.weaken (by omega)
    case isFalse =>
      have called : Bounded settings (0 + 1)
          (self.call (.sign (key.publicKey.map (·.blob)))) := bounded.call (by simp)
      refine called.updateSsh fun client _ => ?_
      simp [SshClient.weight]

theorem Core.onPrompt (core : Core settings self) (prompts : List Bytes)
    (first : self.answersPrompts settings prompts = true → .sendResponse ∉ self.calls) :
    Core settings (self.onAuthKeyboardInteractivePrompt settings prompts) := by
  unfold onAuthKeyboardInteractivePrompt
  split
  case isTrue answered =>
    have unanswered : self.calls.count .sendResponse = 0 :=
      count_eq_zero.mpr (first answered)
    refine Core.updateSsh ?_ fun client ordered => ?_
    · exact {
        __ := core
        keysOnce := by
          rw [offeredKeys_call, show (offeredKey .sendResponse).toList = [] from rfl,
            append_nil]
          exact core.keysOnce
        unloaded := by
          rw [offeredKeys_call, show (offeredKey .sendResponse).toList = [] from rfl,
            append_nil]
          exact core.unloaded
        asksNobody := by simpa [SegmentConnection.call] using core.asksNobody
        passwords := by simpa [SegmentConnection.call] using core.passwords
        responses := by simp [SegmentConnection.call, unanswered]
        accepted := by simpa [SegmentConnection.call] using core.accepted }
    · unfold SshClient.respond
      split
      case h_1 =>
        split
        case isTrue => exact ordered
        case isFalse => exact ordered
      case h_2 => exact ordered
  case isFalse => exact core.fail

theorem weight_respond_le : client.respond.weight ≤ client.weight := by
  unfold SshClient.respond
  split
  case h_1 auth rest pending =>
    split
    case isTrue interactive =>
      simp [SshClient.weight, pending, PendingAuth.weight, interactive]
    case isFalse => exact le_refl _
  case h_2 => exact le_refl _

theorem Bounded.onPrompt (prompts : List Bytes) {events : List Notification}
    (bounded : Bounded settings 0 self)
    (queue : self.events = .interactivePrompt prompts :: events)
    (first : self.answersPrompts settings prompts = true → .sendResponse ∉ self.calls) :
    Bounded settings 0 ((self.taken (.interactivePrompt prompts) events)
      |>.onAuthKeyboardInteractivePrompt settings prompts) := by
  unfold onAuthKeyboardInteractivePrompt
  split
  case isTrue answered =>
    have unanswered : self.calls.count .sendResponse = 0 :=
      count_eq_zero.mpr (first answered)
    have responded : Bounded settings (0 + 0)
        ((self.taken (.interactivePrompt prompts) events).call .sendResponse) := by
      intro alive establishing
      have bound := bounded alive establishing
      have calls : (self.calls ++ [Call.sendResponse]).count .sendResponse = 1 := by
        simp [unanswered]
      have weighs : ((self.taken (.interactivePrompt prompts) events).call
          .sendResponse).weight settings =
        self.sshWeight + (events.map (·.weight)).sum + self.agentWeight settings +
          2 * self.waitingKeys.length + (!self.triedPw).toNat + (!self.triedInteractive).toNat +
            (1 - (self.calls ++ [Call.sendResponse]).count .sendResponse) := rfl
      have handled : ((self.taken (.interactivePrompt prompts) events).call
          .sendResponse).handled = self.handled + 1 := rfl
      rw [weighs, handled, calls]
      rw [weight, queue, unanswered, map_cons, sum_cons] at bound
      omega
    exact responded.updateSsh fun client _ => weight_respond_le client
  case isFalse => exact Bounded.fail

theorem Core.onAuthDone (core : Core settings self) (channelOpens : Bool) :
    Core settings (self.onAuthDone channelOpens) := by
  unfold SegmentConnection.onAuthDone
  split
  case isTrue =>
    exact ⟨core.answers, core.keysOnce, core.unloaded, core.asksNobody, core.passwords,
      core.responses, core.accepted, core.timer, core.ordered⟩
  case isFalse => exact core.fail

theorem Bounded.onAuthDone (bounded : Bounded settings slack self) (channelOpens : Bool) :
    Bounded settings slack (self.onAuthDone channelOpens) := by
  unfold SegmentConnection.onAuthDone
  split
  case isTrue => exact bounded
  case isFalse => exact Bounded.fail

theorem Core.onSftpReady (core : Core settings self) : Core settings self.onSftpReady :=
  ⟨core.answers, core.keysOnce, core.unloaded, core.asksNobody, core.passwords,
    core.responses, core.accepted, fun _ establishing => (by cases establishing), core.ordered⟩

theorem Core.onDone (core : Core settings self) : Core settings self.onDone := by
  unfold SegmentConnection.onDone
  split
  case isTrue => exact core
  case isFalse =>
    split
    case isTrue =>
      exact ⟨core.answers, core.keysOnce, core.unloaded, core.asksNobody, core.passwords,
        core.responses, core.accepted, fun alive => (by cases alive), core.ordered⟩
    case isFalse => exact core.fail

theorem Bounded.onDone : Bounded settings slack self.onDone := by
  unfold SegmentConnection.onDone
  split
  case isTrue failed => exact fun alive => absurd failed (by simp [alive])
  case isFalse =>
    split
    case isTrue => exact fun alive => (by cases alive)
    case isFalse => exact Bounded.fail

def agentKeysLoaded (keys : List AgentKey) (self : SegmentConnection) : SegmentConnection :=
  let loaded := keys.foldl addAgentKey (self.keys, self.usedKeys)
  { self with
    agentPending := false, keys := loaded.1.reverse, usedKeys := [], keysLoaded := true }

theorem onAgentKeys_eq (keys : List AgentKey) (agent : self.agent = true)
    (unloaded : self.keysLoaded = false) :
    self.onAgentKeys settings keys = (self.agentKeysLoaded keys).nextAuth settings := by
  simp [onAgentKeys, agent, setKeysLoaded, unloaded, agentKeysLoaded]

theorem Core.agentKeysLoaded (core : Core settings self) (keys : List AgentKey)
    (unloaded : self.keysLoaded = false) (last : self.agentAnswers = 0) :
    Core settings (self.agentKeysLoaded keys) := by
  obtain ⟨untried, unoffered, used⟩ := core.unloaded unloaded
  have nodup : (blobs self.keys).Nodup := by
    have once := core.keysOnce
    simpa [unoffered, waitingKeys, untried] using once
  have loaded : LoadedOnce (keys.foldl addAgentKey (self.keys, self.usedKeys)) :=
    LoadedOnce.foldl (fun _ key once => once.addAgentKey key) ⟨nodup, used⟩ keys
  exact {
    answers := by
      have none : (self.agentKeysLoaded keys).agentAnswers = 0 := last
      omega
    keysOnce := by
      have offered : (self.agentKeysLoaded keys).offeredKeys = [] := unoffered
      have waiting : (self.agentKeysLoaded keys).waitingKeys =
          (keys.foldl addAgentKey (self.keys, self.usedKeys)).1.reverse := by
        simp [waitingKeys, SegmentConnection.agentKeysLoaded, untried]
      rw [offered, waiting, nil_append, blobs, filterMap_reverse, nodup_reverse]
      exact loaded.nodup
    unloaded := fun unloaded => (by cases unloaded)
    __ := core }

theorem Bounded.agentKeysLoaded (keys : List AgentKey)
    (bounded : Bounded settings (slack + 2 * keys.length) self) (untried : self.triedKey = false) :
    Bounded settings slack (self.agentKeysLoaded keys) := by
  intro alive establishing
  have bound := bounded alive establishing
  have loaded : (keys.foldl addAgentKey (self.keys, self.usedKeys)).1.length ≤
      self.keys.length + keys.length :=
    length_foldl_le length_addAgentKey_le _ _
  have waits : self.waitingKeys = self.keys := by simp [waitingKeys, untried]
  have waiting : (self.agentKeysLoaded keys).waitingKeys =
      (keys.foldl addAgentKey (self.keys, self.usedKeys)).1.reverse := by
    simp [waitingKeys, SegmentConnection.agentKeysLoaded, untried]
  have weighs : (self.agentKeysLoaded keys).weight settings =
      self.sshWeight + (self.events.map (·.weight)).sum + self.agentWeight settings +
        2 * (self.agentKeysLoaded keys).waitingKeys.length + (!self.triedPw).toNat +
          (!self.triedInteractive).toNat + (1 - self.calls.count .sendResponse) := rfl
  have handled : (self.agentKeysLoaded keys).handled = self.handled := rfl
  rw [weighs, handled, waiting, length_reverse]
  rw [weight, waits] at bound
  omega

end SegmentConnection

end FileZilla.Sftp.SegmentAuth
