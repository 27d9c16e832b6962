import FileZilla.Engine.Ftp.LogonSocket

namespace FileZilla

open List

namespace Ftp

/-! Login commands are protected by TLS, or the user has allowed the insecure connection. -/

def FtpCommand.login : FtpCommand → Bool
  | user _ | pass _ | acct _ | loginSequence _ => true
  | _ => false

variable (protocol : ServerProtocol)

def requiresTls : Bool :=
  protocol = .ftps ∨ protocol = .ftpes

def asksForTls : Bool :=
  protocol = .ftpes ∨ protocol = .ftp

open LogonState

def LogonState.late (state : LogonState) : Bool :=
  decide (logon.ctorIdx ≤ state.ctorIdx)

/-- Where the operation may be on a connection without TLS; `agreed` if it cannot go on unless
the user has allowed it. -/
def LogonState.Place (agreed : Prop) (state : LogonState) : Prop :=
  match state with
  | .connect | .welcome => True
  | .authTls | .authSsl => asksForTls protocol = true
  | .authWait => False
  | .security => requiresTls protocol = false
  | _ => agreed ∧ requiresTls protocol = false

namespace LogonState

variable {protocol : ServerProtocol} {agreed : Prop} {state : LogonState}

theorem place_late (late : state.late = true) :
    state.Place protocol agreed ↔ agreed ∧ requiresTls protocol = false := by
  cases state <;> first | exact Iff.rfl | cases late

theorem following_late (late : state.late = true) {next : LogonState}
    (member : next ∈ state.following) : next.late = true := by
  revert next
  cases state <;> first | decide | cases late

theorem connect_not_following (state : LogonState) : .connect ∉ state.following := by
  cases state <;> decide

theorem Place.mono (place : state.Place protocol agreed) {other : Prop}
    (weaker : agreed → other) : state.Place protocol other := by
  cases state <;> first | exact place | exact ⟨weaker place.1, place.2⟩

end LogonState

namespace LogonData

variable {environment : LogonEnvironment} {session : LogonSession} {self : LogonData}

structure Needs (protocol : ServerProtocol) (tls : Bool) (data : LogonData) : Prop where
  always : data.neededCommands .welcome = true ∧ data.neededCommands .security = true
  auth : tls = false → data.neededCommands .authTls = asksForTls protocol ∧
    data.neededCommands .authSsl = asksForTls protocol ∧
    (asksForTls protocol = false → data.neededCommands .authWait = false)

structure Sound (protocol : ServerProtocol) (tls : Bool) (agreed : Prop) (data : LogonData) :
    Prop extends Needs protocol tls data where
  place : tls = false → data.opState.Place protocol agreed

variable {protocol : ServerProtocol} {tls : Bool} {agreed : Prop}

theorem Needs.of_tls (needs : Needs protocol tls self) : Needs protocol true self where
  always := needs.always
  auth impossible := absurd impossible (by simp)

theorem Needs.of_eq (needs : Needs protocol tls self) {next : LogonData}
    (same : next.neededCommands = self.neededCommands) : Needs protocol tls next where
  always := same ▸ needs.always
  auth := same ▸ needs.auth

theorem Needs.clear (needs : Needs protocol tls self) {states : List LogonState}
    (late : ∀ state ∈ states, state.late = true) : Needs protocol tls (self.clear states) := by
  have kept (state : LogonState) (early : state.late = false) :
      (self.clear states).neededCommands state = self.neededCommands state := by
    have absent : states.contains state = false := by
      refine Bool.eq_false_iff.mpr fun present => ?_
      have member := late state (contains_iff_mem.mp present)
      cases early.symm.trans member
    change (self.neededCommands state && !states.contains state) = self.neededCommands state
    rw [absent, Bool.not_false, Bool.and_true]
  constructor
  · rw [kept .welcome rfl, kept .security rfl]
    exact needs.always
  · rw [kept .authTls rfl, kept .authSsl rfl, kept .authWait rfl]
    exact needs.auth

theorem create_opState (server : CServer) : (create server).opState = .connect := by
  unfold create
  dsimp only
  split <;> split <;> first | rfl | (split <;> rfl)

theorem create_needs (server : CServer) : Needs server.protocol false (create server) := by
  unfold create
  dsimp only
  cases known : asksForTls server.protocol with
  | true =>
    have asks : ¬ (server.protocol ≠ .ftpes ∧ server.protocol ≠ .ftp) := by
      rcases of_decide_eq_true known with same | same <;> simp [same]
    rw [if_neg asks]
    have all : Needs server.protocol false { neededCommands := fun _ => true } :=
      { always := ⟨rfl, rfl⟩, auth := fun _ => by simp [known] }
    split
    · exact all.clear (by decide)
    · exact all
  | false =>
    have silent : server.protocol ≠ .ftpes ∧ server.protocol ≠ .ftp := by
      have neither := of_decide_eq_false known
      exact ⟨fun same => neither (.inl same), fun same => neither (.inr same)⟩
    rw [if_pos silent]
    have none : Needs server.protocol false
        (clear { neededCommands := fun _ => true } [.authTls, .authSsl, .authWait]) :=
      { always := ⟨rfl, rfl⟩, auth := fun _ => by simp [known, clear] }
    split
    · split
      · exact (none.clear (by decide)).clear (by decide)
      · exact none.clear (by decide)
    · split
      · exact none.clear (by decide)
      · exact none

theorem Sound.of_same (needs : Needs protocol session.tls.isSome self)
    {after : LogonSession} (same : after.tls = session.tls)
    (place : session.tls.isSome = false → self.opState.Place protocol agreed) :
    Sound protocol after.tls.isSome agreed self := by
  rw [same]
  exact { needs with place := place }

theorem Sound.of_tls (needs : Needs protocol tls self) {after : LogonSession}
    (secured : after.tls.isSome = true) : Sound protocol after.tls.isSome agreed self := by
  rw [secured]
  exact { needs.of_tls with place := fun impossible => absurd impossible (by simp) }

theorem advance_kept (environment : LogonEnvironment) (session : LogonSession)
    (states : List LogonState) (needs : Needs protocol tls self) :
    Needs protocol tls (self.advance environment session states).2.1 ∧
    (self.advance environment session states).2.2.tls = session.tls ∧
    (self.advance environment session states).2.1.opState ∈ self.opState :: states ∧
    (self.advance environment session states).1 ≠ .wouldBlock := by
  induction states generalizing self session with
  | nil => exact ⟨needs, rfl, mem_cons_self, by simp [advance]⟩
  | cons state later ih =>
    have here : Needs protocol tls { self with opState := state } := needs.of_eq rfl
    have stops {result : LogonResult} {after : LogonSession} (same : after.tls = session.tls)
        (decided : result ≠ .wouldBlock) :
        Needs protocol tls (result, { self with opState := state }, after).2.1 ∧
        (result, { self with opState := state }, after).2.2.tls = session.tls ∧
        (result, { self with opState := state }, after).2.1.opState ∈
          self.opState :: state :: later ∧
        (result, { self with opState := state }, after).1 ≠ .wouldBlock :=
      ⟨here, same, mem_cons_of_mem _ mem_cons_self, decided⟩
    have goes {data : LogonData} {after : LogonSession} (kept : Needs protocol tls data)
        (place : data.opState = state) (same : after.tls = session.tls) :
        Needs protocol tls (data.advance environment after later).2.1 ∧
        (data.advance environment after later).2.2.tls = session.tls ∧
        (data.advance environment after later).2.1.opState ∈ self.opState :: state :: later ∧
        (data.advance environment after later).1 ≠ .wouldBlock := by
      obtain ⟨needs, tls, member, decided⟩ := @ih data after kept
      rw [place] at member
      exact ⟨needs, tls.trans same, mem_cons_of_mem _ member, decided⟩
    unfold advance
    dsimp only
    split
    case isTrue => exact stops rfl (by simp)
    case isFalse =>
      split
      case isTrue => exact goes here rfl rfl
      case isFalse =>
        split
        case h_1 =>
          split
          · exact stops rfl (by simp)
          · split
            · exact goes (here.clear (by decide)) rfl rfl
            · exact goes here rfl rfl
        case h_2 =>
          split
          · exact stops rfl (by simp)
          · exact goes here rfl rfl
        case h_3 =>
          split
          · exact stops rfl (by simp)
          · exact goes here rfl rfl
        case h_4 =>
          split
          · exact stops rfl (by simp)
          · exact goes here rfl rfl
        case h_5 =>
          split
          · exact goes here rfl rfl
          · split
            · exact stops rfl (by simp)
            · exact goes here rfl rfl
            · split
              · exact stops rfl (by simp)
              · exact goes here rfl rfl
        case h_6 => exact stops rfl (by simp)

theorem advance_skip {state : LogonState} (later : List LogonState)
    (unneeded : self.neededCommands state = false) (more : state ≠ .done) :
    self.advance environment session (state :: later) =
      { self with opState := state }.advance environment session later := by
  rw [advance]
  simp only [if_neg more, unneeded, Bool.not_false, if_true]

theorem advance_stop {state : LogonState} (later : List LogonState)
    (needed : self.neededCommands state = true) (early : state.late = false) :
    self.advance environment session (state :: later) =
      (.proceed, { self with opState := state }, session) := by
  rw [advance]
  cases state <;>
    first
    | exact absurd early (by decide)
    | simp [needed]

theorem advance_place (needs : Needs protocol false self)
    (early : self.opState = .connect ∨ self.opState = .authTls ∨
      (self.opState = .welcome ∧ protocol ≠ .ftps))
    (asks : self.opState = .authTls → asksForTls protocol = true) :
    (self.advance environment session self.opState.following).2.1.opState.Place protocol
      agreed := by
  obtain ⟨authTls, authSsl, authWait⟩ := needs.auth rfl
  rcases early with state | state | ⟨state, explicit⟩
  · rw [state]
    change Place protocol agreed
      (self.advance environment session (.welcome :: _)).2.1.opState
    rw [advance_stop _ needs.always.1 rfl]
    trivial
  · rw [state]
    change Place protocol agreed
      (self.advance environment session (.authSsl :: _)).2.1.opState
    rw [advance_stop _ (authSsl.trans (asks state)) rfl]
    exact asks state
  · rw [state]
    change Place protocol agreed
      (self.advance environment session (.authTls :: .authSsl :: .authWait :: .security ::
        _)).2.1.opState
    cases known : asksForTls protocol with
    | true =>
      rw [advance_stop _ (authTls.trans known) rfl]
      exact known
    | false =>
      rw [advance_skip _ (authTls.trans known) (by simp), advance_skip, advance_skip,
        advance_stop _ _ rfl]
      · have neither := of_decide_eq_false known
        exact decide_eq_false fun either =>
          either.elim explicit fun same => neither (.inl same)
      · exact needs.always.2
      · exact authWait known
      · simp
      · exact authSsl.trans known
      · simp

theorem advance_late (needs : Needs protocol tls self) (late : self.opState.late = true) :
    (self.advance environment session self.opState.following).2.1.opState.late = true := by
  obtain ⟨_, _, member, _⟩ := advance_kept environment session self.opState.following needs
  rcases mem_cons.mp member with same | later
  · rw [same]
    exact late
  · exact following_late late later

inductive StateCase (environment : LogonEnvironment) (response : WString)
    (session : LogonSession) (self : LogonData) (protocol : ServerProtocol) (tls : Bool) :
    Option LogonResult × LogonData × LogonSession → Prop
  | stays (result : LogonResult) (data : LogonData) (after : LogonSession)
      (needs : Needs protocol tls data) (place : data.opState = self.opState)
      (same : after.tls = session.tls) (decided : result ≠ .wouldBlock)
      (goes : result = .proceed → self.opState.late = true) :
      StateCase environment response session self protocol tls (some result, data, after)
  | secured (result : LogonResult) (data : LogonData) (after : LogonSession)
      (needs : Needs protocol true data) (place : data.opState ≠ .connect)
      (layer : after.tls.isSome = true)
      (asked : self.opState = .authTls ∨ self.opState = .authSsl) :
      StateCase environment response session self protocol tls (some result, data, after)
  | refused (data : LogonData) (after : LogonSession) (needs : Needs protocol tls data)
      (asked : self.opState = .authSsl) (plain : environment.settings.server.protocol = .ftp)
      (place : data.opState = .security) (same : after.tls = session.tls) :
      StateCase environment response session self protocol tls (some .proceed, data, after)
  | advances (data : LogonData) (after : LogonSession) (needs : Needs protocol tls data)
      (place : data.opState = self.opState) (same : after.tls = session.tls)
      (asked : self.opState ≠ .authSsl)
      (greeted : self.opState = .welcome → positive (replyCode response) = true) :
      StateCase environment response session self protocol tls (none, data, after)

variable (response : WString)

theorem noteChallenge_kept (session : LogonSession) (self : LogonData) :
    (self.noteChallenge response session).neededCommands = self.neededCommands ∧
    (self.noteChallenge response session).opState = self.opState := by
  unfold noteChallenge
  split
  · split
    · split <;> exact ⟨rfl, rfl⟩
    · split <;> exact ⟨rfl, rfl⟩
  · split <;> exact ⟨rfl, rfl⟩

theorem parseLogin_kept (session : LogonSession) (self : LogonData) :
    (self.parseLogin response session).2.neededCommands = self.neededCommands ∧
    (self.parseLogin response session).2.opState = self.opState ∧
    (self.parseLogin response session).1 ≠ some .wouldBlock := by
  unfold parseLogin
  split
  case h_1 => exact ⟨rfl, rfl, by simp⟩
  case h_2 command later _ =>
    have kept : (if command.type = .user then self.noteChallenge response session
          else self).neededCommands = self.neededCommands ∧
        (if command.type = .user then self.noteChallenge response session
          else self).opState = self.opState := by
      split
      · exact noteChallenge_kept response session self
      · exact ⟨rfl, rfl⟩
    dsimp only
    generalize (if command.type = .user then self.noteChallenge response session
      else self) = noted at kept ⊢
    generalize (if replyCode response = 2 then later.dropWhile LoginCommand.optional
      else later) = left
    split
    · exact ⟨kept.1, kept.2, by simp⟩
    · split
      · exact ⟨kept.1, kept.2, by simp⟩
      · split
        · exact ⟨kept.1, kept.2, by simp⟩
        · exact ⟨kept.1, kept.2, by simp⟩

theorem parseFeatReply_kept (environment : LogonEnvironment) (code : Nat)
    (session : LogonSession) :
    ((parseFeatReply environment code session).1 = none ∨
      (parseFeatReply environment code session).1 = some .error) ∧
    (parseFeatReply environment code session).2.tls = session.tls := by
  refine ⟨?_, rfl⟩
  unfold parseFeatReply
  rcases Classical.em _ with differs | same
  · exact .inr (if_pos differs)
  · exact .inl (if_neg same)

theorem parseAuth_cases (needs : Needs protocol tls self)
    (asked : self.opState = .authTls ∨ self.opState = .authSsl) :
    StateCase environment response session self protocol tls
      (self.parseAuth environment (replyCode response) session) := by
  unfold parseAuth
  dsimp only
  split
  case isTrue =>
    split
    case isTrue ssl =>
      split
      case isTrue plain =>
        exact .refused _ _ ((needs.clear (by decide)).of_eq rfl) ssl plain rfl rfl
      case isFalse => exact .stays _ _ _ needs rfl rfl (by simp) (by simp)
    case isFalse tls =>
      refine .advances _ _ needs rfl rfl tls fun welcome => ?_
      rcases asked with state | state <;>
        cases welcome.symm.trans state
  case isFalse =>
    split
    case isTrue =>
      refine .secured _ _ _ needs.of_tls ?_ rfl asked
      rcases asked with state | state <;> simp [state]
    case isFalse =>
      refine .secured _ _ _ ?_ (by simp) rfl asked
      exact
        { always := by
            change (self.neededCommands .welcome && _) = true ∧
              (self.neededCommands .security && _) = true
            rw [needs.always.1, needs.always.2]
            exact ⟨rfl, rfl⟩
          auth := fun impossible => absurd impossible (by simp) }

theorem parseState_cases (environment : LogonEnvironment) (response : WString)
    (session : LogonSession) (needs : Needs protocol tls self) :
    StateCase environment response session self protocol tls
      (self.parseState environment response session) := by
  have advances {data : LogonData} {after : LogonSession} (kept : Needs protocol tls data)
      (place : data.opState = self.opState) (same : after.tls = session.tls)
      (asked : self.opState ≠ .authSsl) (greeted : self.opState ≠ .welcome) :
      StateCase environment response session self protocol tls (none, data, after) :=
    .advances data after kept place same asked fun welcome => absurd welcome greeted
  unfold parseState
  dsimp only
  split
  case h_1 state =>
    split
    case isTrue greeted =>
      exact .advances _ _ needs rfl rfl (by simp [state]) fun _ => greeted
    case isFalse => exact .stays _ _ _ needs rfl rfl (by simp) (by simp)
  case h_2 state => exact parseAuth_cases response needs (.inl state)
  case h_3 state => exact parseAuth_cases response needs (.inr state)
  case h_4 state =>
    obtain ⟨needed, place, decided⟩ := parseLogin_kept response session self
    rcases outcome : self.parseLogin response session with ⟨result, data⟩
    rw [outcome] at needed place decided
    cases result with
    | some result =>
      refine .stays _ _ _ (needs.of_eq needed) place rfl (fun same => decided ?_) fun _ => ?_
      · rw [same]
      · rw [state]
        rfl
    | none =>
      exact advances (needs.of_eq needed) place rfl (by simp [state]) (by simp [state])
  case h_5 state =>
    refine advances ?_ ?_ rfl (by simp [state]) (by simp [state])
    · split
      · exact needs.clear (by decide)
      · exact needs
    · split <;> rfl
  case h_6 state =>
    obtain ⟨decided, same⟩ := parseFeatReply_kept environment (replyCode response) session
    rcases outcome : parseFeatReply environment (replyCode response) session with
      ⟨result, after⟩
    rw [outcome] at decided same
    rcases decided with rfl | rfl
    · exact advances needs rfl same (by simp [state]) (by simp [state])
    · exact .stays _ _ _ needs rfl same (by simp) (by simp)
  case h_7 state =>
    refine advances needs rfl ?_ (by simp [state]) (by simp [state])
    split <;> rfl
  case h_8 state =>
    split
    · refine .stays _ _ _ (needs.of_eq rfl) rfl rfl (by simp) fun _ => ?_
      rw [state]
      rfl
    · exact advances (needs.of_eq rfl) rfl rfl (by simp [state]) (by simp [state])
  case h_9 greeting _ ssl _ _ _ _ _ =>
    exact advances needs rfl rfl ssl greeting

structure Answered (protocol : ServerProtocol) (agreed : Prop) (before : LogonData)
    (session : LogonSession) (result : LogonResult × LogonData × LogonSession) : Prop where
  sound : Sound protocol result.2.2.tls.isSome agreed result.2.1
  waits : result.1 = .wouldBlock → result.2.2.tls.isSome = true
  late : before.opState.late = true → result.2.1.opState.late = true
  begun : result.2.1.opState = .connect → before.opState = .connect ∧ result.2.2.tls = session.tls
  layer : session.tls.isSome = true → result.2.2.tls.isSome = true

theorem parseResponse_answered (plain : environment.settings.server.protocol = protocol)
    {response : WString} (sound : Sound protocol session.tls.isSome agreed self)
    (settled : session.tls.isSome = false → self.opState ≠ .security)
    (greeted : session.tls.isSome = false → protocol = .ftps → self.opState = .welcome →
      positive (replyCode response) = false) :
    Answered protocol agreed self session (self.parseResponse environment response session) := by
  have parsed := parseState_cases environment response session sound.toNeeds
  unfold parseResponse
  generalize self.parseState environment response session = triple at parsed ⊢
  cases parsed with
  | stays result data after needs place same decided goes =>
    exact
      { sound := .of_same needs same fun bare => place ▸ sound.place bare
        waits := fun waiting => absurd waiting decided
        late := fun late => by
          dsimp only
          rw [place]
          exact late
        begun := fun first => ⟨place.symm.trans first, same⟩
        layer := fun layer => same ▸ layer }
  | secured result data after needs place layer asked =>
    exact
      { sound := .of_tls needs layer
        waits := fun _ => layer
        late := fun late => by
          rcases asked with state | state
          · rw [state] at late
            cases late
          · rw [state] at late
            cases late
        begun := fun first => absurd first place
        layer := fun _ => layer }
  | refused data after needs asked ftp place same =>
    refine
      { sound := .of_same needs same fun _ => ?_
        waits := fun waiting => absurd waiting (by simp)
        late := fun late => ?_
        begun := fun first => absurd (place.symm.trans first) (by simp)
        layer := fun layer => same ▸ layer }
    · rw [place, ← plain, ftp]
      rfl
    · rw [asked] at late
      cases late
  | advances data after needs place same asked greets =>
    obtain ⟨kept, layer, member, decided⟩ :=
      advance_kept environment after data.opState.following needs
    refine
      { sound := .of_same kept (layer.trans same) fun bare => ?_
        waits := fun waiting => absurd waiting decided
        late := fun late => ?_
        begun := fun first => ⟨?_, layer.trans same⟩
        layer := fun before => (layer.trans same) ▸ before }
    · have stays := sound.place bare
      rw [bare] at needs
      cases late : self.opState.late with
      | true =>
        refine (place_late (advance_late needs ?_)).mpr ?_
        · rw [place]
          exact late
        · exact (place_late late).mp stays
      | false =>
        apply advance_place needs
        · rw [place]
          cases state : self.opState with
          | connect => exact .inl rfl
          | authTls => exact .inr (.inl rfl)
          | welcome =>
            refine .inr (.inr ⟨rfl, fun ftps => ?_⟩)
            exact absurd ((greets state).symm.trans (greeted bare ftps state)) (by simp)
          | authSsl => exact absurd state asked
          | authWait =>
            rw [state] at stays
            exact absurd stays id
          | security => exact absurd state (settled bare)
          | _ =>
            rw [state] at late
            cases late
        · intro state
          rw [place] at state
          rw [state] at stays
          exact stays
    · apply advance_late needs
      rw [place]
      exact late
    · rw [first, place] at member
      rcases mem_cons.mp member with same | later
      · exact same.symm
      · exact absurd later (connect_not_following _)

inductive SendCase (environment : LogonEnvironment) (session : LogonSession)
    (self : LogonData) : LogonSending × LogonData → Prop
  | result (result : LogonResult) (data : LogonData)
      (needed : data.neededCommands = self.neededCommands)
      (place : data.opState = self.opState) (explicit : self.opState ≠ .security)
      (decided : result ≠ .proceed) :
      SendCase environment session self (.result result, data)
  | doConnect (data : LogonData) (needed : data.neededCommands = self.neededCommands)
      (first : self.opState = .connect) (place : data.opState = .welcome) :
      SendCase environment session self (.doConnect, data)
  | command (command : FtpCommand) (data : LogonData)
      (needed : data.neededCommands = self.neededCommands)
      (place : data.opState = self.opState) (explicit : self.opState ≠ .security)
      (connected : self.opState ≠ .connect ∧ self.opState ≠ .welcome)
      (login : command.login = true → self.opState = .logon) (logsOn : command.logsOn = true) :
      SendCase environment session self (.command command, data)
  | request (kind : RequestKind) (data : LogonData)
      (needed : data.neededCommands = self.neededCommands)
      (place : data.opState = self.opState) (login : self.opState = .logon) :
      SendCase environment session self (.request kind, data)
  | asks (data : LogonData) (needed : data.neededCommands = self.neededCommands)
      (security : self.opState = .security) (place : data.opState = .logon)
      (bare : session.tls.isSome = false) :
      SendCase environment session self (.request .insecureConnection, data)
  | secured (data : LogonData) (needed : data.neededCommands = self.neededCommands)
      (security : self.opState = .security) (place : data.opState = .logon)
      (layer : session.tls.isSome = true) :
      SendCase environment session self (.result .proceed, data)

theorem sendLogin_cases (login : self.opState = .logon) :
    SendCase environment session self (self.sendLogin environment session) := by
  have sends {command : FtpCommand} {data : LogonData} (logsOn : command.logsOn = true)
      (needed : data.neededCommands = self.neededCommands) (place : data.opState = self.opState) :
      SendCase environment session self (.command command, data) :=
    .command command data needed place (by simp [login]) (by simp [login]) (fun _ => login) logsOn
  have fails : SendCase environment session self (.result .error, self) :=
    .result _ _ rfl rfl (by simp [login]) (by simp)
  unfold sendLogin
  split
  case h_1 => exact fails
  case h_2 command later _ =>
    dsimp only
    split
    case h_1 =>
      have noted : (if environment.settings.logonType = .interactive then
            { self with challengeMode := .always }
          else if session.filezillaAlpn then { self with challengeMode := .mfa }
          else self).neededCommands = self.neededCommands ∧
          (if environment.settings.logonType = .interactive then
            { self with challengeMode := .always }
          else if session.filezillaAlpn then { self with challengeMode := .mfa }
          else self).opState = self.opState := by
        split
        · exact ⟨rfl, rfl⟩
        · split <;> exact ⟨rfl, rfl⟩
      generalize (if environment.settings.logonType = .interactive then
          { self with challengeMode := .always }
        else if session.filezillaAlpn then { self with challengeMode := .mfa }
        else self) = data at noted ⊢
      apply sends
      · split <;> rfl
      · split
        · exact noted.1
        · exact noted.1
      · split
        · exact noted.2
        · exact noted.2
    case h_2 =>
      split
      case isTrue => exact .request _ _ rfl rfl login
      case isFalse =>
        split
        case isTrue => exact .request _ _ rfl rfl login
        case isFalse =>
          split
          · exact sends rfl rfl rfl
          · exact sends rfl rfl rfl
    case h_3 =>
      apply sends
      · split <;> rfl
      · rfl
      · rfl
    case h_4 =>
      split
      case isTrue => exact fails
      case isFalse => exact sends rfl rfl rfl

theorem send_cases (environment : LogonEnvironment) (session : LogonSession)
    (self : LogonData) : SendCase environment session self (self.send environment session) := by
  unfold send
  split
  case h_1 state =>
    have ends {result : LogonResult} {data : LogonData} (decided : result ≠ .proceed)
        (needed : data.neededCommands = self.neededCommands)
        (place : data.opState = self.opState) :
        SendCase environment session self (.result result, data) :=
      .result result data needed place (by simp [state]) decided
    have typed : (if !environment.settings.genericProxy ∧
          !environment.settings.server.bypassProxy then
          { self with ftpProxyType := environment.settings.ftpProxyType }
        else self).neededCommands = self.neededCommands ∧
        (if !environment.settings.genericProxy ∧
          !environment.settings.server.bypassProxy then
          { self with ftpProxyType := environment.settings.ftpProxyType }
        else self).opState = self.opState := by
      split <;> exact ⟨rfl, rfl⟩
    split
    case isTrue => exact ends (by simp) rfl rfl
    case isFalse =>
      dsimp only
      generalize (if !environment.settings.genericProxy ∧
          !environment.settings.server.bypassProxy then
          { self with ftpProxyType := environment.settings.ftpProxyType }
        else self) = data at typed ⊢
      split
      case h_1 => exact ends (by simp) typed.1 typed.2
      case h_2 =>
        split
        case h_1 => exact ends (by simp) typed.1 typed.2
        case h_2 => exact .doConnect _ typed.1 state rfl
  case h_2 state => exact .result _ _ rfl rfl (by simp [state]) (by simp)
  case h_3 state | h_4 state | h_6 state | h_8 state | h_9 state | h_10 state | h_11 state
      | h_12 state | h_14 state =>
      exact .command _ _ rfl rfl (by simp [state]) (by simp [state]) (fun impossible => by
        cases impossible) rfl
  case h_5 state =>
    dsimp only
    split
    case isTrue layer => exact .secured _ rfl state rfl layer
    case isFalse bare => exact .asks _ rfl state rfl (Bool.eq_false_iff.mpr bare)
  case h_7 state => exact sendLogin_cases state
  case h_13 state =>
    split
    case h_1 => exact .result _ _ rfl rfl (by simp [state]) (by simp)
    case h_2 =>
      exact .command _ _ rfl rfl (by simp [state]) (by simp [state]) (fun impossible => by
        cases impossible) rfl
  case h_15 state => exact .result _ _ rfl rfl (by simp [state]) (by simp)
  case h_16 state => exact .result _ _ rfl rfl (by simp [state]) (by simp)

end LogonData

namespace LogonSocket

open LogonData

variable {environment : LogonEnvironment} {self : LogonSocket}

abbrev Agreed (socket : LogonSocket) : Prop :=
  socket.consented = true ∨ socket.pendingRequest = some .insecureConnection

/-- A login command is protected, or the user has allowed that it is not. -/
def Protects (protocol : ServerProtocol) (record : Handed) : Prop :=
  record.command.login = true →
    record.tls = true ∨ (record.consented = true ∧ requiresTls protocol = false)

structure Guarded (protocol : ServerProtocol) (socket : LogonSocket) : Prop where
  sound : ∀ data, socket.logon = some data →
    Sound protocol socket.session.tls.isSome socket.Agreed data
  fresh : ∀ data, socket.logon = some data → data.opState = .connect → socket.session.tls = none
  unskipped : ∀ data, socket.logon = some data → socket.repliesToSkip = 0
  asked : ∀ data, socket.logon = some data → socket.session.tls.isSome = false →
    socket.pendingRequest.isSome = true → data.opState.late = true
  unanswered : protocol = .ftps → socket.session.tls.isSome = false → socket.pendingReplies = 0
  handed : ∀ record ∈ socket.handed, Protects protocol record

structure Protected (protocol : ServerProtocol) (socket : LogonSocket) : Prop
    extends Guarded protocol socket where
  settled : ∀ data, socket.logon = some data → socket.session.tls.isSome = false →
    data.opState ≠ .security

variable {protocol : ServerProtocol}

theorem protected_of_ended (ended : self.logon = none)
    (unanswered : protocol = .ftps → self.session.tls.isSome = false → self.pendingReplies = 0)
    (handed : ∀ record ∈ self.handed, Protects protocol record) : Protected protocol self where
  sound _ impossible := absurd (ended.symm.trans impossible) (by simp)
  fresh _ impossible := absurd (ended.symm.trans impossible) (by simp)
  unskipped _ impossible := absurd (ended.symm.trans impossible) (by simp)
  asked _ impossible := absurd (ended.symm.trans impossible) (by simp)
  unanswered := unanswered
  handed := handed
  settled _ impossible := absurd (ended.symm.trans impossible) (by simp)

theorem Guarded.resetOperation (guarded : Guarded protocol self) :
    Protected protocol self.resetOperation :=
  protected_of_ended rfl guarded.unanswered guarded.handed

variable {data : LogonData}

theorem Guarded.waits (guarded : Guarded protocol self) (ftps : protocol = .ftps)
    (bare : self.session.tls.isSome = false) (logon : self.logon = some data) :
    data.opState = .connect ∨ data.opState = .welcome := by
  have place := (guarded.sound data logon).place bare
  subst ftps
  cases state : data.opState with
  | connect => exact .inl rfl
  | welcome => exact .inr rfl
  | authTls | authSsl =>
    rw [state] at place
    have asks : asksForTls .ftps = true := place
    cases asks
  | security =>
    rw [state] at place
    have plain : requiresTls .ftps = false := place
    cases plain
  | authWait =>
    rw [state] at place
    exact absurd place id
  | _ =>
    rw [state] at place
    cases place.2

theorem Guarded.moved (guarded : Guarded protocol self) {after : LogonData}
    (logon : self.logon = some data) (needed : after.neededCommands = data.neededCommands)
    (begun : after.opState = .connect → data.opState = .connect) {request : Option RequestKind}
    (late : self.session.tls.isSome = false → request.isSome = true → after.opState.late = true)
    (place : self.session.tls.isSome = false → after.opState.Place protocol
      (self.consented = true ∨ request = some .insecureConnection)) :
    Guarded protocol { self with logon := some after, pendingRequest := request } where
  sound other same := by
    cases same
    exact { (guarded.sound data logon).toNeeds.of_eq needed with place := place }
  fresh other same first := by
    cases same
    exact guarded.fresh data logon (begun first)
  unskipped _ _ := guarded.unskipped data logon
  asked other same bare some := by
    cases same
    exact late bare some
  __ := guarded

theorem Guarded.settle (guarded : Guarded protocol self) (logon : self.logon = some data)
    (settled : self.session.tls.isSome = false → data.opState ≠ .security) :
    Protected protocol self :=
  { guarded with
    settled := fun other same bare => by
      cases logon.symm.trans same
      exact settled bare }

theorem sendCommand_protected (guarded : Guarded protocol self) (logon : self.logon = some data)
    (free : self.pendingRequest = none) (explicit : data.opState ≠ .security)
    (connected : data.opState ≠ .connect ∧ data.opState ≠ .welcome) {command : FtpCommand}
    (login : command.login = true → data.opState = .logon) :
    Protected protocol (self.sendCommand environment command) := by
  have recorded : ∀ record ∈ self.handed ++
      [(⟨command, self.session.tls.isSome, self.consented⟩ : Handed)],
      Protects protocol record := by
    intro record member
    rcases mem_append.mp member with old | new
    · exact guarded.handed record old
    · obtain rfl := mem_singleton.mp new
      intro sent
      cases bare : self.session.tls.isSome with
      | true => exact .inl rfl
      | false =>
        have place := (guarded.sound data logon).place bare
        rw [login sent] at place
        refine .inr ⟨place.1.resolve_right ?_, place.2⟩
        simp [free]
  unfold sendCommand
  dsimp only
  split
  case isTrue => exact protected_of_ended rfl guarded.unanswered recorded
  case isFalse =>
    exact
      { guarded with
        unanswered := fun ftps bare => by
          rcases guarded.waits ftps bare logon with state | state
          · exact absurd state connected.1
          · exact absurd state connected.2
        handed := recorded
        settled := fun other same _ => by
          cases logon.symm.trans same
          exact explicit }

variable {next : LogonSocket}

theorem sendTurns_protected {turns : Nat} (guarded : Guarded protocol self)
    (last : turns = 0 → Protected protocol self)
    (sent : self.sendTurns environment turns = some next) : Protected protocol next := by
  induction turns generalizing self with
  | zero =>
    cases sent
    exact last rfl
  | succ turns ih =>
    unfold sendTurns at sent
    split at sent
    case h_1 ended =>
      cases sent
      exact protected_of_ended ended guarded.unanswered guarded.handed
    case h_2 data logon =>
      have sound := guarded.sound data logon
      split at sent
      case isTrue blocked =>
        cases sent
        refine guarded.settle logon fun bare => ?_
        rcases blocked with request | skipping
        · intro security
          have late := guarded.asked data logon bare request
          rw [security] at late
          cases late
        · exact absurd (guarded.unskipped data logon) skipping
      case isFalse unblocked =>
        have free : self.pendingRequest = none := by
          simp only [not_or, Bool.not_eq_true, Option.isSome_eq_false_iff,
            Option.isNone_iff_eq_none] at unblocked
          exact unblocked.1
        have stays {after : LogonData} (needed : after.neededCommands = data.neededCommands)
            (place : after.opState = data.opState) :
            Guarded protocol { self with logon := some after } := by
          apply guarded.moved logon needed (fun first => place ▸ first)
          · intro _ some
            rw [free] at some
            cases some
          · rw [place]
            exact sound.place
        have sends := send_cases environment self.session data
        generalize data.send environment self.session = outcome at sends sent
        cases sends with
        | result result after needed place explicit decided =>
          have kept := stays needed place
          cases result with
          | wouldBlock =>
            cases sent
            exact kept.settle rfl fun _ => place ▸ explicit
          | proceed => exact absurd rfl decided
          | disconnected => cases sent
          | ok | error =>
            cases sent
            exact kept.resetOperation
        | doConnect after needed first place =>
          dsimp only at sent
          obtain ⟨-, rfl⟩ := some_of_guard sent
          have needs := sound.toNeeds
          rw [guarded.fresh data logon first] at needs
          exact
            { sound := fun other same => by
                cases same
                refine { needs.of_eq needed with place := fun _ => ?_ }
                rw [place]
                trivial
              fresh := fun _ _ _ => rfl
              unskipped := fun _ _ => rfl
              asked := fun _ _ _ some => by
                dsimp only at some
                rw [free] at some
                cases some
              unanswered := fun _ _ => rfl
              handed := guarded.handed
              settled := fun other same _ => by
                cases same
                simp [place] }
        | command command after needed place explicit connected login logsOn =>
          cases sent
          apply sendCommand_protected (stays needed place) rfl free
          · exact place ▸ explicit
          · exact place ▸ connected
          · exact place ▸ login
        | request kind after needed place login =>
          cases sent
          have late : after.opState.late = true := by
            rw [place, login]
            rfl
          have asks : Guarded protocol
              { self with logon := some after, pendingRequest := some kind } := by
            apply guarded.moved logon needed (fun first => place ▸ first)
            · exact fun _ _ => late
            · intro bare
              rw [place]
              refine (sound.place bare).mono fun agreed => .inl (agreed.resolve_right ?_)
              simp [free]
          refine asks.settle rfl fun _ security => ?_
          rw [security] at late
          cases late
        | asks after needed security place bare =>
          cases sent
          have plain := sound.place bare
          rw [security] at plain
          have asks : Guarded protocol
              { self with
                logon := some after
                pendingRequest := some .insecureConnection } := by
            apply guarded.moved logon needed
            · exact fun first => absurd (place.symm.trans first) (by simp)
            · intro _ _
              rw [place]
              rfl
            · intro _
              rw [place]
              exact ⟨.inr rfl, plain⟩
          exact asks.settle rfl fun _ => by simp [place]
        | secured after needed security place layer =>
          have secure : Guarded protocol { self with logon := some after } := by
            apply guarded.moved logon needed
            · exact fun first => absurd (place.symm.trans first) (by simp)
            · exact fun bare => absurd (layer.symm.trans bare) (by simp)
            · exact fun bare => absurd (layer.symm.trans bare) (by simp)
          apply ih secure _ sent
          intro _
          exact secure.settle rfl fun _ => by simp [place]

theorem Protected.with_session (safe : Protected protocol self) {session : LogonSession}
    (same : session.tls = self.session.tls) : Protected protocol { self with session } where
  sound data logon := by
    dsimp only
    rw [same]
    exact safe.sound data logon
  fresh data logon first := same.trans (safe.fresh data logon first)
  __ := safe
  asked data logon bare := safe.asked data logon (same ▸ bare)
  unanswered ftps bare := safe.unanswered ftps (same ▸ bare)
  settled data logon bare := safe.settled data logon (same ▸ bare)

theorem sendNextCommand_protected (guarded : Guarded protocol self)
    (sent : self.sendNextCommand environment = some next) : Protected protocol next :=
  sendTurns_protected guarded (fun impossible => absurd impossible (by simp)) sent

theorem parseLine_protected {line : WString} (safe : Protected protocol self)
    (parsed : self.parseLine line = some next) :
    Protected protocol next := by
  unfold parseLine at parsed
  split at parsed
  case h_1 =>
    cases parsed
    exact safe
  case h_2 data logon =>
    obtain ⟨⟨after, session⟩, outcome, rfl⟩ := Option.map_eq_some_iff.mp parsed
    have kept : after.neededCommands = data.neededCommands ∧ after.opState = data.opState ∧
        session.tls = self.session.tls := by
      unfold LogonData.parseLine at outcome
      split at outcome
      · cases outcome
        exact ⟨rfl, rfl, rfl⟩
      · split at outcome
        · cases outcome
          exact ⟨rfl, rfl, rfl⟩
        · split at outcome
          · split at outcome
            · cases outcome
            · cases outcome
              exact ⟨rfl, rfl, rfl⟩
          · cases outcome
            exact ⟨rfl, rfl, rfl⟩
    obtain ⟨needed, place, tls⟩ := kept
    have stays : Guarded protocol
        { self with logon := some after, pendingRequest := self.pendingRequest } := by
      apply safe.toGuarded.moved logon needed (fun first => place ▸ first)
      · rw [place]
        exact safe.asked data logon
      · rw [place]
        exact (safe.sound data logon).place
    have settled := stays.settle rfl fun bare => place ▸ safe.settled data logon bare
    exact settled.with_session tls

theorem positive_preliminary {response : WString}
    (preliminary : response.head? = some '1'.toNat) : positive (replyCode response) = false := by
  cases response with
  | nil => cases preliminary
  | cons char later =>
    cases preliminary
    rfl

theorem parseResponse_protected (plain : environment.settings.server.protocol = protocol)
    {reply : Reply} (safe : Protected protocol self)
    (parsed : self.parseResponse environment reply = some next) : Protected protocol next := by
  unfold parseResponse at parsed
  obtain ⟨final, last⟩ : ∃ final : Nat, final =
      if reply.response.head? = some '1'.toNat then 0 else 1 := ⟨_, rfl⟩
  dsimp only at parsed
  rw [← last] at parsed
  split at parsed
  case isTrue =>
    cases parsed
    exact safe
  case isFalse counted =>
    have counts (pending : Nat) (none : self.pendingReplies = 0 → pending = 0) :
        Protected protocol { self with pendingReplies := pending } :=
      { safe with unanswered := fun ftps bare => none (safe.unanswered ftps bare) }
    have count := counts (self.pendingReplies - final) fun none => by rw [none, Nat.zero_sub]
    split at parsed
    case isTrue skipping =>
      have ended : self.logon = none := by
        cases logon : self.logon with
        | none => rfl
        | some data => exact absurd (safe.unskipped data logon) skipping
      rw [if_neg fun sends => by simp [ended] at sends] at parsed
      cases parsed
      exact protected_of_ended ended count.unanswered count.handed
    case isFalse =>
      split at parsed
      case h_1 =>
        cases parsed
        exact count
      case h_2 data logon =>
        have answered : Answered protocol self.Agreed data self.session
            (data.parseResponse environment reply.response self.session) := by
          apply parseResponse_answered plain (safe.sound data logon)
          · exact safe.settled data logon
          · intro bare ftps welcome
            have none := safe.unanswered ftps bare
            apply positive_preliminary
            refine Classical.byContradiction fun other => counted ⟨?_, none⟩
            rw [last, if_neg other]
        rcases outcome : data.parseResponse environment reply.response self.session with
          ⟨result, after, session⟩
        rw [outcome] at answered parsed
        have guarded : Guarded protocol
            { self with
              logon := some after, session, given := self.given ++ [reply.response]
              pendingReplies := self.pendingReplies - final } := by
          have before (bare : session.tls.isSome = false) :
              self.session.tls.isSome = false := by
            cases layer : self.session.tls.isSome with
            | false => rfl
            | true => exact absurd ((answered.layer layer).symm.trans bare) (by simp)
          exact
            { sound := fun other same => by
                cases same
                exact answered.sound
              fresh := fun other same first => by
                cases same
                obtain ⟨early, tls⟩ := answered.begun first
                exact tls.trans (safe.fresh data logon early)
              unskipped := fun _ _ => safe.unskipped data logon
              asked := fun other same bare some => by
                cases same
                exact answered.late (safe.asked data logon (before bare) some)
              unanswered := fun ftps bare => count.unanswered ftps (before bare)
              handed := safe.handed }
        cases result with
        | ok =>
          cases parsed
          exact guarded.resetOperation
        | proceed => exact sendNextCommand_protected guarded parsed
        | wouldBlock =>
          cases parsed
          refine guarded.settle rfl fun bare => ?_
          exact absurd ((answered.waits rfl).symm.trans bare) (by simp)
        | error | disconnected => cases parsed

theorem Protected.layered (safe : Protected protocol self)
    (begun : ∀ data, self.logon = some data → data.opState ≠ .connect) {session : LogonSession}
    (layer : session.tls.isSome = true) (request : Option RequestKind) (pending : Nat) :
    Protected protocol
      { self with session, pendingRequest := request, pendingReplies := pending } where
  sound data logon := .of_tls (safe.sound data logon).toNeeds layer
  fresh data logon first := absurd first (begun data logon)
  __ := safe
  asked _ _ bare := absurd (layer.symm.trans bare) (by simp)
  unanswered _ bare := absurd (layer.symm.trans bare) (by simp)
  settled _ _ bare := absurd (layer.symm.trans bare) (by simp)

theorem Guarded.begun (guarded : Guarded protocol self) {tls : TlsLayer}
    (layer : self.session.tls = some tls) (data : LogonData) (logon : self.logon = some data) :
    data.opState ≠ .connect := fun first =>
  absurd (layer.symm.trans (guarded.fresh data logon first)) (by simp)

theorem onConnect_protected (plain : environment.settings.server.protocol = protocol)
    (safe : Protected protocol self)
    (begun : ∀ data, self.logon = some data → data.opState ≠ .connect)
    (connected : self.onConnect environment = some next) : Protected protocol next := by
  unfold onConnect at connected
  dsimp only at connected
  rw [plain] at connected
  split at connected
  case h_1 bare =>
    split at connected
    case isTrue =>
      obtain ⟨-, rfl⟩ := some_of_guard connected
      apply safe.layered begun
      rfl
    case isFalse other =>
      cases connected
      exact { safe with unanswered := fun ftps => absurd ftps other }
  case h_2 tls layer =>
    have layered (pending : Nat) : Protected protocol
        { self with
          session := { self.session with tls := some { tls with connecting := false } }
          pendingReplies := pending } := by
      apply safe.layered begun
      rfl
    split at connected
    case isTrue =>
      exact sendNextCommand_protected (layered self.pendingReplies).toGuarded connected
    case isFalse =>
      cases connected
      exact layered 1

theorem onVerifyCert_protected (safe : Protected protocol self) (alpn : WString) :
    Protected protocol (self.onVerifyCert alpn) := by
  unfold onVerifyCert
  split
  case h_1 => exact safe
  case h_2 tls layer =>
    apply safe.layered (safe.toGuarded.begun layer)
    rfl

theorem Protected.unasked (safe : Protected protocol self) {consented : Bool}
    (agrees : self.Agreed → consented = true) :
    Protected protocol { self with pendingRequest := none, consented } where
  sound data logon :=
    { safe.sound data logon with
      place := fun bare => ((safe.sound data logon).place bare).mono fun agreed =>
        .inl (agrees agreed) }
  __ := safe
  asked _ _ _ impossible := absurd impossible (by simp)

theorem tlsHandshakeFinished_kept (session : LogonSession) {tls : Bool}
    (needs : Needs protocol tls data) (begun : data.opState ≠ .connect) :
    Needs protocol tls (data.tlsHandshakeFinished session).1 ∧
    (data.tlsHandshakeFinished session).1.opState ≠ .connect ∧
    (data.tlsHandshakeFinished session).2.tls = session.tls := by
  unfold LogonData.tlsHandshakeFinished
  split
  · split
    · exact ⟨(needs.clear (by decide)).of_eq rfl, by simp, rfl⟩
    · exact ⟨needs.of_eq rfl, by simp, rfl⟩
  · exact ⟨needs, begun, rfl⟩

theorem requestReply_protected (safe : Protected protocol self) {reply : RequestReply}
    (pending : self.pendingRequest = some reply.kind)
    (answered : { self with pendingRequest := none }.setAsyncRequestReply environment reply =
      some next) : Protected protocol next := by
  have reset : Protected protocol { self with pendingRequest := none }.resetOperation :=
    protected_of_ended rfl safe.unanswered safe.handed
  have other (kind : reply.kind ≠ .insecureConnection) :
      Protected protocol { self with pendingRequest := none } := by
    apply safe.unasked
    intro agreed
    refine agreed.resolve_right fun same => ?_
    exact kind (Option.some.inj (pending.symm.trans same))
  unfold setAsyncRequestReply at answered
  split at answered
  case h_1 allow =>
    split at answered
    case isTrue =>
      exact sendNextCommand_protected (safe.unasked fun _ => rfl).toGuarded answered
    case isFalse =>
      cases answered
      exact reset
  case h_2 response =>
    split at answered
    case h_1 =>
      cases answered
      exact reset
    case h_2 pass =>
      have logged := (other (by simp [RequestReply.kind])).with_session
        (show ({ self.session with pass } : LogonSession).tls = self.session.tls from rfl)
      exact sendNextCommand_protected logged.toGuarded answered
  case h_3 code =>
    split at answered
    case isTrue =>
      cases answered
      exact reset
    case isFalse =>
      have logged := (other (by simp [RequestReply.kind])).with_session
        (show ({ self.session with otpCode := some code } : LogonSession).tls =
          self.session.tls from rfl)
      exact sendNextCommand_protected logged.toGuarded answered
  case h_4 trusted =>
    have unasked := other (by simp [RequestReply.kind])
    split at answered
    case isTrue =>
      cases answered
      exact unasked
    case isFalse connecting =>
      obtain ⟨-, answered⟩ := of_refusal answered
      split at answered
      case h_1 =>
        cases answered
        exact unasked
      case h_2 data logon =>
        cases answered
        rw [Bool.not_eq_true', Bool.not_eq_false, Option.any_eq_true] at connecting
        obtain ⟨tls, layer, _⟩ := connecting
        have kept := tlsHandshakeFinished_kept self.session
          (safe.sound data logon).toNeeds (safe.toGuarded.begun layer data logon)
        have secure : (data.tlsHandshakeFinished self.session).2.tls.isSome = true := by
          rw [kept.2.2, layer]
          rfl
        exact
          { sound := fun later same => by
              cases same
              exact .of_tls kept.1 secure
            fresh := fun later same first => by
              cases same
              exact absurd first kept.2.1
            unskipped := fun _ _ => safe.unskipped data logon
            asked := fun _ _ bare => absurd (secure.symm.trans bare) (by simp)
            unanswered := fun _ bare => absurd (secure.symm.trans bare) (by simp)
            handed := safe.handed
            settled := fun _ _ bare => absurd (secure.symm.trans bare) (by simp) }

theorem act_protected {action : LogonSocket → Option LogonSocket}
    {socket : Receiver LogonSocket} (safe : Protected protocol socket.operations)
    (kept : ∀ next, action socket.operations = some next → Protected protocol next) :
    Protected protocol (act action socket).operations := by
  unfold act
  split
  case h_1 => exact safe
  case h_2 next acted => exact kept next acted

theorem unconnected_false {socket : LogonSocket} (connected : ¬ socket.unconnected = true)
    (data : LogonData) (logon : socket.logon = some data) : data.opState ≠ .connect := fun first =>
  connected (by simp [unconnected, logon, first])

theorem step_protected (plain : environment.settings.server.protocol = protocol)
    {socket next : Receiver LogonSocket} {event : LogonEvent}
    (safe : Protected protocol socket.operations)
    (taken : step environment socket event = some next) : Protected protocol next.operations := by
  obtain ⟨-, taken⟩ := of_refusal taken
  cases event with
  | begin =>
    dsimp only at taken
    obtain ⟨-, rfl⟩ := some_of_guard taken
    exact act_protected safe fun next sent =>
      sendNextCommand_protected safe.toGuarded sent
  | connection =>
    dsimp only at taken
    obtain ⟨connected, rfl⟩ := some_of_refusal taken
    exact act_protected safe fun next connects =>
      onConnect_protected plain safe (unconnected_false connected) connects
  | read bytes =>
    dsimp only at taken
    obtain ⟨-, rfl⟩ := some_of_guard taken
    have line : ∀ text socket next, Protected protocol socket →
        (handling environment).parseLine text socket = some next →
        Protected protocol next :=
      fun _ _ _ kept parsed => parseLine_protected kept parsed
    have response : ∀ reply socket next, Protected protocol socket →
        (handling environment).parseResponse reply socket = some next →
        Protected protocol next :=
      fun _ _ _ kept parsed => parseResponse_protected plain kept parsed
    exact Receiver.onRead_invariant line response safe bytes
  | verifyCert alpn =>
    cases taken
    refine act_protected safe fun next same => ?_
    cases same
    exact onVerifyCert_protected safe alpn
  | requestReply reply =>
    dsimp only at taken
    obtain ⟨pending, rfl⟩ := some_of_guard taken
    exact act_protected safe fun next answered =>
      requestReply_protected safe pending answered
  | close =>
    cases taken
    exact safe
  | capabilities capabilities =>
    cases taken
    refine act_protected safe fun next same => ?_
    cases same
    exact safe.with_session rfl

theorem start_protected (session : LogonSession) :
    Protected environment.settings.server.protocol (start environment session).operations where
  sound data same := by
    cases same
    refine { create_needs environment.settings.server with place := fun _ => ?_ }
    rw [create_opState]
    trivial
  fresh _ _ _ := rfl
  unskipped _ _ := rfl
  asked _ _ _ impossible := absurd impossible (by simp [start])
  unanswered _ _ := rfl
  handed _ member := absurd member (by simp [start])
  settled data same _ := by
    cases same
    rw [create_opState]
    simp

/-- In every run of the logon, a command of the login sequence is protected by TLS, or the user
has allowed the insecure connection of a protocol that does not insist on TLS. -/
theorem login_protected {session : LogonSession}
    {trace : List (Receiver LogonSocket × LogonEvent)} {final : Receiver LogonSocket}
    (run : Run (step environment) (start environment session) trace final) :
    ∀ record ∈ final.operations.handed, Protects environment.settings.server.protocol record := by
  have initial := @start_protected environment session
  have preserved : ∀ socket event next,
      Protected environment.settings.server.protocol socket.operations →
      step environment socket event = some next →
      Protected environment.settings.server.protocol next.operations :=
    fun _ _ _ safe taken => step_protected rfl safe taken
  exact (@Run.invariant _ _ _ _ _ _ (fun socket : Receiver LogonSocket =>
      Protected environment.settings.server.protocol socket.operations)
    initial preserved run).handed

theorem login_protected_refused :
    let environment : LogonEnvironment :=
      { settings := { server := CServer.ftp (wide "host") [] } }
    ∃ trace final, Run (step environment) (start environment {}) trace final ∧
      final.operations.handed.any (fun record => record.command.login && !record.tls) = true ∧
      ∀ record ∈ final.operations.handed, Protects .ftp record := by
  intro environment
  obtain ⟨trace, final, run, sent⟩ :=
    @exists_run_of_execute _ _ (step environment) (start environment {})
      [.begin, .connection, .read (asciiBytes "220 a\r\n"), .read (asciiBytes "500 b\r\n"),
        .read (asciiBytes "500 c\r\n"), .requestReply (.insecureConnection true)]
      (fun _ final => final.operations.handed.any fun record =>
        record.command.login && !record.tls) (by decide +kernel)
  exact ⟨trace, final, run, sent, login_protected run⟩

end LogonSocket

end Ftp

end FileZilla
