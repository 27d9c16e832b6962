import FileZilla.Engine.EnginePrivate

namespace FileZilla

open Option

namespace EnginePrivate

variable {reconnectCount : Nat} {engine next : EnginePrivate}

def OperationNotification.key (notification : OperationNotification) : Nat × CommandId :=
  (notification.serial, notification.commandId)

def keys (commands : List Command) : List (Nat × CommandId) :=
  commands.mapIdx fun serial command => (serial, command.id)

def Answered (engine : EnginePrivate) : Prop :=
  match engine.currentCommand with
  | none => engine.notifications.map OperationNotification.key = keys engine.accepted
  | some current =>
    ∃ earlier, engine.accepted = earlier ++ [current.command] ∧
      current.serial = earlier.length ∧
      engine.notifications.map OperationNotification.key = keys earlier

open QueuedEvent

def Pending (engine : EnginePrivate) : Prop :=
  ∀ current, engine.currentCommand = some current →
    command current.serial ∈ engine.events ∨ engine.retryTimer.isSome ∨
      ∃ socket, engine.controlSocket = some socket ∧ socket.operations = true

structure EachOnce (engine : EnginePrivate) : Prop where
  started : engine.started.Nodup
  answered : engine.Answered
  own : ∀ action ∈ engine.actions, action.1 = action.2
  pending : engine.Pending

structure Ledger (engine : EnginePrivate) : Prop where
  answered : engine.Answered
  starts : (engine.events.filterMap starts ++ engine.started).Nodup
  accepted : ∀ serial ∈ engine.started, serial < engine.accepted.length
  owners : ∀ event ∈ engine.events, ∀ serial, event.owner = some serial →
    serial < engine.accepted.length ∧
      ∀ current, engine.currentCommand = some current → serial = current.serial
  own : ∀ action ∈ engine.actions, action.1 = action.2

def IdleSocket (engine : EnginePrivate) : Prop :=
  ∀ socket, engine.controlSocket = some socket → socket.operations = false

structure Attached (engine : EnginePrivate) : Prop where
  timer : ∀ serial, engine.retryTimer = some serial → ∃ current,
    engine.currentCommand = some current ∧ current.serial = serial ∧
      current.command.id = .connect
  operations : ∀ socket, engine.controlSocket = some socket → socket.operations = true →
    engine.currentCommand.isSome
  requests : ∀ socket request, engine.controlSocket = some socket →
    socket.operationRequest = some request →
    socket.operations = true ∧ request.serial = engine.currentCommand.map CurrentCommand.serial
  fresh : ∀ current, engine.currentCommand = some current → current.serial ∉ engine.started →
    engine.retryTimer = none ∧ engine.IdleSocket ∧
      (current.command.id = .connect → engine.controlSocket = none)

structure Orderly (engine : EnginePrivate) : Prop extends Ledger engine, Attached engine

def Began (engine : EnginePrivate) : Prop :=
  ∀ current, engine.currentCommand = some current → current.command.id = .connect →
    current.serial ∈ engine.started

theorem Attached.began_of_socket (attached : Attached engine)
    (connected : engine.controlSocket.isSome) : engine.Began := by
  intro current isCurrent connecting
  by_contra unstarted
  have absent := (attached.fresh current isCurrent unstarted).2.2 connecting
  simp [absent] at connected

theorem Attached.began_of_timer (attached : Attached engine)
    (waiting : engine.retryTimer.isSome) : engine.Began := by
  intro current isCurrent connecting
  by_contra unstarted
  have absent := (attached.fresh current isCurrent unstarted).1
  simp [absent] at waiting

variable {current : CurrentCommand}

open List

theorem answer_ledger (ledger : Ledger engine) (isCurrent : engine.currentCommand = some current)
    (code : Reply) :
    Ledger (engine.answer current.serial code current.command.id) where
  answered := by
    have answered := ledger.answered
    simp only [Answered, isCurrent] at answered
    obtain ⟨earlier, accepted, serial, notified⟩ := answered
    simp only [Answered, answer, map_append, map_cons, map_nil, notified, accepted,
      keys, mapIdx_concat, OperationNotification.key, serial]
  __ := ledger
  owners event member serial owned :=
    ⟨(ledger.owners event member serial owned).1, fun _ none => by cases none⟩

variable {serial : Nat} {code : Reply}

theorem answer_attached {commandId : CommandId} (attached : Attached engine)
    (idle : engine.IdleSocket) (untimed : engine.retryTimer = none) :
    Attached (engine.answer serial code commandId) where
  timer serial timed := by
    simp [answer, untimed] at timed
  operations socket present busy := by
    rw [idle socket present] at busy
    cases busy
  requests socket request present requested := by
    have busy := (attached.requests socket request present requested).1
    rw [idle socket present] at busy
    cases busy
  fresh _ isCurrent := nomatch isCurrent

def withRetryCount (engine : EnginePrivate) (count : Nat) : EnginePrivate :=
  { engine with retryCount := count }

theorem withRetryCount_orderly (orderly : Orderly engine) (count : Nat) :
    Orderly (engine.withRetryCount count) :=
  { orderly with }

inductive ResetOf (engine : EnginePrivate) (code : Reply) : EnginePrivate → Prop
  | idle (absent : engine.currentCommand = none) : ResetOf engine code engine
  | waiting {current : CurrentCommand} (isCurrent : engine.currentCommand = some current)
      (connecting : current.command.id = .connect) (timed : engine.retryTimer.isSome) :
      ResetOf engine code engine
  | retry {current : CurrentCommand} (isCurrent : engine.currentCommand = some current)
      (connecting : current.command.id = .connect) (lost : code.connectionLost = true)
      (count : Nat) :
      ResetOf engine code
        { engine.withRetryCount count with retryTimer := some current.serial }
  | answered {current : CurrentCommand} (isCurrent : engine.currentCommand = some current)
      (untimed : current.command.id = .connect → engine.retryTimer = none) (count : Nat) :
      ResetOf engine code
        ((engine.withRetryCount count).answer current.serial code current.command.id)

theorem resetOperation_resetOf (code : Reply) :
    ResetOf engine code (engine.resetOperation reconnectCount code).2 := by
  unfold resetOperation
  split
  case h_1 absent => exact .idle absent
  case h_2 current isCurrent =>
    split
    case isTrue connecting =>
      split
      case isTrue timed => exact .waiting isCurrent connecting timed
      case isFalse timed =>
        have untimed : engine.retryTimer = none := by simpa using timed
        split
        case isTrue lost =>
          rw [Bool.and_eq_true] at lost
          dsimp only
          split
          case isTrue => exact .retry isCurrent connecting lost.1 (engine.retryCount + 1)
          case isFalse => exact .answered isCurrent (fun _ => untimed) _
        case isFalse => exact .answered isCurrent (fun _ => untimed) engine.retryCount
    case isFalse other =>
      exact .answered isCurrent (fun connecting => absurd connecting other) engine.retryCount

def Settled (engine : EnginePrivate) : Prop :=
  engine.currentCommand = none ∨ engine.retryTimer.isSome

theorem Settled.pending (settled : Settled engine) : Pending engine := by
  intro current isCurrent
  rcases settled with absent | timed
  · rw [absent] at isCurrent
    cases isCurrent
  · exact .inr (.inl timed)

theorem resetOf_settled (reset : ResetOf engine code next) : Settled next := by
  cases reset with
  | idle absent => exact .inl absent
  | waiting _ _ timed => exact .inr timed
  | retry => exact .inr rfl
  | answered => exact .inl rfl

/-- What calls of `ResetOperation` rely on and keep -/
structure Resettable (engine : EnginePrivate) : Prop extends Orderly engine where
  idle : engine.IdleSocket
  began : engine.Began

theorem timer_connecting (attached : Attached engine)
    (isCurrent : engine.currentCommand = some current)
    (untimed : current.command.id = .connect → engine.retryTimer = none) :
    engine.retryTimer = none := by
  cases timed : engine.retryTimer with
  | none => rfl
  | some serial =>
    obtain ⟨other, isOther, -, connecting⟩ := attached.timer serial timed
    obtain rfl : current = other := some.inj (isCurrent.symm.trans isOther)
    exact timed.symm.trans (untimed connecting)

theorem resetOperation_orderly (orderly : Orderly engine) (idle : engine.IdleSocket)
    (began : engine.Began ∨ code.connectionLost = false) (reset : ResetOf engine code next) :
    Orderly next ∧ next.IdleSocket := by
  cases reset with
  | idle | waiting => exact ⟨orderly, idle⟩
  | @retry current isCurrent connecting lost count =>
    have began : engine.Began := by
      rcases began with began | kept
      · exact began
      · rw [kept] at lost
        cases lost
    refine ⟨{ orderly with timer := ?_, fresh := ?_ }, idle⟩
    · intro serial timed
      exact ⟨current, isCurrent, some.inj timed, connecting⟩
    · intro other isOther unstarted
      obtain rfl : current = other := some.inj (isCurrent.symm.trans isOther)
      exact absurd (began current isCurrent connecting) unstarted
  | @answered current isCurrent untimed count =>
    have counted := withRetryCount_orderly orderly count
    have untimed := timer_connecting orderly.toAttached isCurrent untimed
    exact ⟨{ toLedger := answer_ledger counted.toLedger isCurrent code
             toAttached := answer_attached counted.toAttached idle untimed }, idle⟩

theorem resetOf_began (began : engine.Began) (reset : ResetOf engine code next) :
    next.Began := by
  cases reset with
  | idle | waiting | retry => exact began
  | answered => exact fun _ isCurrent => by cases isCurrent

theorem resetOperations_resettable (codes : List Reply) (resettable : Resettable engine) :
    Resettable (engine.resetOperations reconnectCount codes) := by
  induction codes generalizing engine with
  | nil => exact resettable
  | cons code codes ih =>
    have reset : ResetOf engine code (engine.resetOperation reconnectCount code).2 :=
      resetOperation_resetOf code
    obtain ⟨orderly, idle⟩ := resetOperation_orderly resettable.toOrderly resettable.idle
      (.inl resettable.began) reset
    exact ih ⟨orderly, idle, resetOf_began resettable.began reset⟩

theorem resetOperations_settled {codes : List Reply} (called : codes ≠ []) :
    Settled (engine.resetOperations reconnectCount codes) := by
  obtain ⟨earlier, last, rfl⟩ := eq_nil_or_concat codes |>.resolve_left called
  rw [concat_eq_append, resetOperations, foldl_append]
  exact resetOf_settled (resetOperation_resetOf last)

theorem dropOperations_resettable (orderly : Orderly engine) (began : engine.Began) :
    Resettable engine.dropOperations where
  toLedger := { orderly.toLedger with }
  timer := orderly.timer
  operations socket present busy := by
    obtain ⟨before, -, rfl⟩ := map_eq_some_iff.mp present
    cases busy
  requests socket request present requested := by
    obtain ⟨before, -, rfl⟩ := map_eq_some_iff.mp present
    cases requested
  fresh current isCurrent unstarted := by
    obtain ⟨untimed, -, absent⟩ := orderly.fresh current isCurrent unstarted
    refine ⟨untimed, fun socket present => ?_, fun connecting => ?_⟩
    · obtain ⟨before, -, rfl⟩ := map_eq_some_iff.mp present
      rfl
    · simp only [dropOperations, absent connecting, map_none]
  idle socket present := by
    obtain ⟨before, -, rfl⟩ := map_eq_some_iff.mp present
    rfl
  began := began

theorem sendAsyncRequest_orderly (orderly : Orderly engine) (isGlobal : Bool) :
    Orderly (engine.sendAsyncRequest isGlobal) := by
  unfold sendAsyncRequest
  split
  case h_1 => exact orderly
  case h_2 socket present =>
    split
    case isTrue =>
      refine { orderly with operations := ?_, requests := ?_, fresh := ?_ }
      · rintro _ ⟨⟩ busy
        exact orderly.operations socket present busy
      · rintro _ request ⟨⟩ requested
        exact orderly.requests socket request present requested
      · intro current isCurrent unstarted
        obtain ⟨untimed, idle, absent⟩ := orderly.fresh current isCurrent unstarted
        refine ⟨untimed, ?_, fun connecting => ?_⟩
        · rintro _ ⟨⟩
          exact idle socket present
        · rw [absent connecting] at present
          cases present
    case isFalse =>
      split
      case isTrue busy =>
        refine { orderly with operations := ?_, requests := ?_, fresh := ?_ }
        · exact fun _ _ _ => orderly.operations socket present busy
        · rintro _ request ⟨⟩ requested
          cases requested
          exact ⟨busy, rfl⟩
        · intro current isCurrent unstarted
          obtain ⟨-, idle, -⟩ := orderly.fresh current isCurrent unstarted
          rw [idle socket present] at busy
          cases busy
      case isFalse => exact orderly

theorem Pending.of_socket (pending : Pending engine) {socket later : ControlSocketState}
    (present : engine.controlSocket = some socket) (changed : next.controlSocket = some later)
    (same : later.operations = socket.operations)
    (command : next.currentCommand = engine.currentCommand)
    (events : next.events = engine.events) (timer : next.retryTimer = engine.retryTimer) :
    Pending next := by
  intro current isCurrent
  rcases pending current (command ▸ isCurrent) with queued | timed | ⟨before, isBefore, busy⟩
  · exact .inl (events ▸ queued)
  · exact .inr (.inl (timer ▸ timed))
  · obtain rfl : socket = before := some.inj (present.symm.trans isBefore)
    exact .inr (.inr ⟨later, changed, same.trans busy⟩)

theorem sendAsyncRequest_pending (pending : Pending engine) (isGlobal : Bool) :
    Pending (engine.sendAsyncRequest isGlobal) := by
  unfold sendAsyncRequest
  split
  case h_1 => exact pending
  case h_2 socket present =>
    split
    case isTrue => exact pending.of_socket present rfl rfl rfl rfl rfl
    case isFalse =>
      split
      case isTrue => exact pending.of_socket present rfl rfl rfl rfl rfl
      case isFalse => exact pending

theorem socketActivity_orderly (orderly : Orderly engine) (pending : Pending engine)
    (connected : engine.controlSocket.isSome) (activity : SocketActivity) :
    Orderly (engine.socketActivity reconnectCount activity) ∧
      Pending (engine.socketActivity reconnectCount activity) := by
  obtain ⟨codes, request⟩ := activity
  have settled : Orderly (engine.socketActivity reconnectCount { codes }) ∧
      Pending (engine.socketActivity reconnectCount { codes }) := by
    cases codes with
    | nil => exact ⟨orderly, pending⟩
    | cons code codes =>
      have resettable := dropOperations_resettable orderly
        (orderly.toAttached.began_of_socket connected)
      exact ⟨(resetOperations_resettable _ resettable).toOrderly,
        (resetOperations_settled (by simp)).pending⟩
  obtain ⟨orderly, pending⟩ := settled
  cases request with
  | none => exact ⟨orderly, pending⟩
  | some isGlobal =>
    exact ⟨sendAsyncRequest_orderly orderly isGlobal, sendAsyncRequest_pending pending isGlobal⟩

theorem closed_resettable (orderly : Orderly engine) (began : engine.Began) :
    Resettable { engine with controlSocket := none } where
  toLedger := { orderly.toLedger with }
  timer := orderly.timer
  operations _ present := nomatch present
  requests _ _ present := nomatch present
  fresh current isCurrent unstarted :=
    ⟨(orderly.fresh current isCurrent unstarted).1, (fun _ present => by cases present),
      fun _ => rfl⟩
  idle _ present := nomatch present
  began := began

theorem resetControlSocket_resettable (orderly : Orderly engine) (began : engine.Began)
    (closing : List Reply) : Resettable (engine.resetControlSocket reconnectCount closing) :=
  resetOperations_resettable closing (closed_resettable orderly began)

inductive Begun : Reply × EnginePrivate → Prop
  | running {engine : EnginePrivate} (orderly : Orderly engine) {socket : ControlSocketState}
      (present : engine.controlSocket = some socket) (busy : socket.operations = true) :
      Begun (.continued, engine)
  | waiting {engine : EnginePrivate} (orderly : Orderly engine)
      (timed : engine.retryTimer.isSome) : Begun (.wouldBlock, engine)
  | ended {engine : EnginePrivate} {code : Reply} (resettable : Resettable engine)
      (stops : code ≠ .continued ∧ code ≠ .wouldBlock) : Begun (code, engine)

theorem finishStart_orderly {taken : Reply × EnginePrivate} (begun : Begun taken)
    (input : HandlerInput) :
    Orderly (taken.2.finishStart reconnectCount taken.1 input) ∧
      Pending (taken.2.finishStart reconnectCount taken.1 input) := by
  cases begun with
  | @running engine orderly socket present busy =>
    have pending : Pending engine := fun _ _ => .inr (.inr ⟨socket, present, busy⟩)
    have connected : engine.controlSocket.isSome := by rw [present]; rfl
    simp only [finishStart, connected, if_true]
    exact socketActivity_orderly orderly pending connected input.activity
  | @waiting engine orderly timed =>
    exact ⟨orderly, Settled.pending (.inr timed)⟩
  | @ended engine code resettable stops =>
    have reset : ResetOf engine code (engine.resetOperation reconnectCount code).2 :=
      resetOperation_resetOf code
    simp only [finishStart, stops.1, stops.2, if_false, ne_eq, not_false_eq_true, if_true]
    exact ⟨(resetOperation_orderly resettable.toOrderly resettable.idle
      (.inl resettable.began) reset).1, (resetOf_settled reset).pending⟩

theorem continueConnect_begun (resettable : Resettable engine)
    (isCurrent : engine.currentCommand = some current)
    (connecting : current.command.id = .connect) (input : HandlerInput) :
    Begun (engine.continueConnect reconnectCount input) := by
  have started := resettable.began current isCurrent connecting
  have same : ∀ other, engine.currentCommand = some other → other = current := fun other isOther =>
    some.inj (isOther.symm.trans isCurrent)
  unfold continueConnect
  split
  case h_1 absent => cases isCurrent.symm.trans absent
  case h_2 other isOther =>
    obtain rfl := same other isOther
    rw [if_neg (not_not_intro connecting)]
    split
    case isTrue =>
      refine .waiting { resettable.toOrderly with timer := ?_, fresh := ?_ } rfl
      · exact fun serial timed => ⟨other, isCurrent, some.inj timed, connecting⟩
      · intro later isLater unstarted
        rw [same later isLater] at unstarted
        exact absurd started unstarted
    case isFalse =>
      split
      case isTrue =>
        refine .running { resettable.toOrderly with operations := ?_, requests := ?_, fresh := ?_ }
          rfl rfl
        · rintro _ ⟨⟩ -
          exact isSome_of_eq_some isCurrent
        · rintro _ _ ⟨⟩ requested
          cases requested
        · intro later isLater unstarted
          rw [same later isLater] at unstarted
          exact absurd started unstarted
      case isFalse => exact .ended resettable (by decide)

theorem push_begun (orderly : Orderly engine) (isCurrent : engine.currentCommand = some current)
    (started : current.serial ∈ engine.started) (connected : engine.controlSocket.isSome) :
    Begun engine.push := by
  obtain ⟨socket, present⟩ := isSome_iff_exists.mp connected
  have pushed : engine.controlSocket.map (fun socket => { socket with operations := true }) =
      some { socket with operations := true } := by
    rw [present]
    rfl
  refine .running { orderly with operations := ?_, requests := ?_, fresh := ?_ } pushed rfl
  · exact fun _ _ _ => isSome_of_eq_some isCurrent
  · intro later request isLater requested
    cases pushed.symm.trans isLater
    exact ⟨rfl, (orderly.requests socket request present requested).2⟩
  · intro other isOther unstarted
    rw [some.inj (isOther.symm.trans isCurrent)] at unstarted
    exact absurd started unstarted

theorem disconnect_begun (resettable : Resettable engine) (input : HandlerInput) :
    Begun (engine.disconnect reconnectCount input) := by
  unfold disconnect
  split
  case isTrue =>
    exact .ended (resetControlSocket_resettable resettable.toOrderly resettable.began _)
      (by decide)
  case isFalse => exact .ended resettable (by decide)

theorem list_begun (resettable : Resettable engine)
    (isCurrent : engine.currentCommand = some current) (started : current.serial ∈ engine.started)
    (connected : engine.controlSocket.isSome) (input : HandlerInput) :
    Begun (engine.list input) := by
  unfold list
  cases input.listed with
  | cached => exact .ended resettable (by decide)
  | wrongType => exact .ended resettable (by decide)
  | proceed => exact push_begun resettable.toOrderly isCurrent started connected

structure Starting (engine : EnginePrivate) (current : CurrentCommand) : Prop
    extends Resettable engine where
  isCurrent : engine.currentCommand = some current
  started : current.serial ∈ engine.started
  connecting : current.command.id = .connect → engine.controlSocket = none
  connected : current.command.id ≠ .connect → current.command.id ≠ .disconnect →
    engine.controlSocket.isSome

theorem connect_begun (starting : Starting engine current)
    (connecting : current.command.id = .connect) (input : HandlerInput) :
    Begun (engine.connect reconnectCount input) := by
  have absent : ¬engine.controlSocket.isSome := by simp [starting.connecting connecting]
  have counted : Resettable { engine with retryCount := 0 } := { starting.toResettable with }
  unfold connect
  rw [if_neg absent]
  exact continueConnect_begun counted starting.isCurrent connecting input

theorem start_begun (starting : Starting engine current) (input : HandlerInput) :
    Begun (engine.start reconnectCount current.command input) := by
  have pushed (other : current.command.id ≠ .connect ∧ current.command.id ≠ .disconnect) :
      Begun engine.push :=
    push_begun starting.toOrderly starting.isCurrent starting.started
      (starting.connected other.1 other.2)
  unfold start
  cases kind : current.command.id with
  | connect => exact connect_begun starting kind input
  | disconnect => exact disconnect_begun starting.toResettable input
  | list =>
    exact list_begun starting.toResettable starting.isCurrent starting.started
      (starting.connected (by simp [kind]) (by simp [kind])) input
  | httprequest =>
    dsimp only
    split
    case isTrue => exact pushed (by simp [kind])
    case isFalse => exact .ended starting.toResettable (by decide)
  | transfer | raw | del | removedir | mkdir | rename | chmod => exact pushed (by simp [kind])

open Reply

theorem Begun.of_disconnected {taken : Reply × EnginePrivate} (begun : Begun taken)
    (isDisconnect : Bool) :
    Begun (if isDisconnect && taken.1 &&& disconnected ≠ 0 then .ok else taken.1,
      taken.2) := by
  cases begun with
  | running orderly present busy =>
    rw [if_neg (by simp [continued, disconnected])]
    exact .running orderly present busy
  | waiting orderly timed =>
    rw [if_neg (by simp [wouldBlock, disconnected])]
    exact .waiting orderly timed
  | ended resettable stops =>
    split
    case isTrue => exact .ended resettable (by decide)
    case isFalse => exact .ended resettable stops

theorem act_orderly (orderly : Orderly engine) (own : serial = current.serial) :
    Orderly (engine.act serial current) := by
  refine { orderly with own := fun action member => ?_ }
  rcases mem_append.mp member with before | now
  · exact orderly.own action before
  · obtain rfl := mem_singleton.mp now
    exact own

theorem markStarted_orderly (orderly : Orderly engine)
    (isCurrent : engine.currentCommand = some current)
    (unstarted : current.serial ∉ engine.started)
    (alone : command current.serial ∉ engine.events) :
    Orderly (engine.markStarted current) := by
  have unqueued : current.serial ∉ engine.events.filterMap starts := by
    intro queued
    obtain ⟨event, member, starts⟩ := mem_filterMap.mp queued
    cases event with
    | command serial => exact alone (some.inj starts ▸ member)
    | cancel | asyncReply => cases starts
  have accepted : current.serial < engine.accepted.length := by
    have answered := orderly.answered
    simp only [Answered, isCurrent] at answered
    obtain ⟨earlier, accepted, serial, -⟩ := answered
    simp [accepted, serial]
  refine { orderly with starts := ?_, accepted := ?_, fresh := ?_ }
  · have nodup : (engine.events.filterMap starts ++ engine.started ++
        [current.serial]).Nodup := by
      refine nodup_append.mpr ⟨orderly.starts, by simp, ?_⟩
      intro serial member other isOther same
      rw [same, mem_singleton.mp isOther] at member
      exact (mem_append.mp member).elim unqueued unstarted
    simpa [markStarted, append_assoc] using nodup
  · intro serial member
    rcases mem_append.mp member with before | now
    · exact orderly.accepted serial before
    · exact mem_singleton.mp now ▸ accepted
  · intro other isOther unmarked
    rw [some.inj (isOther.symm.trans isCurrent)] at unmarked
    exact absurd (mem_append_right _ (mem_singleton_self _)) unmarked

variable {command : Command}

theorem checkCommandPreconditions_connect (connecting : command.id = .connect)
    (absent : engine.controlSocket = none) :
    engine.checkCommandPreconditions command false = .ok := by
  simp [checkCommandPreconditions, connecting, absent]

theorem checkCommandPreconditions_of_ok
    (passed : engine.checkCommandPreconditions command false = .ok) :
    (command.id = .connect → engine.controlSocket = none) ∧
      (command.id ≠ .connect → command.id ≠ .disconnect → engine.controlSocket.isSome) := by
  unfold checkCommandPreconditions at passed
  cases absent : engine.controlSocket with
  | none => 
    refine ⟨fun _ => rfl, fun first second => ?_⟩
    simp [absent, first, second, notConnected, ok, error] at passed
  | some socket =>
    refine ⟨fun connecting => ?_, fun _ _ => rfl⟩
    simp [absent, connecting, alreadyConnected, ok, error] at passed

theorem checkCommandPreconditions_stops :
    engine.checkCommandPreconditions command false ≠ .continued ∧
      engine.checkCommandPreconditions command false ≠ .wouldBlock := by
  unfold checkCommandPreconditions
  simp only [Bool.false_and, Bool.false_eq_true, if_false]
  split
  case isTrue => decide
  case isFalse =>
    split
    case isTrue => decide
    case isFalse => decide

theorem onCommandEvent_orderly (orderly : Orderly engine)
    (own : ∀ current, engine.currentCommand = some current → serial = current.serial ∧
      current.serial ∉ engine.started ∧ QueuedEvent.command current.serial ∉ engine.events)
    (input : HandlerInput) :
    Orderly (engine.onCommandEvent reconnectCount serial input) ∧
      Pending (engine.onCommandEvent reconnectCount serial input) := by
  unfold onCommandEvent
  split
  case h_1 absent => exact ⟨orderly, Settled.pending (.inl absent)⟩
  case h_2 current isCurrent =>
    obtain ⟨same, unstarted, alone⟩ := own current isCurrent
    obtain ⟨-, idle, unconnected⟩ := orderly.fresh current isCurrent unstarted
    have acting := act_orderly orderly same
    dsimp only
    generalize passed : (engine.act serial current).checkCommandPreconditions current.command
      false = result
    have begun : Begun (if result = .ok then
        ((engine.act serial current).markStarted current).start reconnectCount current.command input
        else (result, engine.act serial current)) := by
      split
      case isTrue ok =>
        have only : ∀ other, engine.currentCommand = some other → other = current :=
          fun other isOther => some.inj (isOther.symm.trans isCurrent)
        have started : current.serial ∈ engine.started ++ [current.serial] := by simp
        obtain ⟨connecting, connected⟩ := checkCommandPreconditions_of_ok (passed.trans ok)
        exact start_begun
          { toOrderly := markStarted_orderly acting isCurrent unstarted alone
            idle := idle
            began := fun other isOther _ => only other isOther ▸ started
            isCurrent := isCurrent
            started := started
            connecting := connecting
            connected := connected } input
      case isFalse failed =>
        have other : current.command.id ≠ .connect := fun connecting =>
          failed (passed.symm.trans
            (checkCommandPreconditions_connect connecting (unconnected connecting)))
        have began : (engine.act serial current).Began := fun later isLater connecting =>
          absurd connecting (some.inj (isLater.symm.trans isCurrent) ▸ other)
        exact .ended ⟨acting, idle, began⟩ (passed ▸ checkCommandPreconditions_stops)
    exact finishStart_orderly (begun.of_disconnected (current.command.id = .disconnect)) input

theorem resetOperations_waiting (isCurrent : engine.currentCommand = some current)
    (connecting : current.command.id = .connect) (timed : engine.retryTimer.isSome)
    (codes : List Reply) : engine.resetOperations reconnectCount codes = engine := by
  induction codes with
  | nil => rfl
  | cons code codes ih =>
    have waiting : (engine.resetOperation reconnectCount code).2 = engine := by
      unfold resetOperation
      split
      case h_1 => rfl
      case h_2 other isOther =>
        obtain rfl : current = other := some.inj (isCurrent.symm.trans isOther)
        rw [if_pos connecting, if_pos timed]
    calc engine.resetOperations reconnectCount (code :: codes)
        = (engine.resetOperation reconnectCount code).2.resetOperations reconnectCount codes :=
          rfl
      _ = engine := by rw [waiting, ih]

theorem resetControlSocket_waiting (isCurrent : engine.currentCommand = some current)
    (connecting : current.command.id = .connect) (timed : engine.retryTimer.isSome)
    (closing : List Reply) :
    engine.resetControlSocket reconnectCount closing = { engine with controlSocket := none } :=
  @resetOperations_waiting reconnectCount { engine with controlSocket := none } current isCurrent
    connecting timed closing

theorem stopped_resettable (orderly : Orderly engine) (began : engine.Began) :
    Resettable { engine with controlSocket := none, retryTimer := none } :=
  have closed := closed_resettable orderly began
  { closed with
    timer := fun _ timed => by cases timed
    fresh := fun current isCurrent unstarted =>
      ⟨rfl, (closed.fresh current isCurrent unstarted).2⟩ }

theorem Orderly.connecting_of_timer (orderly : Orderly engine)
    (isCurrent : engine.currentCommand = some current) (timed : engine.retryTimer.isSome) :
    engine.retryTimer = some current.serial ∧ current.command.id = .connect := by
  obtain ⟨serial, isSerial⟩ := isSome_iff_exists.mp timed
  obtain ⟨other, isOther, same, connecting⟩ := orderly.timer serial isSerial
  obtain rfl : current = other := some.inj (isCurrent.symm.trans isOther)
  exact ⟨same ▸ isSerial, connecting⟩

theorem doCancel_orderly (orderly : Orderly engine) (pending : Pending engine)
    (own : ∀ current, engine.currentCommand = some current → serial = current.serial)
    (input : HandlerInput) :
    Orderly (engine.doCancel reconnectCount serial input) ∧
      Pending (engine.doCancel reconnectCount serial input) := by
  unfold doCancel
  split
  case h_1 absent => exact ⟨orderly, pending⟩
  case h_2 current isCurrent =>
    have acting := act_orderly orderly (own current isCurrent)
    dsimp only
    split
    case isTrue timed =>
      have connecting := (acting.connecting_of_timer isCurrent timed).2
      have stopped := stopped_resettable acting (acting.toAttached.began_of_timer timed)
      rw [@resetControlSocket_waiting _ (engine.act serial current) current isCurrent connecting
        timed input.closing, ← connecting]
      exact ⟨{ toLedger := answer_ledger stopped.toLedger isCurrent _
               toAttached := answer_attached stopped.toAttached stopped.idle rfl },
        Settled.pending (.inl rfl)⟩
    case isFalse untimed =>
      split
      case h_1 absent =>
        have reset : ResetOf (engine.act serial current) canceled
            ((engine.act serial current).resetOperation reconnectCount .canceled).2 :=
          resetOperation_resetOf _
        have idle : (engine.act serial current).IdleSocket := fun socket present => by
          rw [absent] at present
          cases present
        exact ⟨(resetOperation_orderly acting idle (.inr (by decide)) reset).1,
          (resetOf_settled reset).pending⟩
      case h_2 socket present =>
        split
        case isTrue busy =>
          exact socketActivity_orderly acting pending (isSome_of_eq_some present) _
        case isFalse => exact ⟨acting, pending⟩

theorem onTimer_orderly (orderly : Orderly engine) (pending : Pending engine)
    (input : HandlerInput) :
    Orderly (engine.onTimer reconnectCount input) ∧
      Pending (engine.onTimer reconnectCount input) := by
  unfold onTimer
  split
  case h_1 => exact ⟨orderly, pending⟩
  case h_2 serial isSerial =>
    have timed : engine.retryTimer.isSome := isSome_of_eq_some isSerial
    split
    case h_1 absent =>
      obtain ⟨current, isCurrent, -⟩ := orderly.timer serial isSerial
      rw [absent] at isCurrent
      cases isCurrent
    case h_2 current isCurrent =>
      obtain ⟨isTimer, connecting⟩ := orderly.connecting_of_timer isCurrent timed
      have own : serial = current.serial := some.inj (isSerial.symm.trans isTimer)
      have acting := act_orderly orderly own
      rw [if_neg (not_not_intro connecting)]
      dsimp only
      rw [@resetControlSocket_waiting _ (engine.act serial current) current isCurrent connecting
        timed input.closing]
      have stopped := stopped_resettable acting (acting.toAttached.began_of_timer timed)
      exact finishStart_orderly (continueConnect_begun stopped isCurrent connecting input) input

theorem replaceSocket_orderly {socket later : ControlSocketState} (orderly : Orderly engine)
    (present : engine.controlSocket = some socket)
    (operations : later.operations = socket.operations)
    (requests : ∀ request, later.operationRequest = some request →
      socket.operationRequest = some request) :
    Orderly { engine with controlSocket := some later } := by
  refine { orderly with operations := ?_, requests := ?_, fresh := ?_ }
  · rintro _ ⟨⟩ busy
    exact orderly.operations socket present (operations.symm.trans busy)
  · rintro _ request ⟨⟩ requested
    obtain ⟨busy, same⟩ := orderly.requests socket request present (requests request requested)
    exact ⟨operations.trans busy, same⟩
  · intro current isCurrent unstarted
    obtain ⟨untimed, idle, absent⟩ := orderly.fresh current isCurrent unstarted
    refine ⟨untimed, ?_, fun connecting => ?_⟩
    · rintro _ ⟨⟩
      exact operations.trans (idle socket present)
    · rw [absent connecting] at present
      cases present

theorem onSetAsyncRequestReplyEvent_orderly (orderly : Orderly engine) (pending : Pending engine)
    (number : Nat) (input : HandlerInput) :
    Orderly (engine.onSetAsyncRequestReplyEvent reconnectCount number input) ∧
      Pending (engine.onSetAsyncRequestReplyEvent reconnectCount number input) := by
  unfold onSetAsyncRequestReplyEvent
  split
  case h_1 => exact ⟨orderly, pending⟩
  case h_2 socket present =>
    split
    case isTrue =>
      refine socketActivity_orderly ?_ ?_ rfl _
      · exact replaceSocket_orderly orderly present rfl fun _ requested => requested
      · exact pending.of_socket present rfl rfl rfl rfl rfl
    case isFalse =>
      split
      case h_1 => exact ⟨orderly, pending⟩
      case h_2 request requested =>
        split
        case isTrue => exact ⟨orderly, pending⟩
        case isFalse =>
          have same := (orderly.requests socket request present requested).2
          dsimp only
          split
          case h_1 serial current isSerial isCurrent =>
            have own : serial = current.serial := by
              rw [isSerial, isCurrent] at same
              exact some.inj same
            have acting := act_orderly orderly own
            refine socketActivity_orderly ?_ ?_ rfl _
            · exact replaceSocket_orderly acting present rfl fun _ none => by cases none
            · exact pending.of_socket present rfl rfl rfl rfl rfl
          case h_2 =>
            refine socketActivity_orderly ?_ ?_ rfl _
            · exact replaceSocket_orderly orderly present rfl fun _ none => by cases none
            · exact pending.of_socket present rfl rfl rfl rfl rfl

/-- `Execute` accepts a command only while no command event and no cancel event is queued. -/
def Drained (engine : EnginePrivate) : Event → Prop
  | .execute command => (engine.execute command).1 = .wouldBlock →
      ∀ event ∈ engine.events, event.owner = none
  | _ => True

structure Serving (engine : EnginePrivate) : Prop extends Orderly engine where
  pending : engine.Pending

variable {event : QueuedEvent} {rest : List QueuedEvent}

theorem popped_orderly (orderly : Orderly engine) (queue : engine.events = event :: rest) :
    Orderly { engine with events := rest } := by
  refine { orderly with starts := ?_, owners := ?_ }
  · have starts := orderly.starts
    rw [queue] at starts
    refine starts.sublist (Sublist.append_right ?_ _)
    exact (sublist_cons_self event rest).filterMap _
  · intro other member
    exact orderly.owners other (queue ▸ mem_cons_of_mem _ member)

theorem popped_pending (pending : Pending engine) (queue : engine.events = event :: rest)
    (other : event.starts = none) :
    Pending { engine with events := rest } := by
  intro current isCurrent
  rcases pending current isCurrent with queued | later
  · rw [queue] at queued
    rcases mem_cons.mp queued with rfl | queued
    · cases other
    · exact .inl queued
  · exact .inr later

theorem handle_serving (serving : Serving engine) (queue : engine.events = event :: rest)
    (input : HandlerInput) :
    Serving ({ engine with events := rest }.handle reconnectCount input event) := by
  have orderly := popped_orderly serving.toOrderly queue
  have owners := serving.owners event (queue ▸ mem_cons_self)
  cases event with
  | command serial =>
    have starts := serving.starts
    rw [queue] at starts
    have unique : serial ∉ rest.filterMap QueuedEvent.starts ++ engine.started :=
      (nodup_cons.mp starts).1
    rw [mem_append, not_or] at unique
    obtain ⟨orderly, pending⟩ := @onCommandEvent_orderly reconnectCount _ serial orderly
      (fun current isCurrent => by
        obtain rfl := (owners serial rfl).2 current isCurrent
        refine ⟨rfl, unique.2, fun queued => unique.1 ?_⟩
        exact mem_filterMap.mpr ⟨_, queued, rfl⟩) input
    exact ⟨orderly, pending⟩
  | cancel serial =>
    obtain ⟨orderly, pending⟩ := @doCancel_orderly reconnectCount _ serial orderly
      (popped_pending serving.pending queue rfl) (owners serial rfl).2 input
    exact ⟨orderly, pending⟩
  | asyncReply number =>
    obtain ⟨orderly, pending⟩ := @onSetAsyncRequestReplyEvent_orderly reconnectCount _ orderly
      (popped_pending serving.pending queue rfl) number input
    exact ⟨orderly, pending⟩

theorem enqueue_orderly (orderly : Orderly engine) (unstarting : event.starts = none)
    (owners : ∀ serial, event.owner = some serial → ∃ current,
      engine.currentCommand = some current ∧ serial = current.serial) :
    Orderly { engine with events := engine.events ++ [event] } := by
  refine { orderly with starts := ?_, owners := ?_ }
  · simpa [unstarting] using orderly.starts
  · intro other member serial owned
    rcases mem_append.mp member with before | now
    · exact orderly.owners other before serial owned
    · obtain rfl := mem_singleton.mp now
      obtain ⟨current, isCurrent, rfl⟩ := owners serial owned
      refine ⟨?_, fun later isLater => ?_⟩
      · have answered := orderly.answered
        simp only [Answered, isCurrent] at answered
        obtain ⟨earlier, accepted, place, -⟩ := answered
        simp [accepted, place]
      · rw [some.inj (isLater.symm.trans isCurrent)]

theorem enqueue_pending (pending : Pending engine) (event : QueuedEvent) :
    Pending { engine with events := engine.events ++ [event] } := by
  intro current isCurrent
  rcases pending current isCurrent with queued | later
  · exact .inl (mem_append_left _ queued)
  · exact .inr later

theorem checkCommandPreconditions_idle
    (passed : engine.checkCommandPreconditions command true = .ok) :
    engine.currentCommand = none ∧
      engine.checkCommandPreconditions command false = .ok := by
  cases current : engine.currentCommand with
  | none =>
    refine ⟨rfl, ?_⟩
    rw [← passed]
    simp [checkCommandPreconditions, current]
  | some current' =>
    simp [checkCommandPreconditions, current, busy, ok, error] at passed

theorem accept_serving (serving : Serving engine)
    (passed : engine.checkCommandPreconditions command true = .ok)
    (drained : ∀ event ∈ engine.events, event.owner = none) :
    Serving { engine with
      currentCommand := some { serial := engine.accepted.length, command := command }
      accepted := engine.accepted ++ [command]
      events := engine.events ++ [.command engine.accepted.length] } := by
  obtain ⟨absent, passed⟩ := checkCommandPreconditions_idle passed
  have idle : engine.IdleSocket := by
    intro socket present
    by_contra busy
    have current := serving.operations socket present (by simpa using busy)
    simp [absent] at current
  have untimed : engine.retryTimer = none := by
    cases timed : engine.retryTimer with
    | none => rfl
    | some serial =>
      obtain ⟨current, isCurrent, -⟩ := serving.timer serial timed
      simp [absent] at isCurrent
  have unqueued : engine.events.filterMap starts = [] := by
    refine filterMap_eq_nil_iff.mpr fun event member => ?_
    cases event with
    | command => exact nomatch drained _ member
    | cancel | asyncReply => rfl
  refine
    { answered := ?answered
      starts := ?starts
      accepted := ?accepted
      owners := ?owners
      own := serving.own
      timer := fun serial timed => by cases untimed.symm.trans timed
      operations := fun _ _ _ => rfl
      requests := ?requests
      fresh := ?fresh
      pending := ?pending }
  case answered =>
    have answered := serving.answered
    simp only [Answered, absent] at answered
    exact ⟨engine.accepted, rfl, rfl, answered⟩
  case starts =>
    have starts := serving.starts
    rw [unqueued, nil_append] at starts
    have new : engine.accepted.length ∉ engine.started := fun member =>
      absurd (serving.accepted _ member) (Nat.lt_irrefl _)
    simpa [unqueued, QueuedEvent.starts] using ⟨new, starts⟩
  case accepted =>
    intro serial member
    simpa using Nat.lt_succ_of_lt (serving.accepted serial member)
  case owners =>
    intro event member serial owned
    rcases mem_append.mp member with before | now
    · rw [drained event before] at owned
      cases owned
    · obtain rfl := mem_singleton.mp now
      cases owned
      exact ⟨by simp, fun current isCurrent => by rw [← some.inj isCurrent]⟩
  case requests =>
    intro socket request present requested
    have busy := (serving.requests socket request present requested).1
    rw [idle socket present] at busy
    cases busy
  case fresh =>
    rintro _ ⟨⟩ -
    exact ⟨untimed, idle, (checkCommandPreconditions_of_ok passed).1⟩
  case pending =>
    rintro _ ⟨⟩
    exact .inl (by simp)

theorem execute_serving (serving : Serving engine) (drained : Drained engine (.execute command)) :
    Serving (engine.execute command).2 := by
  simp only [Drained] at drained
  unfold execute at drained ⊢
  split
  case isTrue => exact serving
  case isFalse invalid =>
    rw [if_neg invalid] at drained
    dsimp only at drained ⊢
    split
    case isTrue => exact serving
    case isFalse passed =>
      rw [if_neg passed] at drained
      exact accept_serving serving (not_not.mp passed) (drained rfl)

theorem cancel_serving (serving : Serving engine) : Serving engine.cancel.2 := by
  unfold cancel
  split
  case h_1 => exact serving
  case h_2 current isCurrent =>
    have owners : ∀ serial, (QueuedEvent.cancel current.serial).owner = some serial →
        ∃ current, engine.currentCommand = some current ∧ serial = current.serial := by
      rintro _ ⟨⟩
      exact ⟨current, isCurrent, rfl⟩
    exact ⟨enqueue_orderly serving.toOrderly rfl owners, enqueue_pending serving.pending _⟩

theorem step_serving {event : Event} (serving : Serving engine) (drained : Drained engine event)
    (taken : engine.step reconnectCount event = some next) : Serving next := by
  cases event with
  | execute command =>
    obtain ⟨-, rfl⟩ := some_of_guard taken
    exact execute_serving serving drained
  | cancel =>
    cases taken
    exact cancel_serving serving
  | receive =>
    obtain ⟨-, rfl⟩ := some_of_guard taken
    exact ⟨{ serving.toOrderly with }, serving.pending⟩
  | reply number =>
    cases taken
    exact ⟨enqueue_orderly serving.toOrderly rfl (fun _ owned => by cases owned),
      enqueue_pending serving.pending _⟩
  | handle input =>
    simp only [step] at taken
    split at taken
    case h_1 => cases taken
    case h_2 queued rest queue =>
      cases taken
      exact handle_serving serving queue input
  | timer input =>
    obtain ⟨-, rfl⟩ := some_of_guard taken
    obtain ⟨orderly, pending⟩ := onTimer_orderly serving.toOrderly serving.pending input
    exact ⟨orderly, pending⟩
  | socketEvent activity =>
    obtain ⟨connected, rfl⟩ := some_of_guard taken
    obtain ⟨orderly, pending⟩ :=
      socketActivity_orderly serving.toOrderly serving.pending connected activity
    exact ⟨orderly, pending⟩

theorem serving_initial : Serving {} where
  answered := rfl
  starts := nodup_nil
  accepted _ member := nomatch member
  owners _ member := nomatch member
  own _ member := nomatch member
  timer _ timed := nomatch timed
  operations _ present := nomatch present
  requests _ _ present := nomatch present
  fresh _ isCurrent := nomatch isCurrent
  pending := Settled.pending (.inl rfl)

/-- In every run where `Execute` accepts a command only while no command event and no cancel event
is queued, each command is started at most once and answered once, and each event acts on the
command it was sent for. -/
theorem commands_answered_once {trace : List (EnginePrivate × Event)}
    (run : Run (step reconnectCount) {} trace engine)
    (drained : ∀ taken ∈ trace, Drained taken.1 taken.2) : EachOnce engine := by
  have serving : Serving engine := Run.invariant_of_forall serving_initial
      (fun _ _ _ serving drained taken => step_serving serving drained taken) run drained
  exact ⟨(nodup_append.mp serving.starts).2.1, serving.answered, serving.own, serving.pending⟩

private def connectCommand : Command :=
  { id := .connect }

/-- What an established connection calls when it breaks off, or is closed -/
private def brokenOff : List Reply :=
  [error ||| disconnected]

theorem commands_answered_once_reconnect :
    ∃ engine : EnginePrivate, EachOnce engine ∧ engine.accepted.length = 3 ∧
      engine.notifications.length = 2 := by
  obtain ⟨trace, engine, run, checked⟩ := @exists_run_of_execute _ _ (step 3) {}
    [.execute connectCommand, .handle {}, .socketEvent { codes := [.ok] }, .receive,
      .execute { id := .disconnect }, .handle { closing := brokenOff }, .receive,
      .execute connectCommand, .cancel]
    (fun trace engine => trace.all (fun taken => taken.1.events.isEmpty ||
        !(taken.2 matches .execute _)) &&
      engine.accepted.length = 3 && engine.notifications.length = 2) (by decide +kernel)
  simp only [Bool.and_eq_true, decide_eq_true_eq, List.all_eq_true] at checked
  obtain ⟨⟨drained, accepted⟩, notified⟩ := checked
  refine ⟨engine, commands_answered_once run fun taken member => ?_, accepted, notified⟩
  have drained := drained taken member
  cases event : taken.2 with
  | execute command =>
    simp only [event, Bool.not_true, Bool.or_false, List.isEmpty_iff] at drained
    simp [Drained, drained]
  | cancel | receive | reply | handle | timer | socketEvent => trivial

/-- The connection breaks off while a list command is queued. Its command event starts the
disconnect command that the client executes next, and the event of that one the connect command
after it, whose own event then completes it as already connected. -/
theorem commands_not_answered_once :
    ∃ trace engine, Run (step 3) {} trace engine ∧ ¬EachOnce engine ∧
      (1, 2) ∈ engine.actions ∧ (2, 3) ∈ engine.actions ∧
      engine.notifications.getLast? = some
        { serial := 3, replyCode := .alreadyConnected, commandId := .connect } ∧
      engine.controlSocket.any ControlSocketState.operations = true := by
  obtain ⟨trace, engine, run, checked⟩ := @exists_run_of_execute _ _ (step 3) {}
    [.execute connectCommand, .handle {}, .socketEvent { codes := [.ok] }, .receive,
      .execute { id := .list }, .socketEvent { codes := brokenOff }, .receive,
      .execute { id := .disconnect }, .handle { closing := brokenOff }, .receive,
      .execute connectCommand, .handle {}, .handle {}]
    (fun _ engine => (1, 2) ∈ engine.actions && (2, 3) ∈ engine.actions &&
      engine.notifications.getLast? = some
        { serial := 3, replyCode := .alreadyConnected, commandId := .connect } &&
      engine.controlSocket.any ControlSocketState.operations) (by decide +kernel)
  simp only [Bool.and_eq_true, decide_eq_true_eq] at checked
  obtain ⟨⟨⟨first, second⟩, answered⟩, busy⟩ := checked
  exact ⟨trace, engine, run, fun once => absurd (once.own _ first) (by decide), first, second,
    answered, busy⟩

end EnginePrivate

end FileZilla
