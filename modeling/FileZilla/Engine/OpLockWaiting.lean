import FileZilla.Engine.OpLockExclusion

namespace FileZilla

open List

namespace OpLocks

variable {serverOf : Nat → CServer}

/-! A lock may wait only while a different socket on its own server holds a
conflicting one, or while its socket is about to look again. -/

def Obstructed (slots : List SocketLockInfo) (socket : Nat) (server : CServer)
    (lock : LockInfo) : Prop :=
  ∃ other ∈ slots, other.controlSocket ≠ some socket ∧
    other.server.equal server = true ∧
    ∃ held ∈ other.locks, held.blocks lock = true

def ObstructedAnywhere (slots : List SocketLockInfo) (socket : Nat) (lock : LockInfo) : Prop :=
  ∃ other ∈ slots, other.controlSocket ≠ some socket ∧
    ∃ held ∈ other.locks, held.blocks lock = true

variable {slots : List SocketLockInfo} {socket : Nat} {sli : SocketLockInfo} {state : LockSystem}

theorem mustWait_iff {server : CServer} {lock : LockInfo} :
    mustWait slots socket server lock = true ↔ Obstructed slots socket server lock := by
  simp only [mustWait, Obstructed, any_eq_true, Bool.and_eq_true,
    Bool.not_eq_true', Bool.or_eq_false_iff, beq_eq_false_iff_ne, ne_eq,
    Bool.not_eq_false', and_assoc]

def Persist (slots after : List SocketLockInfo) : Prop :=
  ∀ other ∈ slots, ∀ held ∈ other.locks, held.granted = true →
    ∃ same ∈ after, same.controlSocket = other.controlSocket ∧
      same.server = other.server ∧ held ∈ same.locks

theorem granted_of_blocks {held lock : LockInfo} (blocks : held.blocks lock = true) :
    held.granted = true := by
  rw [LockInfo.blocks_eq, Bool.and_eq_true] at blocks
  exact blocks.1

theorem Obstructed.persist {slots after : List SocketLockInfo} {socket : Nat}
    {server : CServer} {lock : LockInfo} (obstructed : Obstructed slots socket server lock)
    (persist : Persist slots after) : Obstructed after socket server lock := by
  obtain ⟨other, member, apart, sameServer, held, heldMember, blocks⟩ := obstructed
  obtain ⟨same, sameMember, sameSocket, server, kept⟩ :=
    persist other member held heldMember (granted_of_blocks blocks)
  exact ⟨same, sameMember, sameSocket ▸ apart, server ▸ sameServer, held, kept, blocks⟩

def WaitedBefore (slots after : List SocketLockInfo) : Prop :=
  ∀ sli ∈ after, ∀ lock ∈ sli.locks, lock.waiting = true →
    ∃ old ∈ slots, lock ∈ old.locks ∧ old.server = sli.server ∧
      ∀ socket, sli.controlSocket = some socket → old.controlSocket = some socket

theorem mem_split {before after : List SocketLockInfo} {middle : SocketLockInfo} :
    sli ∈ before ++ middle :: after ↔ sli = middle ∨ sli ∈ before ++ after := by
  simp [or_left_comm]

theorem persist_replace {before after : List SocketLockInfo} {old new : SocketLockInfo}
    (socket : new.controlSocket = old.controlSocket ∨ new.locks = [])
    (server : new.server = old.server)
    (kept : ∀ held ∈ old.locks, held.granted = true → held ∈ new.locks) :
    Persist (before ++ old :: after) (before ++ new :: after) := by
  intro other member held heldMember granted
  rcases mem_split.mp member with rfl | elsewhere
  · have inNew := kept held heldMember granted
    rcases socket with same | none
    · exact ⟨new, by simp, same, server, inNew⟩
    · rw [none] at inNew
      cases inNew
  · exact ⟨other, mem_split.mpr (.inr elsewhere), rfl, rfl, heldMember⟩

theorem waitedBefore_replace {before after : List SocketLockInfo} {old new : SocketLockInfo}
    (socket : ∀ index, new.controlSocket = some index → old.controlSocket = some index)
    (server : new.server = old.server)
    (waited : ∀ lock ∈ new.locks, lock.waiting = true → lock ∈ old.locks) :
    WaitedBefore (before ++ old :: after) (before ++ new :: after) := by
  intro sli member lock lockMember waiting
  rcases mem_split.mp member with rfl | elsewhere
  · exact ⟨old, by simp, waited lock lockMember waiting, server.symm, socket⟩
  · exact ⟨sli, mem_split.mpr (.inr elsewhere), lockMember, rfl, fun _ same => same⟩

theorem persist_lock (slots : List SocketLockInfo) (socket : Nat) (server : CServer)
    (info : LockInfo) : Persist slots (lock slots socket server info).1 := by
  obtain ⟨before, sli, after, made, _, origin⟩ := lock_cases slots socket server info
  rw [made]
  have replaced := @persist_replace before after sli
    (addLock sli (mustWait (before ++ sli :: after) socket sli.server info) info)
    (.inl rfl) rfl fun held member _ => mem_append_left _ member
  rcases origin with rfl | ⟨rfl, rfl, _, rfl⟩
  · exact replaced
  · intro other member
    exact replaced other (mem_append_left _ member)

theorem persist_obtainWaiting (socket : Nat)
    (valid : SlotsValid serverOf slots) : Persist slots (obtainWaiting slots socket) := by
  obtain ⟨unchanged, _⟩ | ⟨before, sli, after, rfl, _, result⟩ := obtainWaiting_cases socket valid
  · rw [unchanged]
    exact fun other member held heldMember _ => ⟨other, member, rfl, rfl, heldMember⟩
  · rw [result]
    refine persist_replace (.inl rfl) rfl fun held member granted => ?_
    have obtained : held.waiting = false := by
      simpa using (Bool.and_eq_true_iff.mp granted).1
    refine mem_map.mpr ⟨held, member, ?_⟩
    rw [obtainIfWaiting, if_neg (by simp [obtained])]

theorem waitedBefore_obtainWaiting (socket : Nat) (valid : SlotsValid serverOf slots) :
    WaitedBefore slots (obtainWaiting slots socket) := by
  obtain ⟨unchanged, _⟩ | ⟨before, sli, after, rfl, _, result⟩ := obtainWaiting_cases socket valid
  · rw [unchanged]
    exact fun sli member lock lockMember _ =>
      ⟨sli, member, lockMember, rfl, fun _ same => same⟩
  · rw [result]
    refine waitedBefore_replace (fun _ same => same) rfl fun lock member waiting => ?_
    obtain ⟨held, heldMember, rfl⟩ := mem_map.mp member
    unfold obtainIfWaiting at waiting ⊢
    split at waiting
    case isFalse => exact absurd waiting (by assumption)
    case isTrue waits =>
      rw [if_pos waits]
      obtain ⟨same, _⟩ | ⟨same, _⟩ := obtain_cases (before ++ after) held
      · rwa [same]
      · rw [same] at waiting
        cases waiting

theorem granted_kept_of_shrunk {index : Nat} {old new : SocketLockInfo}
    {info held : LockInfo} (shrunk : Shrunk index old new)
    (record : old.locks[index]? = some info) (waiting : info.waiting = true)
    (member : held ∈ old.locks) (granted : held.granted = true) :
    held ∈ new.locks := by
  obtain ⟨position, found⟩ := getElem?_of_mem member
  simp only [LockInfo.granted, Bool.and_eq_true, Bool.not_eq_true'] at granted
  refine mem_of_getElem? (shrunk.kept position held ?_ found granted.2)
  rintro rfl
  rw [record] at found
  cases found
  rw [waiting] at granted
  cases granted.1

theorem persist_unlock {after : List SocketLockInfo} {handle : OpLock}
    {info : LockInfo} {wasWaiting : Bool}
    (valid : SlotsValid serverOf slots) (slot : slots[handle.socket]? = some sli)
    (record : sli.locks[handle.lock]? = some info) (waiting : info.waiting = true)
    (unlocked : unlock slots handle = some (after, wasWaiting)) :
    Persist slots after := by
  obtain ⟨before, behind, rfl, _, ⟨new, result, shrunk⟩ | ⟨rfl, result, rest⟩⟩ :=
    unlock_cases slot record
  · rw [result] at unlocked
    cases unlocked
    exact persist_replace (shrunk.socket.imp id And.right) shrunk.server
      fun held member granted => granted_kept_of_shrunk shrunk record waiting member granted
  · rw [result] at unlocked
    cases unlocked
    intro other member held heldMember granted
    have inBefore : other ∈ before := by
      rcases mem_append.mp member with inBefore | isLast
      · exact inBefore
      · -- All other locks of the slot that went were released.
        rw [mem_singleton.mp isLast] at heldMember
        obtain ⟨position, found⟩ := getElem?_of_mem heldMember
        simp only [LockInfo.granted, Bool.and_eq_true, Bool.not_eq_true'] at granted
        by_cases here : position = handle.lock
        · rw [here, record] at found
          cases found
          rw [waiting] at granted
          cases granted.1
        · rw [rest position held here found] at granted
          cases granted.2
    obtain ⟨index, found⟩ := getElem?_of_mem inBefore
    refine ⟨other, mem_of_getElem? (getElem?_rdropWhile found ?_), rfl, rfl, heldMember⟩
    rw [Option.isNone_eq_false_iff, Option.isSome_iff_ne_none]
    intro gone
    rw [(valid.slot other member).unused gone] at heldMember
    cases heldMember

theorem waitedBefore_unlock {after : List SocketLockInfo} {handle : OpLock}
    {info : LockInfo} {wasWaiting : Bool}
    (slot : slots[handle.socket]? = some sli) (record : sli.locks[handle.lock]? = some info)
    (unlocked : unlock slots handle = some (after, wasWaiting)) :
    WaitedBefore slots after := by
  obtain ⟨before, behind, rfl, _, ⟨new, result, shrunk⟩ | ⟨rfl, result, _⟩⟩ :=
    unlock_cases slot record
  · rw [result] at unlocked
    cases unlocked
    refine waitedBefore_replace (fun index same => ?_) shrunk.server fun lock member waiting => ?_
    · rcases shrunk.socket with unchanged | ⟨gone, _⟩
      · exact unchanged ▸ same
      · rw [gone] at same
        cases same
    · rcases shrunk.locks lock member with old | ⟨_, obtained⟩
      · exact old
      · rw [waiting] at obtained
        cases obtained
  · rw [result] at unlocked
    cases unlocked
    intro other member lock lockMember _
    exact ⟨other, mem_append_left _ ((List.rdropWhile_prefix _ _).subset member),
      lockMember, rfl, fun _ same => same⟩

def Awake (state : LockSystem) : Prop :=
  ∀ sli ∈ state.socketLocks, ∀ lock ∈ sli.locks, lock.waiting = true →
    ∀ socket, sli.controlSocket = some socket →
      socket ∈ state.pending ∨ Obstructed state.socketLocks socket sli.server lock

theorem Awake.of_persist {next : LockSystem} (awake : Awake state)
    (persist : Persist state.socketLocks next.socketLocks)
    (waited : WaitedBefore state.socketLocks next.socketLocks)
    (pending : ∀ socket, socket ∈ state.pending → socket ∈ next.pending) :
    Awake next := by
  intro sli member lock lockMember waiting socket isSocket
  obtain ⟨old, oldMember, inOld, server, sameSocket⟩ := waited sli member lock lockMember waiting
  rcases awake old oldMember lock inOld waiting socket (sameSocket socket isSocket) with
    soon | obstructed
  · exact .inl (pending socket soon)
  · exact .inr (server ▸ obstructed.persist persist)

theorem awake_lock {next : LockSystem} (awake : Awake state)
    {reason : LockingReason} {path : CServerPath} {inclusive : Bool}
    (taken : lockStep serverOf state (.lock socket reason path inclusive) = some next) :
    Awake next := by
  simp only [lockStep, Option.some.injEq] at taken
  subst taken
  let info : LockInfo := { path, reason, inclusive, serial := state.created }
  have persist := persist_lock state.socketLocks socket (serverOf socket) info
  intro sli member lock lockMember waiting index isIndex
  obtain ⟨before, own, after, made, isSocket, origin⟩ :=
    lock_cases state.socketLocks socket (serverOf socket) info
  change sli ∈ (FileZilla.lock state.socketLocks socket (serverOf socket) info).1 at member
  change _ ∨ Obstructed (FileZilla.lock state.socketLocks socket (serverOf socket) info).1 _ _ _
  rw [made] at member persist ⊢
  have old (other : SocketLockInfo) (inSlots : other ∈ state.socketLocks)
      (inOther : lock ∈ other.locks) (isOther : other.controlSocket = some index)
      (server : other.server = sli.server) :
      index ∈ state.pending ∨ Obstructed (before ++ addLock own
        (mustWait (before ++ own :: after) socket own.server info) info :: after)
        index sli.server lock := by
    rcases awake other inSlots lock inOther waiting index isOther with soon | obstructed
    · exact .inl soon
    · exact .inr (server ▸ obstructed.persist persist)
  rcases mem_split.mp member with rfl | elsewhere
  · rcases mem_append.mp lockMember with held | new
    · rcases origin with split | ⟨_, _, _, fresh⟩
      · exact old own (by rw [split]; simp) held isIndex rfl
      · rw [fresh] at held
        cases held
    · -- The new lock waits because of a lock on its own server.
      cases mem_singleton.mp new
      have own_index : index = socket := Option.some.inj (isIndex.symm.trans isSocket)
      subst own_index
      obtain ⟨other, otherMember, apart, sameServer, held, heldMember, blocks⟩ :=
        mustWait_iff.mp waiting
      refine .inr ⟨other, ?_, apart, sameServer, held, heldMember, blocks⟩
      rcases mem_split.mp otherMember with rfl | inOthers
      · exact absurd isSocket apart
      · exact mem_split.mpr (.inr inOthers)
  · have inSplit : sli ∈ before ++ own :: after := mem_split.mpr (.inr elsewhere)
    rcases origin with split | ⟨split, rfl, _, fresh⟩
    · exact old sli (by rw [split]; exact inSplit) lockMember isIndex rfl
    · rcases mem_append.mp inSplit with inBefore | isLast
      · exact old sli (by rw [split]; exact inBefore) lockMember isIndex rfl
      · rw [mem_singleton.mp isLast, fresh] at lockMember
        cases lockMember

theorem mem_wakeup {lock : LockInfo} (member : sli ∈ slots)
    (lockMember : lock ∈ sli.locks) (waiting : lock.waiting = true)
    (isSocket : sli.controlSocket = some socket) : socket ∈ wakeup slots := by
  refine mem_filterMap.mpr ⟨sli, member, ?_⟩
  rw [if_pos (any_eq_true.mpr ⟨lock, lockMember, waiting⟩)]
  exact isSocket

theorem awake_unlock {next : LockSystem} {handle : OpLock}
    (valid : Valid serverOf state) (awake : Awake state)
    (taken : lockStep serverOf state (.unlock handle) = some next) : Awake next := by
  obtain ⟨live, taken⟩ := of_guard taken
  obtain ⟨sli, info, after, slot, record, _, result⟩ :=
    unlock_of_designates (valid.designates handle live)
  rw [result] at taken
  simp only [Option.map_some, Option.some.injEq] at taken
  subst taken
  have waited := waitedBefore_unlock slot record result
  by_cases waiting : info.waiting = true
  case pos =>
    have persist := persist_unlock valid.slots slot record waiting result
    refine awake.of_persist persist waited fun socket soon => ?_
    rw [if_pos waiting]
    exact soon
  case neg =>
    intro other member lock lockMember lockWaits socket isSocket
    refine .inl ?_
    rw [if_neg waiting]
    exact mem_append_right _ (mem_wakeup member lockMember lockWaits isSocket)

/-- The delivery meets no lock of another server that alone keeps one waiting. -/
def DeliveryFair (state : LockSystem) : LockEvent → Prop
  | .deliver socket =>
    ∀ sli ∈ state.socketLocks, sli.controlSocket = some socket →
      ∀ lock ∈ sli.locks, lock.waiting = true → ObstructedAnywhere state.socketLocks socket lock →
        Obstructed state.socketLocks socket sli.server lock
  | _ => True

instance (slots : List SocketLockInfo) (socket : Nat) (server : CServer)
    (lock : LockInfo) : Decidable (Obstructed slots socket server lock) :=
  inferInstanceAs (Decidable (∃ other ∈ slots, _ ∧ _ ∧ ∃ held ∈ other.locks, _))

instance (slots : List SocketLockInfo) (socket : Nat) (lock : LockInfo) :
    Decidable (ObstructedAnywhere slots socket lock) :=
  inferInstanceAs (Decidable (∃ other ∈ slots, _ ∧ ∃ held ∈ other.locks, _))

instance (state : LockSystem) (event : LockEvent) : Decidable (DeliveryFair state event) :=
  match event with
  | .deliver socket =>
    inferInstanceAs (Decidable (∀ sli ∈ state.socketLocks, _ → ∀ lock ∈ sli.locks,
      lock.waiting = true → ObstructedAnywhere state.socketLocks socket lock →
        Obstructed state.socketLocks socket sli.server lock))
  | .lock .. | .unlock _ | .obtainWaiting _ => isTrue trivial

/-- A lock that `ObtainWaiting` leaves waiting is obstructed. -/
theorem obstructedAnywhere_of_waiting (valid : SlotsValid serverOf slots) {lock : LockInfo}
    (member : sli ∈ obtainWaiting slots socket) (lockMember : lock ∈ sli.locks)
    (waiting : lock.waiting = true) (isSocket : sli.controlSocket = some socket) :
    ∃ old ∈ slots, old.controlSocket = some socket ∧ old.server = sli.server ∧
      lock ∈ old.locks ∧ ObstructedAnywhere slots socket lock := by
  obtain ⟨unchanged, absent⟩ | ⟨before, own, after, rfl, isOwn, result⟩ :=
    obtainWaiting_cases socket valid
  · rw [unchanged] at member
    exact absurd isSocket (absent sli member)
  · rw [result] at member
    obtain ⟨_, _, compatible⟩ := slotsValid_split.mp valid
    rcases mem_split.mp member with rfl | elsewhere
    · refine ⟨own, by simp, isOwn, rfl, ?_⟩
      obtain ⟨held, heldMember, rfl⟩ := mem_map.mp lockMember
      unfold obtainIfWaiting at waiting ⊢
      split at waiting
      case isFalse => exact absurd waiting (by assumption)
      case isTrue waits =>
        rw [if_pos waits]
        obtain ⟨same, other, otherMember, blocking, blockingMember, blocks⟩ |
          ⟨same, _⟩ := obtain_cases (before ++ after) held
        · rw [same]
          exact ⟨heldMember, other, mem_split.mpr (.inr otherMember),
            (compatible other otherMember).sockets socket isOwn, blocking, blockingMember, blocks⟩
        · rw [same] at waiting
          cases waiting
    · exact absurd isSocket ((compatible sli elsewhere).sockets socket isOwn)

theorem awake_deliver (valid : Valid serverOf state) (awake : Awake state)
    (fair : DeliveryFair state (.deliver socket)) :
    Awake { state with
      socketLocks := obtainWaiting state.socketLocks socket
      pending := state.pending.erase socket } := by
  have persist := persist_obtainWaiting socket valid.slots
  have waited := waitedBefore_obtainWaiting socket valid.slots
  intro sli member lock lockMember waiting index isIndex
  by_cases own : index = socket
  case pos =>
    subst own
    obtain ⟨old, oldMember, isOld, server, inOld, anywhere⟩ :=
      obstructedAnywhere_of_waiting valid.slots member lockMember waiting isIndex
    have obstructed := fair old oldMember isOld lock inOld waiting anywhere
    exact .inr (server ▸ obstructed.persist persist)
  case neg =>
    obtain ⟨old, oldMember, inOld, server, sameSocket⟩ :=
      waited sli member lock lockMember waiting
    rcases awake old oldMember lock inOld waiting index (sameSocket index isIndex) with
      soon | obstructed
    · exact .inl ((mem_erase_of_ne own).mpr soon)
    · exact .inr (server ▸ obstructed.persist persist)

theorem awake_step {next : LockSystem} {event : LockEvent}
    (valid : Valid serverOf state) (awake : Awake state) (fair : DeliveryFair state event)
    (taken : lockStep serverOf state event = some next) : Awake next := by
  cases event with
  | lock socket reason path inclusive => exact awake_lock awake taken
  | unlock handle => exact awake_unlock valid awake taken
  | obtainWaiting socket =>
    cases taken
    exact awake.of_persist (persist_obtainWaiting socket valid.slots)
      (waitedBefore_obtainWaiting socket valid.slots) fun _ soon => soon
  | deliver socket =>
    obtain ⟨-, rfl⟩ := some_of_guard taken
    exact awake_deliver valid awake fair

theorem run_awake {trace : List (LockSystem × LockEvent)}
    (run : Run (lockStep serverOf) {} trace state)
    (fair : ∀ taken ∈ trace, DeliveryFair taken.1 taken.2) :
    Valid serverOf state ∧ Awake state := by
  have initial : Valid serverOf {} ∧ Awake {} :=
    ⟨valid_initial, fun sli member => absurd member not_mem_nil⟩
  have preserved (state : LockSystem) (event : LockEvent) (next : LockSystem)
      (invariant : Valid serverOf state ∧ Awake state) (allowed : DeliveryFair state event)
      (taken : lockStep serverOf state event = some next) :
      Valid serverOf next ∧ Awake next :=
    ⟨valid_step invariant.1 taken, awake_step invariant.1 invariant.2 allowed taken⟩
  exact @Run.invariant_of_forall _ _ _ _ _ _
    (fun state => Valid serverOf state ∧ Awake state) DeliveryFair initial preserved run fair

/-- `ObtainWaiting` decides like `Lock` unless only locks of other servers stand
in the way. -/
theorem obtain_agrees_iff {before after : List SocketLockInfo}
    {lock : LockInfo} (valid : SlotsValid serverOf (before ++ sli :: after))
    (isSocket : sli.controlSocket = some socket) (waiting : lock.waiting = true) :
    (obtain (before ++ after) lock).waiting =
        mustWait (before ++ sli :: after) socket sli.server lock ↔
      (ObstructedAnywhere (before ++ sli :: after) socket lock →
        Obstructed (before ++ sli :: after) socket sli.server lock) := by
  obtain ⟨_, _, compatible⟩ := slotsValid_split.mp valid
  rw [← mustWait_iff]
  obtain ⟨same, other, otherMember, held, heldMember, blocks⟩ | ⟨same, free⟩ :=
    obtain_cases (before ++ after) lock
  · have anywhere : ObstructedAnywhere (before ++ sli :: after) socket lock :=
      ⟨other, mem_split.mpr (.inr otherMember),
        (compatible other otherMember).sockets socket isSocket, held, heldMember, blocks⟩
    rw [same, waiting]
    constructor
    · intro agrees _
      exact agrees.symm
    · intro implies
      exact (implies anywhere).symm
  · have nowhere : ¬ ObstructedAnywhere (before ++ sli :: after) socket lock := by
      rintro ⟨other, otherMember, apart, held, heldMember, blocks⟩
      rcases mem_split.mp otherMember with rfl | inOthers
      · exact apart isSocket
      · rw [free other inOthers held heldMember] at blocks
        cases blocks
    have granted : mustWait (before ++ sli :: after) socket sli.server lock = false := by
      rw [← Bool.not_eq_true, mustWait_iff]
      rintro ⟨other, otherMember, apart, _, rest⟩
      exact nowhere ⟨other, otherMember, apart, rest⟩
    rw [same, granted]
    exact ⟨fun _ anywhere => absurd anywhere nowhere, fun _ => rfl⟩

end OpLocks

/-- While every delivery is fair, a lock that waits with no event under way
conflicts with a lock that a different socket on the same server holds. Where a
delivery is fair to a lock, `ObtainWaiting` decides about it like `Lock`, and
nowhere else. -/
theorem waiting_locks_conflict (serverOf : Nat → CServer)
    {trace : List (LockSystem × LockEvent)} {state : LockSystem}
    (run : Run (lockStep serverOf) {} trace state)
    (fair : ∀ taken ∈ trace, OpLocks.DeliveryFair taken.1 taken.2) :
    (state.pending = [] → ∀ sli ∈ state.socketLocks, ∀ socket, sli.controlSocket = some socket →
        ∀ lock ∈ sli.locks, lock.waiting = true →
          ∃ other ∈ state.socketLocks, ∃ index, other.controlSocket = some index ∧
            index ≠ socket ∧ (serverOf index).equal (serverOf socket) = true ∧
            ∃ held ∈ other.locks, held.waiting = false ∧ held.released = false ∧
              held.reason = lock.reason ∧
              (held.path = lock.path ∨
                held.inclusive = true ∧ held.path.isParentOf lock.path = true ∨
                lock.inclusive = true ∧ lock.path.isParentOf held.path = true)) ∧
    ∀ before sli after, state.socketLocks = before ++ sli :: after →
      ∀ socket, sli.controlSocket = some socket → ∀ lock, lock.waiting = true →
        ((obtain (before ++ after) lock).waiting =
            mustWait state.socketLocks socket sli.server lock ↔
          (OpLocks.ObstructedAnywhere state.socketLocks socket lock →
            OpLocks.Obstructed state.socketLocks socket sli.server lock)) := by
  obtain ⟨valid, awake⟩ := OpLocks.run_awake run fair
  constructor
  · intro quiet sli member socket isSocket lock lockMember waiting
    rcases awake sli member lock lockMember waiting socket isSocket with soon | obstructed
    · rw [quiet] at soon
      cases soon
    · obtain ⟨other, otherMember, apart, sameServer, held, heldMember, blocks⟩ := obstructed
      have slot := valid.slots.slot other otherMember
      have used : other.controlSocket ≠ none := by
        intro gone
        rw [slot.unused gone] at heldMember
        cases heldMember
      obtain ⟨index, isIndex⟩ := Option.ne_none_iff_exists'.mp used
      rw [slot.server index isIndex,
        (valid.slots.slot sli member).server socket isSocket] at sameServer
      rw [LockInfo.blocks_eq] at blocks
      simp only [LockInfo.granted, LockInfo.clash, Bool.and_eq_true, Bool.not_eq_true',
        Bool.or_eq_true, beq_iff_eq, CServerPath.equal_iff, or_assoc] at blocks
      obtain ⟨⟨obtained, live⟩, reason, conflict⟩ := blocks
      refine ⟨other, otherMember, index, isIndex, ?_, sameServer, held, heldMember,
        obtained, live, reason, conflict⟩
      rintro rfl
      exact apart isIndex
  · intro before sli after split socket isSocket lock waiting
    have slots := valid.slots
    rw [split] at slots ⊢
    exact OpLocks.obtain_agrees_iff slots isSocket waiting

def twoServers (socket : Nat) : CServer :=
  if socket = 3 then CServer.ftp (wide "b") [] else CServer.ftp (wide "a") []

def rootLock (socket : Nat) : LockEvent :=
  .lock socket .mkdir { data := some { segments := [], pathPrefix := none }, type := .unix } false

/-- Socket 2 waits for socket 1; when that releases its lock, the one of socket 3
on the other server keeps it waiting. -/
theorem not_waiting_locks_conflict :
    ¬ ∀ (trace : List (LockSystem × LockEvent)) (state : LockSystem),
      Run (lockStep twoServers) {} trace state → state.pending = [] →
      ∀ sli ∈ state.socketLocks, ∀ socket, sli.controlSocket = some socket →
        ∀ lock ∈ sli.locks, lock.waiting = true →
          ∃ other ∈ state.socketLocks, ∃ index, other.controlSocket = some index ∧
            index ≠ socket ∧ (twoServers index).equal (twoServers socket) = true ∧
            ∃ held ∈ other.locks, held.waiting = false ∧ held.released = false ∧
              held.reason = lock.reason ∧
              (held.path = lock.path ∨
                held.inclusive = true ∧ held.path.isParentOf lock.path = true ∨
                lock.inclusive = true ∧ lock.path.isParentOf held.path = true) := by
  intro claim
  obtain ⟨trace, state, run, checked⟩ := @exists_run_of_execute _ _ (lockStep twoServers) {}
      [rootLock 1, rootLock 3, rootLock 2,
        .unlock { socket := 0, lock := 0, serial := 0 }, .deliver 2]
      (fun _ state => decide (state.pending = [] ∧
        (∃ sli ∈ state.socketLocks, sli.controlSocket = some 2 ∧
          ∃ lock ∈ sli.locks, lock.waiting = true) ∧
        ∀ other ∈ state.socketLocks, ∀ index ∈ other.controlSocket,
          index = 2 ∨ (twoServers index).equal (twoServers 2) = false))
      (by decide +kernel)
  obtain ⟨quiet, ⟨sli, member, isSocket, lock, lockMember, waiting⟩, alone⟩ :=
    of_decide_eq_true checked
  obtain ⟨other, otherMember, index, isIndex, apart, sameServer, _⟩ :=
    claim trace state run quiet sli member 2 isSocket lock lockMember waiting
  rcases alone other otherMember index isIndex with same | differ
  · exact apart same
  · rw [differ] at sameServer
    cases sameServer

/-- With both sockets on one server the second lock is granted on delivery. -/
theorem waiting_locks_conflict_two_sockets :
    ∃ state : LockSystem, (state.socketLocks.map fun sli =>
        sli.locks.map LockInfo.waiting) = [[], [false]] ∧
      (state.pending = [] → ∀ sli ∈ state.socketLocks, ∀ socket, sli.controlSocket = some socket →
          ∀ lock ∈ sli.locks, lock.waiting = true →
            ∃ other ∈ state.socketLocks, ∃ index, other.controlSocket = some index ∧
              index ≠ socket ∧ (twoServers index).equal (twoServers socket) = true ∧
              ∃ held ∈ other.locks, held.waiting = false ∧ held.released = false ∧
                held.reason = lock.reason ∧
                (held.path = lock.path ∨
                  held.inclusive = true ∧ held.path.isParentOf lock.path = true ∨
                  lock.inclusive = true ∧ lock.path.isParentOf held.path = true)) := by
  obtain ⟨trace, state, run, checked⟩ := @exists_run_of_execute _ _ (lockStep twoServers) {}
      [rootLock 1, rootLock 2, .unlock { socket := 0, lock := 0, serial := 0 }, .deliver 2]
      (fun trace state => decide ((state.socketLocks.map fun sli =>
          sli.locks.map LockInfo.waiting) = [[], [false]] ∧
        ∀ taken ∈ trace, OpLocks.DeliveryFair taken.1 taken.2))
      (by decide +kernel)
  obtain ⟨shape, fair⟩ := of_decide_eq_true checked
  exact ⟨state, shape, (waiting_locks_conflict twoServers run fair).1⟩

end FileZilla
