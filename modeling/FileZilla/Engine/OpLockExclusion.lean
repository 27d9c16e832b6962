import Mathlib.Data.List.Nodup
import FileZilla.Engine.OpLockManager

namespace FileZilla

open Option

universe u

section Lists

variable {α : Type u}

theorem exists_split_of_getElem? {list : List α} {index : Nat} {element : α}
    (found : list[index]? = some element) :
    ∃ before after, list = before ++ element :: after ∧ before.length = index := by
  obtain ⟨inside, rfl⟩ := List.getElem?_eq_some_iff.mp found
  refine ⟨list.take index, list.drop (index + 1), ?_, ?_⟩
  · rw [List.getElem_cons_drop, List.take_append_drop]
  · simp [Nat.le_of_lt inside]

theorem set_split {before after : List α} {old new : α} :
    (before ++ old :: after).set before.length new = before ++ new :: after := by
  simp

theorem pairwise_split {relation : α → α → Prop}
    (symmetric : ∀ left right, relation left right → relation right left)
    {before after : List α} {element : α} :
    (before ++ element :: after).Pairwise relation ↔
      (before ++ after).Pairwise relation ∧
        ∀ other ∈ before ++ after, relation element other := by
  have moved : (before ++ element :: after).Perm (element :: (before ++ after)) :=
    List.perm_middle
  rw [moved.pairwise_iff fun {left right} => symmetric left right, List.pairwise_cons]
  exact And.comm

theorem getElem?_rdropWhile {list : List α} {index : Nat} {element : α}
    {drop : α → Bool} (found : list[index]? = some element) (kept : drop element = false) :
    (list.rdropWhile drop)[index]? = some element := by
  induction list using List.reverseRecOn with
  | nil => simp at found
  | append_singleton list last ih =>
    by_cases dropped : drop last = true
    case neg =>
      rwa [List.rdropWhile_concat_neg _ _ _ (by simpa using dropped)]
    case pos =>
      rw [List.rdropWhile_concat_pos _ _ _ dropped]
      apply ih
      rcases Nat.lt_trichotomy index list.length with inside | atEnd | outside
      · rwa [List.getElem?_append_left inside] at found
      · subst atEnd
        simp only [List.getElem?_concat_length, some.injEq] at found
        rw [found, kept] at dropped
        cases dropped
      · rw [List.getElem?_eq_none (by simp; omega)] at found
        cases found

end Lists

open LockInfo

namespace OpLocks

variable {serverOf : Nat → CServer}

/-- Two slots are for different sockets, and on one server their granted locks
do not clash. -/
structure Compatible (left right : SocketLockInfo) : Prop where
  sockets : ∀ socket, left.controlSocket = some socket →
    right.controlSocket ≠ some socket
  exclusive : left.server.equal right.server = true → ∀ lock ∈ left.locks, ∀ other ∈ right.locks,
      lock.granted = true → other.granted = true → lock.clash other = false

theorem Compatible.symm {left right : SocketLockInfo} (compatible : Compatible left right) :
    Compatible right left where
  sockets socket same other := compatible.sockets socket other same
  exclusive same lock member other otherMember granted otherGranted := by
    rw [clash_comm]
    exact compatible.exclusive (CServer.equal_symm same) other otherMember lock member
      otherGranted granted

/-- A slot that lost its socket has no locks, every other one the server of its
socket. -/
structure SlotValid (serverOf : Nat → CServer) (sli : SocketLockInfo) : Prop where
  server : ∀ socket, sli.controlSocket = some socket → sli.server = serverOf socket
  unused : sli.controlSocket = none → sli.locks = []

structure SlotsValid (serverOf : Nat → CServer) (slots : List SocketLockInfo) :
    Prop where
  slot : ∀ sli ∈ slots, SlotValid serverOf sli
  compatible : slots.Pairwise Compatible

variable {sli : SocketLockInfo} {slots : List SocketLockInfo} (socket : Nat) {wasWaiting : Bool}
  {state : LockSystem}

theorem slotsValid_split {before after : List SocketLockInfo} :
    SlotsValid serverOf (before ++ sli :: after) ↔
      SlotsValid serverOf (before ++ after) ∧ SlotValid serverOf sli ∧
        ∀ other ∈ before ++ after, Compatible sli other := by
  constructor
  · rintro ⟨slot, compatible⟩
    rw [pairwise_split fun _ _ => Compatible.symm] at compatible
    refine ⟨⟨fun other member => slot other ?_, compatible.1⟩, slot sli (by simp), compatible.2⟩
    rcases List.mem_append.mp member with inBefore | inAfter
    · exact List.mem_append_left _ inBefore
    · exact List.mem_append_right _ (List.mem_cons_of_mem _ inAfter)
  · rintro ⟨⟨slot, compatible⟩, valid, others⟩
    refine ⟨fun other member => ?_,
      (pairwise_split fun _ _ => Compatible.symm).mpr ⟨compatible, others⟩⟩
    rcases List.mem_append.mp member with inBefore | inRest
    · exact slot other (List.mem_append_left _ inBefore)
    · rcases List.mem_cons.mp inRest with rfl | inAfter
      · exact valid
      · exact slot other (List.mem_append_right _ inAfter)

theorem SlotsValid.replace {before after : List SocketLockInfo}
    {old new : SocketLockInfo} (valid : SlotsValid serverOf (before ++ old :: after))
    (newValid : SlotValid serverOf new)
    (compatible : ∀ other ∈ before ++ after, Compatible old other → Compatible new other) :
    SlotsValid serverOf (before ++ new :: after) := by
  obtain ⟨others, _, oldCompatible⟩ := slotsValid_split.mp valid
  exact slotsValid_split.mpr ⟨others, newValid, fun other member =>
    compatible other member (oldCompatible other member)⟩

theorem Compatible.of_granted {old new other : SocketLockInfo}
    (compatible : Compatible old other) (server : new.server = old.server)
    (socket : new.controlSocket = old.controlSocket ∨ new.controlSocket = none)
    (granted : ∀ lock ∈ new.locks, lock.granted = true →
      ∃ held ∈ old.locks, held.granted = true ∧ ∀ other, held.clash other = lock.clash other) :
    Compatible new other where
  sockets index same := by
    rcases socket with unchanged | gone
    · exact compatible.sockets index (unchanged ▸ same)
    · rw [gone] at same
      cases same
  exclusive same lock member second secondMember isGranted secondGranted := by
    obtain ⟨held, heldMember, heldGranted, clash⟩ := granted lock member isGranted
    rw [← clash]
    exact compatible.exclusive (server ▸ same) held heldMember second secondMember
      heldGranted secondGranted

theorem SlotsValid.sublist {slots fewer : List SocketLockInfo}
    (valid : SlotsValid serverOf slots) (sublist : fewer.Sublist slots) :
    SlotsValid serverOf fewer :=
  ⟨fun sli member => valid.slot sli (sublist.subset member), valid.compatible.sublist sublist⟩

theorem getOrCreate_cases (slots : List SocketLockInfo) (socket : Nat) (server : CServer) :
    ∃ before sli after,
      getOrCreate slots socket server = (before ++ sli :: after, before.length) ∧
      sli.controlSocket = some socket ∧
      (slots = before ++ sli :: after ∨
        slots = before ∧ after = [] ∧
          (∀ other ∈ before, other.controlSocket ≠ some socket) ∧
          sli = { server, controlSocket := some socket, locks := [] }) := by
  unfold getOrCreate
  cases found : slots.findIdx? fun info => info.controlSocket == some socket with
  | none =>
    rw [List.findIdx?_eq_none_iff] at found
    exact ⟨slots, _, [], rfl, rfl, .inr ⟨rfl, rfl,
      fun other member => by simpa using found other member, rfl⟩⟩
  | some index =>
    obtain ⟨inside, isSocket, _⟩ := List.findIdx?_eq_some_iff_getElem.mp found
    obtain ⟨before, after, split, length⟩ :=
      exists_split_of_getElem? (List.getElem?_eq_getElem inside)
    refine ⟨before, slots[index], after, ?_, by simpa using isSocket, .inl split⟩
    rw [← split, length]

def addLock (sli : SocketLockInfo) (waiting : Bool) (info : LockInfo) :
    SocketLockInfo :=
  { sli with locks := sli.locks ++ [{ info with waiting }] }

theorem lock_cases (slots : List SocketLockInfo) (socket : Nat) (server : CServer)
    (info : LockInfo) :
    ∃ before sli after, lock slots socket server info =
        (before ++ addLock sli (mustWait (before ++ sli :: after) socket sli.server info)
            info :: after,
          { socket := before.length, lock := sli.locks.length,
            serial := info.serial }) ∧
      sli.controlSocket = some socket ∧
      (slots = before ++ sli :: after ∨
        slots = before ∧ after = [] ∧
          (∀ other ∈ before, other.controlSocket ≠ some socket) ∧
          sli = { server, controlSocket := some socket, locks := [] }) := by
  obtain ⟨before, sli, after, made, isSocket, origin⟩ := getOrCreate_cases slots socket server
  refine ⟨before, sli, after, ?_, isSocket, origin⟩
  unfold lock
  simp [made, addLock]

/-- What is left of the slot whose lock at `index` was released. -/
structure Shrunk (index : Nat) (old new : SocketLockInfo) : Prop where
  server : new.server = old.server
  socket : new.controlSocket = old.controlSocket ∨
    new.controlSocket = none ∧ new.locks = []
  locks : ∀ lock ∈ new.locks, lock ∈ old.locks ∨
    lock.released = true ∧ lock.waiting = false
  serials : (new.locks.map serial).Sublist (old.locks.map serial)
  kept : ∀ position lock, position ≠ index → old.locks[position]? = some lock →
    lock.released = false → new.locks[position]? = some lock

theorem shrunk_dropLast {index : Nat} (last : index + 1 = sli.locks.length) {socket : Option Nat}
    (unchanged : socket = sli.controlSocket ∨
      socket = none ∧
        sli.locks.dropLast.rdropWhile (fun other => other.released) = []) :
    Shrunk index sli
      { sli with
        controlSocket := socket
        locks := sli.locks.dropLast.rdropWhile fun other => other.released } where
  server := rfl
  socket := unchanged
  locks lock member := .inl (List.dropLast_subset _ ((List.rdropWhile_prefix _ _).subset member))
  serials := ((List.rdropWhile_prefix _ _).sublist.trans (List.dropLast_sublist _)).map _
  kept position lock apart found live := by
    apply getElem?_rdropWhile _ live
    have inside : position < sli.locks.length := (List.getElem?_eq_some_iff.mp found).1
    rw [List.getElem?_dropLast, if_pos (by omega)]
    exact found

theorem shrunk_released {index : Nat} {info : LockInfo} (found : sli.locks[index]? = some info) :
    Shrunk index sli
      { sli with
        locks := sli.locks.set index { info with waiting := false, released := true } }
    where
  server := rfl
  socket := .inl rfl
  locks lock member := by
    rcases List.mem_or_eq_of_mem_set member with old | new
    · exact .inl old
    · exact .inr (new ▸ ⟨rfl, rfl⟩)
  serials := by
    obtain ⟨before, after, split, length⟩ := exists_split_of_getElem? found
    rw [split, ← length, set_split]
    simp
  kept position lock apart position_found _ := by
    rw [List.getElem?_set_ne (Ne.symm apart)]
    exact position_found

theorem unlock_cases {handle : OpLock} {info : LockInfo} (slot : slots[handle.socket]? = some sli)
    (record : sli.locks[handle.lock]? = some info) :
    ∃ before after, slots = before ++ sli :: after ∧ before.length = handle.socket ∧
      ((∃ new, unlock slots handle = some (before ++ new :: after, info.waiting) ∧
          Shrunk handle.lock sli new) ∨
        (after = [] ∧
          unlock slots handle = some (before.rdropWhile fun other => other.controlSocket.isNone,
              info.waiting) ∧
          ∀ position lock, position ≠ handle.lock →
            sli.locks[position]? = some lock → lock.released = true)) := by
  obtain ⟨before, after, split, length⟩ := exists_split_of_getElem? slot
  refine ⟨before, after, split, length, ?_⟩
  have replaced (new : SocketLockInfo) :
      slots.set handle.socket new = before ++ new :: after := by
    rw [split, ← length, set_split]
  unfold unlock
  simp only [slot, record, bind_eq_bind, bind_some, pure_def, replaced]
  by_cases last : handle.lock + 1 = sli.locks.length
  case neg =>
    rw [if_neg last]
    exact .inl ⟨_, rfl, shrunk_released record⟩
  case pos =>
    rw [if_pos last]
    by_cases none : (sli.locks.dropLast.rdropWhile fun other => other.released).isEmpty = true
    case neg =>
      rw [if_neg none]
      exact .inl ⟨_, rfl, shrunk_dropLast last (.inl rfl)⟩
    case pos =>
      have nothing := List.isEmpty_iff.mp none
      rw [if_pos none]
      by_cases end_ : handle.socket + 1 = slots.length
      case neg =>
        rw [if_neg end_]
        exact .inl ⟨_, rfl, shrunk_dropLast last (.inr ⟨rfl, nothing⟩)⟩
      case pos =>
        have atEnd : after = [] := by
          rw [split, List.length_append, List.length_cons] at end_
          exact List.length_eq_zero_iff.mp (by omega)
        subst atEnd
        rw [if_pos end_, split, List.dropLast_concat]
        refine .inr ⟨rfl, rfl, fun position lock apart found => ?_⟩
        have whole := List.rdropWhile_eq_nil_iff.mp nothing
        have inside := (List.getElem?_eq_some_iff.mp found).1
        apply whole lock
        have kept : sli.locks.dropLast[position]? = some lock := by
          rw [List.getElem?_dropLast, if_pos (by omega)]
          exact found
        exact List.mem_of_getElem? kept

theorem obtainLoop_absent {socket : Nat} (before after : List SocketLockInfo)
    (absent : ∀ sli ∈ after, sli.controlSocket ≠ some socket) :
    obtainLoop socket before after = before ++ after := by
  induction after generalizing before with
  | nil => simp [obtainLoop]
  | cons sli after ih =>
    rw [obtainLoop, if_neg (absent sli (by simp)),
      ih _ fun other member => absent other (List.mem_cons_of_mem _ member)]
    simp

theorem obtainLoop_reach {socket : Nat} (start before rest : List SocketLockInfo)
    (absent : ∀ sli ∈ before, sli.controlSocket ≠ some socket) :
    obtainLoop socket start (before ++ rest) = obtainLoop socket (start ++ before) rest := by
  induction before generalizing start with
  | nil => simp
  | cons sli before ih =>
    rw [List.cons_append, obtainLoop, if_neg (absent sli (by simp)),
      ih _ fun other member => absent other (List.mem_cons_of_mem _ member)]
    simp

variable (others : List SocketLockInfo)

def obtainIfWaiting (lock : LockInfo) : LockInfo :=
  if lock.waiting then obtain others lock else lock

def obtainLocks (sli : SocketLockInfo) :
    SocketLockInfo :=
  { sli with locks := sli.locks.map (obtainIfWaiting others) }

@[simp] theorem obtainIfWaiting_serial
    (lock : LockInfo) : (obtainIfWaiting others lock).serial = lock.serial := by
  unfold obtainIfWaiting obtain
  split
  · split <;> rfl
  · rfl

@[simp] theorem obtainIfWaiting_released
    (lock : LockInfo) : (obtainIfWaiting others lock).released = lock.released := by
  unfold obtainIfWaiting obtain
  split
  · split <;> rfl
  · rfl

theorem obtainWaiting_cases (valid : SlotsValid serverOf slots) :
    (obtainWaiting slots socket = slots ∧
      ∀ sli ∈ slots, sli.controlSocket ≠ some socket) ∨
    ∃ before sli after, slots = before ++ sli :: after ∧
      sli.controlSocket = some socket ∧
      obtainWaiting slots socket = before ++ obtainLocks (before ++ after) sli :: after := by
  by_cases present : ∃ sli ∈ slots, sli.controlSocket = some socket
  case neg =>
    have absent : ∀ sli ∈ slots, sli.controlSocket ≠ some socket :=
      fun sli member same => present ⟨sli, member, same⟩
    refine .inl ⟨?_, absent⟩
    rw [obtainWaiting, obtainLoop_absent [] slots absent, List.nil_append]
  case pos =>
    obtain ⟨sli, member, same⟩ := present
    obtain ⟨before, after, split⟩ := List.append_of_mem member
    subst split
    obtain ⟨_, _, compatible⟩ := slotsValid_split.mp valid
    have others : ∀ other ∈ before ++ after, other.controlSocket ≠ some socket :=
      fun other otherMember => (compatible other otherMember).sockets socket same
    refine .inr ⟨before, sli, after, rfl, same, ?_⟩
    rw [obtainWaiting, obtainLoop_reach [] before _
        fun other inBefore => others other (List.mem_append_left _ inBefore),
      obtainLoop, if_pos same,
      obtainLoop_absent _ _ fun other inAfter => others other (List.mem_append_right _ inAfter)]
    rw [List.nil_append, List.append_assoc]
    rfl

theorem obtain_cases (lock : LockInfo) :
    (obtain others lock = lock ∧
      ∃ other ∈ others, ∃ held ∈ other.locks, held.blocks lock = true) ∨
    (obtain others lock = { lock with waiting := false } ∧
      ∀ other ∈ others, ∀ held ∈ other.locks, held.blocks lock = false) := by
  unfold obtain
  split
  case isTrue blocked =>
    rw [List.any_eq_true] at blocked
    obtain ⟨other, member, blocking⟩ := blocked
    exact .inl ⟨rfl, other, member, List.any_eq_true.mp blocking⟩
  case isFalse free =>
    refine .inr ⟨rfl, fun other member held heldMember => ?_⟩
    by_contra blocked
    exact free (List.any_eq_true.mpr ⟨other, member,
      List.any_eq_true.mpr ⟨held, heldMember, by simpa using blocked⟩⟩)

theorem clash_false_of_blocks {held lock : LockInfo} (free : held.blocks lock = false)
    (granted : held.granted = true) : lock.clash held = false := by
  rw [blocks_eq, granted, Bool.true_and] at free
  rw [clash_comm]
  exact free

theorem SlotsValid.lock {slots : List SocketLockInfo} {socket : Nat} {info : LockInfo}
    (valid : SlotsValid serverOf slots) :
    SlotsValid serverOf (lock slots socket (serverOf socket) info).1 := by
  obtain ⟨before, sli, after, made, isSocket, origin⟩ :=
    lock_cases slots socket (serverOf socket) info
  rw [made]
  have created : SlotsValid serverOf (before ++ sli :: after) := by
    rcases origin with rfl | ⟨rfl, rfl, absent, rfl⟩
    · exact valid
    · refine slotsValid_split.mpr ⟨by simpa using valid,
        ⟨fun other same => ?_, fun gone => by cases gone⟩, fun other member => ?_⟩
      · cases same
        rfl
      · have inBefore : other ∈ slots := by simpa using member
        exact ⟨fun index same => by cases same; exact absent other inBefore,
          fun _ held heldMember => by cases heldMember⟩
  have slotValid := created.slot sli (by simp)
  refine created.replace ⟨slotValid.server, fun gone => ?_⟩ ?_
  · change sli.controlSocket = none at gone
    rw [isSocket] at gone
    cases gone
  · intro other member compatible
    refine ⟨compatible.sockets, fun same held heldMember second secondMember
      heldGranted secondGranted => ?_⟩
    rcases List.mem_append.mp heldMember with old | new
    · exact compatible.exclusive same held old second secondMember heldGranted secondGranted
    · -- The new lock was tested against this one unless it waits.
      cases List.mem_singleton.mp new
      have free : mustWait (before ++ sli :: after) socket sli.server info = false := by
        simpa [granted] using (Bool.and_eq_true_iff.mp heldGranted).1
      have inSlots : other ∈ before ++ sli :: after := by
        rcases List.mem_append.mp member with inBefore | inAfter
        · exact List.mem_append_left _ inBefore
        · exact List.mem_append_right _ (List.mem_cons_of_mem _ inAfter)
      have tested := List.any_eq_false.mp free other inSlots
      have otherSocket : (other.controlSocket == some socket) = false := by
        simpa using compatible.sockets socket isSocket
      have sameServer : other.server.equal sli.server = true := CServer.equal_symm same
      simp only [otherSocket, sameServer, Bool.not_true, Bool.or_false, Bool.not_false,
        Bool.true_and, Bool.not_eq_true] at tested
      have notBlocked : second.blocks info = false := by
        simpa using List.any_eq_false.mp tested second secondMember
      exact clash_false_of_blocks notBlocked secondGranted

theorem SlotsValid.unlock {after : List SocketLockInfo} {handle : OpLock} {info : LockInfo}
    (valid : SlotsValid serverOf slots) (slot : slots[handle.socket]? = some sli)
    (record : sli.locks[handle.lock]? = some info)
    (unlocked : unlock slots handle = some (after, wasWaiting)) :
    SlotsValid serverOf after := by
  obtain ⟨before, behind, split, _, ⟨new, result, shrunk⟩ | ⟨_, result, _⟩⟩ :=
    unlock_cases slot record
  · rw [result] at unlocked
    cases unlocked
    subst split
    have old := valid.slot sli (by simp)
    refine valid.replace ⟨fun socket same => ?_, fun gone => ?_⟩ ?_
    · rcases shrunk.socket with unchanged | ⟨gone, _⟩
      · rw [shrunk.server]
        exact old.server socket (unchanged ▸ same)
      · rw [gone] at same
        cases same
    · rcases shrunk.socket with unchanged | ⟨_, none⟩
      · have empty := old.unused (unchanged ▸ gone)
        have fewer := shrunk.serials
        rw [empty] at fewer
        simpa using fewer
      · exact none
    · intro other _ compatible
      refine compatible.of_granted shrunk.server (shrunk.socket.imp id And.left) ?_
      intro lock member granted
      rcases shrunk.locks lock member with held | ⟨released, _⟩
      · exact ⟨lock, held, granted, fun _ => rfl⟩
      · simp [LockInfo.granted, released] at granted
  · rw [result] at unlocked
    cases unlocked
    subst split
    exact valid.sublist ((List.rdropWhile_prefix _ _).sublist.trans
      (List.sublist_append_left _ _))

theorem SlotsValid.obtainWaiting (valid : SlotsValid serverOf slots) :
    SlotsValid serverOf (obtainWaiting slots socket) := by
  obtain ⟨unchanged, _⟩ | ⟨before, sli, after, split, isSocket, result⟩ :=
    obtainWaiting_cases socket valid
  · rw [unchanged]
    exact valid
  · rw [result]
    subst split
    have old := valid.slot sli (by simp)
    refine valid.replace ⟨old.server, fun gone => ?_⟩ ?_
    · change sli.controlSocket = none at gone
      rw [isSocket] at gone
      cases gone
    · intro other member compatible
      refine ⟨compatible.sockets, fun same lock lockMember second secondMember
        granted secondGranted => ?_⟩
      obtain ⟨held, heldMember, rfl⟩ := List.mem_map.mp lockMember
      unfold obtainIfWaiting at granted ⊢
      split at granted
      case isFalse =>
        rw [if_neg (by assumption)]
        exact compatible.exclusive same held heldMember second secondMember granted secondGranted
      case isTrue waits =>
        rw [if_pos waits]
        obtain ⟨still, _⟩ | ⟨free, tested⟩ := obtain_cases (before ++ after) held
        · simp [still, LockInfo.granted, waits] at granted
        · rw [free]
          exact clash_false_of_blocks (tested other member second secondMember) secondGranted

def Designates (slots : List SocketLockInfo) (handle : OpLock) : Prop :=
  ∃ sli lock, slots[handle.socket]? = some sli ∧
    sli.locks[handle.lock]? = some lock ∧
    lock.serial = handle.serial ∧ lock.released = false

def serials (slots : List SocketLockInfo) : List Nat :=
  slots.flatMap fun sli => sli.locks.map serial

theorem serials_split (before after : List SocketLockInfo) (sli : SocketLockInfo) :
    serials (before ++ sli :: after) =
      serials before ++ (sli.locks.map serial ++ serials after) := by
  simp [serials]

theorem designates_replace {before after : List SocketLockInfo}
    {old new : SocketLockInfo} {handle : OpLock}
    (designates : Designates (before ++ old :: after) handle)
    (kept : handle.socket = before.length → ∀ lock,
      old.locks[handle.lock]? = some lock → lock.serial = handle.serial → lock.released = false →
      ∃ same, new.locks[handle.lock]? = some same ∧ same.serial = lock.serial ∧
        same.released = false) :
    Designates (before ++ new :: after) handle := by
  obtain ⟨sli, lock, slot, record, serial, live⟩ := designates
  by_cases here : handle.socket = before.length
  case neg =>
    refine ⟨sli, lock, ?_, record, serial, live⟩
    rw [← @set_split _ before after old new, List.getElem?_set_ne (Ne.symm here)]
    exact slot
  case pos =>
    rw [here, List.getElem?_append_right (Nat.le_refl _)] at slot
    simp only [Nat.sub_self, List.getElem?_cons_zero, some.injEq] at slot
    subst slot
    obtain ⟨same, found, sameSerial, sameLive⟩ := kept here lock record serial live
    exact ⟨new, same, by simp [here], found, sameSerial.trans serial, sameLive⟩

theorem designates_lock {slots : List SocketLockInfo} {socket : Nat}
    {server : CServer} {info : LockInfo} (live : info.released = false) :
    Designates (lock slots socket server info).1 (lock slots socket server info).2 ∧
    ∀ handle, Designates slots handle → Designates (lock slots socket server info).1 handle := by
  obtain ⟨before, sli, after, made, _, origin⟩ := lock_cases slots socket server info
  rw [made]
  generalize mustWait (before ++ sli :: after) socket sli.server info = waiting
  refine ⟨⟨addLock sli waiting info, { info with waiting }, by simp,
    List.getElem?_concat_length, rfl, live⟩, fun handle designates => ?_⟩
  have created : Designates (before ++ sli :: after) handle := by
    rcases origin with rfl | ⟨rfl, rfl, _, rfl⟩
    · exact designates
    · obtain ⟨other, lock, slot, rest⟩ := designates
      refine ⟨other, lock, ?_, rest⟩
      rw [List.getElem?_append_left (List.getElem?_eq_some_iff.mp slot).1]
      exact slot
  refine designates_replace created fun _ lock record serial kept =>
    ⟨lock, ?_, rfl, kept⟩
  rw [addLock, List.getElem?_append_left (List.getElem?_eq_some_iff.mp record).1]
  exact record

theorem designates_unlock {after : List SocketLockInfo} {handle other : OpLock} {info : LockInfo}
    (valid : SlotsValid serverOf slots) (slot : slots[handle.socket]? = some sli)
    (record : sli.locks[handle.lock]? = some info) (serial : info.serial = handle.serial)
    (unlocked : unlock slots handle = some (after, wasWaiting))
    (apart : other.serial ≠ handle.serial)
    (designates : Designates slots other) : Designates after other := by
  -- Two handles on one position would carry the serial number of one record.
  have elsewhere (same : other.socket = handle.socket) : other.lock ≠ handle.lock := by
    intro sameLock
    obtain ⟨otherSli, lock, otherSlot, otherRecord, otherSerial, _⟩ := designates
    rw [same, slot] at otherSlot
    cases otherSlot
    rw [sameLock, record] at otherRecord
    cases otherRecord
    exact apart (otherSerial.symm.trans serial)
  obtain ⟨before, behind, split, length, ⟨new, result, shrunk⟩ | ⟨atEnd, result, rest⟩⟩ :=
    unlock_cases slot record
  · rw [result] at unlocked
    cases unlocked
    subst split
    refine designates_replace designates fun here lock found _ live =>
      ⟨lock, shrunk.kept _ lock (elsewhere (here.trans length)) found live, rfl, live⟩
  · rw [result] at unlocked
    cases unlocked
    subst split atEnd
    obtain ⟨otherSli, lock, otherSlot, otherRecord, otherSerial, live⟩ := designates
    refine ⟨otherSli, lock, ?_, otherRecord, otherSerial, live⟩
    have inside : other.socket < before.length := by
      by_contra beyond
      have bound := (List.getElem?_eq_some_iff.mp otherSlot).1
      have last : other.socket = handle.socket := by
        simp only [List.length_append, List.length_singleton] at bound
        omega
      rw [last, slot] at otherSlot
      cases otherSlot
      rw [rest other.lock lock (elsewhere last) otherRecord] at live
      cases live
    rw [List.getElem?_append_left inside] at otherSlot
    apply getElem?_rdropWhile otherSlot
    rw [isNone_eq_false_iff, isSome_iff_ne_none]
    intro gone
    have member : otherSli ∈ before ++ [sli] :=
      List.mem_append_left _ (List.mem_of_getElem? otherSlot)
    rw [(valid.slot otherSli member).unused gone] at otherRecord
    simp at otherRecord

theorem designates_obtainWaiting
    {handle : OpLock} (valid : SlotsValid serverOf slots) (designates : Designates slots handle) :
    Designates (obtainWaiting slots socket) handle := by
  obtain ⟨unchanged, _⟩ | ⟨before, sli, after, split, _, result⟩ :=
    obtainWaiting_cases socket valid
  · rw [unchanged]
    exact designates
  · rw [result]
    subst split
    refine designates_replace designates fun _ lock record _ live => ?_
    refine ⟨obtainIfWaiting (before ++ after) lock, ?_, by simp, by simpa using live⟩
    rw [obtainLocks, List.getElem?_map, record]
    rfl

theorem serials_lock (slots : List SocketLockInfo) (socket : Nat) (server : CServer)
    (info : LockInfo) :
    (serials (lock slots socket server info).1).Perm (info.serial :: serials slots) := by
  obtain ⟨before, sli, after, made, _, origin⟩ := lock_cases slots socket server info
  have created : serials (before ++ sli :: after) = serials slots := by
    rcases origin with rfl | ⟨rfl, rfl, _, rfl⟩
    · rfl
    · simp [serials]
  rw [made, ← created, serials_split, serials_split]
  simp only [addLock, List.map_append, List.map_cons, List.map_nil]
  grind

theorem serials_unlock {after : List SocketLockInfo} {handle : OpLock} {info : LockInfo}
    (slot : slots[handle.socket]? = some sli) (record : sli.locks[handle.lock]? = some info)
    (unlocked : unlock slots handle = some (after, wasWaiting)) :
    (serials after).Sublist (serials slots) := by
  obtain ⟨before, behind, split, _, ⟨new, result, shrunk⟩ | ⟨atEnd, result, _⟩⟩ :=
    unlock_cases slot record
  · rw [result] at unlocked
    cases unlocked
    rw [split, serials_split, serials_split]
    exact (shrunk.serials.append_right _).append_left _
  · rw [result] at unlocked
    cases unlocked
    obtain ⟨dropped, whole⟩ :=
      List.rdropWhile_prefix (fun other : SocketLockInfo => other.controlSocket.isNone) before
    have parts : serials before =
        serials (before.rdropWhile fun other => other.controlSocket.isNone) ++
          serials dropped := by
      rw [serials, serials, serials, ← List.flatMap_append, whole]
    rw [split, serials_split, parts, List.append_assoc]
    exact List.sublist_append_left _ _

theorem serials_obtainWaiting (valid : SlotsValid serverOf slots) :
    serials (obtainWaiting slots socket) = serials slots := by
  obtain ⟨unchanged, _⟩ | ⟨before, sli, after, split, _, result⟩ :=
    obtainWaiting_cases socket valid
  · rw [unchanged]
  · have locks : (obtainLocks (before ++ after) sli).locks.map serial =
        sli.locks.map serial := by
      rw [obtainLocks, List.map_map]
      exact List.map_congr_left fun lock _ => obtainIfWaiting_serial _ lock
    rw [result, split, serials_split, serials_split, locks]

structure Valid (serverOf : Nat → CServer) (state : LockSystem) : Prop where
  slots : SlotsValid serverOf state.socketLocks
  designates : ∀ handle ∈ state.handles, Designates state.socketLocks handle
  records : (serials state.socketLocks).Nodup
  recordsMade : ∀ serial ∈ serials state.socketLocks, serial < state.created
  handles : (state.handles.map OpLock.serial).Nodup
  handlesMade : ∀ handle ∈ state.handles, handle.serial < state.created

theorem valid_initial : Valid serverOf {} where
  slots := ⟨fun sli member => absurd member List.not_mem_nil, List.Pairwise.nil⟩
  designates handle member := by cases member
  records := .nil
  recordsMade serial member := by cases member
  handles := .nil
  handlesMade handle member := by cases member

theorem valid_lock (valid : Valid serverOf state)
    (socket : Nat) (reason : LockingReason) (path : CServerPath) (inclusive : Bool)
    {next : LockSystem}
    (taken : lockStep serverOf state (.lock socket reason path inclusive) = some next) :
    Valid serverOf next := by
  simp only [lockStep, some.injEq] at taken
  subst taken
  let info : LockInfo := { path, reason, inclusive, serial := state.created }
  have fresh : state.created ∉ serials state.socketLocks :=
    fun member => Nat.lt_irrefl _ (valid.recordsMade _ member)
  have perm := serials_lock state.socketLocks socket (serverOf socket) info
  have serial : (lock state.socketLocks socket (serverOf socket) info).2.serial =
      state.created := by
    obtain ⟨before, sli, after, made, _⟩ :=
      lock_cases state.socketLocks socket (serverOf socket) info
    rw [made]
  obtain ⟨own, others⟩ := @designates_lock state.socketLocks socket (serverOf socket) info rfl
  refine ⟨valid.slots.lock, ?_, ?_, ?_, ?_, ?_⟩
  · intro handle member
    rcases List.mem_append.mp member with old | new
    · exact others handle (valid.designates handle old)
    · rw [List.mem_singleton.mp new]
      exact own
  · exact perm.nodup_iff.mpr (List.nodup_cons.mpr ⟨fresh, valid.records⟩)
  · intro other member
    rcases List.mem_cons.mp (perm.mem_iff.mp member) with rfl | old
    · exact Nat.lt_succ_self _
    · exact Nat.lt_succ_of_lt (valid.recordsMade other old)
  · rw [List.map_append, List.map_singleton, List.perm_append_comm.nodup_iff]
    refine List.nodup_cons.mpr ⟨fun member => ?_, valid.handles⟩
    obtain ⟨handle, handleMember, same⟩ := List.mem_map.mp member
    have bound := valid.handlesMade handle handleMember
    have number := same.trans serial
    omega
  · intro handle member
    rcases List.mem_append.mp member with old | new
    · exact Nat.lt_succ_of_lt (valid.handlesMade handle old)
    · rw [List.mem_singleton.mp new]
      exact Nat.lt_succ_of_le (Nat.le_of_eq serial)

theorem unlock_of_designates {handle : OpLock} (designates : Designates slots handle) :
    ∃ sli info after, slots[handle.socket]? = some sli ∧
      sli.locks[handle.lock]? = some info ∧ info.serial = handle.serial ∧
      unlock slots handle = some (after, info.waiting) := by
  obtain ⟨sli, info, slot, record, serial, _⟩ := designates
  obtain ⟨before, behind, _, _, ⟨new, result, _⟩ | ⟨_, result, _⟩⟩ := unlock_cases slot record
  · exact ⟨sli, info, _, slot, record, serial, result⟩
  · exact ⟨sli, info, _, slot, record, serial, result⟩

theorem valid_unlock (valid : Valid serverOf state) (handle : OpLock) {next : LockSystem}
    (taken : lockStep serverOf state (.unlock handle) = some next) :
    Valid serverOf next := by
  obtain ⟨live, taken⟩ := of_guard taken
  obtain ⟨sli, info, after, slot, record, serial, result⟩ :=
    unlock_of_designates (valid.designates handle live)
  rw [result] at taken
  simp only [map_some, some.injEq] at taken
  subst taken
  have fewer := serials_unlock slot record result
  have rest : (state.handles.erase handle).Sublist state.handles := List.erase_sublist
  refine ⟨valid.slots.unlock slot record result, ?_, valid.records.sublist fewer, ?_,
    valid.handles.sublist (rest.map _), ?_⟩
  · intro other member
    refine designates_unlock valid.slots slot record serial result ?_
      (valid.designates other (rest.subset member))
    intro same
    have distinct := List.inj_on_of_nodup_map valid.handles (rest.subset member) live same
    have once : state.handles.Nodup := .of_map _ valid.handles
    rw [distinct] at member
    exact once.not_mem_erase member
  · exact fun other member => valid.recordsMade other (fewer.subset member)
  · exact fun other member => valid.handlesMade other (rest.subset member)

theorem valid_obtainWaiting (valid : Valid serverOf state) (socket : Nat) (pending : List Nat) :
    Valid serverOf
      { state with socketLocks := obtainWaiting state.socketLocks socket, pending } where
  slots := valid.slots.obtainWaiting socket
  designates handle member :=
    designates_obtainWaiting socket valid.slots (valid.designates handle member)
  records := by
    rw [serials_obtainWaiting socket valid.slots]
    exact valid.records
  recordsMade serial member := by
    rw [serials_obtainWaiting socket valid.slots] at member
    exact valid.recordsMade serial member
  __ := valid

theorem valid_step {next : LockSystem} {event : LockEvent} (valid : Valid serverOf state)
    (taken : lockStep serverOf state event = some next) : Valid serverOf next := by
  cases event with
  | lock socket reason path inclusive =>
    exact valid_lock valid socket reason path inclusive taken
  | unlock handle => exact valid_unlock valid handle taken
  | obtainWaiting socket =>
    cases taken
    exact valid_obtainWaiting valid socket state.pending
  | deliver socket =>
    obtain ⟨-, rfl⟩ := some_of_guard taken
    exact valid_obtainWaiting valid socket _

theorem run_valid {trace : List (LockSystem × LockEvent)}
    (run : Run (lockStep serverOf) {} trace state) : Valid serverOf state :=
  run.invariant valid_initial fun _ _ _ valid taken => valid_step valid taken

end OpLocks

/-- Locks that different sockets on one server hold at a time do not conflict,
no two records carry one serial number, and a handle that was not released
designates the record made for it, which is not released either. -/
theorem locks_exclusive (serverOf : Nat → CServer)
    {trace : List (LockSystem × LockEvent)} {state : LockSystem}
    (run : Run (lockStep serverOf) {} trace state) :
    (∀ left ∈ state.socketLocks, ∀ right ∈ state.socketLocks, ∀ socket other,
      left.controlSocket = some socket → right.controlSocket = some other →
      socket ≠ other → (serverOf socket).equal (serverOf other) = true →
      ∀ held ∈ left.locks, ∀ second ∈ right.locks, held.waiting = false → held.released = false →
        second.waiting = false → second.released = false → held.reason = second.reason →
        held.path ≠ second.path ∧
        ¬ (held.inclusive = true ∧ held.path.isParentOf second.path = true) ∧
        ¬ (second.inclusive = true ∧ second.path.isParentOf held.path = true)) ∧
    (state.socketLocks.flatMap fun sli => sli.locks.map serial).Nodup ∧
    ∀ handle ∈ state.handles, ∃ sli record, state.socketLocks[handle.socket]? = some sli ∧
      sli.locks[handle.lock]? = some record ∧
      record.serial = handle.serial ∧ record.released = false := by
  have valid := OpLocks.run_valid run
  refine ⟨?_, valid.records, valid.designates⟩
  intro left leftMember right rightMember socket other isSocket isOther apart sameServer
    held heldMember second secondMember heldObtained heldLive secondObtained secondLive reason
  have compatible : OpLocks.Compatible left right := by
    obtain ⟨before, after, split⟩ := List.append_of_mem leftMember
    have slots := valid.slots
    rw [split] at rightMember slots
    obtain ⟨_, _, others⟩ := OpLocks.slotsValid_split.mp slots
    apply others right
    rcases List.mem_append.mp rightMember with inBefore | inRest
    · exact List.mem_append_left _ inBefore
    · rcases List.mem_cons.mp inRest with rfl | inAfter
      · rw [isSocket] at isOther
        exact absurd (some.inj isOther) apart
      · exact List.mem_append_right _ inAfter
  have servers : left.server.equal right.server = true := by
    rw [(valid.slots.slot left leftMember).server socket isSocket,
      (valid.slots.slot right rightMember).server other isOther]
    exact sameServer
  have free := compatible.exclusive servers held heldMember second secondMember
    (by simp [granted, heldObtained, heldLive])
    (by simp [granted, secondObtained, secondLive])
  simpa [clash, reason, not_or, and_assoc] using free

/-- Two sockets lock one directory and its parent on the same server; the second
one waits. -/
theorem locks_exclusive_two_sockets :
    ∃ state : LockSystem, (state.socketLocks.map fun sli =>
        sli.locks.map waiting) = [[false], [true]] ∧
      (state.socketLocks.flatMap fun sli => sli.locks.map serial).Nodup ∧
      ∀ handle ∈ state.handles, ∃ sli record, state.socketLocks[handle.socket]? = some sli ∧
        sli.locks[handle.lock]? = some record ∧
        record.serial = handle.serial ∧ record.released = false := by
  let directory (segments : List WString) : CServerPath :=
    { data := some { segments, pathPrefix := none }, type := .unix }
  obtain ⟨trace, state, run, checked⟩ :=
    @exists_run_of_execute _ _ (lockStep fun _ => CServer.ftp (wide "host") []) {}
      [.lock 1 .mkdir (directory [wide "a", wide "b"]) false,
        .lock 2 .mkdir (directory [wide "a"]) true]
      (fun _ state => decide ((state.socketLocks.map fun sli =>
        sli.locks.map waiting) = [[false], [true]]))
      (by decide +kernel)
  exact ⟨state, of_decide_eq_true checked, (locks_exclusive _ run).2⟩

end FileZilla
