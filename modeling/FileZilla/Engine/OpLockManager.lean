import Mathlib.Data.List.DropRight
import FileZilla.Runs
import FileZilla.Engine.ServerPath

namespace FileZilla

/-! Locks on the operations of control sockets. A handle keeps the position of
its record, and a record stays where it is until everything behind it is
released as well. -/

inductive LockingReason
  | unknown
  | list
  | mkdir
  | private1
  deriving DecidableEq

/-- A `lock_info`. The serial number is that of the `Lock` call that made the
record; the code does not have it, and nothing but the handles refers to it. -/
structure LockInfo where
  path : CServerPath
  reason : LockingReason
  inclusive : Bool
  waiting : Bool := false
  released : Bool := false
  serial : Nat

structure SocketLockInfo where
  server : CServer
  controlSocket : Option Nat
  locks : List LockInfo

structure OpLock where
  socket : Nat
  lock : Nat
  serial : Nat
  deriving DecidableEq

structure LockSystem where
  socketLocks : List SocketLockInfo := []
  handles : List OpLock := []
  pending : List Nat := []
  created : Nat := 0

namespace LockInfo

def granted (lock : LockInfo) : Bool :=
  !lock.waiting && !lock.released

def clash (lock other : LockInfo) : Bool :=
  lock.reason == other.reason && (lock.path.equal other.path ||
      (lock.inclusive && lock.path.isParentOf other.path) ||
      (other.inclusive && other.path.isParentOf lock.path))

/-- The test both `Lock` and `ObtainWaiting` make against a lock of another
socket. -/
def blocks (other lock : LockInfo) : Bool :=
  if lock.reason ≠ other.reason || other.waiting || other.released then false
  else if other.path.equal lock.path ||
      (other.inclusive && other.path.isParentOf lock.path) then true
  else lock.inclusive && lock.path.isParentOf other.path

theorem clash_comm (lock other : LockInfo) : clash lock other = clash other lock := by
  unfold clash
  rw [CServerPath.equal_comm lock.path, Bool.or_assoc, Bool.or_assoc,
    Bool.or_comm (lock.inclusive && _)]
  congr 1
  rw [Bool.eq_iff_iff, beq_iff_eq, beq_iff_eq]
  exact eq_comm

theorem blocks_eq (other lock : LockInfo) :
    blocks other lock = (granted other && clash other lock) := by
  unfold blocks granted clash
  by_cases reason : other.reason = lock.reason
  case neg => simp [reason, Ne.symm reason]
  case pos =>
    cases other.waiting <;> cases other.released <;>
      simp [reason, -CServerPath.equal_iff]

end LockInfo

variable (socketLocks : List SocketLockInfo)

def getOrCreate (socket : Nat) (server : CServer) :
    List SocketLockInfo × Nat :=
  match socketLocks.findIdx? (fun info => info.controlSocket == some socket) with
  | some index => (socketLocks, index)
  | none =>
    (socketLocks ++ [{ server, controlSocket := some socket, locks := [] }], socketLocks.length)

/-- Whether `Lock` makes the new lock wait: only sockets on the same server
count. -/
def mustWait (socket : Nat) (server : CServer)
    (info : LockInfo) : Bool :=
  socketLocks.any fun other =>
    !(other.controlSocket == some socket || !other.server.equal server) &&
      other.locks.any fun lock => lock.blocks info

def lock (socketLocks : List SocketLockInfo) (socket : Nat) (server : CServer)
    (info : LockInfo) : List SocketLockInfo × OpLock :=
  let (slots, index) := getOrCreate socketLocks socket server
  match slots[index]? with
  | none => (slots, { socket := index, lock := 0, serial := info.serial })
  | some sli =>
    let info := { info with waiting := mustWait slots socket sli.server info }
    (slots.set index { sli with locks := sli.locks ++ [info] },
      { socket := index, lock := sli.locks.length, serial := info.serial })

/-- `Unlock`, with whether the lock was waiting. Positions outside of the
vectors violate its assertions. -/
def unlock (handle : OpLock) :
    Option (List SocketLockInfo × Bool) := do
  let sli ← socketLocks[handle.socket]?
  let info ← sli.locks[handle.lock]?
  if handle.lock + 1 = sli.locks.length then
    let locks := sli.locks.dropLast.rdropWhile fun other => other.released
    if locks.isEmpty then
      if handle.socket + 1 = socketLocks.length then
        return (socketLocks.dropLast.rdropWhile fun other => other.controlSocket.isNone,
          info.waiting)
      else
        return (socketLocks.set handle.socket
          { sli with locks, controlSocket := none }, info.waiting)
    else
      return (socketLocks.set handle.socket { sli with locks }, info.waiting)
  else
    let released := { info with waiting := false, released := true }
    return (socketLocks.set handle.socket
      { sli with locks := sli.locks.set handle.lock released }, info.waiting)

/-- The sockets that `Wakeup` sends an event to. -/
def wakeup : List Nat :=
  socketLocks.filterMap fun sli =>
    if sli.locks.any LockInfo.waiting then sli.controlSocket else none

/-- The inner `ObtainWaiting`; it looks at all other sockets. -/
def obtain (others : List SocketLockInfo) (lock : LockInfo) : LockInfo :=
  if others.any fun other => other.locks.any fun held => held.blocks lock then lock
  else { lock with waiting := false }

/-- The loop of `ObtainWaiting` over the sockets. -/
def obtainLoop (socket : Nat) :
    List SocketLockInfo → List SocketLockInfo → List SocketLockInfo
  | before, [] => before
  | before, sli :: after =>
    if sli.controlSocket = some socket then
      let locks := sli.locks.map fun lock =>
        if lock.waiting then obtain (before ++ after) lock else lock
      obtainLoop socket (before ++ [{ sli with locks }]) after
    else
      obtainLoop socket (before ++ [sli]) after

def obtainWaiting (socket : Nat) :
    List SocketLockInfo :=
  obtainLoop socket [] socketLocks

inductive LockEvent
  | lock (socket : Nat) (reason : LockingReason) (path : CServerPath) (inclusive : Bool)
  | unlock (handle : OpLock)
  | obtainWaiting (socket : Nat)
  /-- An obtain-lock event arrives at its socket (`OnObtainLock`). -/
  | deliver (socket : Nat)

/-- The server of a control socket does not change. -/
def lockStep (serverOf : Nat → CServer) (state : LockSystem) :
    LockEvent → Option LockSystem
  | .lock socket reason path inclusive =>
    let info : LockInfo := { path, reason, inclusive, serial := state.created }
    let (socketLocks, handle) := lock state.socketLocks socket (serverOf socket) info
    some { state with
      socketLocks
      handles := state.handles ++ [handle]
      created := state.created + 1 }
  | .unlock handle =>
    if handle ∈ state.handles then
      (unlock state.socketLocks handle).map fun (socketLocks, wasWaiting) =>
        { state with
          socketLocks
          handles := state.handles.erase handle
          pending :=
            if wasWaiting then state.pending
            else state.pending ++ wakeup socketLocks }
    else
      none
  | .obtainWaiting socket =>
    some { state with socketLocks := obtainWaiting state.socketLocks socket }
  | .deliver socket =>
    if socket ∈ state.pending then
      some { state with
        socketLocks := obtainWaiting state.socketLocks socket
        pending := state.pending.erase socket }
    else
      none

end FileZilla
