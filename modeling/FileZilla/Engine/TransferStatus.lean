import FileZilla.Runs
import Mathlib.Algebra.Order.Ring.Int

namespace FileZilla

variable {Time : Type}

structure CTransferStatus (Time : Type) where
  started : Option Time := none
  totalSize : Int := -1
  startOffset : Int := -1
  currentOffset : Int := -1
  madeProgress : Bool := false
  list : Bool := false
  deriving DecidableEq

namespace CTransferStatus

def empty (self : CTransferStatus Time) : Bool :=
  self.startOffset < 0

def clear (self : CTransferStatus Time) : CTransferStatus Time :=
  { self with startOffset := -1 }

end CTransferStatus

/-- The fields of the manager, the calls of `Update` that have added their bytes and are to enter
their locked section, and the notifications that have been queued. -/
structure CTransferStatusManager (Time : Type) where
  status : CTransferStatus Time := {}
  currentOffset : Int := 0
  sendState : Nat := 0
  madeProgress : Bool := false
  updating : Nat := 0
  notifications : List (CTransferStatus Time) := []

/-- The calls, where `Update` takes two steps: `add`, and `enter` if nothing was pending. -/
inductive TransferStatusCall (Time : Type)
  | init (totalSize startOffset : Int) (list : Bool)
  | setStartTime (now : Time)
  | setMadeProgress
  | add (transferredBytes : Int)
  | enter
  | get
  | reset

namespace CTransferStatusManager

variable (self : CTransferStatusManager Time)

def take : CTransferStatusManager Time :=
  { self with
    status := { self.status with
      currentOffset := self.status.currentOffset + self.currentOffset
      madeProgress := self.madeProgress }
    currentOffset := 0 }

def init (totalSize startOffset : Int) (list : Bool) (self : CTransferStatusManager Time) :
    CTransferStatusManager Time :=
  let startOffset := if startOffset < 0 then 0 else startOffset
  { self with
    status := { totalSize, startOffset, currentOffset := startOffset, list }
    currentOffset := 0
    madeProgress := false }

def setStartTime (now : Time) (self : CTransferStatusManager Time) :
    CTransferStatusManager Time :=
  if self.status.empty then self
  else { self with status := { self.status with started := some now } }

def add (transferredBytes : Int) (self : CTransferStatusManager Time) :
    CTransferStatusManager Time :=
  { self with
    currentOffset := self.currentOffset + transferredBytes
    updating := if self.currentOffset = 0 then self.updating + 1 else self.updating }

/-- The locked section of `Update`, and the notification after it -/
def enter : CTransferStatusManager Time :=
  let self := { self with updating := self.updating - 1 }
  if self.status.empty then self
  else if self.sendState = 0 then
    { self.take with
      sendState := 2, notifications := self.notifications ++ [self.take.status] }
  else { self with sendState := 2 }

/-- The status, and whether it is said to have changed -/
def get :
    (CTransferStatus Time × Bool) × CTransferStatusManager Time :=
  if self.status.empty then ((self.status, false), { self with sendState := 0 })
  else if self.sendState = 2 then ((self.take.status, true), { self.take with sendState := 1 })
  else ((self.take.status, false), { self.take with sendState := 0 })

def reset : CTransferStatusManager Time :=
  { self with
    status := self.status.clear, sendState := 0, notifications := self.notifications ++ [{}] }

def step :
    TransferStatusCall Time → Option (CTransferStatusManager Time)
  | .init totalSize startOffset list => some (self.init totalSize startOffset list)
  | .setStartTime now => some (self.setStartTime now)
  | .setMadeProgress => some { self with madeProgress := true }
  | .add transferredBytes => some (self.add transferredBytes)
  | .enter => if self.updating = 0 then none else some self.enter
  | .get => some self.get.2
  | .reset => some self.reset

/-- The start offset of the last `Init`, with what has been added since then -/
def progress (calls : List (TransferStatusCall Time)) : Int :=
  calls.foldl (fun offset call => match call with
      | .init _ startOffset _ => if startOffset < 0 then 0 else startOffset
      | .add transferredBytes => offset + transferredBytes
      | _ => offset) (-1)

variable {trace : List (CTransferStatusManager Time × TransferStatusCall Time)}
  {manager next : CTransferStatusManager Time}

/-- While there is a status, it and the pending bytes make up the progress. Bytes are only pending
if it is known that something has changed, or if an `Update` is about to say so. -/
structure Counts (calls : List (TransferStatusCall Time)) (manager : CTransferStatusManager Time) :
    Prop where
  total : manager.status.empty = false →
    manager.status.currentOffset + manager.currentOffset = progress calls
  announced : manager.status.empty = false → manager.currentOffset ≠ 0 →
    manager.sendState = 2 ∨ 0 < manager.updating

theorem progress_append (calls : List (TransferStatusCall Time)) (call : TransferStatusCall Time) :
    progress (calls ++ [call]) =
      match call with
      | .init _ startOffset _ => if startOffset < 0 then 0 else startOffset
      | .add transferredBytes => progress calls + transferredBytes
      | _ => progress calls := by
  unfold progress
  rw [List.foldl_append]
  cases call <;> rfl

theorem Counts.take {calls : List (TransferStatusCall Time)} (counts : Counts calls manager)
    {call : TransferStatusCall Time} (same : progress (calls ++ [call]) = progress calls)
    {sendState updating : Nat} {notifications : List (CTransferStatus Time)} :
    Counts (calls ++ [call]) { manager.take with sendState, updating, notifications } := by
  constructor
  · intro active
    rw [same, ← counts.total active]
    exact Int.add_zero _
  · intro _ pending
    exact absurd rfl pending

theorem Counts.step {calls : List (TransferStatusCall Time)} {call : TransferStatusCall Time}
    (counts : Counts calls manager) (taken : manager.step call = some next) :
    Counts (calls ++ [call]) next := by
  have said := progress_append calls call
  cases call with
  | init totalSize startOffset list =>
    cases taken
    exact ⟨fun _ => (Int.add_zero _).trans said.symm, fun _ pending => absurd rfl pending⟩
  | setStartTime now =>
    cases taken
    unfold setStartTime
    split
    · exact ⟨fun active => (counts.total active).trans said.symm, counts.announced⟩
    · exact ⟨fun active => (counts.total active).trans said.symm, counts.announced⟩
  | setMadeProgress =>
    cases taken
    exact ⟨fun active => (counts.total active).trans said.symm, counts.announced⟩
  | add transferredBytes =>
    cases taken
    constructor
    · intro active
      dsimp only at said
      rw [said, ← counts.total active]
      exact (Int.add_assoc _ _ _).symm
    · intro active _
      unfold CTransferStatusManager.add
      dsimp only
      split
      case isTrue => exact .inr (Nat.succ_pos _)
      case isFalse pending => exact counts.announced active pending
  | enter =>
    unfold CTransferStatusManager.step at taken
    dsimp only at taken
    obtain ⟨-, rfl⟩ := some_of_refusal taken
    unfold enter
    dsimp only
    split
    case isTrue none =>
      exact ⟨fun active => absurd (none.symm.trans active) (by decide),
        fun active => absurd (none.symm.trans active) (by decide)⟩
    case isFalse =>
      split
      · exact counts.take said
      · exact ⟨fun active => (counts.total active).trans said.symm, fun _ _ => .inl rfl⟩
  | get =>
    cases taken
    unfold get
    split
    case isTrue none =>
      exact ⟨fun active => absurd (none.symm.trans active) (by decide),
        fun active => absurd (none.symm.trans active) (by decide)⟩
    case isFalse =>
      split
      · exact counts.take said
      · exact counts.take said
  | reset =>
    cases taken
    exact ⟨fun active => (by cases active), fun active => by cases active⟩

theorem run_counts (run : Run step ({} : CTransferStatusManager Time) trace manager) :
    Counts (trace.map Prod.snd) manager := by
  induction run with
  | refl => exact ⟨fun active => (by cases active), fun active => by cases active⟩
  | step _ taken induction =>
    rw [List.map_append]
    exact induction.step taken

/-- While there is a status, `Get` tells its whole progress; and when bytes are pending and no
`Update` is under way, it tells that something has changed. -/
theorem progress_counted (run : Run step ({} : CTransferStatusManager Time) trace manager)
    (active : manager.status.empty = false) :
    manager.get.1.1.currentOffset = progress (trace.map Prod.snd) ∧
      (manager.currentOffset ≠ 0 → manager.updating = 0 →
        manager.sendState = 2 ∧ manager.get.1.2 = true) := by
  have counts := run_counts run
  have running : ¬ manager.status.empty = true := by
    rw [active]
    decide
  constructor
  · rw [← counts.total active]
    unfold get
    rw [if_neg running]
    split <;> rfl
  · intro pending quiet
    have changed := (counts.announced active pending).resolve_right (by omega)
    refine ⟨changed, ?_⟩
    unfold get
    rw [if_neg running, if_pos changed]

/-- Bytes come while those before them have not been taken. -/
theorem progress_counted_twice :
    ∃ trace manager, Run step ({} : CTransferStatusManager Unit) trace manager ∧
      manager.get.1 = ({ totalSize := 10, startOffset := 2, currentOffset := 10 }, true) ∧
      progress (trace.map Prod.snd) = 10 := by
  obtain ⟨trace, manager, run, checked⟩ :=
    @exists_run_of_execute _ _ step ({} : CTransferStatusManager Unit)
      [.init 10 2 false, .add 5, .enter, .add 2, .add 1, .enter]
      (fun trace manager => decide (manager.status.empty = false) &&
        decide (manager.get.1 = ({ totalSize := 10, startOffset := 2, currentOffset := 10 }, true)))
      (by decide)
  simp only [Bool.and_eq_true, decide_eq_true_eq] at checked
  refine ⟨trace, manager, run, checked.2, ?_⟩
  rw [← (progress_counted run checked.1).1, checked.2]

/-- After `Reset` the bytes that were pending are missing. -/
theorem progress_lost :
    ¬ ∀ (trace : List (CTransferStatusManager Unit × TransferStatusCall Unit))
      (manager : CTransferStatusManager Unit), Run step {} trace manager →
      manager.get.1.1.currentOffset = progress (trace.map Prod.snd) := by
  intro counted
  obtain ⟨trace, manager, run, checked⟩ :=
    @exists_run_of_execute _ _ step ({} : CTransferStatusManager Unit)
      [.init 10 0 false, .add 5, .enter, .add 3, .enter, .reset] (fun trace manager =>
        decide (manager.get.1.1.currentOffset = 5 ∧ progress (trace.map Prod.snd) = 8))
      (by decide)
  have same := counted trace manager run
  rw [(of_decide_eq_true checked).1, (of_decide_eq_true checked).2] at same
  cases same

end CTransferStatusManager

end FileZilla
