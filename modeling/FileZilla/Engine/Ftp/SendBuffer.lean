import FileZilla.Engine.Aio
import FileZilla.Engine.EnginePrivate
import FileZilla.Engine.Ftp.Operations

namespace FileZilla

namespace FtpSend

open Ftp (FtpCommand)

/-! What `SendCommand` tells its caller when the socket takes only a part of a command, or
nothing of it. -/

/-- What `write` of the active layer gives -/
inductive Written
  | bytes (count : Nat)
  | again
  | failed

/-- The control socket, where `transmitted` is all that the active layer has taken. -/
structure ControlConnection where
  activeLayer : Bool := true
  sendBuffer : Bytes := []
  transmitted : Bytes := []
  pendingReplies : Nat := 0
  repliesToSkip : Nat := 0

namespace ControlConnection

def send (buffer : Bytes) (written : Written) (self : ControlConnection) :
    Reply × ControlConnection :=
  if !self.activeLayer then (.internalError, self)
  else if self.sendBuffer ≠ [] then
    (.wouldBlock, { self with sendBuffer := self.sendBuffer ++ buffer })
  else
    match written with
    | .failed => (.error ||| .disconnected, self)
    | .again => (.wouldBlock, { self with sendBuffer := buffer })
    | .bytes count =>
      (.wouldBlock,
        { self with
          transmitted := self.transmitted ++ buffer.take count
          sendBuffer := buffer.drop count })

variable (self : ControlConnection)

def expectReply : ControlConnection :=
  { self with pendingReplies := self.pendingReplies + 1 }

/-- One more reply that goes to no operation -/
def skipReply : ControlConnection :=
  { self with repliesToSkip := self.repliesToSkip + 1 }

/-- `CFtpControlSocket::SendCommand`, in which the result of `Send` is turned into a `bool` -/
def sendCommand (convToServer : WString → Bytes) (command : WString) (written : Written)
    (self : ControlConnection) : Reply × ControlConnection :=
  let buffer := convToServer command
  if buffer = [] then (.error, self)
  else
    let (result, sent) := self.send (buffer ++ [13, 10]) written
    if result ≠ 0 then (.wouldBlock, sent.expectReply) else (.error, sent)

def doClose : ControlConnection :=
  { self with activeLayer := false, sendBuffer := [] }

/-- Nothing is going on, so that the keep-alive timer sends its command. -/
def Idle (operations : Nat) : Prop :=
  operations = 0 ∧ self.pendingReplies = 0 ∧ self.repliesToSkip = 0

instance (self : ControlConnection) (operations : Nat) : Decidable (self.Idle operations) :=
  inferInstanceAs (Decidable (_ ∧ _ ∧ _))

/-- `CFtpControlSocket::OnTimer` for the idle timer -/
def onTimer (convToServer : WString → Bytes) (operations : Nat) (command : FtpCommand)
    (written : Written) (self : ControlConnection) : ControlConnection :=
  if self.Idle operations then
    let (result, sent) := self.sendCommand convToServer command.text written
    if result = .wouldBlock then sent.skipReply else sent.doClose
  else self

def stream : Bytes :=
  self.transmitted ++ self.sendBuffer

def Queued (before after : ControlConnection) (line : Bytes) : Prop :=
  after.stream = before.stream ++ line

instance (before after : ControlConnection) (line : Bytes) :
    Decidable (Queued before after line) :=
  inferInstanceAs (Decidable (_ = _))

/-- A command is accepted and counted, or there is an error and no reply to wait for. -/
def SendSurfaces (before : ControlConnection) (result : Reply × ControlConnection)
    (line : Bytes) : Prop :=
  (Queued before result.2 line ∧ result.1 = .wouldBlock ∧
    result.2.pendingReplies = before.pendingReplies + 1 ∧
    result.2.repliesToSkip = before.repliesToSkip) ∨
  (¬ Queued before result.2 line ∧ result.1 &&& .error ≠ 0 ∧
    result.2.pendingReplies = before.pendingReplies ∧
    result.2.repliesToSkip = before.repliesToSkip)

def TimerSurfaces (before after : ControlConnection) (operations : Nat) (line : Bytes) : Prop :=
  if before.Idle operations then
    (Queued before after line ∧ after.activeLayer = true ∧ after.pendingReplies = 1 ∧
      after.repliesToSkip = 1) ∨
    (¬ Queued before after line ∧ after.activeLayer = false ∧ after.repliesToSkip = 0)
  else after = before

def Fails (written : Written) : Prop :=
  self.activeLayer = false ∨ (self.sendBuffer = [] ∧ written = .failed)

variable {convToServer : WString → Bytes} {self : ControlConnection} {written : Written}

variable (buffer : Bytes)

open Reply

theorem send_fails (fails : self.Fails written) :
    (self.send buffer written).1 ≠ 0 ∧ (self.send buffer written).2 = self := by
  unfold send
  rcases fails with closed | ⟨empty, rfl⟩
  · simp [closed, internalError, error]
  · split
    · simp [internalError, error]
    · simp [empty, error, disconnected]

theorem send_queued (sends : ¬ self.Fails written) :
    (self.send buffer written).1 = .wouldBlock ∧
      (self.send buffer written).2.stream = self.stream ++ buffer ∧
      (self.send buffer written).2.pendingReplies = self.pendingReplies ∧
      (self.send buffer written).2.repliesToSkip = self.repliesToSkip ∧
      (self.send buffer written).2.activeLayer = true := by
  rw [Fails, not_or, not_and] at sends
  obtain ⟨opened, works⟩ := sends
  have layer : self.activeLayer = true := by simpa using opened
  simp only [send, layer, Bool.not_true, Bool.false_eq_true, if_false]
  split
  case isTrue waiting => exact ⟨rfl, by simp [stream], rfl, rfl, rfl⟩
  case isFalse idle =>
    have empty : self.sendBuffer = [] := not_not.mp idle
    cases written with
    | failed => exact absurd rfl (works empty)
    | again => exact ⟨rfl, by simp [stream, empty], rfl, rfl, rfl⟩
    | bytes count => exact ⟨rfl, by simp [stream, empty], rfl, rfl, rfl⟩

theorem send_nonzero : (self.send buffer written).1 ≠ 0 := by
  by_cases fails : self.Fails written
  · exact (send_fails buffer fails).1
  · rw [(send_queued buffer fails).1]
    simp [wouldBlock]

theorem sendCommand_unconverted {command : WString} (unconverted : convToServer command = []) :
    self.sendCommand convToServer command written = (.error, self) := by
  simp [sendCommand, unconverted]

/-- Whatever `Send` returns, it counts as sent. -/
theorem sendCommand_converted {command : WString} (converted : convToServer command ≠ []) :
    self.sendCommand convToServer command written =
      (.wouldBlock, (self.send (convToServer command ++ [13, 10]) written).2.expectReply) := by
  simp only [sendCommand, if_neg converted]
  rw [if_pos (send_nonzero _)]

theorem onTimer_idle {operations : Nat} {command : FtpCommand} (idle : self.Idle operations)
    {result : Reply} {sent : ControlConnection}
    (sends : self.sendCommand convToServer command.text written = (result, sent)) :
    self.onTimer convToServer operations command written =
      if result = .wouldBlock then sent.skipReply else sent.doClose := by
  simp only [onTimer, if_pos idle, sends]

theorem unqueued_of_same {after : ControlConnection} {line : Bytes} (some : line ≠ [])
    (same : after.stream = self.stream) : ¬ Queued self after line := by
  intro queued
  rw [Queued, same] at queued
  exact some (List.self_eq_append_right.mp queued)

theorem line_nonempty (text : Bytes) : text ++ [13, 10] ≠ ([] : Bytes) := by
  simp

/-- `SendCommand` surfaces a failure only where the command cannot be converted. -/
theorem sendCommand_surfaces (command : WString) :
    SendSurfaces self (self.sendCommand convToServer command written)
        (convToServer command ++ [13, 10]) ↔
      convToServer command = [] ∨ ¬ self.Fails written := by
  by_cases converted : convToServer command = []
  · simp only [converted, true_or, iff_true]
    rw [sendCommand_unconverted converted]
    exact .inr ⟨unqueued_of_same (line_nonempty _) rfl, by simp [error], rfl, rfl⟩
  · rw [or_iff_right converted, sendCommand_converted converted]
    have line := line_nonempty (convToServer command)
    generalize convToServer command ++ [13, 10] = bytes at *
    by_cases fails : self.Fails written
    · have same := (send_fails bytes fails).2
      refine ⟨fun surfaces => ?_, fun sends => absurd fails sends⟩
      rw [same] at surfaces
      rcases surfaces with ⟨queued, -⟩ | ⟨-, -, counted, -⟩
      · exact absurd queued (unqueued_of_same line rfl)
      · exact absurd counted (Nat.succ_ne_self _)
    · obtain ⟨-, queued, pending, skip, -⟩ := send_queued bytes fails
      exact ⟨fun _ => fails, fun _ => .inl ⟨queued, rfl, congrArg (· + 1) pending, skip⟩⟩

theorem onTimer_surfaces (operations : Nat) (command : FtpCommand) :
    TimerSurfaces self (self.onTimer convToServer operations command written) operations
        (convToServer command.text ++ [13, 10]) ↔
      convToServer command.text = [] ∨ ¬ self.Fails written ∨ ¬ self.Idle operations := by
  by_cases idle : self.Idle operations
  · rw [or_iff_left (not_not.mpr idle), TimerSurfaces, if_pos idle]
    by_cases converted : convToServer command.text = []
    · simp only [converted, true_or, iff_true]
      rw [onTimer_idle idle (sendCommand_unconverted converted), if_neg (by simp [error,
        wouldBlock])]
      refine .inr ⟨fun queued => ?_, rfl, idle.2.2⟩
      have length := congrArg List.length queued
      simp [stream, doClose] at length
    · rw [or_iff_right converted, onTimer_idle idle (sendCommand_converted converted), if_pos rfl]
      have line := line_nonempty (convToServer command.text)
      generalize convToServer command.text ++ [13, 10] = bytes at *
      by_cases fails : self.Fails written
      · have same := (send_fails bytes fails).2
        refine ⟨fun surfaces => ?_, fun sends => absurd fails sends⟩
        rw [same] at surfaces
        rcases surfaces with ⟨queued, -⟩ | ⟨-, -, counted⟩
        · exact absurd queued (unqueued_of_same line rfl)
        · exact absurd counted (Nat.succ_ne_zero _)
      · obtain ⟨-, queued, replies, skipped, layer⟩ := send_queued bytes fails
        refine ⟨fun _ => fails, fun _ => .inl ⟨queued, layer, ?_, ?_⟩⟩
        · exact congrArg (· + 1) (replies.trans idle.2.1)
        · exact congrArg (· + 1) (skipped.trans idle.2.2)
  · simp [TimerSurfaces, onTimer, idle]

/-- A command that is lost surfaces exactly where it does not get as far as the write: the
result of the write is never looked at. -/
theorem failedSends_surface_iff (convToServer : WString → Bytes) (self : ControlConnection)
    (written : Written) (command : WString) (operations : Nat) (keepAlive : FtpCommand) :
    (SendSurfaces self (self.sendCommand convToServer command written)
        (convToServer command ++ [13, 10]) ↔
      convToServer command = [] ∨ ¬ self.Fails written) ∧
    (TimerSurfaces self (self.onTimer convToServer operations keepAlive written) operations
        (convToServer keepAlive.text ++ [13, 10]) ↔
      convToServer keepAlive.text = [] ∨ ¬ self.Fails written ∨ ¬ self.Idle operations) :=
  ⟨sendCommand_surfaces command, onTimer_surfaces operations keepAlive⟩

/-- The write fails at once, and the client waits for a reply. -/
theorem noop_lost :
    ¬ ∀ (self : ControlConnection) (written : Written) (command : WString),
      SendSurfaces self (self.sendCommand Ftp.toAscii command written)
        (Ftp.toAscii command ++ [13, 10]) := by
  intro surfaces
  rcases surfaces {} .failed (wide "NOOP") with ⟨queued, -⟩ | ⟨-, failed, -⟩
  · cases queued
  · exact absurd failed (by decide)

end ControlConnection

end FtpSend

end FileZilla
