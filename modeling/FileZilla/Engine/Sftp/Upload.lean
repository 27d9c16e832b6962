import FileZilla.Engine.Sftp.FileTransferCases
import FileZilla.Runs

namespace FileZilla.Sftp

open List Option

def writeAt (content : Bytes) (offset : Nat) (data : Bytes) : Bytes :=
  content.take offset ++ List.replicate (offset - content.length) 0 ++ data ++
    content.drop (offset + data.length)

theorem writeAt_length (content data : Bytes) :
    writeAt content content.length data = content ++ data := by
  simp [writeAt]

/-- The server applies a request it answers with success. The file is opened
with `SSH_FXF_TRUNC` unless the upload resumes. -/
def serve (resume : Bool) (content : Bytes) : RequestKind → Reply → Bytes
  | .open, .handle _ => if resume then content else []
  | .write offset data, .status .ok => writeAt content offset data
  | _, _ => content

structure Upload where
  op : FileTransfer
  remote : Bytes

namespace Upload

variable (upload : Upload)

def serveReply (reply : Reply) : Bytes :=
  match upload.op.sftp.answer with
  | none => upload.remote
  | some (request, _) =>
    serve upload.op.resume upload.remote request.kind reply

open FileTransfer

def step (event : Event) : Option Upload :=
  (upload.op.step event).map fun op =>
    match event with
    | .reply reply _ => { op := op, remote := upload.serveReply reply }
    | _ => { op := op, remote := upload.remote }

/-- The upload from `Send` on, of the local file `content` over a remote file
that has the content `old`. -/
def start (resume preserveTimestamps : Bool) (remoteFileSize : Nat)
    (sftp : Client Unit) (content old : Bytes) : Upload where
  op := send
    { download := false
      resume := resume
      preserveTimestamps := preserveTimestamps
      remoteFileSize := remoteFileSize
      sftp := sftp } content
  remote := old

def answered : Event → Option (RequestKind × Reply)
  | .reply reply _ =>
    match upload.op.sftp.answer with
    | some (⟨some _, kind⟩, _) => some (kind, reply)
    | _ => none
  | _ => none

def acknowledges : RequestKind → Reply → Bool
  | .open, .handle handle => handle ≠ ""
  | .write _ _, .status .ok => true
  | .fsetstat, .status .ok => true
  | .close, .status .ok => true
  | _, _ => false

def Tolerated (kind : RequestKind) (reply : Reply) : Prop :=
  acknowledges kind reply = true ∨
    kind = .fsetstat ∧ ∃ code, reply = .status code

variable {kind : RequestKind}

theorem Tolerated.status_ok {reply : Reply} (tolerated : Tolerated kind reply)
    (important : (∃ start data, kind = .write start data) ∨ kind = .close) :
    reply = .status .ok := by
  have acknowledged : acknowledges kind reply = true := by
    rcases tolerated with acknowledged | ⟨rfl, -⟩
    · exact acknowledged
    · simp at important
  rcases important with ⟨start, data, rfl⟩ | rfl
  all_goals
    cases reply with
    | status code => cases code <;> first | rfl | cases acknowledged
    | handle handle => cases acknowledged
    | data data => cases acknowledged
    | failure => cases acknowledged

/-- Every answer is a success, but for the status of `fsetstat`. -/
def OnlyFsetstatFails (event : Event) : Prop :=
  (∀ kind reply, upload.answered event = some (kind, reply) → Tolerated kind reply) ∧
  match event with
  | .readerAvailability env | .outbufEmpty env => env.getBuffer ≠ .error
  | .channelDone => False
  | _ => True

/-- Requests of earlier operations have no handler and do not touch a file. -/
def Leftover (request : Request Unit) : Prop :=
  request.handler = none ∧
    ∀ resume content reply, serve resume content request.kind reply = content

/-- The unanswered requests: those of earlier operations, then `kinds`. -/
def Queued (sftp : Client Unit) (kinds : List RequestKind) : Prop :=
  ∃ leftover : List (Request Unit),
    sftp.pending = leftover ++ kinds.map (fun kind => ⟨some (), kind⟩) ∧
      ∀ request ∈ leftover, Leftover request

variable {sftp : Client Unit} {kinds : List RequestKind}

theorem Queued.request (queued : Queued sftp kinds) (connected : sftp.disconnecting = false)
    (kind : RequestKind) :
    Queued (sftp.request (some ()) kind) (kinds ++ [kind]) := by
  obtain ⟨leftover, pending, idle⟩ := queued
  refine ⟨leftover, ?_, idle⟩
  simp [Client.request, connected, pending]

theorem Queued.answer_none {rest : Client Unit} (queued : Queued sftp kinds)
    (answered : sftp.answer = some (⟨none, kind⟩, rest)) :
    Queued rest kinds ∧
      ∀ resume content reply, serve resume content kind reply = content := by
  obtain ⟨leftover, pending, idle⟩ := queued
  obtain ⟨-, -, listed, -⟩ := Client.answer_eq_some answered
  rw [pending] at listed
  cases leftover with
  | nil => cases kinds <;> simp at listed
  | cons head tail =>
    rw [cons_append, cons.injEq] at listed
    obtain ⟨rfl, listed⟩ := listed
    refine ⟨⟨tail, listed.symm, ?_⟩, ?_⟩
    · intro request member
      exact idle request (by simp [member])
    · exact (idle ⟨none, kind⟩ (by simp)).2

theorem Queued.answer_some {rest : Client Unit} (queued : Queued sftp kinds)
    (answered : sftp.answer = some (⟨some (), kind⟩, rest)) :
    ∃ others, kinds = kind :: others ∧ Queued rest others ∧
      rest.pendingRequests = others.length := by
  obtain ⟨leftover, pending, idle⟩ := queued
  obtain ⟨-, -, listed, -⟩ := Client.answer_eq_some answered
  rw [pending] at listed
  cases leftover with
  | nil =>
    cases kinds with
    | nil => simp at listed
    | cons head others =>
      simp only [nil_append, map_cons, cons.injEq,
        Request.mk.injEq, true_and] at listed
      obtain ⟨rfl, listed⟩ := listed
      refine ⟨others, rfl, ⟨[], by simp [listed], by simp⟩, ?_⟩
      simp [Client.pendingRequests, ← listed]
  | cons head tail =>
    rw [cons_append, cons.injEq] at listed
    have cancelled := (idle head (by simp)).1
    simp [listed.1] at cancelled

/-! The phases of an upload that has not failed. `target` is what the remote
file has to become. -/

def resumeOffset (resume : Bool) (remoteFileSize : Nat) : Nat :=
  if resume then remoteFileSize else 0

def target (offset : Nat) (content old : Bytes) : Bytes :=
  old.take offset ++ content.drop offset

abbrev Trace := List (Upload × Event)

def Uploads (op : FileTransfer) : Prop :=
  op.download = false ∧ op.writerEvent = false

def Consecutive (writes : List (Nat × Bytes)) : Prop :=
  Tiles upload.remote.length
    (writes.map fun write => (write.1, write.2.length)) upload.op.requestOffset

def writeKinds (writes : List (Nat × Bytes)) : List RequestKind :=
  writes.map fun write => .write write.1 write.2

section Phases

variable (offset : Nat) (content old : Bytes) (upload : Upload)

structure Opening : Prop where
  side : Uploads upload.op
  handle : upload.op.handle = ""
  running : upload.op.finalizing = false
  result : upload.op.result = none
  untouched : upload.op.calledFsetstat = false
  sendEvent : upload.op.sendEvent = false
  readerEvent : upload.op.readerEvent = false
  buffer : upload.op.buffer = none
  reader : upload.op.reader = some { remaining := content.drop offset }
  requestOffset : upload.op.requestOffset = offset
  truncated : (if upload.op.resume then old else []) = old.take offset
  within : offset ≤ old.length
  queued : Queued upload.op.sftp [.open] ∨ Queued upload.op.sftp []
  remote : upload.remote = old

structure Writing (writes : List (Nat × Bytes)) : Prop where
  side : Uploads upload.op
  handle : upload.op.handle ≠ ""
  running : upload.op.finalizing = false
  result : upload.op.result = none
  untouched : upload.op.calledFsetstat = false
  single : upload.op.sendEvent = false ∨ upload.op.readerEvent = false
  connected : upload.op.sftp.disconnecting = false
  queued : Queued upload.op.sftp (writeKinds writes)
  consecutive : Consecutive upload writes
  total : ∃ reader, upload.op.reader = some reader ∧
    upload.remote ++ writes.flatMap Prod.snd ++ leaseBytes upload.op.buffer ++
      reader.remaining = target offset content old

/-- `times` is the unanswered `fsetstat`, if there is one. -/
structure Finishing (writes : List (Nat × Bytes)) (times : List RequestKind) :
    Prop where
  side : Uploads upload.op
  finalizing : upload.op.finalizing = true
  result : upload.op.result = none
  sendEvent : upload.op.sendEvent = false
  readerEvent : upload.op.readerEvent = false
  timed : times = [.fsetstat] ∧ upload.op.calledFsetstat = true ∨
    times = [] ∧ (upload.op.calledFsetstat = true → writes = [])
  queued : Queued upload.op.sftp (writeKinds writes ++ (times ++ [.close]))
  consecutive : Consecutive upload writes
  total : upload.remote ++ writes.flatMap Prod.snd = target offset content old

structure Done : Prop where
  side : Uploads upload.op
  result : upload.op.result = some .ok
  sendEvent : upload.op.sendEvent = false
  readerEvent : upload.op.readerEvent = false
  pending : upload.op.sftp.pending = []
  total : upload.remote = target offset content old

inductive Running : Prop
  | opening (phase : Opening offset content old upload)
  | writing (writes : List (Nat × Bytes)) (phase : Writing offset content old upload writes)
  | finishing (writes : List (Nat × Bytes)) (times : List RequestKind)
      (phase : Finishing offset content old upload writes times)

end Phases

def Failed (op : FileTransfer) : Prop :=
  ∃ code, code ≠ .ok ∧ op.result = some code

open Upload

section Steps

variable {offset : Nat} {content old : Bytes} {upload : Upload}
  {op : FileTransfer} {remote : Bytes} {env : Env} {writes : List (Nat × Bytes)}

variable {start : Nat} {data : Bytes}

theorem Consecutive.write {op' : FileTransfer}
    (consecutive : Consecutive upload ((start, data) :: writes))
    (requestOffset : op'.requestOffset = upload.op.requestOffset) :
    writeAt upload.remote start data = upload.remote ++ data ∧
      Consecutive { op := op', remote := upload.remote ++ data } writes := by
  obtain ⟨startEq, rest⟩ := consecutive
  simp only at startEq rest
  rw [startEq]
  refine ⟨writeAt_length _ _, ?_⟩
  unfold Consecutive
  rw [requestOffset]
  simpa using rest

variable {sftp : Client Unit}

theorem Writing.acknowledged (phase : Writing offset content old upload ((start, data) :: writes))
    (queued : Queued sftp (writeKinds writes)) (connected : sftp.disconnecting = false) :
    Writing offset content old
      { op := { upload.op with sftp := sftp }
        remote := writeAt upload.remote start data } writes := by
  obtain ⟨written, consecutive⟩ := phase.consecutive.write
    (show ({ upload.op with sftp := sftp } : FileTransfer).requestOffset =
      upload.op.requestOffset from rfl)
  obtain ⟨reader, opened, total⟩ := phase.total
  rw [written]
  exact { phase with
    connected := connected
    queued := queued
    consecutive := consecutive
    total := ⟨reader, opened, by simpa using total⟩ }

theorem Finishing.acknowledged {times : List RequestKind}
    (phase : Finishing offset content old upload ((start, data) :: writes) times)
    (queued : Queued sftp (writeKinds writes ++ (times ++ [.close]))) :
    Finishing offset content old
      { op := { upload.op with sftp := sftp }
        remote := writeAt upload.remote start data } writes times := by
  obtain ⟨written, consecutive⟩ := phase.consecutive.write
    (show ({ upload.op with sftp := sftp } : FileTransfer).requestOffset =
      upload.op.requestOffset from rfl)
  rw [written]
  refine { phase with
    timed := ?_
    queued := queued
    consecutive := consecutive
    total := by simpa using phase.total }
  rcases phase.timed with pending | ⟨none, answered⟩
  · exact .inl pending
  · exact .inr ⟨none, fun called => absurd (answered called) (by simp)⟩

theorem doProcessStatus_eq (side : Uploads op) (env : Env) (code : StatusCode) :
    op.doProcessStatus env code =
      if code = .ok then
        if op.finalizing && op.sftp.pendingRequests == 0 then
          (.next, op.triggerReset .ok)
        else
          (.next, op)
      else if op.handle = "" && !op.finalizing then
        (.next, op.triggerReset .error)
      else if op.calledFsetstat && op.sftp.pendingRequests == 1 then
        (.next, op)
      else
        (.next, op.triggerReset .error) := by
  unfold doProcessStatus
  rw [if_neg (by simp [side.1])]

def handleReply (upload : Upload) (sftp : Client Unit) (kind : RequestKind)
    (reply : Reply) (env : Env) : Upload where
  op := proceed
    (processReply env reply { upload.op with sftp := sftp })
  remote := serve upload.op.resume upload.remote kind reply

inductive Outcome (offset : Nat) (content old : Bytes) (next : Upload)
    (kind : RequestKind) (reply : Reply) : Prop
  | running (phase : Running offset content old next)
      (tolerated : kind = .open ∨ Tolerated kind reply)
  | done (phase : Done offset content old next) (closed : kind = .close ∧ reply = .status .ok)
  | failed (failed : Failed next.op) (cause : ¬ Tolerated kind reply)

variable {kind : RequestKind}

theorem outcome_of_failure (result : upload.op.result = none) (env : Env) :
    Outcome offset content old (upload.handleReply sftp kind .failure env) kind .failure := by
  refine .failed ⟨.error, by decide, ?_⟩ ?_
  · simp [handleReply, processReply, result]
  · cases kind <;> simp [Tolerated, acknowledges]

variable {reply : Reply}

theorem Opening.handleReply (phase : Opening offset content old upload)
    (answered : upload.op.sftp.answer = some (⟨some (), kind⟩, sftp))
    (allowed : kind.allows reply = true) (env : Env) :
    Outcome offset content old (upload.handleReply sftp kind reply env)
      kind reply := by
  obtain ⟨-, -, -, connected⟩ := Client.answer_flags answered
  have opens : kind = .open ∧ Queued sftp [] := by
    rcases phase.queued with queued | queued
    · obtain ⟨others, same, rest, -⟩ := queued.answer_some answered
      simp only [cons.injEq] at same
      obtain ⟨rfl, rfl⟩ := same
      exact ⟨rfl, rest⟩
    · obtain ⟨others, same, -⟩ := queued.answer_some answered
      simp at same
  obtain ⟨rfl, queued⟩ := opens
  cases reply with
  | data data => simp [RequestKind.allows] at allowed
  | failure => exact outcome_of_failure phase.result env
  | handle handle =>
    by_cases given : handle = ""
    · refine .failed ⟨.error, by decide, ?_⟩ (by simp [Tolerated, acknowledges, given])
      simp [handleReply, processReply, given, phase.result]
    · refine .running (.writing [] ?_) (.inl rfl)
      have served : serve upload.op.resume upload.remote .open
          (.handle handle) = old.take offset := by
        simp only [serve, phase.remote]
        exact phase.truncated
      have handled : processReply env (.handle handle)
          { upload.op with sftp := sftp } =
          (.next, { upload.op with
            sftp := sftp, handle := handle, sendEvent := true }) := by
        simp only [processReply, given, if_false, processHandle]
        rw [if_neg (by simp [phase.side.1])]
      unfold handleReply
      rw [served, handled]
      exact {
        __ := phase
        handle := given
        single := .inr phase.readerEvent
        connected := connected
        queued := queued
        consecutive := by
          have within := phase.within
          simp [Consecutive, proceed, phase.requestOffset, within]
        total := ⟨{ remaining := content.drop offset }, phase.reader, by
          simp [proceed, phase.buffer, target]⟩ }
  | status code =>
    have handled := doProcessStatus_eq
      (show Uploads { upload.op with sftp := sftp } from phase.side) env code
    by_cases success : code = .ok
    · subst success
      refine .running (.opening ?_) (.inl rfl)
      unfold handleReply
      simp only [processReply]
      rw [handled, if_pos rfl, if_neg (by simp [phase.running])]
      exact { phase with queued := .inr queued }
    · refine .failed ⟨.error, by decide, ?_⟩ (by simp [Tolerated, acknowledges])
      simp only [handleReply, processReply]
      rw [handled, if_neg success, if_pos (by simp [phase.handle, phase.running])]
      simp [phase.result]

theorem Writing.handleReply (phase : Writing offset content old upload writes)
    (answered : upload.op.sftp.answer = some (⟨some (), kind⟩, sftp))
    (allowed : kind.allows reply = true) (env : Env) :
    Outcome offset content old (upload.handleReply sftp kind reply env)
      kind reply := by
  obtain ⟨-, -, -, connected⟩ := Client.answer_flags answered
  obtain ⟨others, same, queued, -⟩ := phase.queued.answer_some answered
  cases writes with
  | nil => simp [writeKinds] at same
  | cons write writes =>
    obtain ⟨start, data⟩ := write
    simp only [writeKinds, map_cons, cons.injEq] at same
    obtain ⟨rfl, rfl⟩ := same
    cases reply with
    | data data => simp [RequestKind.allows] at allowed
    | handle handle => simp [RequestKind.allows] at allowed
    | failure => exact outcome_of_failure phase.result env
    | status code =>
      have handled := doProcessStatus_eq
        (show Uploads { upload.op with sftp := sftp } from phase.side)
        env code
      by_cases success : code = .ok
      · subst success
        refine .running (.writing writes ?_) (.inr (.inl rfl))
        unfold handleReply
        simp only [processReply]
        rw [handled, if_pos rfl, if_neg (by simp [phase.running])]
        exact phase.acknowledged queued connected
      · refine .failed ⟨.error, by decide, ?_⟩ (by simp [Tolerated, acknowledges, success])
        simp only [handleReply, processReply]
        rw [handled, if_neg success, if_neg (by simp [phase.handle]),
          if_neg (by simp [phase.untouched])]
        simp [phase.result]

/-- The number of unanswered requests tells a failed `fsetstat` from any other
failure. -/
theorem Finishing.handleReply {times : List RequestKind}
    (phase : Finishing offset content old upload writes times)
    (answered : upload.op.sftp.answer = some (⟨some (), kind⟩, sftp))
    (allowed : kind.allows reply = true) (env : Env) :
    Outcome offset content old (upload.handleReply sftp kind reply env)
      kind reply := by
  obtain ⟨others, same, queued, count⟩ := phase.queued.answer_some answered
  have onlyStatus : reply = .failure ∨ ∃ code, reply = .status code := by
    cases reply with
    | failure => exact .inl rfl
    | status code => exact .inr ⟨code, rfl⟩
    | data data | handle handle =>
      have known : kind ∈ writeKinds writes ++ (times ++ [.close]) := by
        rw [same]
        exact mem_cons_self
      rcases phase.timed with ⟨rfl, -⟩ | ⟨rfl, -⟩ <;>
        cases kind <;> simp [RequestKind.allows, writeKinds] at allowed known
  rcases onlyStatus with rfl | ⟨code, rfl⟩
  · exact outcome_of_failure phase.result env
  have handled := doProcessStatus_eq
    (show Uploads { upload.op with sftp := sftp } from phase.side) env code
  have total := phase.total
  cases writes with
  | cons write writes =>
    -- at least the `close` is behind a write
    obtain ⟨start, data⟩ := write
    simp only [writeKinds, map_cons, cons_append, cons.injEq] at same
    obtain ⟨rfl, rfl⟩ := same
    by_cases success : code = .ok
    · subst success
      refine .running (.finishing writes times ?_) (.inr (.inl rfl))
      unfold handleReply
      simp only [processReply]
      rw [handled, if_pos rfl, if_neg (by simp [count])]
      exact phase.acknowledged queued
    · have behind : ¬ (upload.op.calledFsetstat = true ∧
          sftp.pendingRequests = 1) := by
        rintro ⟨called, one⟩
        rcases phase.timed with ⟨rfl, -⟩ | ⟨-, answered⟩
        · simp [count] at one
        · simpa using answered called
      refine .failed ⟨.error, by decide, ?_⟩ (by simp [Tolerated, acknowledges, success])
      simp only [handleReply, processReply]
      rw [handled, if_neg success, if_neg (by simp [phase.finalizing]),
        if_neg (by simpa using behind)]
      simp [phase.result]
  | nil =>
    rcases phase.timed with ⟨rfl, called⟩ | ⟨rfl, -⟩
    · obtain ⟨rfl, rfl⟩ : .fsetstat = kind ∧ [.close] = others := by
        simpa [writeKinds] using same
      have later : Finishing offset content old
          { op := { upload.op with sftp := sftp }, remote := upload.remote }
          [] [] :=
        { phase with
          timed := .inr ⟨rfl, fun _ => rfl⟩
          queued := queued
          consecutive := phase.consecutive }
      refine .running (.finishing [] [] ?_) (.inr (.inr ⟨rfl, code, rfl⟩))
      unfold handleReply
      simp only [processReply]
      by_cases success : code = .ok
      · subst success
        rw [handled, if_pos rfl, if_neg (by simp [count])]
        exact later
      · rw [handled, if_neg success, if_neg (by simp [phase.finalizing]),
          if_pos (by simp [called, count])]
        exact later
    · obtain ⟨rfl, rfl⟩ : .close = kind ∧ [] = others := by
        simpa [writeKinds] using same
      by_cases success : code = .ok
      · subst success
        refine .done ?_ ⟨rfl, rfl⟩
        unfold handleReply
        simp only [processReply]
        rw [handled, if_pos rfl, if_pos (by simp [phase.finalizing, count])]
        have empty : sftp.pending = [] := by
          simpa [Client.pendingRequests] using count
        exact {
          __ := phase
          result := by simp [phase.result]
          pending := by
            simp [proceed, triggerReset,
              Client.proceed, Client.cancel, empty]
          total := by simpa [serve] using total }
      · refine .failed ⟨.error, by decide, ?_⟩ (by simp [Tolerated, acknowledges, success])
        simp only [handleReply, processReply]
        rw [handled, if_neg success, if_neg (by simp [phase.finalizing]),
          if_neg (by simp [count])]
        simp [phase.result]

theorem Queued.write (queued : Queued sftp (writeKinds writes))
    (connected : sftp.disconnecting = false) (start : Nat) (data : Bytes) :
    Queued (sftp.request (some ()) (.write start data))
      (writeKinds (writes ++ [(start, data)])) := by
  simpa [writeKinds] using queued.request connected (.write start data)

theorem Writing.writeBlock (phase : Writing offset content old upload writes)
    (sendEvent : upload.op.sendEvent = false) (readerEvent : upload.op.readerEvent = false)
    (env : Env) (trigger : SendTrigger) :
    Running offset content old
      { upload with op := upload.op.writeBlock env trigger } := by
  unfold FileTransfer.writeBlock
  split
  · obtain ⟨reader, opened, total⟩ := phase.total
    let size := min blocksize (leaseBytes upload.op.buffer).length
    let data := (leaseBytes upload.op.buffer).take size
    have length : data.length = size := by
      simp [data, size]
    have kept : data ++ leaseBytes (upload.op.buffer.map fun buffer =>
        { buffer with bytes := buffer.bytes.drop size }) =
        leaseBytes upload.op.buffer := by
      simp [data]
    have later : Writing offset content old
        { upload with op := { upload.op with
          sftp := upload.op.sftp.request (some ()) (.write upload.op.requestOffset data)
          requestOffset := upload.op.requestOffset + size
          buffer := upload.op.buffer.map fun buffer =>
            { buffer with bytes := buffer.bytes.drop size } } }
        (writes ++ [(upload.op.requestOffset, data)]) :=
      { phase with
        connected := by simpa using phase.connected
        queued := phase.queued.write phase.connected upload.op.requestOffset data
        consecutive := by
          have tiles := phase.consecutive.snoc size
          unfold Consecutive
          simpa [length] using tiles
        total := ⟨reader, opened, by
          rw [← total, ← kept]
          simp⟩ }
    refine .writing (writes ++ [(upload.op.requestOffset, data)]) ?_
    cases trigger with
    | outbufEmpty => exact { later with single := .inr readerEvent }
    | readerAvailable => exact { later with single := .inl sendEvent }
  · exact .writing writes { phase with single := .inr readerEvent }

theorem Writing.closeRemote (phase : Writing offset content old upload writes)
    (sendEvent : upload.op.sendEvent = false) (readerEvent : upload.op.readerEvent = false)
    (total : upload.remote ++ writes.flatMap Prod.snd = target offset content old) (env : Env) :
    Running offset content old
      { upload with op := upload.op.closeRemote env } := by
  unfold FileTransfer.closeRemote
  simp only
  split
  · have queued := (phase.queued.request phase.connected .fsetstat).request
      (by simpa using phase.connected) .close
    exact .finishing writes [.fsetstat] {
      __ := phase
      finalizing := rfl
      sendEvent := sendEvent
      readerEvent := readerEvent
      timed := .inl ⟨rfl, rfl⟩
      queued := by simpa using queued
      total := total }
  · have queued := phase.queued.request phase.connected .close
    exact .finishing writes [] {
      __ := phase
      finalizing := rfl
      sendEvent := sendEvent
      readerEvent := readerEvent
      timed := .inr ⟨rfl, fun called => by
        have untouched := phase.untouched
        rw [untouched] at called
        cases called⟩
      queued := by simpa using queued
      total := total }

theorem Writing.onCanSend (phase : Writing offset content old upload writes)
    (sendEvent : upload.op.sendEvent = false) (readerEvent : upload.op.readerEvent = false)
    (env : Env) (trigger : SendTrigger) :
    Running offset content old
        { upload with op := upload.op.onCanSend env trigger } ∨
      Failed (upload.op.onCanSend env trigger) ∧ env.getBuffer = .error := by
  unfold FileTransfer.onCanSend
  split
  · rename_i empty
    have none : leaseBytes upload.op.buffer = [] := by
      simpa [leaseEmpty] using empty
    obtain ⟨reader, opened, total⟩ := phase.total
    rw [none, append_nil] at total
    rcases getNextUploadBuffer_cases opened env with
      ⟨failed, got⟩ | got | ⟨rest, lease, kept, ends, got⟩
    · rw [got]
      exact .inr ⟨⟨.error, by decide, by simp [phase.result]⟩, failed⟩
    · rw [got]
      exact .inl (.writing writes { phase with
        single := .inl sendEvent
        total := ⟨reader, opened, by simpa using total⟩ })
    · rw [got]
      have later : Writing offset content old
          { upload with op :=
            { upload.op with reader := some rest, buffer := lease } } writes :=
        { phase with
          total := ⟨rest, rfl, by
            rw [← total, ← kept]
            simp⟩ }
      simp only
      split
      · rename_i ended
        left
        apply later.closeRemote sendEvent readerEvent
        have nothing : leaseBytes lease = [] := by
          simpa [leaseEmpty] using ended
        rw [← total, ← kept, nothing, ends ended]
        simp
      · exact .inl (later.writeBlock sendEvent readerEvent env trigger)
  · exact .inl (phase.writeBlock sendEvent readerEvent env trigger)

/-- What one event does to an upload that is neither done nor failed. -/
inductive Progress (offset : Nat) (content old : Bytes) (upload : Upload)
    (event : Event) (next : Upload) : Prop
  | running (phase : Running offset content old next)
      (tolerated : ∀ kind reply, upload.answered event = some (kind, reply) →
        kind = .open ∨ Tolerated kind reply)
  | done (phase : Done offset content old next)
      (closed : upload.answered event = some (.close, .status .ok))
  | failed (failed : Failed next.op) (cause : ¬ OnlyFsetstatFails upload event)

theorem Running.side (running : Running offset content old upload) :
    Uploads upload.op := by
  cases running with
  | opening phase => exact phase.side
  | writing writes phase => exact phase.side
  | finishing writes times phase => exact phase.side

theorem Running.result (running : Running offset content old upload) :
    upload.op.result = none := by
  cases running with
  | opening phase => exact phase.result
  | writing writes phase => exact phase.result
  | finishing writes times phase => exact phase.result

theorem Running.leftover (running : Running offset content old upload)
    (answered : upload.op.sftp.answer = some (⟨none, kind⟩, sftp)) :
    Running offset content old
      { op := { upload.op with sftp := sftp }
        remote := serve upload.op.resume upload.remote kind reply } := by
  obtain ⟨-, -, -, connected⟩ := Client.answer_flags answered
  cases running with
  | opening phase =>
    rcases phase.queued with queued | queued
    · obtain ⟨rest, served⟩ := queued.answer_none answered
      rw [served]
      exact .opening { phase with queued := .inl rest }
    · obtain ⟨rest, served⟩ := queued.answer_none answered
      rw [served]
      exact .opening { phase with queued := .inr rest }
  | writing writes phase =>
    obtain ⟨rest, served⟩ := phase.queued.answer_none answered
    rw [served]
    exact .writing writes { phase with connected := connected, queued := rest }
  | finishing writes times phase =>
    obtain ⟨rest, served⟩ := phase.queued.answer_none answered
    rw [served]
    exact .finishing writes times { phase with queued := rest }

theorem Running.receive {next : FileTransfer} (running : Running offset content old upload)
    (taken : upload.op.receive env reply = some next) :
    Progress offset content old upload (.reply reply env)
      { op := next, remote := upload.serveReply reply } := by
  obtain ⟨kind, sftp, allowed, ⟨answered, rfl⟩ | ⟨answered, rfl⟩⟩ :=
    receive_eq_some taken
  · have served : upload.serveReply reply =
        serve upload.op.resume upload.remote kind reply := by
      simp [serveReply, answered]
    rw [served]
    refine .running (running.leftover answered) ?_
    simp [Upload.answered, answered]
  · have handled : ({
        op := proceed
          (processReply env reply { upload.op with sftp := sftp })
        remote := upload.serveReply reply } : Upload) =
        upload.handleReply sftp kind reply env := by
      simp [handleReply, serveReply, answered]
    rw [handled]
    have mine : upload.answered (.reply reply env) = some (kind, reply) := by
      simp [Upload.answered, answered]
    have outcome : Outcome offset content old
        (upload.handleReply sftp kind reply env) kind reply := by
      cases running with
      | opening phase => exact phase.handleReply answered allowed env
      | writing writes phase => exact phase.handleReply answered allowed env
      | finishing writes times phase =>
        exact phase.handleReply answered allowed env
    cases outcome with
    | running phase tolerated =>
      refine .running phase ?_
      intro kind' reply' same
      rw [mine] at same
      cases same
      exact tolerated
    | done phase closed =>
      obtain ⟨rfl, rfl⟩ := closed
      exact .done phase mine
    | failed failed cause =>
      exact .failed failed fun only => cause (only.1 kind reply mine)

theorem Running.send (running : Running offset content old upload)
    (trigger : SendTrigger) (env : Env) (queued : match trigger with
      | .outbufEmpty => op = { upload.op with sendEvent := false } ∧
          upload.op.sendEvent = true
      | .readerAvailable => op = { upload.op with readerEvent := false } ∧
          upload.op.readerEvent = true) :
    Running offset content old
        { upload with op := op.onCanSend env trigger } ∨
      Failed (op.onCanSend env trigger) ∧ env.getBuffer = .error := by
  cases running with
  | opening phase =>
    cases trigger <;> simp [phase.sendEvent, phase.readerEvent] at queued
  | finishing writes times phase =>
    cases trigger <;> simp [phase.sendEvent, phase.readerEvent] at queued
  | writing writes phase =>
    cases trigger with
    | outbufEmpty =>
      obtain ⟨rfl, waited⟩ := queued
      have quiet : upload.op.readerEvent = false := by
        simpa [waited] using phase.single
      have later : Writing offset content old
          { upload with op := { upload.op with sendEvent := false } }
          writes := { phase with single := .inl rfl }
      exact later.onCanSend rfl quiet env .outbufEmpty
    | readerAvailable =>
      obtain ⟨rfl, waited⟩ := queued
      have quiet : upload.op.sendEvent = false := by
        simpa [waited] using phase.single
      have later : Writing offset content old
          { upload with op := { upload.op with readerEvent := false } }
          writes := { phase with single := .inr rfl }
      exact later.onCanSend quiet rfl env .readerAvailable

theorem Running.step {event : Event} {next : Upload}
    (running : Running offset content old upload) (taken : upload.step event = some next) :
    Progress offset content old upload event next := by
  simp only [Upload.step, map_eq_some_iff] at taken
  obtain ⟨op, taken, rfl⟩ := taken
  cases event with
  | reply reply env => exact running.receive taken
  | writerAvailability env =>
    simp [FileTransfer.step, running.side.2] at taken
  | poolAvailability =>
    obtain ⟨-, rfl⟩ := some_of_guard taken
    refine .running ?_ (by simp [answered])
    cases running with
    | opening phase => exact .opening { phase with }
    | writing writes phase => exact .writing writes { phase with }
    | finishing writes times phase =>
      exact .finishing writes times { phase with }
  | readerAvailability env =>
    obtain ⟨waited, rfl⟩ := some_of_guard taken
    rcases running.send .readerAvailable env ⟨rfl, waited⟩ with
      later | ⟨failed, cause⟩
    · exact .running later (by simp [answered])
    · exact .failed failed fun only => only.2 cause
  | outbufEmpty env =>
    obtain ⟨waited, rfl⟩ := some_of_guard taken
    rcases running.send .outbufEmpty env ⟨rfl, waited⟩ with
      later | ⟨failed, cause⟩
    · exact .running later (by simp [answered])
    · exact .failed failed fun only => only.2 cause
  | channelDone =>
    simp only [FileTransfer.step, some.injEq] at taken
    subst taken
    refine .failed ⟨.disconnected, by decide, ?_⟩ fun only => only.2
    simp [running.result]

theorem Done.step {event : Event} {next : Upload}
    (done : Done offset content old upload) (taken : upload.step event = some next) :
    Done offset content old next ∧ upload.answered event = none := by
  have unanswered : upload.op.sftp.answer = none := by
    simp [Client.answer, done.pending]
  simp only [Upload.step, map_eq_some_iff] at taken
  obtain ⟨op, taken, rfl⟩ := taken
  cases event with
  | reply reply env =>
    simp [FileTransfer.step, FileTransfer.receive, unanswered] at taken
  | writerAvailability env => simp [FileTransfer.step, done.side.2] at taken
  | readerAvailability env => simp [FileTransfer.step, done.readerEvent] at taken
  | outbufEmpty env => simp [FileTransfer.step, done.sendEvent] at taken
  | poolAvailability =>
    obtain ⟨-, rfl⟩ := some_of_guard taken
    exact ⟨{ done with }, rfl⟩
  | channelDone =>
    simp only [FileTransfer.step, some.injEq] at taken
    subst taken
    exact ⟨{ done with
      result := by simp [done.result]
      pending := done.pending }, rfl⟩

end Steps

def Acknowledged (trace : Trace) : Prop :=
  ∀ taken ∈ trace, ∀ kind reply, taken.1.answered taken.2 = some (kind, reply) →
      kind = .open ∨ Tolerated kind reply

inductive Phase (offset : Nat) (content old : Bytes) (trace : Trace) (upload : Upload) : Prop
  | running (phase : Running offset content old upload) (acknowledged : Acknowledged trace)
  | done (phase : Done offset content old upload) (acknowledged : Acknowledged trace)
      (closed : ∃ taken ∈ trace, taken.1.answered taken.2 = some (.close, .status .ok))
  | failed (failed : Failed upload.op)
      (cause : ∃ taken ∈ trace, ¬ OnlyFsetstatFails taken.1 taken.2)

section Upload

variable {offset remoteFileSize : Nat} {content old : Bytes}
  {resume preserveTimestamps : Bool} {sftp : Client Unit}
  {trace : Trace} {upload next : Upload} {event : Event}

theorem Acknowledged.snoc (acknowledged : Acknowledged trace)
    (last : ∀ kind reply, upload.answered event = some (kind, reply) →
      kind = .open ∨ Tolerated kind reply) :
    Acknowledged (trace ++ [(upload, event)]) := by
  intro taken member
  rcases mem_append.mp member with earlier | here
  · exact acknowledged taken earlier
  · rw [mem_singleton.mp here]
    exact last

theorem Phase.step (phase : Phase offset content old trace upload)
    (taken : upload.step event = some next) :
    Phase offset content old (trace ++ [(upload, event)]) next := by
  cases phase with
  | running phase acknowledged =>
    cases phase.step taken with
    | running phase tolerated =>
      exact .running phase (acknowledged.snoc tolerated)
    | done phase closed =>
      refine .done phase (acknowledged.snoc ?_) ⟨(upload, event), by simp, closed⟩
      intro kind reply same
      rw [closed] at same
      cases same
      exact .inr (.inl rfl)
    | failed failed cause =>
      exact .failed failed ⟨(upload, event), by simp, cause⟩
  | done phase acknowledged closed =>
    obtain ⟨later, silent⟩ := phase.step taken
    obtain ⟨close, member, answered⟩ := closed
    refine .done later (acknowledged.snoc (by simp [silent]))
      ⟨close, mem_append_left _ member, answered⟩
  | failed failed cause =>
    obtain ⟨code, bad, result⟩ := failed
    obtain ⟨earlier, member, reason⟩ := cause
    simp only [Upload.step, map_eq_some_iff] at taken
    obtain ⟨op, taken, rfl⟩ := taken
    refine .failed ⟨code, bad, ?_⟩ ⟨earlier, mem_append_left _ member, reason⟩
    have kept := result_of_step result taken
    cases event <;> exact kept

theorem start_opening (leftover : ∀ request ∈ sftp.pending, Leftover request)
    (size : resume = true → remoteFileSize = old.length) :
    Opening (resumeOffset resume remoteFileSize) content old
      (start resume preserveTimestamps remoteFileSize sftp content old) where
  side := ⟨rfl, rfl⟩
  handle := rfl
  running := rfl
  result := rfl
  untouched := rfl
  sendEvent := rfl
  readerEvent := rfl
  buffer := rfl
  reader := rfl
  requestOffset := rfl
  truncated := by
    show (if resume then old else []) =
      old.take (resumeOffset resume remoteFileSize)
    cases resume with
    | false => simp [resumeOffset]
    | true => simp [resumeOffset, size rfl]
  within := by
    cases resume with
    | false => exact Nat.zero_le _
    | true => exact Nat.le_of_eq (size rfl)
  queued := by
    have queued : Queued sftp [] := ⟨sftp.pending, by simp, leftover⟩
    show Queued (sftp.request (some ()) .open) [.open] ∨
      Queued (sftp.request (some ()) .open) []
    by_cases connected : sftp.disconnecting = false
    · exact .inl (queued.request connected .open)
    · right
      simpa [Client.request, connected] using queued
  remote := rfl

theorem phase_of_run (leftover : ∀ request ∈ sftp.pending, Leftover request)
    (size : resume = true → remoteFileSize = old.length)
    (run : Run step (start resume preserveTimestamps remoteFileSize sftp
      content old) trace upload) :
    Phase (resumeOffset resume remoteFileSize) content old trace upload := by
  have initial : Phase (resumeOffset resume remoteFileSize) content old []
      (start resume preserveTimestamps remoteFileSize sftp content old) :=
    .running (.opening (start_opening leftover size)) (by simp [Acknowledged])
  exact @Run.trace_invariant_of_forall _ _ step _ _ _
    (Phase (resumeOffset resume remoteFileSize) content old) (fun _ _ => True) initial
    (fun _ _ _ _ phase _ taken => phase.step taken) run (by simp)

/-- An upload that reports success wrote the local file behind what it kept of
the remote one, with every write and the `close` acknowledged; and it does
report success if nothing fails but `fsetstat`. -/
theorem upload_intact (leftover : ∀ request ∈ sftp.pending, Leftover request)
    (size : resume = true → remoteFileSize = old.length)
    (run : Run step (start resume preserveTimestamps remoteFileSize sftp
      content old) trace upload) :
    (upload.op.result = some .ok →
      upload.remote = target (resumeOffset resume remoteFileSize) content old ∧
      upload.op.sftp.pending = [] ∧
      (∀ taken ∈ trace, ∀ kind reply, taken.1.answered taken.2 = some (kind, reply) →
          (∃ offset data, kind = .write offset data) ∨ kind = .close → reply = .status .ok) ∧
      ∃ taken ∈ trace, taken.1.answered taken.2 = some (.close, .status .ok)) ∧
    ((∀ taken ∈ trace, OnlyFsetstatFails taken.1 taken.2) →
      (upload.op.result = none ∨ upload.op.result = some .ok) ∧
      (upload.op.finalizing = true → upload.op.sftp.pending = [] →
        upload.op.result = some .ok)) := by
  cases phase_of_run leftover size run with
  | running phase acknowledged =>
    constructor
    · intro ended
      simp [phase.result] at ended
    · intro _
      refine ⟨.inl phase.result, ?_⟩
      intro finalizing answered
      cases phase with
      | opening phase => simp [phase.running] at finalizing
      | writing writes phase => simp [phase.running] at finalizing
      | finishing writes times phase =>
        obtain ⟨earlier, pending, -⟩ := phase.queued
        simp [answered] at pending
  | done phase acknowledged closed =>
    constructor
    · intro _
      refine ⟨phase.total, phase.pending, ?_, closed⟩
      intro taken member kind reply answered important
      rcases acknowledged taken member kind reply answered with rfl | tolerated
      · simp at important
      · exact tolerated.status_ok important
    · intro _
      exact ⟨.inr phase.result, fun _ _ => phase.result⟩
  | failed failed cause =>
    obtain ⟨code, bad, result⟩ := failed
    obtain ⟨taken, member, reason⟩ := cause
    constructor
    · intro ended
      rw [ended] at result
      exact absurd (some.inj result).symm bad
    · intro only
      exact absurd (only taken member) reason

theorem upload_intact_three_bytes :
    ∃ trace upload, Run step (start false true 0 {} [1, 2, 3] [9]) trace upload ∧
      upload.op.result = some .ok ∧ upload.remote = [1, 2, 3] := by
  let events : List Event := [.reply (.handle "h") {},
    .outbufEmpty { chunk := 1 }, .outbufEmpty {},
    .outbufEmpty { mtime := true }, .reply (.status .ok) {},
    .reply (.status .ok) {}, .reply (.status .failure) {}, .reply (.status .ok) {}]
  have run := @execute_run _ _ step (start false true 0 {} [1, 2, 3] [9])
    _ events _ rfl
  exact ⟨_, _, run, rfl, ((upload_intact (by simp) (by simp) run).1 rfl).1⟩

end Upload

end Upload

end FileZilla.Sftp
