import FileZilla.Guards
import FileZilla.Engine.Sftp.FileTransfer
import FileZilla.Ranges

namespace FileZilla.Sftp

namespace Client

def requestReads (client : Client Unit) (offset : Nat) : Nat → Client Unit
  | 0 => client
  | count + 1 =>
    (client.request (some ()) (.read offset blocksize)).requestReads (offset + blocksize) count

@[simp] theorem requestReads_waitRead (client : Client Unit) (offset count : Nat) :
    (client.requestReads offset count).waitRead = client.waitRead := by
  induction count generalizing client offset with
  | zero => rfl
  | succ count ih => simp [requestReads, ih]

@[simp] theorem requestReads_disconnecting (client : Client Unit) (offset count : Nat) :
    (client.requestReads offset count).disconnecting =
      client.disconnecting := by
  induction count generalizing client offset with
  | zero => rfl
  | succ count ih => simp [requestReads, ih]

end Client

def ReadsTile (client : Client Unit) (start stop : Nat) : Prop :=
  ∃ ranges : List (Nat × Nat),
    client.liveKinds = ranges.map (fun range => .read range.1 range.2) ∧
      (∀ range ∈ ranges, range.2 = blocksize) ∧ Tiles start ranges stop

theorem ReadsTile.requestReads {client : Client Unit} {start stop : Nat}
    (connected : client.disconnecting = false)
    (tile : ReadsTile client start stop) (count : Nat) :
    ReadsTile (client.requestReads stop count) start (stop + blocksize * count) := by
  induction count generalizing client stop with
  | zero => simpa [Client.requestReads] using tile
  | succ count ih =>
    obtain ⟨ranges, live, sizes, tiles⟩ := tile
    have one : ReadsTile (client.request (some ()) (.read stop blocksize)) start
        (stop + blocksize) := by
      refine ⟨ranges ++ [(stop, blocksize)], ?_, ?_, tiles.snoc blocksize⟩
      · simp [Client.liveKinds_request connected, live]
      · intro range member
        rcases List.mem_append.mp member with earlier | last
        · exact sizes range earlier
        · rw [List.mem_singleton.mp last]
    have all := ih (by simpa using connected) one
    have same : stop + blocksize * (count + 1) = stop + blocksize + blocksize * count := by
      rw [Nat.mul_succ]
      omega
    rw [same]
    exact all

theorem ReadsTile.pop {client rest : Client Unit} {start stop : Nat}
    {kind : RequestKind} (tile : ReadsTile client start stop)
    (live : client.liveKinds = kind :: rest.liveKinds) :
    kind = .read start blocksize ∧
      ReadsTile rest (start + blocksize) stop := by
  obtain ⟨ranges, listed, sizes, tiles⟩ := tile
  cases ranges with
  | nil => simp [live] at listed
  | cons range others =>
    obtain ⟨offset, size⟩ := range
    have sizeEq : size = blocksize := sizes (offset, size) (by simp)
    have offsetEq : offset = start := tiles.1
    subst sizeEq offsetEq
    rw [live, List.map_cons, List.cons.injEq] at listed
    exact ⟨listed.1, others, listed.2,
      fun range member => sizes range (by simp [member]), tiles.2⟩

namespace FileTransfer

variable {env : Env} {op : FileTransfer}

theorem sendReads_eq (env : Env) (remaining : Nat) (op : FileTransfer) :
    ∃ count, sendReads env remaining op =
      ({ op with
        sftp := op.sftp.requestReads op.requestOffset count
        requestOffset := op.requestOffset + blocksize * count }, count) := by
  induction remaining generalizing op with
  | zero => exact ⟨0, rfl⟩
  | succ remaining ih =>
    unfold sendReads
    split
    · obtain ⟨count, later⟩ := ih
        { op with
          sftp := op.sftp.request (some ()) (.read op.requestOffset blocksize)
          requestOffset := op.requestOffset + blocksize }
      refine ⟨count + 1, ?_⟩
      rw [later]
      simp only [Client.requestReads, Nat.mul_succ, Nat.add_assoc, Nat.add_comm blocksize]
    · exact ⟨0, rfl⟩

/-- `request_data` only sends reads and keeps its measurement. -/
theorem requestData_eq (env : Env) (op : FileTransfer) :
    ∃ count rtt maxPending, requestData env op =
      { op with
        sftp := op.sftp.requestReads op.requestOffset count
        requestOffset := op.requestOffset + blocksize * count
        rtt := rtt
        maxPending := maxPending } := by
  have measured : ∃ rtt maxPending, measureRtt env op =
      { op with rtt := rtt, maxPending := maxPending } := by
    unfold measureRtt
    split
    · exact ⟨_, _, rfl⟩
    · exact ⟨op.rtt, op.maxPending, rfl⟩
  obtain ⟨rtt, maxPending, measured⟩ := measured
  obtain ⟨count, sent⟩ := sendReads_eq env 2 (measureRtt env op)
  rw [measured] at sent
  unfold requestData
  rw [measured, sent]
  simp only
  split
  · exact ⟨count, _, maxPending, rfl⟩
  · exact ⟨count, rtt, maxPending, rfl⟩

/-- The three ways `get_next_download_buffer` ends; the bytes of the old
buffer are always with the writer unless it failed. -/
theorem getNextDownloadBuffer_cases {writer : Writer}
    (opened : op.writer = some writer) (env : Env) :
    ∃ handed : Writer, handed.offset = writer.offset ∧
      ((handed.bytes = writer.bytes ++ leaseBytes op.buffer ∧
        ((∃ capacity, op.getNextDownloadBuffer env =
          (.ok, { op with
            writer := some handed
            buffer := some { capacity := capacity, bytes := [] } })) ∨
        op.getNextDownloadBuffer env =
          (.wait, { op with
            writer := some handed
            buffer := none
            writerEvent := true }) ∨
        op.getNextDownloadBuffer env =
          (.wait, { op with
            writer := some handed
            buffer := none
            poolEvent := true }))) ∨
      ∃ lease, op.getNextDownloadBuffer env = (.error, triggerReset
          { op with writer := some handed, buffer := lease } .error)) := by
  refine ⟨(writer.addBuffer op.buffer env.addBuffer).2.1, writer.addBuffer_offset _ _, ?_⟩
  have kept := writer.addBuffer_bytes op.buffer env.addBuffer
  simp only [getNextDownloadBuffer, opened]
  generalize added : writer.addBuffer op.buffer env.addBuffer = outcome at kept
  obtain ⟨answer, handed, lease⟩ := outcome
  cases answer with
  | error => exact .inr ⟨lease, rfl⟩
  | ok =>
    left
    have moved : leaseBytes lease = [] := by
      have := @Writer.addBuffer_lease writer op.buffer env.addBuffer (by simp [added])
      simpa [added] using this
    refine ⟨by simpa [moved] using kept, ?_⟩
    cases env.poolBuffer with
    | none => exact .inr (.inr rfl)
    | some capacity => exact .inl ⟨capacity, rfl⟩
  | wait =>
    left
    have gone : lease = none := by
      have shape : (writer.addBuffer op.buffer env.addBuffer).1 = .wait := by
        simp [added]
      unfold Writer.addBuffer at added shape
      split at added
      · simp at added
      · rename_i answered
        split at added
        · simp at added
        · simp only [Prod.mk.injEq] at added
          exact added.2.2.symm
    subst gone
    exact ⟨by simpa using kept, .inr (.inl rfl)⟩

/-- The three ways `finalize` ends. No byte is dropped, and success needs that
the writer took all of them. -/
theorem finalize_cases {writer : Writer} (opened : op.writer = some writer) (env : Env) :
    ∃ (handed : Writer) (lease : Lease), handed.offset = writer.offset ∧
      handed.bytes ++ leaseBytes lease = writer.bytes ++ leaseBytes op.buffer ∧
      (op.finalize env = triggerReset
          { op with
            finalizing := true, writer := some handed, buffer := lease }
          .error ∨
        leaseBytes lease = [] ∧
          (op.finalize env =
            { op with
              finalizing := true
              writer := some handed
              buffer := lease
              writerEvent := true } ∨
          op.finalize env = triggerReset
            { op with
              finalizing := true, writer := some handed, buffer := lease }
            .ok)) := by
  refine ⟨(writer.addBuffer op.buffer env.addBuffer).2.1,
    (writer.addBuffer op.buffer env.addBuffer).2.2,
    writer.addBuffer_offset _ _, writer.addBuffer_bytes _ _, ?_⟩
  simp only [finalize, opened]
  by_cases failed : (writer.addBuffer op.buffer env.addBuffer).1 = .error
  · left
    simp [failed]
  · have moved := writer.addBuffer_lease failed
    generalize writer.addBuffer op.buffer env.addBuffer = outcome at failed moved
    obtain ⟨answer, handed, lease⟩ := outcome
    cases answer with
    | error => exact absurd rfl failed
    | wait => exact .inr ⟨moved, .inl rfl⟩
    | ok =>
      cases env.finalize with
      | error => exact .inl rfl
      | wait => exact .inr ⟨moved, .inl rfl⟩
      | ok => exact .inr ⟨moved, .inr rfl⟩

/-- The ways `get_next_upload_buffer` ends; an empty buffer is the end of the
local file. -/
theorem getNextUploadBuffer_cases {reader : Reader}
    (opened : op.reader = some reader) (env : Env) :
    (env.getBuffer = .error ∧ op.getNextUploadBuffer env =
        (.error, triggerReset { op with buffer := none } .error)) ∨
      op.getNextUploadBuffer env =
        (.wait, { op with buffer := none, readerEvent := true }) ∨
      ∃ (rest : Reader) (lease : Lease), leaseBytes lease ++ rest.remaining = reader.remaining ∧
        (leaseEmpty lease = true → rest.remaining = []) ∧
        op.getNextUploadBuffer env =
          (.ok, { op with reader := some rest, buffer := lease }) := by
  have kept := reader.getBuffer_bytes env.getBuffer env.chunk
  have ends := @Reader.getBuffer_end reader env.getBuffer env.chunk
  unfold getNextUploadBuffer
  rw [opened]
  cases got : env.getBuffer with
  | error => exact .inl ⟨rfl, by simp [Reader.getBuffer, ← opened]⟩
  | wait => exact .inr (.inl (by simp [Reader.getBuffer, ← opened]))
  | ok =>
    right
    right
    rw [got] at kept ends
    have handed : (reader.getBuffer .ok env.chunk).1 = .ok := by
      unfold Reader.getBuffer
      simp only
      split <;> rfl
    simp only
    generalize reader.getBuffer .ok env.chunk = outcome at kept ends handed ⊢
    obtain ⟨answer, rest, lease⟩ := outcome
    simp only at handed kept ends
    subst handed
    refine ⟨rest, lease, kept, fun empty => ?_, rfl⟩
    have remaining := ends rfl empty
    rw [remaining] at kept
    exact (List.append_eq_nil_iff.mp kept).2

theorem receive_eq_some {reply : Reply} {next : FileTransfer}
    (taken : op.receive env reply = some next) :
    ∃ kind sftp, kind.allows reply = true ∧
      (op.sftp.answer = some (⟨none, kind⟩, sftp) ∧
          next = { op with sftp := sftp } ∨
        op.sftp.answer = some (⟨some (), kind⟩, sftp) ∧
          next = proceed (processReply env reply { op with sftp := sftp })) := by
  unfold receive at taken
  split at taken
  · cases taken
  · rename_i request sftp answered
    obtain ⟨handler, kind⟩ := request
    split at taken
    · rename_i allowed
      refine ⟨kind, sftp, allowed, ?_⟩
      cases handler with
      | none => exact .inl ⟨answered, (Option.some.inj taken).symm⟩
      | some _ => exact .inr ⟨answered, (Option.some.inj taken).symm⟩
    · cases taken

section Result

variable {next : FileTransfer} {code : ReplyCode}

@[simp] theorem triggerReset_result (op : FileTransfer) (code : ReplyCode) :
    (op.triggerReset code).result = op.result.or (some code) := rfl

@[simp] theorem proceed_result (handled : Continuation × FileTransfer) :
    (proceed handled).result = handled.2.result := rfl

@[simp] theorem requestData_result (env : Env) (op : FileTransfer) :
    (requestData env op).result = op.result := by
  obtain ⟨_, _, _, sent⟩ := requestData_eq env op
  rw [sent]

theorem getNextDownloadBuffer_result (env : Env) {op : FileTransfer}
    (ended : op.result = some code) :
    (op.getNextDownloadBuffer env).2.result = some code := by
  cases opened : op.writer with
  | none => simp [getNextDownloadBuffer, opened, ended]
  | some writer =>
    obtain ⟨handed, -, ⟨-, ⟨capacity, got⟩ | got | got⟩ | ⟨lease, got⟩⟩ :=
      getNextDownloadBuffer_cases opened env
    all_goals simp [got, ended]

theorem getNextUploadBuffer_result (env : Env) (ended : op.result = some code) :
    (op.getNextUploadBuffer env).2.result = some code := by
  unfold getNextUploadBuffer
  split
  · simp [ended]
  · simp only
    split <;> simp [ended]

theorem finalize_result (ended : op.result = some code) :
    (op.finalize env).result = some code := by
  unfold finalize
  simp only
  split
  · simp [ended]
  · split <;> simp [ended]

theorem processHandle_result (ended : op.result = some code)
    (handle : String) : (op.processHandle env handle).2.result = some code := by
  unfold processHandle
  simp only
  split
  · split
    · simp [ended]
    · split
      · rename_i offset _ _
        have kept := @getNextDownloadBuffer_result code env
          { op with
            handle := handle
            requestOffset := offset
            responseOffset := offset
            writer := some { offset := offset, bytes := [] } } ended
        split <;> simp_all
      · simp [ended]
  · exact ended

theorem processData_result (ended : op.result = some code) (data : Bytes) :
    (op.processData env data).2.result = some code := by
  unfold processData
  simp only
  split
  · exact ended
  · split
    · simp [ended]
    · split
      · have kept := @getNextDownloadBuffer_result code env
          { op with
            shortRead := op.shortRead || decide (data.length ≠ blocksize)
            buffer := appendBuffer op.buffer data
            responseOffset := op.responseOffset + data.length } ended
        split <;> simp_all
      · simp [ended]

theorem doProcessStatus_result (ended : op.result = some code) (status : StatusCode) :
    (op.doProcessStatus env status).2.result = some code := by
  unfold doProcessStatus
  repeat' split
  all_goals first
    | exact finalize_result ended
    | simp [ended]

theorem processReply_result {op : FileTransfer} (env : Env)
    (ended : op.result = some code) (reply : Reply) :
    (op.processReply env reply).2.result = some code := by
  cases reply with
  | handle handle =>
    simp only [processReply]
    split
    · simp [ended]
    · exact processHandle_result ended handle
  | data data => exact processData_result ended data
  | status status => exact doProcessStatus_result ended status
  | failure => simp [processReply, ended]

theorem onCanSend_result {op : FileTransfer} (env : Env)
    (ended : op.result = some code) (trigger : SendTrigger) : (op.onCanSend env trigger).result = some code := by
  have closed : ∀ op : FileTransfer, op.result = some code →
      (op.closeRemote env).result = some code := by
    intro op ended
    unfold closeRemote
    simp only
    split <;> exact ended
  have written : ∀ op : FileTransfer, op.result = some code →
      (op.writeBlock env trigger).result = some code := by
    intro op ended
    unfold writeBlock
    split
    · cases trigger <;> exact ended
    · exact ended
  unfold onCanSend
  split
  · have kept := getNextUploadBuffer_result env ended
    split
    · rename_i got
      rw [got] at kept
      split
      · exact closed _ kept
      · exact written _ kept
    · rename_i got
      rwa [got] at kept
  · exact written op ended

theorem result_of_step {event : Event} (ended : op.result = some code)
    (taken : op.step event = some next) : next.result = some code := by
  cases event with
  | reply reply env =>
    obtain ⟨kind, sftp, -, ⟨-, rfl⟩ | ⟨-, rfl⟩⟩ := receive_eq_some taken
    · exact ended
    · have kept : ({ op with sftp := sftp } : FileTransfer).result =
          some code := ended
      exact processReply_result env kept reply
  | writerAvailability env =>
    obtain ⟨-, rfl⟩ := some_of_guard taken
    unfold onWriterAvailability
    split
    · exact finalize_result ended
    · have kept := @getNextDownloadBuffer_result code env
        { op with writerEvent := false } ended
      split <;> simp_all
  | poolAvailability =>
    obtain ⟨-, rfl⟩ := some_of_guard taken
    exact ended
  | readerAvailability env =>
    obtain ⟨-, rfl⟩ := some_of_guard taken
    have kept : ({ op with readerEvent := false } : FileTransfer).result =
        some code := ended
    exact onCanSend_result env kept _
  | outbufEmpty env =>
    obtain ⟨-, rfl⟩ := some_of_guard taken
    have kept : ({ op with sendEvent := false } : FileTransfer).result =
        some code := ended
    exact onCanSend_result env kept _
  | channelDone =>
    simp only [step, Option.some.injEq] at taken
    subst taken
    simp [ended]

end Result

end FileTransfer

end FileZilla.Sftp
