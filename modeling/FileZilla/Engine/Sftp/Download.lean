import FileZilla.Engine.Sftp.FileTransferCases
import FileZilla.Runs

namespace FileZilla.Sftp

open List Option

namespace FileTransfer

/-! A download over a single stream, from `Send` on. `remote` is the content
of the remote file, `localSize` the size of the local file to resume. -/

def downloadStart (resume : Bool) (sftp : Client Unit) : FileTransfer :=
  send { download := true, resume := resume, sftp := sftp } []

def resumeOffset (resume : Bool) (localSize : Nat) : Nat :=
  if resume then localSize else 0

def deliveredBlock (op : FileTransfer) : Event → Option (Nat × Bytes)
  | .reply (.data data) _ =>
    match op.sftp.answer with
    | some (⟨some _, .read offset _⟩, _) => some (offset, data)
    | _ => none
  | _ => none

/-- The offset of the read that was answered with `SSH_FX_EOF`. -/
def deliveredEof (op : FileTransfer) : Event → Option Nat
  | .reply (.status .eof) _ =>
    match op.sftp.answer with
    | some (⟨some _, .read offset _⟩, _) => some offset
    | _ => none
  | _ => none

structure ReplyFits (remote : Bytes) (localSize : Nat) (op : FileTransfer)
    (event : Event) : Prop where
  block : ∀ block, op.deliveredBlock event = some block → Answers remote blocksize block
  size : ∀ reply env, event = .reply reply env →
    env.localSize = none ∨ env.localSize = some localSize

/-- A short block reaches the end of the file, and so does whatever comes
before the read that is answered with `SSH_FX_EOF`. -/
structure EndsFile (remote : Bytes) (op : FileTransfer) (event : Event) :
    Prop where
  block : ∀ block, op.deliveredBlock event = some block → ReachesEnd remote blocksize block
  eof : ∀ offset, op.deliveredEof event = some offset → remote.length ≤ offset

abbrev Trace := List (FileTransfer × Event)

def Trace.blocks (trace : Trace) : List (Nat × Bytes) :=
  trace.filterMap fun taken => taken.1.deliveredBlock taken.2

def Trace.eofs (trace : Trace) : List Nat :=
  trace.filterMap fun taken => taken.1.deliveredEof taken.2

open Trace

theorem Trace.blocks_snoc (trace : Trace) (op : FileTransfer) (event : Event) :
    blocks (trace ++ [(op, event)]) =
      blocks trace ++ (op.deliveredBlock event).toList := by
  cases delivered : op.deliveredBlock event <;>
    simp [blocks, delivered]

theorem Trace.eofs_snoc (trace : Trace) (op : FileTransfer) (event : Event) :
    eofs (trace ++ [(op, event)]) = eofs trace ++ (op.deliveredEof event).toList := by
  cases delivered : op.deliveredEof event <;> simp [eofs, delivered]

/-! The phases of a download. Until `SSH_FX_EOF` arrives, the writer and the
buffer together hold the delivered blocks, and the live requests are the reads
behind them. -/

def Downloads (op : FileTransfer) : Prop :=
  op.download = true ∧ op.readerEvent = false ∧ op.sendEvent = false

section Phases

variable (remote : Bytes) (offset : Nat) (trace : Trace) (op : FileTransfer)

structure Opening (localSize : Nat) : Prop where
  side : Downloads op
  start : offset = resumeOffset op.resume localSize
  handle : op.handle = ""
  writer : op.writer = none
  result : op.result = none
  running : op.finalizing = false
  buffer : op.buffer = none
  writerEvent : op.writerEvent = false
  shortRead : op.shortRead = false
  live : op.sftp.liveKinds = [] ∨ op.sftp.liveKinds = [.open]
  blocks : trace.blocks = []
  eofs : trace.eofs = []

structure Received (writer : Writer) : Prop where
  opened : op.writer = some writer
  start : writer.offset = offset
  bytes : writer.bytes ++ leaseBytes op.buffer = trace.blocks.flatMap Prod.snd
  answers : ∀ block ∈ trace.blocks, Answers remote blocksize block
  stride : OnStride blocksize offset trace.blocks
  shorts : trace.blocks.countP (isShort blocksize) = op.shortRead.toNat

structure Streaming : Prop where
  side : Downloads op
  received : ∃ writer, Received remote offset trace op writer
  handle : op.handle ≠ ""
  result : op.result = none
  running : op.finalizing = false
  connected : op.sftp.disconnecting = false
  reads : ReadsTile op.sftp (offset + blocksize * trace.blocks.length) op.requestOffset
  eofs : trace.eofs = []

structure Reading : Prop extends Streaming remote offset trace op where
  blocked : op.sftp.waitRead = true → op.buffer = none
  unblocked : op.sftp.waitRead = false → op.buffer.isSome ∧ op.writerEvent = false

structure Finishing : Prop where
  side : Downloads op
  received : ∃ writer, Received remote offset trace op writer
  finalizing : op.finalizing = true
  live : op.sftp.liveKinds = []
  result : op.result = none ∨
    op.result = some .ok ∧ leaseBytes op.buffer = [] ∧ op.writerEvent = false
  eofs : trace.eofs = [offset + blocksize * trace.blocks.length]

inductive Phase (localSize : Nat) : Prop
  | failed (code : ReplyCode) (failed : code ≠ .ok) (result : op.result = some code)
  | opening (phase : Opening offset trace op localSize)
  | reading (phase : Reading remote offset trace op)
  | finishing (phase : Finishing remote offset trace op)

end Phases

open Client

section Steps

variable {remote : Bytes} {offset : Nat} {trace : Trace}
  {op next : FileTransfer} {event : Event} {writer : Writer} {env : Env} {localSize : Nat}

variable {trace' : Trace}

theorem Received.of_eq {op' : FileTransfer} (received : Received remote offset trace op writer)
    (blocks : trace'.blocks = trace.blocks) (opened : op'.writer = op.writer)
    (buffer : op'.buffer = op.buffer) (shortRead : op'.shortRead = op.shortRead) :
    Received remote offset trace' op' writer where
  opened := opened.trans received.opened
  start := received.start
  bytes := by rw [buffer, blocks]; exact received.bytes
  answers := by rw [blocks]; exact received.answers
  stride := by rw [blocks]; exact received.stride
  shorts := by rw [blocks, shortRead]; exact received.shorts

theorem Received.hand {op' : FileTransfer} {handed : Writer}
    (received : Received remote offset trace op writer)
    (opened : op'.writer = some handed) (start : handed.offset = writer.offset)
    (bytes : handed.bytes ++ leaseBytes op'.buffer = writer.bytes ++ leaseBytes op.buffer)
    (shortRead : op'.shortRead = op.shortRead) :
    Received remote offset trace op' handed where
  opened := opened
  start := start.trans received.start
  bytes := bytes.trans received.bytes
  __ := received
  shorts := by rw [shortRead]; exact received.shorts

theorem getNextDownloadBuffer_reading (received : Received remote offset trace op writer)
    (result : op.result = none) (env : Env) :
    (∃ handed capacity, op.getNextDownloadBuffer env =
        (.ok, { op with
          writer := some handed
          buffer := some { capacity := capacity, bytes := [] } }) ∧
      Received remote offset trace (op.getNextDownloadBuffer env).2 handed) ∨
    (∃ handed writerEvent poolEvent, op.getNextDownloadBuffer env =
        (.wait, { op with
          writer := some handed
          buffer := none
          writerEvent := writerEvent
          poolEvent := poolEvent }) ∧
      Received remote offset trace (op.getNextDownloadBuffer env).2 handed) ∨
    (op.getNextDownloadBuffer env).1 = .error ∧
      (op.getNextDownloadBuffer env).2.result = some .error := by
  obtain ⟨handed, start, ⟨bytes, ⟨capacity, got⟩ | got | got⟩ | ⟨lease, got⟩⟩ :=
    getNextDownloadBuffer_cases received.opened env
  · refine .inl ⟨handed, capacity, got, ?_⟩
    rw [got]
    exact received.hand rfl start (by simpa using bytes) rfl
  · refine .inr (.inl ⟨handed, true, op.poolEvent, got, ?_⟩)
    rw [got]
    exact received.hand rfl start (by simpa using bytes) rfl
  · refine .inr (.inl ⟨handed, op.writerEvent, true, got, ?_⟩)
    rw [got]
    exact received.hand rfl start (by simpa using bytes) rfl
  · refine .inr (.inr ⟨by rw [got], ?_⟩)
    simp [got, result]

def nextBlock (env : Env) (op : FileTransfer) : Continuation × FileTransfer :=
  match op.getNextDownloadBuffer env with
  | (.wait, op) => (.wait, op)
  | (.ok, op) => (.next, op.requestData env)
  | (.error, op) => (.next, op)

theorem Reading.requestData (reading : Reading remote offset trace op)
    (env : Env) : Reading remote offset trace (requestData env op) := by
  obtain ⟨count, rtt, maxPending, sent⟩ := requestData_eq env op
  rw [sent]
  obtain ⟨writer, received⟩ := reading.received
  exact {
    __ := reading
    received := ⟨writer, received.of_eq rfl rfl rfl rfl⟩
    connected := by simpa using reading.connected
    reads := reading.reads.requestReads reading.connected count
    blocked := fun waiting => reading.blocked (by simpa using waiting)
    unblocked := fun free => reading.unblocked (by simpa using free) }

theorem Streaming.nextBlock (streaming : Streaming remote offset trace op)
    (free : op.sftp.waitRead = false) (quiet : op.writerEvent = false) (env : Env) :
    Phase remote offset trace (proceed (FileTransfer.nextBlock env op))
      localSize := by
  obtain ⟨writer, received⟩ := streaming.received
  unfold FileTransfer.nextBlock
  rcases getNextDownloadBuffer_reading received streaming.result env with
    ⟨handed, capacity, got, later⟩ |
    ⟨handed, writerEvent, poolEvent, got, later⟩ | ⟨failed, ended⟩
  · rw [got] at later ⊢
    have reading : Reading remote offset trace
        { op with
          writer := some handed
          buffer := some { capacity := capacity, bytes := [] } } :=
      { streaming with
        received := ⟨handed, later⟩
        blocked := fun waiting => by simp [free] at waiting
        unblocked := fun _ => ⟨rfl, quiet⟩ }
    exact .reading (reading.requestData env)
  · rw [got] at later ⊢
    refine .reading { streaming with
      received := ⟨handed, later.of_eq rfl rfl rfl rfl⟩
      __ := streaming
      blocked := fun _ => rfl
      unblocked := fun free =>
        absurd (show true = false from free) (by decide) }
  · generalize op.getNextDownloadBuffer env = outcome at failed ended ⊢
    obtain ⟨answer, later⟩ := outcome
    simp only at failed ended
    subst failed
    exact .failed .error (by decide) ended

theorem processData_eq (env : Env) (data : Bytes) (op : FileTransfer)
    (fits : data.length ≤ blocksize)
    (single : ¬ (data.length ≠ blocksize ∧ op.shortRead = true)) :
    op.processData env data =
      let appended := { op with
        shortRead := op.shortRead || decide (data.length ≠ blocksize)
        buffer := appendBuffer op.buffer data
        responseOffset := op.responseOffset + data.length }
      if bufferFull appended.buffer then
        nextBlock env appended
      else
        (.next, requestData env appended) := by
  have large : ¬ data.length > blocksize := by omega
  have short : (decide (data.length ≠ blocksize) && op.shortRead) = false := by
    simpa using single
  unfold processData nextBlock
  simp only [large, if_false, short, Bool.false_eq_true]
  split
  · generalize getNextDownloadBuffer env _ = outcome
    obtain ⟨answer, later⟩ := outcome
    cases answer <;> rfl
  · rfl

variable {data : Bytes} {sftp : Client Unit}

theorem Reading.append (reading : Reading remote offset trace op)
    (free : op.sftp.waitRead = false) (connected : sftp.disconnecting = false)
    (reads : ReadsTile sftp
      (offset + blocksize * trace.blocks.length + blocksize) op.requestOffset)
    (blocks : trace'.blocks = trace.blocks ++
      [(offset + blocksize * trace.blocks.length, data)]) (eofs : trace'.eofs = trace.eofs)
    (answers : Answers remote blocksize (offset + blocksize * trace.blocks.length, data))
    (single : ¬ (data.length ≠ blocksize ∧ op.shortRead = true)) :
    Streaming remote offset trace' { op with
      sftp := sftp
      shortRead := op.shortRead || decide (data.length ≠ blocksize)
      buffer := appendBuffer op.buffer data
      responseOffset := op.responseOffset + data.length } := by
  obtain ⟨writer, received⟩ := reading.received
  obtain ⟨buffer, held⟩ := isSome_iff_exists.mp (reading.unblocked free).1
  refine {
    __ := reading
    received := ⟨writer, {
      __ := received
      bytes := ?_
      answers := ?_
      stride := ?_
      shorts := ?_ }⟩
    connected := connected
    reads := by
      simpa [blocks, Nat.mul_succ, Nat.add_assoc] using reads
    eofs := eofs.trans reading.eofs }
  · have bytes := received.bytes
    rw [held] at bytes
    rw [blocks]
    simp only [held, appendBuffer, map_some, leaseBytes_some, flatMap_append, ← bytes]
    simp
  · rw [blocks]
    intro block member
    rcases mem_append.mp member with earlier | last
    · exact received.answers block earlier
    · rw [mem_singleton.mp last]
      exact answers
  · rw [blocks]
    exact received.stride.snoc data
  · rw [blocks, countP_append, received.shorts]
    have upper := answers.2
    simp only at upper
    by_cases short : data.length = blocksize
    · simp [isShort, short]
    · have first : op.shortRead = false := by simpa [short] using single
      have below : data.length < blocksize := by omega
      simp [isShort, short, first, below]

theorem processHandle_eq (env : Env) (handle : String) (download : op.download = true) :
    op.processHandle env handle =
      match if op.resume then env.localSize else some 0 with
      | none => (.next, triggerReset { op with handle := handle } .error)
      | some offset =>
        if env.openWriter then
          nextBlock env { op with
            handle := handle
            requestOffset := offset
            responseOffset := offset
            writer := some { offset := offset, bytes := [] } }
        else
          (.next, triggerReset { op with
            handle := handle
            requestOffset := offset
            responseOffset := offset } .error) := by
  unfold processHandle
  exact if_pos download

theorem Opening.processHandle {handle : String} (opening : Opening offset trace op localSize)
    (free : sftp.waitRead = false) (connected : sftp.disconnecting = false)
    (live : sftp.liveKinds = []) (blocks : trace'.blocks = []) (eofs : trace'.eofs = [])
    (given : handle ≠ "") (size : env.localSize = none ∨ env.localSize = some localSize) :
    Phase remote offset trace'
      (proceed (FileTransfer.processHandle env handle { op with sftp := sftp }))
      localSize := by
  have sized : (if op.resume then env.localSize else some 0) = none ∨
      (if op.resume then env.localSize else some 0) = some offset := by
    rw [opening.start]
    unfold resumeOffset
    split
    · exact size
    · exact .inr rfl
  have handled := processHandle_eq env handle
    (show ({ op with sftp := sftp } : FileTransfer).download = true from opening.side.1)
  rw [handled]
  rcases sized with unknown | known
  · simp only [unknown]
    exact .failed .error (by decide) (by simp [opening.result])
  · simp only [known]
    by_cases opened : env.openWriter = true
    · have streaming : Streaming remote offset trace' { op with
          sftp := sftp
          handle := handle
          requestOffset := offset
          responseOffset := offset
          writer := some { offset := offset, bytes := [] } } := {
        __ := opening
        received := ⟨{ offset := offset, bytes := [] }, {
          opened := rfl
          start := rfl
          bytes := by simp [opening.buffer, blocks]
          answers := by simp [blocks]
          stride := by simp [blocks, OnStride]
          shorts := by simp [blocks, opening.shortRead] }⟩
        handle := given
        connected := connected
        reads := ⟨[], by simp [live], by simp, by simp [blocks]⟩
        eofs := eofs }
      simp only [opened, if_true]
      exact streaming.nextBlock free opening.writerEvent env
    · simp only [opened, Bool.false_eq_true, if_false]
      exact .failed .error (by decide) (by simp [opening.result])

theorem Reading.processData (reading : Reading remote offset trace op)
    (free : op.sftp.waitRead = false) (freed : sftp.waitRead = false)
    (connected : sftp.disconnecting = false) (reads : ReadsTile sftp
      (offset + blocksize * trace.blocks.length + blocksize) op.requestOffset)
    (blocks : trace'.blocks = trace.blocks ++
      [(offset + blocksize * trace.blocks.length, data)]) (eofs : trace'.eofs = trace.eofs)
    (answers : Answers remote blocksize (offset + blocksize * trace.blocks.length, data)) :
    Phase remote offset trace'
      (proceed (FileTransfer.processData env data { op with sftp := sftp }))
      localSize := by
  have fits : data.length ≤ blocksize := answers.2
  by_cases single : ¬ (data.length ≠ blocksize ∧ op.shortRead = true)
  · have streaming := reading.append free connected reads blocks eofs answers single
    rw [processData_eq env data { op with sftp := sftp } fits single]
    simp only
    split
    · exact streaming.nextBlock freed (reading.unblocked free).2 env
    · have later : Reading remote offset trace' { op with
          sftp := sftp
          shortRead := op.shortRead || decide (data.length ≠ blocksize)
          buffer := appendBuffer op.buffer data
          responseOffset := op.responseOffset + data.length } :=
        { streaming with
          blocked := fun waiting => by simp [freed] at waiting
          unblocked := fun _ =>
            ⟨by simpa [appendBuffer] using (reading.unblocked free).1,
              (reading.unblocked free).2⟩ }
      exact .reading (later.requestData env)
  · -- the second short read is the one that is noticed
    have second := not_not.mp single
    have large : ¬ data.length > blocksize := by omega
    refine .failed .criticalError (by decide) ?_
    simp [FileTransfer.processData, large, second, reading.result]

theorem Received.finalize
    (received : Received remote offset trace op writer) (side : Downloads op)
    (result : op.result = none) (quiet : op.writerEvent = false) (live : op.sftp.liveKinds = [])
    (eofs : trace.eofs = [offset + blocksize * trace.blocks.length]) (env : Env) :
    Phase remote offset trace (finalize env op) localSize := by
  obtain ⟨handed, lease, start, bytes, failed | ⟨moved, waits | done⟩⟩ :=
    finalize_cases received.opened env
  · rw [failed]
    exact .failed .error (by decide) (by simp [result])
  · rw [waits]
    exact .finishing {
      side := side
      received := ⟨handed, received.hand rfl start bytes rfl⟩
      finalizing := rfl
      live := live
      result := .inl result
      eofs := eofs }
  · rw [done]
    exact .finishing {
      side := side
      received := ⟨handed, received.hand rfl start bytes rfl⟩
      finalizing := rfl
      live := by simp [triggerReset]
      result := .inr ⟨by simp [result], moved, quiet⟩
      eofs := eofs }

theorem Reading.doProcessStatus {code : StatusCode} (reading : Reading remote offset trace op)
    (free : op.sftp.waitRead = false) (blocks : trace'.blocks = trace.blocks)
    (eofs : code = .eof → trace'.eofs = [offset + blocksize * trace.blocks.length]) :
    Phase remote offset trace'
      (proceed (FileTransfer.doProcessStatus env code { op with sftp := sftp }))
      localSize := by
  obtain ⟨writer, received⟩ := reading.received
  unfold FileTransfer.doProcessStatus
  rw [if_pos reading.side.1, if_pos reading.handle]
  by_cases ended : code = .eof
  · have kept : Received remote offset trace'
        { op with sftp := sftp.cancel () } writer :=
      received.of_eq blocks rfl rfl rfl
    have later := eofs ended
    rw [← blocks] at later
    rw [if_pos ended]
    exact kept.finalize reading.side reading.result (reading.unblocked free).2
      (liveKinds_cancel sftp) later env
  · rw [if_neg ended]
    exact .failed .error (by decide) (by simp [reading.result])

theorem deliveredBlock_data {start size : Nat}
    (answered : op.sftp.answer = some (⟨some (), .read start size⟩, sftp)) :
    op.deliveredBlock (.reply (.data data) env) = some (start, data) := by
  simp [deliveredBlock, answered]

theorem deliveredEof_eof {start size : Nat}
    (answered : op.sftp.answer = some (⟨some (), .read start size⟩, sftp)) :
    op.deliveredEof (.reply (.status .eof) env) = some start := by
  simp [deliveredEof, answered]

theorem delivered_of_answer (reply : Reply) (env : Env) {kind : RequestKind}
    {handler : Option Unit} (answered : op.sftp.answer = some (⟨handler, kind⟩, sftp))
    (other : handler = none ∨ kind = .open) :
    op.deliveredBlock (.reply reply env) = none ∧
      op.deliveredEof (.reply reply env) = none := by
  constructor
  · unfold deliveredBlock
    rcases other with rfl | rfl <;> split <;> simp_all
  · unfold deliveredEof
    rcases other with rfl | rfl <;> split <;> simp_all

theorem Trace.snoc_of_none (trace : Trace) (delivered : op.deliveredBlock event = none ∧
      op.deliveredEof event = none) :
    blocks (trace ++ [(op, event)]) = trace.blocks ∧
      eofs (trace ++ [(op, event)]) = trace.eofs := by
  simp [blocks_snoc, eofs_snoc, delivered]

variable {reply : Reply}

theorem Opening.receive (opening : Opening offset trace op localSize)
    (size : env.localSize = none ∨ env.localSize = some localSize)
    (taken : op.receive env reply = some next) :
    Phase remote offset (trace ++ [(op, .reply reply env)]) next localSize := by
  obtain ⟨kind, sftp, allowed, ⟨answered, rfl⟩ | ⟨answered, rfl⟩⟩ := receive_eq_some taken
  · obtain ⟨blocks, eofs⟩ := snoc_of_none trace
      (delivered_of_answer reply env answered (.inl rfl))
    have live := liveKinds_of_answer_none answered
    exact .opening { opening with
      live := by rw [← live]; exact opening.live
      blocks := blocks.trans opening.blocks
      eofs := eofs.trans opening.eofs }
  · have live := liveKinds_of_answer answered
    obtain ⟨rfl, rest⟩ : kind = .open ∧ sftp.liveKinds = [] := by
      rcases opening.live with none | one
      · simp [none] at live
      · simpa [one] using live.symm
    obtain ⟨-, free, -, connected⟩ := answer_flags answered
    obtain ⟨blocks, eofs⟩ := snoc_of_none trace
      (delivered_of_answer reply env answered (.inr rfl))
    rw [opening.blocks] at blocks
    rw [opening.eofs] at eofs
    cases reply with
    | handle handle =>
      by_cases given : handle = ""
      · exact .failed .error (by decide) (by simp [processReply, given, opening.result])
      · simp only [processReply, given, if_false]
        exact opening.processHandle free connected rest blocks eofs given size
    | data data => simp [RequestKind.allows] at allowed
    | status code =>
      refine .failed .error (by decide) ?_
      simp [processReply, FileTransfer.doProcessStatus, opening.side.1,
        opening.handle, opening.result]
    | failure =>
      exact .failed .error (by decide) (by simp [processReply, opening.result])

theorem Reading.receive (reading : Reading remote offset trace op)
    (fits : ReplyFits remote localSize op (.reply reply env))
    (taken : op.receive env reply = some next) :
    Phase remote offset (trace ++ [(op, .reply reply env)]) next localSize := by
  obtain ⟨kind, sftp, allowed, ⟨answered, rfl⟩ | ⟨answered, rfl⟩⟩ := receive_eq_some taken
  · obtain ⟨blocks, eofs⟩ := snoc_of_none trace
      (delivered_of_answer reply env answered (.inl rfl))
    have live := liveKinds_of_answer_none answered
    obtain ⟨-, flags⟩ := answer_flags answered
    obtain ⟨free, -, connected, connected'⟩ := answer_flags answered
    obtain ⟨writer, received⟩ := reading.received
    obtain ⟨ranges, listed, reads⟩ := reading.reads
    exact .reading {
      __ := reading
      received := ⟨writer, received.of_eq blocks rfl rfl rfl⟩
      connected := connected'
      reads := by
        rw [blocks]
        exact ⟨ranges, live.symm.trans listed, reads⟩
      eofs := eofs.trans reading.eofs
      blocked := fun waiting => by simp [flags.1] at waiting
      unblocked := fun _ => reading.unblocked free }
  · obtain ⟨free, freed, -, connected⟩ := answer_flags answered
    obtain ⟨rfl, reads⟩ := reading.reads.pop (liveKinds_of_answer answered)
    cases reply with
    | handle handle => simp [RequestKind.allows] at allowed
    | data data =>
      have delivered : op.deliveredBlock (.reply (.data data) env) = some
          (offset + blocksize * trace.blocks.length, data) :=
        deliveredBlock_data answered
      refine reading.processData free freed connected reads ?_ ?_ (fits.block _ delivered)
      · rw [blocks_snoc, delivered]
        rfl
      · rw [eofs_snoc]
        simp [deliveredEof]
    | status code =>
      refine reading.doProcessStatus free ?_ ?_
      · rw [blocks_snoc]
        simp [deliveredBlock]
      · rintro rfl
        rw [eofs_snoc, deliveredEof_eof answered, reading.eofs]
        rfl
    | failure =>
      exact .failed .error (by decide) (by simp [processReply, reading.result])

theorem Finishing.receive (finishing : Finishing remote offset trace op)
    (taken : op.receive env reply = some next) :
    Phase remote offset (trace ++ [(op, .reply reply env)]) next localSize := by
  obtain ⟨kind, sftp, allowed, ⟨answered, rfl⟩ | ⟨answered, rfl⟩⟩ := receive_eq_some taken
  · obtain ⟨blocks, eofs⟩ := snoc_of_none trace
      (delivered_of_answer reply env answered (.inl rfl))
    have live := liveKinds_of_answer_none answered
    obtain ⟨writer, received⟩ := finishing.received
    exact .finishing { finishing with
      received := ⟨writer, received.of_eq blocks rfl rfl rfl⟩
      live := by rw [← live]; exact finishing.live
      eofs := by rw [eofs, blocks]; exact finishing.eofs }
  · have live := liveKinds_of_answer answered
    simp [finishing.live] at live

theorem delivered_of_other (other : ∀ reply env, event ≠ .reply reply env) :
    op.deliveredBlock event = none ∧ op.deliveredEof event = none := by
  cases event with
  | reply reply env => exact absurd rfl (other reply env)
  | _ => exact ⟨rfl, rfl⟩

theorem Reading.writerAvailability
    (reading : Reading remote offset trace op) (waited : op.writerEvent = true) (env : Env) :
    Phase remote offset trace
      (onWriterAvailability env { op with writerEvent := false }) localSize := by
  have waiting : op.sftp.waitRead = true := by
    by_contra free
    have quiet := (reading.unblocked (by simpa using free)).2
    simp [waited] at quiet
  obtain ⟨writer, received⟩ := reading.received
  have streaming : Streaming remote offset trace
      { op with writerEvent := false } :=
    { reading with received := ⟨writer, received.of_eq rfl rfl rfl rfl⟩ }
  unfold onWriterAvailability
  rw [if_neg (by simp [reading.running])]
  have kept : Received remote offset trace { op with writerEvent := false }
      writer := received.of_eq rfl rfl rfl rfl
  rcases getNextDownloadBuffer_reading kept reading.result env with
    ⟨handed, capacity, got, later⟩ |
    ⟨handed, writerEvent, poolEvent, got, later⟩ | ⟨failed, ended⟩
  · rw [got] at later ⊢
    have unblocked : Reading remote offset trace { op with
        writer := some handed
        buffer := some { capacity := capacity, bytes := [] }
        sftp := op.sftp.unblockRead
        writerEvent := false } :=
      { streaming with
        received := ⟨handed, later.of_eq rfl rfl rfl rfl⟩
        blocked := fun waiting =>
          absurd (show false = true from waiting) (by decide)
        unblocked := fun _ => ⟨rfl, rfl⟩ }
    exact .reading (unblocked.requestData env)
  · rw [got] at later ⊢
    exact .reading { streaming with
      received := ⟨handed, later⟩
      blocked := fun _ => rfl
      unblocked := fun free =>
        absurd (waiting.symm.trans free) (by decide) }
  · generalize getNextDownloadBuffer env _ = outcome at failed ended ⊢
    obtain ⟨answer, later⟩ := outcome
    simp only at failed ended
    subst failed
    exact .failed .error (by decide) ended

theorem Finishing.writerAvailability (finishing : Finishing remote offset trace op)
    (waited : op.writerEvent = true) (env : Env) :
    Phase remote offset trace
      (onWriterAvailability env { op with writerEvent := false }) localSize := by
  obtain ⟨writer, received⟩ := finishing.received
  have unfinished : op.result = none := by
    rcases finishing.result with result | ⟨-, -, quiet⟩
    · exact result
    · simp [waited] at quiet
  have kept : Received remote offset trace { op with writerEvent := false }
      writer := received.of_eq rfl rfl rfl rfl
  unfold onWriterAvailability
  rw [if_pos finishing.finalizing]
  exact kept.finalize finishing.side unfinished rfl finishing.live finishing.eofs env

theorem Phase.of_trace (phase : Phase remote offset trace op localSize)
    (blocks : trace'.blocks = trace.blocks) (eofs : trace'.eofs = trace.eofs) :
    Phase remote offset trace' op localSize := by
  cases phase with
  | failed code failed result => exact .failed code failed result
  | opening phase =>
    exact .opening { phase with
      blocks := blocks.trans phase.blocks
      eofs := eofs.trans phase.eofs }
  | reading phase =>
    obtain ⟨writer, received⟩ := phase.received
    exact .reading { phase with
      received := ⟨writer, received.of_eq blocks rfl rfl rfl⟩
      reads := by rw [blocks]; exact phase.reads
      eofs := eofs.trans phase.eofs }
  | finishing phase =>
    obtain ⟨writer, received⟩ := phase.received
    exact .finishing { phase with
      received := ⟨writer, received.of_eq blocks rfl rfl rfl⟩
      eofs := by rw [eofs, blocks]; exact phase.eofs }

theorem Phase.downloads (phase : Phase remote offset trace op localSize) :
    (∃ code, code ≠ .ok ∧ op.result = some code) ∨ Downloads op := by
  cases phase with
  | failed code failed result => exact .inl ⟨code, failed, result⟩
  | opening phase => exact .inr phase.side
  | reading phase => exact .inr phase.side
  | finishing phase => exact .inr phase.side

theorem Phase.writerAvailability (phase : Phase remote offset trace op localSize)
    (waited : op.writerEvent = true) (env : Env)
    (running : op.result = none ∨ op.result = some .ok) :
    Phase remote offset trace
      (onWriterAvailability env { op with writerEvent := false }) localSize := by
  cases phase with
  | failed code failed result =>
    rcases running with result' | result' <;> simp_all
  | opening phase => simp [phase.writerEvent] at waited
  | reading phase => exact phase.writerAvailability waited env
  | finishing phase => exact phase.writerAvailability waited env

theorem Phase.receive (phase : Phase remote offset trace op localSize)
    (fits : ReplyFits remote localSize op (.reply reply env))
    (taken : op.receive env reply = some next) :
    Phase remote offset (trace ++ [(op, .reply reply env)]) next localSize := by
  cases phase with
  | failed code failed result =>
    have stepped : op.step (.reply reply env) = some next := taken
    exact .failed code failed (result_of_step result stepped)
  | opening phase => exact phase.receive (fits.size reply env rfl) taken
  | reading phase => exact phase.receive fits taken
  | finishing phase => exact phase.receive taken

theorem Phase.channelDone (phase : Phase remote offset trace op localSize) :
    Phase remote offset trace
      { op with
        sftp := { op.sftp with disconnecting := true }
        result := op.result.or (some .disconnected) } localSize := by
  cases phase with
  | failed code failed result =>
    exact .failed code failed (by simp [result])
  | opening phase =>
    exact .failed .disconnected (by decide) (by simp [phase.result])
  | reading phase =>
    exact .failed .disconnected (by decide) (by simp [phase.result])
  | finishing phase =>
    rcases phase.result with result | ⟨result, moved, quiet⟩
    · exact .failed .disconnected (by decide) (by simp [result])
    · obtain ⟨writer, received⟩ := phase.received
      exact .finishing { phase with
        received := ⟨writer, received.of_eq rfl rfl rfl rfl⟩
        live := phase.live
        result := .inr ⟨by simp [result], moved, quiet⟩ }

theorem Phase.poolAvailability (phase : Phase remote offset trace op localSize) :
    Phase remote offset trace { op with poolEvent := false } localSize := by
  cases phase with
  | failed code failed result => exact .failed code failed result
  | opening phase => exact .opening { phase with }
  | reading phase =>
    obtain ⟨writer, received⟩ := phase.received
    exact .reading { phase with
      received := ⟨writer, received.of_eq rfl rfl rfl rfl⟩ }
  | finishing phase =>
    obtain ⟨writer, received⟩ := phase.received
    exact .finishing { phase with
      received := ⟨writer, received.of_eq rfl rfl rfl rfl⟩ }

theorem Phase.step (phase : Phase remote offset trace op localSize)
    (fits : ReplyFits remote localSize op event) (taken : op.step event = some next) :
    Phase remote offset (trace ++ [(op, event)]) next localSize := by
  by_cases ended : ∃ code, code ≠ .ok ∧ op.result = some code
  · obtain ⟨code, failed, result⟩ := ended
    exact .failed code failed (result_of_step result taken)
  · obtain ⟨-, noReader, noSend⟩ := phase.downloads.resolve_left ended
    have running : op.result = none ∨ op.result = some .ok := by
      cases result : op.result with
      | none => exact .inl rfl
      | some code =>
        right
        by_contra other
        exact ended ⟨code, fun same => other (by rw [same]), result⟩
    have silent : (∀ reply env, event ≠ .reply reply env) →
        Phase remote offset trace next localSize →
        Phase remote offset (trace ++ [(op, event)]) next localSize := by
      intro other later
      obtain ⟨blocks, eofs⟩ := snoc_of_none trace (delivered_of_other other)
      exact later.of_trace blocks eofs
    cases event with
    | reply reply env => exact phase.receive fits taken
    | writerAvailability env =>
      apply silent (by simp)
      obtain ⟨waited, rfl⟩ := some_of_guard taken
      exact phase.writerAvailability waited env running
    | poolAvailability =>
      apply silent (by simp)
      obtain ⟨-, rfl⟩ := some_of_guard taken
      exact phase.poolAvailability
    | readerAvailability env => simp [FileTransfer.step, noReader] at taken
    | outbufEmpty env => simp [FileTransfer.step, noSend] at taken
    | channelDone =>
      apply silent (by simp)
      simp only [FileTransfer.step, some.injEq] at taken
      subst taken
      exact phase.channelDone

end Steps

section Download

variable {remote : Bytes} {localSize : Nat} {resume : Bool}
  {sftp : Client Unit} {trace : Trace} {op : FileTransfer}

theorem downloadStart_phase (idle : sftp.liveKinds = []) :
    Phase remote (resumeOffset resume localSize) [] (downloadStart resume sftp) localSize := by
  refine .opening {
    side := ⟨rfl, rfl, rfl⟩
    start := rfl
    handle := rfl
    writer := rfl
    result := rfl
    running := rfl
    buffer := rfl
    writerEvent := rfl
    shortRead := rfl
    live := ?_
    blocks := rfl
    eofs := rfl }
  have sent : (downloadStart resume sftp).sftp = sftp.request (some ()) .open := rfl
  rw [sent]
  by_cases connected : sftp.disconnecting = false
  · right
    rw [liveKinds_request connected, idle]
    rfl
  · left
    simpa [request, connected] using idle

theorem phase_of_run (idle : sftp.liveKinds = [])
    (run : Run step (downloadStart resume sftp) trace op)
    (fits : ∀ taken ∈ trace, ReplyFits remote localSize taken.1 taken.2) :
    Phase remote (resumeOffset resume localSize) trace op localSize :=
  @Run.trace_invariant_of_forall _ _ step _ _ _ (fun trace op =>
      Phase remote (resumeOffset resume localSize) trace op localSize)
    (ReplyFits remote localSize) (downloadStart_phase idle)
    (fun _ _ _ _ phase fits taken => phase.step fits taken) run fits

theorem endsFile_iff (trace : Trace) :
    (∀ taken ∈ trace, EndsFile remote taken.1 taken.2) ↔
      (∀ block ∈ trace.blocks, ReachesEnd remote blocksize block) ∧
        ∀ offset ∈ trace.eofs, remote.length ≤ offset := by
  simp only [blocks, eofs, mem_filterMap, forall_exists_index, and_imp]
  constructor
  · intro ends
    exact ⟨fun block taken member delivered =>
        (ends taken member).block block delivered,
      fun offset taken member delivered =>
        (ends taken member).eof offset delivered⟩
  · rintro ⟨blocks, eofs⟩ taken member
    exact ⟨fun block delivered => blocks block taken member delivered,
      fun offset delivered => eofs offset taken member delivered⟩

/-- A download that reports success wrote the remote file from the resume
offset on exactly when the replies were short at the end of the file only and
the file had no byte left at `SSH_FX_EOF`. -/
theorem download_ok_iff (idle : sftp.liveKinds = [])
    (run : Run step (downloadStart resume sftp) trace op)
    (fits : ∀ taken ∈ trace, ReplyFits remote localSize taken.1 taken.2)
    (ended : op.result = some .ok) :
    op.writer = some
        { offset := resumeOffset resume localSize
          bytes := remote.drop (resumeOffset resume localSize) } ↔
      ∀ taken ∈ trace, EndsFile remote taken.1 taken.2 := by
  cases phase_of_run idle run fits with
  | failed code failed result =>
    rw [ended] at result
    exact absurd (some.inj result).symm failed
  | opening phase => simp [phase.result] at ended
  | reading phase => simp [phase.result] at ended
  | finishing phase =>
    obtain ⟨writer, received⟩ := phase.received
    have moved : leaseBytes op.buffer = [] := by
      rcases phase.result with result | ⟨-, moved, -⟩
      · simp [result] at ended
      · exact moved
    have bytes : writer.bytes = trace.blocks.flatMap Prod.snd := by
      simpa [moved] using received.bytes
    have once : trace.blocks.countP (isShort blocksize) ≤ 1 := by
      rw [received.shorts]
      cases op.shortRead <;> decide
    rw [endsFile_iff, phase.eofs, forall_mem_singleton,
      ← received.stride.flatMap_eq_drop_iff (by decide) received.answers once,
      received.opened, ← bytes, some.injEq]
    constructor
    · rintro rfl
      rfl
    · intro same
      obtain ⟨start, written⟩ := writer
      have startEq := received.start
      simp only at startEq same
      rw [startEq, same]

theorem replyFits_of_delivers {op : FileTransfer} {reply : Reply}
    (block : ∀ block, op.deliveredBlock (.reply reply {}) = some block →
      Answers remote blocksize block) :
    ReplyFits remote localSize op (.reply reply {}) where
  block := block
  size := by
    intro reply' env same
    cases same
    exact .inl rfl

theorem download_ok_iff_one_block :
    ∃ trace op, Run step (downloadStart false {}) trace op ∧
      op.result = some .ok ∧
      (op.writer = some { offset := 0, bytes := [1, 2, 3] } ↔
        ∀ taken ∈ trace, EndsFile [1, 2, 3] taken.1 taken.2) := by
  let events : List Event := [.reply (.handle "h") {},
    .reply (.data [1, 2, 3]) {}, .reply (.status .eof) {}]
  have run := @execute_run _ _ step (downloadStart false {}) _ events _ rfl
  refine ⟨_, _, run, rfl, @download_ok_iff _ 0 _ _ _ _ rfl run ?_ rfl⟩
  intro taken member
  simp only [mem_cons, not_mem_nil, or_false] at member
  rcases member with rfl | rfl | rfl
  all_goals
    refine replyFits_of_delivers ?_
    intro block delivered
    cases delivered
  constructor <;> decide

/-- The first read is answered with less than there is and the second one,
behind the end of the file, with `SSH_FX_EOF`. -/
theorem not_download_intact :
    ¬ ∀ (remote : Bytes) (localSize : Nat) (resume : Bool)
      (sftp : Client Unit) (trace : Trace) (op : FileTransfer),
      sftp.liveKinds = [] → Run step (downloadStart resume sftp) trace op →
      (∀ taken ∈ trace, ReplyFits remote localSize taken.1 taken.2) → op.result = some .ok →
      op.writer = some
        { offset := resumeOffset resume localSize
          bytes := remote.drop (resumeOffset resume localSize) } := by
  intro intact
  let events : List Event := [.reply (.handle "h") {},
    .reply (.data [1, 2]) {}, .reply (.status .eof) {}]
  have run := @execute_run _ _ step (downloadStart false {}) _ events _ rfl
  have written := intact [1, 2, 3] 0 false {} _ _ rfl run ?_ rfl
  · cases written
  · intro taken member
    simp only [mem_cons, not_mem_nil, or_false] at member
    rcases member with rfl | rfl | rfl
    all_goals
      refine replyFits_of_delivers ?_
      intro block delivered
      cases delivered
    constructor <;> decide

end Download

end FileTransfer

end FileZilla.Sftp
