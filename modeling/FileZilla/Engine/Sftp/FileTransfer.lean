import FileZilla.Engine.Sftp.Client

namespace FileZilla.Sftp

/-! `CSftpFileTransferOpData` from `Send` in `filetransfer_transfer` on, for
uploads and for downloads over a single stream. -/

def blocksize : Nat := 32768

def initialMaxPending : Nat := 16

inductive ReplyCode
  | ok
  | error
  | criticalError
  | writeFailed
  | disconnected
  deriving DecidableEq

structure Env where
  localSize : Option Nat := none
  openWriter : Bool := true
  addBuffer : AioResult := .ok
  finalize : AioResult := .ok
  /-- The capacity of the buffer the pool hands out, if it has one. -/
  poolBuffer : Option Nat := some 262144
  getBuffer : AioResult := .ok
  chunk : Nat := 0
  /-- `can_send_packets()`, by the number of the call within the event. -/
  sendable : Nat → Bool := fun _ => true
  milliseconds : Nat := 0
  mtime : Bool := false

/-- Round trip measurement: whether `requested_` is set, and `offset_`. -/
structure Rtt where
  requested : Bool := false
  offset : Nat := 0

/-- The `...Event` flags say that the named event is queued for the operation
or that it is registered to get one. `result` is the first reset event. -/
structure FileTransfer where
  download : Bool
  resume : Bool
  preserveTimestamps : Bool := false
  remoteFileSize : Nat := 0
  handle : String := ""
  requestOffset : Nat := 0
  responseOffset : Nat := 0
  reader : Option Reader := none
  writer : Option Writer := none
  finalizing : Bool := false
  shortRead : Bool := false
  calledFsetstat : Bool := false
  buffer : Lease := none
  rtt : Rtt := {}
  maxPending : Nat := initialMaxPending
  sftp : Client Unit := {}
  writerEvent : Bool := false
  poolEvent : Bool := false
  readerEvent : Bool := false
  sendEvent : Bool := false
  result : Option ReplyCode := none

namespace FileTransfer

def triggerReset (op : FileTransfer) (code : ReplyCode) : FileTransfer :=
  { op with
    sftp := op.sftp.cancel ()
    result := op.result.or (some code) }

/-- `Send` in state `filetransfer_transfer`; `content` is the local file. -/
def send (op : FileTransfer) (content : Bytes) : FileTransfer :=
  if op.download then
    { op with sftp := op.sftp.request (some ()) .open }
  else
    let offset := if op.resume then op.remoteFileSize else 0
    { op with
      requestOffset := offset
      reader := some { remaining := content.drop offset }
      sftp := op.sftp.request (some ()) .open }

/-- One pass of the measurement at the top of `request_data`: aim for 500 ms
between queuing a request and its reply. -/
def adaptMaxPending (maxPending milliseconds : Nat) : Nat :=
  let ms := if milliseconds < 1 then 1 else milliseconds
  let idealPending := maxPending * 500 / ms
  if idealPending > maxPending then
    let divisor := if idealPending > maxPending * 2 then 2 else 8
    let grown := maxPending + maxPending / divisor
    if grown > 1024 * 16 then 1024 * 16 else grown
  else if idealPending < maxPending then
    let divisor := if idealPending * 2 < maxPending then 2 else 8
    let shrunk := maxPending - maxPending / divisor
    if shrunk < initialMaxPending then initialMaxPending else shrunk
  else
    maxPending

/-- The loop of `request_data`, with the number of reads it sent. -/
def sendReads (env : Env) : Nat → FileTransfer → FileTransfer × Nat
  | 0, op => (op, 0)
  | remaining + 1, op =>
    if op.sftp.pendingRequests < op.maxPending && env.sendable remaining then
      let (sent, count) := sendReads env remaining
        { op with
          sftp := op.sftp.request (some ()) (.read op.requestOffset blocksize)
          requestOffset := op.requestOffset + blocksize }
      (sent, count + 1)
    else
      (op, 0)

def measureRtt (env : Env) (op : FileTransfer) : FileTransfer :=
  if op.rtt.requested && op.responseOffset == op.rtt.offset then
    { op with
      rtt := { op.rtt with requested := false }
      maxPending := adaptMaxPending op.maxPending env.milliseconds }
  else
    op

def requestData (env : Env) (op : FileTransfer) : FileTransfer :=
  let (op, sent) := sendReads env 2 (measureRtt env op)
  if sent ≠ 0 && op.sftp.pendingRequests == op.maxPending && !op.rtt.requested then
    { op with rtt := { requested := true, offset := op.requestOffset } }
  else
    op

/-- The caller has a writer; without one nothing can be handed over. -/
def getNextDownloadBuffer (env : Env) (op : FileTransfer) :
    AioResult × FileTransfer :=
  match op.writer with
  | none => (.error, op.triggerReset .error)
  | some writer =>
    let (added, writer, lease) := writer.addBuffer op.buffer env.addBuffer
    let op := { op with writer := some writer, buffer := lease }
    match added with
    | .error => (.error, op.triggerReset .error)
    | .wait => (.wait, { op with writerEvent := true })
    | .ok =>
      match env.poolBuffer with
      | none => (.wait, { op with buffer := none, poolEvent := true })
      | some capacity =>
        (.ok, { op with buffer := some { capacity, bytes := [] } })

def getNextUploadBuffer (env : Env) (op : FileTransfer) :
    AioResult × FileTransfer :=
  match op.reader with
  | none => (.error, op.triggerReset .error)
  | some reader =>
    let (got, reader, lease) := reader.getBuffer env.getBuffer env.chunk
    let op := { op with reader := some reader, buffer := lease }
    match got with
    | .error => (.error, op.triggerReset .error)
    | .wait => (.wait, { op with readerEvent := true })
    | .ok => (.ok, op)

def finalize (env : Env) (op : FileTransfer) : FileTransfer :=
  let op := { op with finalizing := true }
  match op.writer with
  | none => op.triggerReset .error
  | some writer =>
    let (added, writer, lease) := writer.addBuffer op.buffer env.addBuffer
    let op := { op with writer := some writer, buffer := lease }
    let finalized := if added = .ok then env.finalize else added
    match finalized with
    | .error => op.triggerReset .error
    | .wait => { op with writerEvent := true }
    | .ok => op.triggerReset .ok

def processHandle (env : Env) (handle : String) (op : FileTransfer) :
    Continuation × FileTransfer :=
  let op := { op with handle := handle }
  if op.download then
    match if op.resume then env.localSize else some 0 with
    | none => (.next, op.triggerReset .error)
    | some offset =>
      let op := { op with requestOffset := offset, responseOffset := offset }
      if env.openWriter then
        let op := { op with writer := some { offset := offset, bytes := [] } }
        match op.getNextDownloadBuffer env with
        | (.wait, op) => (.wait, op)
        | (.ok, op) => (.next, op.requestData env)
        | (.error, op) => (.next, op)
      else
        (.next, op.triggerReset .error)
  else
    (.next, { op with sendEvent := true })

def appendBuffer (lease : Lease) (data : Bytes) : Lease :=
  lease.map fun buffer => { buffer with bytes := buffer.bytes ++ data }

/-- `buffer_->capacity() - buffer_->size() < blocksize_` -/
def bufferFull : Lease → Bool
  | none => true
  | some buffer => decide (buffer.capacity - buffer.bytes.length < blocksize)

def processData (env : Env) (data : Bytes) (op : FileTransfer) :
    Continuation × FileTransfer :=
  if data.length > blocksize then
    (.error, op)
  else if data.length ≠ blocksize && op.shortRead then
    (.next, op.triggerReset .criticalError)
  else
    let op :=
      { op with
        shortRead := op.shortRead || decide (data.length ≠ blocksize)
        buffer := appendBuffer op.buffer data
        responseOffset := op.responseOffset + data.length }
    if bufferFull op.buffer then
      match op.getNextDownloadBuffer env with
      | (.wait, op) => (.wait, op)
      | (.error, op) => (.next, op)
      | (.ok, op) => (.next, op.requestData env)
    else
      (.next, op.requestData env)

def doProcessStatus (env : Env) (code : StatusCode) (op : FileTransfer) :
    Continuation × FileTransfer :=
  if op.download then
    if op.handle ≠ "" then
      if code = .eof then
        (.next, finalize env { op with sftp := op.sftp.cancel () })
      else
        (.next, op.triggerReset .error)
    else
      (.next, op.triggerReset .error)
  else
    if code = .ok then
      if op.finalizing && op.sftp.pendingRequests == 0 then
        (.next, op.triggerReset .ok)
      else
        (.next, op)
    else if op.handle = "" && !op.finalizing then
      (.next, op.triggerReset .error)
    else if op.calledFsetstat && op.sftp.pendingRequests == 1 then
      -- only the modification time could not be set
      (.next, op)
    else
      (.next, op.triggerReset .error)

/-- Which event `on_can_send` was called for, and so which one
`resend_current_event` queues again. -/
inductive SendTrigger
  | outbufEmpty
  | readerAvailable

def resendCurrentEvent : SendTrigger → FileTransfer → FileTransfer
  | .outbufEmpty, op => { op with sendEvent := true }
  | .readerAvailable, op => { op with readerEvent := true }

/-- The end of the local file in `on_can_send`. -/
def closeRemote (env : Env) (op : FileTransfer) : FileTransfer :=
  let op := { op with finalizing := true }
  let op :=
    if op.preserveTimestamps && env.mtime then
      { op with
        sftp := op.sftp.request (some ()) .fsetstat
        calledFsetstat := true }
    else
      op
  { op with
    sftp := op.sftp.request (some ()) .close
    handle := "" }

/-- The rest of `on_can_send`, with a block at hand. -/
def writeBlock (env : Env) (trigger : SendTrigger) (op : FileTransfer) :
    FileTransfer :=
  if env.sendable 0 then
    let size := min blocksize (leaseBytes op.buffer).length
    resendCurrentEvent trigger
      { op with
        sftp := op.sftp.request (some ())
          (.write op.requestOffset ((leaseBytes op.buffer).take size))
        requestOffset := op.requestOffset + size
        buffer := op.buffer.map fun buffer =>
          { buffer with bytes := buffer.bytes.drop size } }
  else
    { op with sendEvent := true }

def onCanSend (env : Env) (trigger : SendTrigger) (op : FileTransfer) :
    FileTransfer :=
  if leaseEmpty op.buffer then
    match op.getNextUploadBuffer env with
    | (.ok, op) =>
      if leaseEmpty op.buffer then
        op.closeRemote env
      else
        op.writeBlock env trigger
    | (_, op) => op
  else
    op.writeBlock env trigger

/-- `OnBufferAvailability` for the writer. -/
def onWriterAvailability (env : Env) (op : FileTransfer) : FileTransfer :=
  if op.finalizing then
    op.finalize env
  else
    match op.getNextDownloadBuffer env with
    | (.ok, op) => requestData env { op with sftp := op.sftp.unblockRead }
    | (_, op) => op

/-! Events. An aio or `outbuf_empty_event` only comes when it was asked for;
`OnBufferAvailability` ignores the buffer pool. -/

inductive Event
  | reply (reply : Reply) (env : Env)
  | writerAvailability (env : Env)
  | poolAvailability
  | readerAvailability (env : Env)
  | outbufEmpty (env : Env)
  | channelDone

def processReply (env : Env) (reply : Reply) (op : FileTransfer) :
    Continuation × FileTransfer :=
  match reply with
  | .handle handle =>
    if handle = "" then
      (.next, op.triggerReset .error)
    else
      op.processHandle env handle
  | .data data => op.processData env data
  | .status code => op.doProcessStatus env code
  | .failure => (.next, op.triggerReset .error)

def proceed (handled : Continuation × FileTransfer) : FileTransfer :=
  { handled.2 with sftp := handled.2.sftp.proceed handled.1 }

def receive (env : Env) (reply : Reply) (op : FileTransfer) :
    Option FileTransfer :=
  match op.sftp.answer with
  | none => none
  | some (request, sftp) =>
    if request.kind.allows reply then
      let op := { op with sftp := sftp }
      match request.handler with
      | none => some op
      | some _ => some (proceed (op.processReply env reply))
    else
      none

def step (op : FileTransfer) : Event → Option FileTransfer
  | .reply reply env => op.receive env reply
  | .writerAvailability env =>
    if op.writerEvent then
      some (onWriterAvailability env { op with writerEvent := false })
    else
      none
  | .poolAvailability =>
    if op.poolEvent then
      some { op with poolEvent := false }
    else
      none
  | .readerAvailability env =>
    if op.readerEvent then
      some (onCanSend env .readerAvailable { op with readerEvent := false })
    else
      none
  | .outbufEmpty env =>
    if op.sendEvent then
      some (onCanSend env .outbufEmpty { op with sendEvent := false })
    else
      none
  | .channelDone =>
    some { op with
      sftp := { op.sftp with disconnecting := true }
      result := op.result.or (some .disconnected) }

end FileTransfer

end FileZilla.Sftp
