import FileZilla.Engine.Sftp.FileTransfer
import Mathlib.Data.List.FinRange
import Mathlib.Algebra.Order.Ring.Int

namespace FileZilla.Sftp

/-! Segmented downloads of `CSftpFileTransferOpData`. A channel is `none` for
the primary connection or the index of an additional one. -/

abbrev Channel := Option Nat

structure SegmentPipeState where
  rttRequested : Bool := false
  rttOffset : Nat := 0
  requestedOffset : Nat := 0
  responseOffset : Nat := 0
  maxPending : Nat := initialMaxPending
  nextSegment : Nat := 0

/-- The `...Event` flags say that the segment is registered for the event or
has it queued. -/
structure SegmentHandler where
  offset : Nat
  length : Nat
  received : Nat := 0
  partSize : Nat := 0
  requestOffset : Nat
  conn : Channel := none
  handle : String := ""
  writer : Option Writer := none
  buffer : Lease := none
  outstanding : List Nat := []
  stallChannel : Option Channel := none
  finalizing : Bool := false
  done : Bool := false
  writerEvent : Bool := false
  poolEvent : Bool := false

structure Endpoint (count : Nat) where
  sftp : Client (Fin count) := {}
  pipe : SegmentPipeState := {}

inductive ConnectionState
  | establishing
  | ready
  | failed
  deriving DecidableEq

inductive OpState
  | transfer
  | segmented
  | concat
  deriving DecidableEq

structure Concat where
  reader : Option Reader := none
  writer : Option Writer := none
  buffer : Lease := none
  part : Nat := 0
  received : Nat := 0
  finalizing : Bool := false
  writerEvent : Bool := false
  readerEvent : Bool := false

/-- `parts` are the part files as their writers found them or left them,
`merged` the local file once its writer is finalized. -/
structure SegmentedDownload (count : Nat) where
  remoteFileSize : Nat
  segments : Fin count → SegmentHandler
  segmentsDone : Nat := 0
  segFailed : Bool := false
  endpoints : Channel → Endpoint count := fun _ => {}
  connections : List ConnectionState := []
  opState : OpState := .transfer
  parts : Nat → Option Bytes := fun _ => none
  manifest : Option String := none
  concat : Concat := {}
  merged : Option Bytes := none
  result : Option ReplyCode := none

/-- What `concat_pump` gets from the libraries for one buffer. -/
structure PumpAnswer where
  getBuffer : AioResult := .ok
  chunk : Nat := 0
  addBuffer : AioResult := .ok

structure SegmentEnv where
  openWriter : Bool := true
  addBuffer : AioResult := .ok
  finalize : AioResult := .ok
  poolBuffer : Option Nat := some 262144
  sendable : Nat → Bool := fun _ => true
  milliseconds : Nat := 0
  openConcat : Bool := true
  openReader : Nat → Bool := fun _ => true
  pump : List PumpAnswer := []
  finalizeConcat : AioResult := .ok

/-- Subtraction of `uint64_t` values. -/
def subUInt64 (minuend subtrahend : Nat) : Nat :=
  if subtrahend ≤ minuend then
    minuend - subtrahend
  else
    minuend + 2 ^ 64 - subtrahend

def openFile (content : Option Bytes) (offset : Nat) : Option Bytes :=
  if offset = 0 then
    some []
  else
    content.map fun bytes =>
      bytes.take offset ++ List.replicate (offset - bytes.length) 0

namespace SegmentedDownload

variable {count : Nat} (op : SegmentedDownload count)

def updateSegment (index : Fin count)
    (change : SegmentHandler → SegmentHandler) : SegmentedDownload count :=
  { op with
    segments := Function.update op.segments index (change (op.segments index)) }

def updateSftp (channel : Channel)
    (change : Client (Fin count) → Client (Fin count)) :
    SegmentedDownload count :=
  { op with
    endpoints := Function.update op.endpoints channel
      { op.endpoints channel with sftp := change (op.endpoints channel).sftp } }

def updatePipe (channel : Channel)
    (change : SegmentPipeState → SegmentPipeState) : SegmentedDownload count :=
  { op with
    endpoints := Function.update op.endpoints channel
      { op.endpoints channel with pipe := change (op.endpoints channel).pipe } }

/-- No request of the operation itself is pending, so there is nothing for
`trigger_reset` to cancel. -/
def triggerReset (code : ReplyCode) :
    SegmentedDownload count :=
  { op with result := op.result.or (some code) }

def fail (code : ReplyCode) :
    SegmentedDownload count :=
  triggerReset { op with segFailed := true } code

def deleteSegmentFiles (files : Nat) :
    SegmentedDownload count :=
  { op with
    parts := fun index => if index < files then none else op.parts index
    manifest := none }

variable (env : SegmentEnv)

def concatFinalize (op : SegmentedDownload count) :
    SegmentedDownload count :=
  let op := { op with concat := { op.concat with finalizing := true } }
  match op.concat.writer with
  | none => op.triggerReset .writeFailed
  | some writer =>
    match env.finalizeConcat with
    | .error => op.triggerReset .writeFailed
    | .wait => { op with concat := { op.concat with writerEvent := true } }
    | .ok =>
      let op := { op with
        merged := some writer.bytes
        concat := { op.concat with reader := none, writer := none } }
      (op.deleteSegmentFiles count).triggerReset .ok

/-- The reader `concat_pump` goes on with, or `none` where it returns. -/
def concatReader (op : SegmentedDownload count) :
    SegmentedDownload count × Option Reader :=
  match op.concat.reader with
  | some reader => (op, some reader)
  | none =>
    if op.concat.part ≥ count then
      if op.concat.received ≠ op.remoteFileSize then
        (op.triggerReset .error, none)
      else
        (op.concatFinalize env, none)
    else
      match op.parts op.concat.part, env.openReader op.concat.part with
      | some content, true =>
        let reader : Reader := { remaining := content }
        ({ op with concat := { op.concat with
            reader := some reader, part := op.concat.part + 1 } },
          some reader)
      | _, _ => (op.triggerReset .error, none)

/-- The loop of `concat_pump`. Each pass that reads takes one answer, and
without one the reader lets it wait. `buffer_` is empty at the top of the loop
as long as nothing failed. -/
def concatPump (env : SegmentEnv) :
    List PumpAnswer → SegmentedDownload count → SegmentedDownload count
  | answers, op =>
    if op.opState = .concat && !op.concat.finalizing then
      match op.concatReader env with
      | (op, none) => op
      | (op, some reader) =>
        match answers with
        | [] =>
          { op with concat := { op.concat with readerEvent := true } }
        | answer :: rest =>
          let (got, reader, lease) := reader.getBuffer answer.getBuffer answer.chunk
          match got with
          | .wait =>
            { op with concat := { op.concat with
              reader := some reader, readerEvent := true } }
          | .error => op.triggerReset .error
          | .ok =>
            if leaseEmpty lease then
              concatPump env rest
                { op with concat := { op.concat with reader := none } }
            else
              match op.concat.writer with
              | none => op.triggerReset .writeFailed
              | some writer =>
                let (added, writer, lease') := writer.addBuffer lease answer.addBuffer
                let op := { op with concat := { op.concat with
                  reader := some reader
                  writer := some writer
                  buffer := lease'
                  received :=
                    op.concat.received + (leaseBytes lease).length } }
                match added with
                | .error => op.triggerReset .writeFailed
                | .wait =>
                  { op with concat :=
                    { op.concat with writerEvent := true } }
                | .ok => concatPump env rest op
    else
      op
termination_by structural answers => answers

/-- The handle of a segment is closed without waiting for the answer. -/
def closeHandle (index : Fin count) :
    SegmentedDownload count :=
  if (op.segments index).handle ≠ "" then
    (op.updateSftp (op.segments index).conn
      (fun sftp => sftp.request none .close)).updateSegment index
      (fun segment => { segment with handle := "" })
  else
    op

def startConcat (op : SegmentedDownload count) :
    SegmentedDownload count :=
  let op := { op with opState := .concat }
  let op := (List.finRange count).foldl closeHandle op
  if env.openConcat then
    concatPump env env.pump
      { op with concat := { op.concat with
        writer := some { offset := 0, bytes := [] }
        part := 0
        received := 0 } }
  else
    op.triggerReset .writeFailed

def getNextSegmentBuffer (index : Fin count)
    (op : SegmentedDownload count) : AioResult × SegmentedDownload count :=
  match (op.segments index).writer with
  | none => (.error, op.fail .writeFailed)
  | some writer =>
    let (added, writer, lease) := writer.addBuffer (op.segments index).buffer env.addBuffer
    let op := op.updateSegment index fun segment =>
      { segment with writer := some writer, buffer := lease }
    match added with
    | .error => (.error, op.fail .writeFailed)
    | .wait =>
      (.wait, op.updateSegment index fun segment =>
        { segment with writerEvent := true })
    | .ok =>
      match env.poolBuffer with
      | none =>
        (.wait, op.updateSegment index fun segment =>
          { segment with buffer := none, poolEvent := true })
      | some capacity =>
        (.ok, op.updateSegment index fun segment =>
          { segment with buffer := some { capacity, bytes := [] } })

def finishSegment (index : Fin count) (writer : Writer)
    (op : SegmentedDownload count) : SegmentedDownload count :=
  let op := op.updateSegment index fun segment =>
    { segment with writer := none, done := true }
  let op := { op with
    parts := Function.update op.parts index
      ((op.parts index).map fun content => content ++ writer.bytes)
    segmentsDone := op.segmentsDone + 1 }
  if op.segmentsDone = count then
    op.startConcat env
  else
    op

def finalizeSegment (index : Fin count)
    (op : SegmentedDownload count) : SegmentedDownload count :=
  let op := op.updateSegment index fun segment =>
    { segment with finalizing := true }
  match (op.segments index).writer with
  | none => op.fail .writeFailed
  | some writer =>
    let (added, writer, lease) := writer.addBuffer (op.segments index).buffer env.addBuffer
    let op := op.updateSegment index fun segment =>
      { segment with writer := some writer, buffer := lease }
    match if added = .ok then env.finalize else added with
    | .error => op.fail .writeFailed
    | .wait =>
      op.updateSegment index fun segment =>
        { segment with writerEvent := true }
    | .ok => op.finishSegment env index writer

variable (conn : Channel)

def requestable (index : Fin count) : Bool :=
  let segment := op.segments index
  decide (segment.conn = conn) && decide (segment.handle ≠ "") &&
    !segment.finalizing && !segment.done && segment.buffer.isSome &&
    decide (segment.requestOffset < segment.offset + segment.length)

def nextRequestSegment :
    Option (Fin count) :=
  let first := (op.endpoints conn).pipe.nextSegment
  ((List.finRange count).map fun (index : Fin count) =>
    (⟨(first + index) % count, Nat.mod_lt _ index.pos⟩ : Fin count)).find? (op.requestable conn)

/-- Adapts the window; a measurement that cannot end any more is abandoned. -/
def measurePipe (pipe : SegmentPipeState) :
    SegmentPipeState :=
  if pipe.rttRequested && decide (pipe.rttOffset ≤ pipe.responseOffset) then
    { pipe with
      rttRequested := false
      maxPending := FileTransfer.adaptMaxPending pipe.maxPending env.milliseconds }
  else if pipe.rttRequested && pipe.responseOffset == pipe.requestedOffset then
    { pipe with rttRequested := false }
  else
    pipe

def readSize (segment : SegmentHandler) : Nat :=
  min blocksize (segment.offset + segment.length - segment.requestOffset)

def readSegment (index : Fin count)
    (op : SegmentedDownload count) : SegmentedDownload count :=
  let segment := op.segments index
  let size := readSize segment
  ((op.updateSegment index fun segment =>
    { segment with
      outstanding := segment.outstanding ++ [size]
      requestOffset := segment.requestOffset + size }).updateSftp conn fun sftp =>
        sftp.request (some index) (.read segment.requestOffset size)).updatePipe conn fun pipe =>
            { pipe with
              nextSegment := (index + 1) % count
              requestedOffset := pipe.requestedOffset + size }

/-- The loop of `request_segments`, with the number of reads it sent. -/
def sendSegmentReads (env : SegmentEnv) (conn : Channel) :
    Nat → SegmentedDownload count → SegmentedDownload count × Nat
  | 0, op => (op, 0)
  | remaining + 1, op =>
    if (op.endpoints conn).sftp.pendingRequests <
        (op.endpoints conn).pipe.maxPending && env.sendable remaining then
      match op.nextRequestSegment conn with
      | none => (op, 0)
      | some index =>
        let (sent, reads) := sendSegmentReads env conn remaining (op.readSegment conn index)
        (sent, reads + 1)
    else
      (op, 0)

def requestSegments
    (op : SegmentedDownload count) : SegmentedDownload count :=
  if op.segFailed then
    op
  else
    let (op, sent) := sendSegmentReads env conn 2 (op.updatePipe conn (measurePipe env))
    if sent ≠ 0 && (op.endpoints conn).sftp.pendingRequests ==
        (op.endpoints conn).pipe.maxPending &&
        !(op.endpoints conn).pipe.rttRequested then
      op.updatePipe conn fun pipe =>
        { pipe with rttRequested := true, rttOffset := pipe.requestedOffset }
    else
      op

def stallChannel (op : SegmentedDownload count) (index : Fin count) :
    SegmentedDownload count :=
  op.updateSegment index fun segment =>
    { segment with stallChannel := some segment.conn }

def unstallChannel (index : Fin count) :
    SegmentedDownload count :=
  match (op.segments index).stallChannel with
  | none => op
  | some channel =>
    (op.updateSftp channel Client.unblockRead).updateSegment index
      fun segment => { segment with stallChannel := none }

def onSegmentOpen (index : Fin count) (handle : String)
    (op : SegmentedDownload count) : Continuation × SegmentedDownload count :=
  let op := op.updateSegment index fun segment => { segment with handle := handle }
  if op.segFailed then
    (.next, op)
  else
    let segment := op.segments index
    match segment.writer with
    | some _ => (.next, op.requestSegments env segment.conn)
    | none =>
      match openFile (op.parts index) segment.partSize, env.openWriter with
      | some content, true =>
        let op := { op.updateSegment index (fun segment =>
            { segment with
              writer := some { offset := segment.partSize, bytes := [] } })
          with parts := Function.update op.parts index (some content) }
        match op.getNextSegmentBuffer env index with
        | (.wait, op) => (.wait, op.stallChannel index)
        | (.error, op) => (.next, op)
        | (.ok, op) => (.next, op.requestSegments env segment.conn)
      | _, _ => (.next, op.fail .writeFailed)

def processSegmentData (index : Fin count) (data : Bytes)
    (op : SegmentedDownload count) : Continuation × SegmentedDownload count :=
  if op.segFailed then
    (.next, op)
  else if data.length > blocksize then
    (.error, op)
  else
    match (op.segments index).outstanding, (op.segments index).buffer with
    | expected :: outstanding, some buffer =>
      let op := op.updateSegment index fun segment =>
        { segment with outstanding := outstanding }
      if data.length > expected then
        (.error, op)
      else if data.length < expected then
        (.next, op.fail .error)
      else
        let op := (op.updateSegment index fun segment =>
          { segment with
            buffer := some { buffer with bytes := buffer.bytes ++ data }
            received := segment.received + data.length }).updatePipe
              (op.segments index).conn fun pipe =>
                { pipe with
                  responseOffset := pipe.responseOffset + data.length }
        let segment := op.segments index
        if segment.received ≥ segment.length then
          (.next, op.finalizeSegment env index)
        else if FileTransfer.bufferFull segment.buffer then
          match op.getNextSegmentBuffer env index with
          | (.wait, op) => (.wait, op.stallChannel index)
          | (.error, op) => (.next, op)
          | (.ok, op) => (.next, op.requestSegments env segment.conn)
        else
          (.next, op.requestSegments env segment.conn)
    | _, _ => (.error, op)

def processSegmentStatus (index : Fin count)
    (code : StatusCode) (op : SegmentedDownload count) :
    Continuation × SegmentedDownload count :=
  if (op.segments index).handle = "" then
    (.next, op.fail .error)
  else if code = .eof then
    let op := op.updateSegment index fun segment =>
      { segment with outstanding := segment.outstanding.tail }
    if (op.segments index).received ≥ (op.segments index).length then
      (.next, op.finalizeSegment env index)
    else
      (.next, op.fail .error)
  else
    (.next, op.fail .error)

def onSegmentWriterAvailability (index : Fin count)
    (op : SegmentedDownload count) : SegmentedDownload count :=
  if op.segFailed then
    op
  else if (op.segments index).finalizing then
    op.finalizeSegment env index
  else
    match op.getNextSegmentBuffer env index with
    | (.ok, op) =>
      (op.unstallChannel index).requestSegments env (op.segments index).conn
    | (_, op) => op

def onSegmentPoolAvailability (index : Fin count)
    (op : SegmentedDownload count) : SegmentedDownload count :=
  let segment := op.segments index
  if op.segFailed then
    op
  else if segment.buffer.isNone && !segment.finalizing && !segment.done then
    match env.poolBuffer with
    | none =>
      op.updateSegment index fun segment => { segment with poolEvent := true }
    | some capacity =>
      ((op.updateSegment index fun segment =>
        { segment with buffer := some { capacity, bytes := [] } }).unstallChannel
          index).requestSegments env segment.conn
  else
    op

def migrateSegment (index : Fin count) (conn : Nat)
    (op : SegmentedDownload count) : SegmentedDownload count :=
  let old := (op.segments index).conn
  let op := op.updateSftp old fun sftp => sftp.cancel index
  let op := op.closeHandle index
  let lost := (op.segments index).outstanding.sum
  let op := op.updatePipe old fun pipe =>
    { pipe with requestedOffset := subUInt64 pipe.requestedOffset lost }
  (op.updateSegment index fun segment =>
    { segment with
      outstanding := []
      requestOffset := segment.offset + segment.received
      conn := some conn }).updateSftp (some conn) fun sftp =>
        sftp.request (some index) .open

def startNextSegmentConnection :
    SegmentedDownload count :=
  if op.opState ≠ .segmented || op.segFailed then
    op
  else if op.connections.length + 1 < count then
    { op with connections := op.connections ++ [.establishing] }
  else
    op

def onSegmentConnectionReady (conn : Nat) (op : SegmentedDownload count) :
    SegmentedDownload count :=
  if op.opState ≠ .segmented || op.segFailed then
    op
  else if target : conn + 1 < count then
    let segment := op.segments ⟨conn + 1, target⟩
    if segment.conn = none ∧ segment.done = false ∧ segment.finalizing = false then
      (op.migrateSegment ⟨conn + 1, target⟩ conn).startNextSegmentConnection
    else
      op.startNextSegmentConnection
  else
    op.startNextSegmentConnection

def onSegmentConnectionFailed :
    SegmentedDownload count :=
  if op.opState ≠ .segmented || op.segFailed then
    op
  else
    op.startNextSegmentConnection

def onSegmentConnectionDropped :
    SegmentedDownload count :=
  if op.opState ≠ .segmented || op.segFailed then
    op
  else
    op.fail .error

inductive Event (count : Nat)
  | reply (channel : Channel) (reply : Reply) (env : SegmentEnv)
  | writerAvailability (index : Fin count) (env : SegmentEnv)
  | poolAvailability (index : Fin count) (env : SegmentEnv)
  | connectionReady (conn : Nat)
  | connectionFailed (conn : Nat)
  | connectionDropped (conn : Nat)
  | hostkeyMismatch (conn : Nat)
  | concatWriterAvailability (env : SegmentEnv)
  | concatReaderAvailability (env : SegmentEnv)
  | channelDone

def processReply (index : Fin count) (reply : Reply)
    (op : SegmentedDownload count) : Continuation × SegmentedDownload count :=
  match reply with
  | .handle handle =>
    if handle = "" then
      (.next, op.fail .error)
    else
      op.onSegmentOpen env index handle
  | .data data => op.processSegmentData env index data
  | .status code => op.processSegmentStatus env index code
  | .failure => (.next, op.fail .error)

def proceed (channel : Channel) (handled : Continuation × SegmentedDownload count) :
    SegmentedDownload count :=
  handled.2.updateSftp channel fun sftp => sftp.proceed handled.1

def receive (channel : Channel) (reply : Reply)
    (op : SegmentedDownload count) : Option (SegmentedDownload count) :=
  match (op.endpoints channel).sftp.answer with
  | none => none
  | some (request, sftp) =>
    if request.kind.allows reply then
      let op := op.updateSftp channel fun _ => sftp
      match request.handler with
      | none => some op
      | some index => some (proceed channel (op.processReply env index reply))
    else
      none

def setConnection (conn : Nat)
    (state : ConnectionState) : SegmentedDownload count :=
  { op with connections := op.connections.set conn state }

def disconnect (channel : Channel) :
    SegmentedDownload count :=
  op.updateSftp channel fun sftp => { sftp with disconnecting := true }

def step :
    Event count → Option (SegmentedDownload count)
  | .reply channel reply env => op.receive env channel reply
  | .writerAvailability index env =>
    if (op.segments index).writerEvent then
      some ((op.updateSegment index fun segment =>
        { segment with writerEvent := false }).onSegmentWriterAvailability env index)
    else
      none
  | .poolAvailability index env =>
    if (op.segments index).poolEvent then
      some ((op.updateSegment index fun segment =>
        { segment with poolEvent := false }).onSegmentPoolAvailability env index)
    else
      none
  | .connectionReady conn =>
    if op.connections[conn]? = some .establishing then
      some ((op.setConnection conn .ready).onSegmentConnectionReady conn)
    else
      none
  | .connectionFailed conn =>
    if op.connections[conn]? = some .establishing then
      some ((op.setConnection conn .failed).onSegmentConnectionFailed)
    else
      none
  | .connectionDropped conn =>
    if op.connections[conn]? = some .ready then
      some (((op.setConnection conn .failed).disconnect (some conn)).onSegmentConnectionDropped)
    else
      none
  | .hostkeyMismatch conn =>
    if op.connections[conn]? = some .establishing then
      some (((op.setConnection conn .failed).disconnect (some conn)).fail .criticalError)
    else
      none
  | .concatWriterAvailability env =>
    if op.concat.writerEvent then
      let op := { op with concat := { op.concat with writerEvent := false } }
      if op.opState ≠ .concat then
        some op
      else if op.concat.finalizing then
        some (op.concatFinalize env)
      else
        some (concatPump env env.pump op)
    else
      none
  | .concatReaderAvailability env =>
    if op.concat.readerEvent then
      let op := { op with concat := { op.concat with readerEvent := false } }
      if op.opState ≠ .concat then
        some op
      else
        some (concatPump env env.pump op)
    else
      none
  | .channelDone => some ((op.disconnect none).triggerReset .disconnected)

end SegmentedDownload

end FileZilla.Sftp
