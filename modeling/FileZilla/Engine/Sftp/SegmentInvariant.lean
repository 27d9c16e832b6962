import FileZilla.Engine.Sftp.SegmentLayout
import Mathlib.Algebra.BigOperators.Fin

namespace FileZilla.Sftp

open Finset

namespace SegmentedDownload

variable {count : Nat}

/-! What holds of every segment while the segments are downloaded. `live` are
its unanswered requests on its channel. -/

def readKinds (ranges : List (Nat × Nat)) : List RequestKind :=
  ranges.map fun range => .read range.1 range.2

inductive Requested (segment : SegmentHandler) (live : List RequestKind) : Prop
  | opening (handle : segment.handle = "") (outstanding : segment.outstanding = [])
      (requestOffset :
        segment.requestOffset = segment.offset + segment.received)
      (opening : live = [.open])
  | reading (handle : segment.handle ≠ "") (ranges : List (Nat × Nat))
      (reads : live = readKinds ranges) (outstanding : segment.outstanding = ranges.map Prod.snd)
      (positive : ∀ range ∈ ranges, 0 < range.2)
      (tiles : Tiles (segment.offset + segment.received) ranges segment.requestOffset)
      (within : segment.requestOffset ≤ segment.offset + segment.length)

theorem Requested.of_eq {segment other : SegmentHandler}
    {live : List RequestKind} (requested : Requested segment live)
    (handle : other.handle = segment.handle)
    (outstanding : other.outstanding = segment.outstanding)
    (requestOffset : other.requestOffset = segment.requestOffset)
    (offset : other.offset = segment.offset) (received : other.received = segment.received)
    (length : other.length = segment.length) : Requested other live := by
  cases requested with
  | opening handle' outstanding' requestOffset' opening =>
    refine .opening (handle.trans handle') (outstanding.trans outstanding') ?_ opening
    rw [requestOffset, offset, received, requestOffset']
  | reading handle' ranges reads outstanding' positive tiles within =>
    refine .reading (by rw [handle]; exact handle') ranges reads
      (outstanding.trans outstanding') positive ?_ ?_
    · rw [requestOffset, offset, received]
      exact tiles
    · rw [requestOffset, offset, length]
      exact within

/-! `honest` says that the server sends what the file has and that the parts of
an earlier attempt are prefixes of their segments. The accounting does not need
it. -/

def Holds (honest : Prop) (bytes : Bytes) (segment : SegmentHandler)
    (part : Option Bytes) : Prop :=
  ∃ base writer, part = some base ∧ segment.writer = some writer ∧
    (honest → base ++ writer.bytes ++ leaseBytes segment.buffer = bytes)

/-- A segment without buffer is waiting for its writer or for the pool. -/
def Awaits (segment : SegmentHandler) : Prop :=
  (segment.buffer.isSome = true ∧ segment.writerEvent = false ∧
      segment.poolEvent = false) ∨
    (segment.buffer = none ∧
      (segment.writerEvent = true ∧ segment.poolEvent = false ∨
        segment.writerEvent = false ∧ segment.poolEvent = true))

structure Unopened (honest : Prop) (bytes : Bytes) (segment : SegmentHandler)
    (part : Option Bytes) : Prop where
  handle : segment.handle = ""
  writer : segment.writer = none
  buffer : segment.buffer = none
  finalizing : segment.finalizing = false
  done : segment.done = false
  writerEvent : segment.writerEvent = false
  poolEvent : segment.poolEvent = false
  resumed : segment.received = segment.partSize
  incomplete : segment.received < segment.length
  part : honest → ∀ content, openFile part segment.partSize = some content →
    content = bytes.take segment.received

structure Transferring (honest : Prop) (bytes : Bytes) (segment : SegmentHandler)
    (part : Option Bytes) : Prop where
  finalizing : segment.finalizing = false
  done : segment.done = false
  incomplete : segment.received < segment.length
  holds : Holds honest (bytes.take segment.received) segment part

structure Flushing (honest : Prop) (bytes : Bytes) (segment : SegmentHandler)
    (part : Option Bytes) : Prop where
  finalizing : segment.finalizing = true
  done : segment.done = false
  complete : segment.received = segment.length
  outstanding : segment.outstanding = []
  requestOffset : segment.requestOffset = segment.offset + segment.length
  holds : Holds honest bytes segment part

structure Finished (honest : Prop) (bytes : Bytes) (segment : SegmentHandler)
    (part : Option Bytes) : Prop where
  done : segment.done = true
  outstanding : segment.outstanding = []
  writerEvent : segment.writerEvent = false
  part : honest → part = some bytes

inductive SegmentPhase (honest : Prop) (bytes : Bytes)
    (segment : SegmentHandler) (part : Option Bytes) (live : List RequestKind) (stopped : Bool) : Prop
  | unopened (phase : Unopened honest bytes segment part)
      (requested : stopped = false → Requested segment live)
  | transferring (phase : Transferring honest bytes segment part) (awaits : Awaits segment)
      (requested : stopped = false → Requested segment live)
  | flushing (phase : Flushing honest bytes segment part)
      (writerEvent : segment.writerEvent = true) (requested : live = [])
  | finished (phase : Finished honest bytes segment part) (requested : live = [])

def share (op : SegmentedDownload count) (channel : Channel) (index : Fin count) : Nat :=
  if (op.segments index).conn = channel then
    (op.segments index).outstanding.sum
  else
    0

/-- Everything but the phase of one segment. -/
structure Frame (honest : Prop) (remote : Bytes) (index : Fin count)
    (op : SegmentedDownload count) : Prop where
  segmented : op.opState = .segmented
  running : op.segFailed = false
  unfinished : op.result ≠ some .ok
  size : op.remoteFileSize = remote.length
  concat : op.concat = {}
  offset : ∀ other : Fin count, (op.segments other).offset =
    segmentOffset remote.length count other
  length : ∀ other : Fin count, (op.segments other).length =
    segmentLength remote.length count other
  others : ∀ other : Fin count, other ≠ index →
    SegmentPhase honest (segmentBytes remote count other) (op.segments other) (op.parts other)
      ((op.endpoints (op.segments other).conn).sftp.liveFor other)
      (op.endpoints (op.segments other).conn).sftp.disconnecting
  elsewhere : ∀ (other : Fin count) (channel : Channel), channel ≠ (op.segments other).conn →
      (op.endpoints channel).sftp.liveFor other = []
  pipes : ∀ channel, (op.endpoints channel).sftp.disconnecting = false →
    (op.endpoints channel).pipe.requestedOffset = (op.endpoints channel).pipe.responseOffset +
        ∑ other, share op channel other
  finished : op.segmentsDone =
    (Finset.univ.filter fun other => (op.segments other).done = true).card

structure Consistent (honest : Prop) (remote : Bytes) (op : SegmentedDownload count) : Prop where
  frame : ∀ index, Frame honest remote index op
  phase : ∀ index : Fin count,
    SegmentPhase honest (segmentBytes remote count index) (op.segments index) (op.parts index)
      ((op.endpoints (op.segments index).conn).sftp.liveFor index)
      (op.endpoints (op.segments index).conn).sftp.disconnecting

variable {honest : Prop} {index : Fin count}

theorem Frame.consistent {remote : Bytes} {op : SegmentedDownload count}
    (frame : Frame honest remote index op)
    (phase : SegmentPhase honest (segmentBytes remote count index) (op.segments index)
      (op.parts index) ((op.endpoints (op.segments index).conn).sftp.liveFor index)
      (op.endpoints (op.segments index).conn).sftp.disconnecting) :
    Consistent honest remote op := by
  have all : ∀ other : Fin count,
      SegmentPhase honest (segmentBytes remote count other) (op.segments other) (op.parts other)
        ((op.endpoints (op.segments other).conn).sftp.liveFor other)
        (op.endpoints (op.segments other).conn).sftp.disconnecting := by
    intro other
    by_cases same : other = index
    · rw [same]
      exact phase
    · exact frame.others other same
  exact ⟨fun other => { frame with others := fun third _ => all third }, all⟩

/-- How a change to one segment keeps everything but its phase. -/
structure Change (op next : SegmentedDownload count) (index : Fin count) :
    Prop where
  opState : next.opState = op.opState
  segFailed : next.segFailed = op.segFailed
  result : next.result = op.result
  remoteFileSize : next.remoteFileSize = op.remoteFileSize
  concat : next.concat = op.concat
  segments : ∀ other, other ≠ index → next.segments other = op.segments other
  parts : ∀ other : Fin count, other ≠ index →
    next.parts other = op.parts other
  offset : (next.segments index).offset = (op.segments index).offset
  length : (next.segments index).length = (op.segments index).length
  liveFor : ∀ other, other ≠ index → ∀ channel, (next.endpoints channel).sftp.liveFor other =
      (op.endpoints channel).sftp.liveFor other
  stopped : ∀ channel, (op.endpoints channel).sftp.disconnecting = true →
    (next.endpoints channel).sftp.disconnecting = true

theorem SegmentPhase.stop {bytes : Bytes} {segment : SegmentHandler} {part : Option Bytes}
    {live : List RequestKind} {stopped stopped' : Bool}
    (phase : SegmentPhase honest bytes segment part live stopped)
    (later : stopped = true → stopped' = true) :
    SegmentPhase honest bytes segment part live stopped' := by
  have running : stopped' = false → stopped = false := by
    cases stopped <;> simp_all
  cases phase with
  | unopened phase requested =>
    exact .unopened phase fun free => requested (running free)
  | transferring phase awaits requested =>
    exact .transferring phase awaits fun free => requested (running free)
  | flushing phase writerEvent requested =>
    exact .flushing phase writerEvent requested
  | finished phase requested => exact .finished phase requested

theorem sum_change {old new : Fin count → Nat}
    (others : ∀ other, other ≠ index → new other = old other) :
    ∑ other, new other + old index = ∑ other, old other + new index := by
  rw [← add_sum_erase univ new (mem_univ index),
    ← add_sum_erase univ old (mem_univ index)]
  have rest : ∑ other ∈ univ.erase index, new other =
      ∑ other ∈ univ.erase index, old other :=
    sum_congr rfl fun other member =>
      others other (ne_of_mem_erase member)
  omega

theorem Frame.change {remote : Bytes} {op next : SegmentedDownload count}
    (frame : Frame honest remote index op) (change : Change op next index)
    (elsewhere : ∀ channel, channel ≠ (next.segments index).conn →
      (next.endpoints channel).sftp.liveFor index = [])
    (pipes : ∀ channel, (next.endpoints channel).sftp.disconnecting = false →
      (next.endpoints channel).pipe.requestedOffset +
          (op.endpoints channel).pipe.responseOffset + share op channel index =
        (op.endpoints channel).pipe.requestedOffset +
          (next.endpoints channel).pipe.responseOffset + share next channel index)
    (finished : next.segmentsDone + (op.segments index).done.toNat =
      op.segmentsDone + (next.segments index).done.toNat) :
    Frame honest remote index next where
  segmented := change.opState.trans frame.segmented
  running := change.segFailed.trans frame.running
  unfinished := by rw [change.result]; exact frame.unfinished
  size := change.remoteFileSize.trans frame.size
  concat := change.concat.trans frame.concat
  offset := by
    intro other
    by_cases same : other = index
    · rw [same, change.offset, frame.offset]
    · rw [change.segments other same, frame.offset]
  length := by
    intro other
    by_cases same : other = index
    · rw [same, change.length, frame.length]
    · rw [change.segments other same, frame.length]
  others := by
    intro other distinct
    rw [change.segments other distinct, change.parts other distinct,
      change.liveFor other distinct]
    exact (frame.others other distinct).stop (change.stopped _)
  elsewhere := by
    intro other channel away
    by_cases same : other = index
    · rw [same] at away ⊢
      exact elsewhere channel away
    · rw [change.segments other same] at away
      rw [change.liveFor other same]
      exact frame.elsewhere other channel away
  pipes := by
    intro channel connected
    have before : (op.endpoints channel).sftp.disconnecting = false := by
      by_contra stopped
      have := change.stopped channel (by simpa using stopped)
      simp [connected] at this
    have total := frame.pipes channel before
    have moved := pipes channel connected
    have sums : ∑ other, share next channel other + share op channel index =
        ∑ other, share op channel other + share next channel index := by
      apply sum_change
      intro other distinct
      simp only [share, change.segments other distinct]
    omega
  finished := by
    have counted : ∀ state : SegmentedDownload count,
        (univ.filter fun other => (state.segments other).done = true).card =
          ∑ other, (state.segments other).done.toNat := by
      intro state
      rw [card_filter]
      refine sum_congr rfl fun other _ => ?_
      cases (state.segments other).done <;> rfl
    have sums : ∑ other, (next.segments other).done.toNat + (op.segments index).done.toNat =
        ∑ other, (op.segments other).done.toNat + (next.segments index).done.toNat := by
      refine @sum_change count index (fun other => (op.segments other).done.toNat)
        (fun other => (next.segments other).done.toNat) ?_
      intro other distinct
      simp only [change.segments other distinct]
    have before := frame.finished
    rw [counted] at before ⊢
    omega

section Functions

variable {honest : Prop} {remote : Bytes} {index : Fin count} {op : SegmentedDownload count}
  {conn : Channel} {env : SegmentEnv}

theorem Frame.updateSegment (frame : Frame honest remote index op)
    {change : SegmentHandler → SegmentHandler}
    (offset : (change (op.segments index)).offset = (op.segments index).offset)
    (length : (change (op.segments index)).length = (op.segments index).length)
    (conn : (change (op.segments index)).conn = (op.segments index).conn)
    (outstanding : (change (op.segments index)).outstanding = (op.segments index).outstanding)
    (done : (change (op.segments index)).done = (op.segments index).done) :
    Frame honest remote index (op.updateSegment index change) := by
  refine frame.change {
    opState := rfl
    segFailed := rfl
    result := rfl
    remoteFileSize := rfl
    concat := rfl
    segments := fun other distinct =>
      updateSegment_segments_of_ne op index change distinct
    parts := fun _ _ => rfl
    offset := by simpa using offset
    length := by simpa using length
    liveFor := fun _ _ _ => rfl
    stopped := fun _ stopped => stopped } ?_ ?_ ?_
  · intro channel away
    exact frame.elsewhere index channel (by simpa [conn] using away)
  · intro channel _
    simp [share, conn, outstanding]
  · simp [done]

theorem Frame.updatePart (frame : Frame honest remote index op) (content : Option Bytes) :
    Frame honest remote index
      { op with parts := Function.update op.parts index content } := by
  refine frame.change {
    opState := rfl
    segFailed := rfl
    result := rfl
    remoteFileSize := rfl
    concat := rfl
    segments := fun _ _ => rfl
    parts := ?_
    offset := rfl
    length := rfl
    liveFor := fun _ _ _ => rfl
    stopped := fun _ stopped => stopped } ?_ ?_ rfl
  · intro other distinct
    have apart : (other : Nat) ≠ index := fun same => distinct (Fin.ext same)
    simp [apart]
  · exact fun channel away => frame.elsewhere index channel away
  · intro channel _
    simp [share]

theorem requestable_iff :
    op.requestable conn index = true ↔
      (op.segments index).conn = conn ∧ (op.segments index).handle ≠ "" ∧
        (op.segments index).finalizing = false ∧
        (op.segments index).done = false ∧
        (op.segments index).buffer.isSome = true ∧
        (op.segments index).requestOffset <
          (op.segments index).offset + (op.segments index).length := by
  simp [requestable, and_assoc]

theorem readSize_le (segment : SegmentHandler) :
    readSize segment ≤ segment.offset + segment.length - segment.requestOffset :=
  Nat.min_le_right _ _

theorem readSize_pos {segment : SegmentHandler}
    (left : segment.requestOffset < segment.offset + segment.length) :
    0 < readSize segment := by
  have size : 0 < blocksize := by decide
  simp only [readSize]
  omega

theorem readSegment_segments (op : SegmentedDownload count) (conn : Channel) (index : Fin count) :
    (op.readSegment conn index).segments index =
      { op.segments index with
        outstanding := (op.segments index).outstanding ++ [readSize (op.segments index)]
        requestOffset := (op.segments index).requestOffset +
          readSize (op.segments index) } := by
  simp [readSegment]

theorem readSegment_sftp (op : SegmentedDownload count) (conn : Channel) (index : Fin count) :
    ((op.readSegment conn index).endpoints conn).sftp =
      (op.endpoints conn).sftp.request (some index) (.read (op.segments index).requestOffset
          (readSize (op.segments index))) := by
  simp [readSegment]

theorem readSegment_endpoints_of_ne (op : SegmentedDownload count)
    {conn channel : Channel} (index : Fin count) (distinct : channel ≠ conn) :
    (op.readSegment conn index).endpoints channel = op.endpoints channel := by
  unfold readSegment
  simp only
  rw [updatePipe_endpoints_of_ne _ _ _ distinct,
    updateSftp_endpoints_of_ne _ _ _ distinct, updateSegment_endpoints]

theorem readSegment_change (op : SegmentedDownload count) (conn : Channel)
    (index : Fin count) : Change op (op.readSegment conn index) index where
  opState := rfl
  segFailed := rfl
  result := rfl
  remoteFileSize := rfl
  concat := rfl
  segments := fun other distinct => by
    simp [readSegment, updateSegment_segments_of_ne _ _ _ distinct]
  parts := fun _ _ => rfl
  offset := by rw [readSegment_segments]
  length := by rw [readSegment_segments]
  liveFor := by
    intro other distinct channel
    by_cases same : channel = conn
    · rw [same, readSegment_sftp, Client.liveFor_request_of_ne _ distinct]
    · rw [readSegment_endpoints_of_ne op index same]
  stopped := by
    intro channel stopped
    by_cases same : channel = conn
    · rw [same] at stopped ⊢
      rw [readSegment_sftp]
      simpa using stopped
    · rwa [readSegment_endpoints_of_ne op index same]

theorem readSegment_consistent (consistent : Consistent honest remote op)
    (requestable : op.requestable conn index = true) :
    Consistent honest remote (op.readSegment conn index) := by
  obtain ⟨mine, open', running, unfinished, buffer, left⟩ := requestable_iff.mp requestable
  have frame := consistent.frame index
  have positive := readSize_pos left
  have bound := readSize_le (op.segments index)
  subst mine
  refine (frame.change (readSegment_change op _ index) ?_ ?_ ?_).consistent ?_
  · intro channel away
    rw [readSegment_segments] at away
    rw [readSegment_endpoints_of_ne op index away]
    exact frame.elsewhere index channel away
  · intro channel _
    by_cases same : channel = (op.segments index).conn
    · subst same
      simp [readSegment, share]
      omega
    · rw [readSegment_endpoints_of_ne op index same]
      simp [share, readSegment_segments, Ne.symm same]
  · simp [readSegment_segments, readSegment]
  · rw [readSegment_segments, readSegment_sftp, Client.request_disconnecting]
    have parts : (op.readSegment (op.segments index).conn index).parts =
        op.parts := rfl
    rw [parts]
    cases consistent.phase index with
    | unopened phase requested => exact absurd phase.handle open'
    | flushing phase writerEvent requested =>
      simp [phase.finalizing] at running
    | finished phase requested => simp [phase.done] at unfinished
    | transferring phase awaits requested =>
      refine .transferring ⟨phase.finalizing, phase.done, phase.incomplete, phase.holds⟩ awaits ?_
      intro connected
      rw [Client.liveFor_request connected]
      cases requested connected with
      | opening handle => exact absurd handle open'
      | reading handle ranges reads outstanding positive' tiles within =>
        refine .reading handle (ranges ++ [((op.segments index).requestOffset,
            readSize (op.segments index))]) ?_ ?_ ?_ (tiles.snoc _) ?_
        · simp [reads, readKinds]
        · simp [outstanding]
        · intro range member
          rcases List.mem_append.mp member with earlier | last
          · exact positive' range earlier
          · rw [List.mem_singleton.mp last]
            exact positive
        · show (op.segments index).requestOffset + readSize (op.segments index) ≤ _
          simp only
          omega

theorem nextRequestSegment_requestable {picked : Fin count}
    (next : op.nextRequestSegment conn = some picked) :
    op.requestable conn picked = true := by
  unfold nextRequestSegment at next
  exact List.find?_some next

theorem sendSegmentReads_consistent (env : SegmentEnv) (conn : Channel)
    (remaining : Nat) (consistent : Consistent honest remote op) :
    Consistent honest remote (sendSegmentReads env conn remaining op).1 := by
  induction remaining generalizing op with
  | zero => exact consistent
  | succ remaining ih =>
    unfold sendSegmentReads
    split
    · cases next : op.nextRequestSegment conn with
      | none => exact consistent
      | some picked =>
        exact ih (readSegment_consistent consistent (nextRequestSegment_requestable next))
    · exact consistent

theorem updatePipe_consistent (consistent : Consistent honest remote op) (conn : Channel)
    {change : SegmentPipeState → SegmentPipeState}
    (requested : ∀ pipe, (change pipe).requestedOffset = pipe.requestedOffset)
    (response : ∀ pipe, (change pipe).responseOffset = pipe.responseOffset) :
    Consistent honest remote (op.updatePipe conn change) := by
  have sftp : ∀ channel, ((op.updatePipe conn change).endpoints channel).sftp =
        (op.endpoints channel).sftp := by
    intro channel
    simp
  constructor
  · intro index
    have frame := consistent.frame index
    refine frame.change {
      opState := rfl
      segFailed := rfl
      result := rfl
      remoteFileSize := rfl
      concat := rfl
      segments := fun _ _ => rfl
      parts := fun _ _ => rfl
      offset := rfl
      length := rfl
      liveFor := fun other _ channel => by rw [sftp]
      stopped := fun channel stopped => by rw [sftp]; exact stopped } ?_ ?_ rfl
    · intro channel away
      rw [sftp]
      exact frame.elsewhere index channel away
    · intro channel _
      by_cases same : channel = conn
      · subst same
        simp only [updatePipe_pipe, requested, response]
        rfl
      · rw [updatePipe_endpoints_of_ne _ _ _ same]
        rfl
  · intro index
    rw [updatePipe_segments, sftp]
    exact consistent.phase index

theorem measurePipe_offsets (env : SegmentEnv) (pipe : SegmentPipeState) :
    (measurePipe env pipe).requestedOffset = pipe.requestedOffset ∧
      (measurePipe env pipe).responseOffset = pipe.responseOffset := by
  unfold measurePipe
  split
  · exact ⟨rfl, rfl⟩
  · split <;> exact ⟨rfl, rfl⟩

theorem requestSegments_consistent (consistent : Consistent honest remote op)
    (env : SegmentEnv) (conn : Channel) :
    Consistent honest remote (op.requestSegments env conn) := by
  unfold requestSegments
  split
  · exact consistent
  · have measured := updatePipe_consistent consistent conn
      (fun pipe => (measurePipe_offsets env pipe).1)
      (fun pipe => (measurePipe_offsets env pipe).2)
    have sent := sendSegmentReads_consistent env conn 2 measured
    simp only
    split
    · exact updatePipe_consistent sent conn (fun _ => rfl) (fun _ => rfl)
    · exact sent

def added (env : SegmentEnv) (segment : SegmentHandler) : AioResult :=
  match segment.writer with
  | none => .error
  | some writer => (writer.addBuffer segment.buffer env.addBuffer).1

def grants (env : SegmentEnv) (segment : SegmentHandler) : Bool :=
  added env segment == .ok && env.poolBuffer.isSome

def flushes (env : SegmentEnv) (segment : SegmentHandler) : Bool :=
  added env segment == .ok && env.finalize == .ok

theorem getNextSegmentBuffer_cases {writer : Writer}
    (opened : (op.segments index).writer = some writer) (env : SegmentEnv) :
    (∃ handed : Writer, handed.bytes = writer.bytes ++ leaseBytes (op.segments index).buffer ∧
      ((∃ capacity, grants env (op.segments index) = true ∧
        op.getNextSegmentBuffer env index = (.ok, op.updateSegment index fun segment =>
            { segment with
              writer := some handed
              buffer := some { capacity := capacity, bytes := [] } })) ∨
        op.getNextSegmentBuffer env index = (.wait, op.updateSegment index fun segment =>
            { segment with
              writer := some handed, buffer := none, writerEvent := true }) ∨
        op.getNextSegmentBuffer env index = (.wait, op.updateSegment index fun segment =>
            { segment with
              writer := some handed, buffer := none, poolEvent := true }))) ∨
    (env.addBuffer = .error ∧ ∃ change, op.getNextSegmentBuffer env index =
      (.error, (op.updateSegment index change).fail .writeFailed)) := by
  have kept := writer.addBuffer_bytes (op.segments index).buffer env.addBuffer
  have moved := @Writer.addBuffer_lease writer (op.segments index).buffer env.addBuffer
  have waits := @Writer.addBuffer_wait writer (op.segments index).buffer env.addBuffer
  have fails := @Writer.addBuffer_error writer (op.segments index).buffer env.addBuffer
  unfold getNextSegmentBuffer grants added
  rw [opened]
  simp only
  generalize writer.addBuffer (op.segments index).buffer env.addBuffer =
    outcome at kept moved waits fails ⊢
  obtain ⟨answer, handed, lease⟩ := outcome
  cases answer with
  | error => exact .inr ⟨fails rfl, _, rfl⟩
  | wait =>
    left
    obtain rfl : lease = none := waits rfl
    refine ⟨handed, by simpa using kept, .inr (.inl ?_)⟩
    simp
  | ok =>
    left
    have empty : leaseBytes lease = [] := moved (by simp)
    refine ⟨handed, by simpa [empty] using kept, ?_⟩
    cases env.poolBuffer with
    | none => exact .inr (.inr (by simp))
    | some capacity => exact .inl ⟨capacity, rfl, by simp⟩

theorem finalizeSegment_cases {writer : Writer}
    (opened : (op.segments index).writer = some writer) (env : SegmentEnv) :
    ∃ (handed : Writer) (lease : Lease), handed.bytes ++ leaseBytes lease =
        writer.bytes ++ leaseBytes (op.segments index).buffer ∧
      ((∃ change, op.finalizeSegment env index =
          (op.updateSegment index change).fail .writeFailed) ∨
        leaseBytes lease = [] ∧
          (op.finalizeSegment env index = (op.updateSegment index fun segment =>
              { segment with
                finalizing := true
                writer := some handed
                buffer := lease
                writerEvent := true }) ∨
          flushes env (op.segments index) = true ∧
            op.finalizeSegment env index = (op.updateSegment index fun segment =>
                { segment with
                  finalizing := true
                  writer := some handed
                  buffer := lease }).finishSegment env index handed)) := by
  have kept := writer.addBuffer_bytes (op.segments index).buffer env.addBuffer
  have moved := @Writer.addBuffer_lease writer (op.segments index).buffer env.addBuffer
  have same : (op.updateSegment index fun segment =>
      { segment with finalizing := true }).segments index =
      { op.segments index with finalizing := true } := by simp
  unfold finalizeSegment flushes added
  simp only [same, opened, updateSegment_updateSegment]
  generalize writer.addBuffer (op.segments index).buffer env.addBuffer = outcome at kept moved ⊢
  obtain ⟨answer, handed, lease⟩ := outcome
  refine ⟨handed, lease, kept, ?_⟩
  cases answer with
  | error => exact .inl ⟨_, rfl⟩
  | wait => exact .inr ⟨moved (by simp), .inl rfl⟩
  | ok =>
    cases env.finalize with
    | error => exact .inl ⟨_, rfl⟩
    | wait => exact .inr ⟨moved (by simp), .inl rfl⟩
    | ok => exact .inr ⟨moved (by simp), .inr ⟨rfl, rfl⟩⟩

end Functions

end SegmentedDownload

end FileZilla.Sftp
