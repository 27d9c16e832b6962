import FileZilla.Engine.Sftp.SegmentMerge
import FileZilla.Runs
import Mathlib.Algebra.Order.BigOperators.Group.Finset

namespace FileZilla.Sftp

open List Option Function

namespace SegmentedDownload

variable {count : Nat}

inductive Phase (honest : Prop) (remote : Bytes) (op : SegmentedDownload count) : Prop
  | segmented (consistent : Consistent honest remote op)
  | merging (concat : op.opState = .concat) (quiet : Quiet op)
      (progress : honest → Progress remote op)
  | failed (failed : Failed op) (segFailed : op.opState = .segmented → op.segFailed = true)

open Client

section Handlers

variable {honest : Prop} {remote : Bytes} {index : Fin count}
  {op next : SegmentedDownload count} {env : SegmentEnv} {writer : Writer}

variable {code : ReplyCode}

theorem phase_of_fail (unfinished : op.result ≠ some .ok) (bad : code ≠ .ok) :
    Phase honest remote (op.fail code) :=
  .failed (failed_of_fail unfinished bad) fun _ => rfl

theorem Consistent.finished (consistent : Consistent honest remote op)
    (all : op.segmentsDone = count) (index : Fin count) :
    Finished honest (segmentBytes remote count index) (op.segments index) (op.parts index) ∧
      ((op.endpoints (op.segments index).conn).sftp.liveFor index) = [] := by
  have every : (Finset.univ.filter fun other =>
      (op.segments other).done = true) = Finset.univ := by
    apply Finset.eq_univ_of_card
    rw [← (consistent.frame index).finished, all, Fintype.card_fin]
  have done : (op.segments index).done = true := by
    have member : index ∈ Finset.univ.filter fun other =>
        (op.segments other).done = true := by
      rw [every]
      exact Finset.mem_univ index
    exact (Finset.mem_filter.mp member).2
  cases consistent.phase index with
  | unopened phase requested => simp [phase.done] at done
  | transferring phase awaits requested => simp [phase.done] at done
  | flushing phase writerEvent requested => simp [phase.done] at done
  | finished phase requested => exact ⟨phase, requested⟩

theorem startConcat_phase (positive : 0 < count) (consistent : Consistent honest remote op)
    (all : op.segmentsDone = count) (env : SegmentEnv) :
    Phase honest remote (op.startConcat env) := by
  have frame := consistent.frame ⟨0, positive⟩
  refine .merging (startConcat_sticky env op).2 (startConcat_quiet ?_ env) ?_
  · intro index
    obtain ⟨phase, live⟩ := consistent.finished all index
    refine ⟨phase.done, phase.writerEvent, ?_⟩
    intro channel
    by_cases mine : channel = (op.segments index).conn
    · rw [mine]
      exact live
    · exact frame.elsewhere index channel mine
  · intro trust
    exact startConcat_progress positive frame.unfinished frame.size
      (fun index => (consistent.finished all index).1.part trust) frame.concat env

theorem finishSegment_phase (frame : Frame honest remote index op)
    (done : (op.segments index).done = false) (outstanding : (op.segments index).outstanding = [])
    (writerEvent : (op.segments index).writerEvent = false)
    (live : (op.endpoints (op.segments index).conn).sftp.liveFor index = [])
    (part : ∃ base, op.parts index = some base ∧
      (honest → base ++ writer.bytes = segmentBytes remote count index))
    (env : SegmentEnv) :
    Phase honest remote (op.finishSegment env index writer) := by
  have positive : 0 < count := index.pos
  obtain ⟨base, stored, whole⟩ := part
  let closed := op.updateSegment index fun segment =>
    { segment with writer := none, done := true }
  let finished : SegmentedDownload count := { closed with
    parts := update closed.parts index
      ((closed.parts index).map fun content => content ++ writer.bytes)
    segmentsDone := closed.segmentsDone + 1 }
  have segment : finished.segments index =
      { op.segments index with writer := none, done := true } := by
    simp [finished, closed]
  have change : Change op finished index := {
    opState := rfl
    segFailed := rfl
    result := rfl
    remoteFileSize := rfl
    concat := rfl
    segments := fun other distinct => by
      simp [finished, closed, updateSegment_segments_of_ne _ _ _ distinct]
    parts := by
      intro other distinct
      have apart : (other : Nat) ≠ index := fun same => distinct (Fin.ext same)
      simp [finished, closed, apart]
    offset := by rw [segment]
    length := by rw [segment]
    liveFor := fun _ _ _ => rfl
    stopped := fun _ stopped => stopped }
  have consistent : Consistent honest remote finished := by
    refine (frame.change change ?_ ?_ ?_).consistent ?_
    · intro channel away
      rw [segment] at away
      exact frame.elsewhere index channel away
    · intro channel _
      simp only [share, segment]
      rfl
    · simp [segment, done, finished, closed]
    · rw [segment]
      refine .finished ⟨rfl, outstanding, writerEvent, ?_⟩ live
      intro trust
      simp [finished, closed, stored, whole trust]
  show Phase honest remote (if finished.segmentsDone = count then
    finished.startConcat env else finished)
  split
  · rename_i all
    exact startConcat_phase positive consistent all env
  · exact .segmented consistent

theorem finalizeSegment_phase (frame : Frame honest remote index op)
    (done : (op.segments index).done = false)
    (complete : (op.segments index).received = (op.segments index).length)
    (outstanding : (op.segments index).outstanding = [])
    (requestOffset : (op.segments index).requestOffset =
      (op.segments index).offset + (op.segments index).length)
    (writerEvent : (op.segments index).writerEvent = false)
    (live : (op.endpoints (op.segments index).conn).sftp.liveFor index = [])
    (holds : Holds honest (segmentBytes remote count index) (op.segments index)
      (op.parts index)) (env : SegmentEnv) :
    Phase honest remote (op.finalizeSegment env index) := by
  obtain ⟨base, writer, stored, opened, whole⟩ := holds
  obtain ⟨handed, lease, bytes, ⟨change, failed⟩ | ⟨moved, waits | ⟨-, ended⟩⟩⟩ :=
    finalizeSegment_cases opened env
  · rw [failed]
    refine phase_of_fail ?_ (by decide)
    exact frame.unfinished
  · rw [waits]
    refine .segmented (Frame.consistent (frame.updateSegment rfl rfl rfl rfl rfl) ?_)
    rw [updateSegment_segments]
    refine .flushing {
      finalizing := rfl
      done := done
      complete := complete
      outstanding := outstanding
      requestOffset := requestOffset
      holds := ⟨base, handed, stored, rfl, fun trust => ?_⟩ } rfl live
    rw [append_assoc, bytes, ← append_assoc]
    exact whole trust
  · rw [ended]
    rw [moved, append_nil] at bytes
    refine finishSegment_phase (frame.updateSegment rfl rfl rfl rfl rfl)
      ?_ ?_ ?_ ?_ ⟨base, stored, fun trust => ?_⟩ env
    · simpa using done
    · simpa using outstanding
    · simpa using writerEvent
    · simpa using live
    · rw [bytes, ← append_assoc]
      exact whole trust

structure Asked (honest : Prop) (remote : Bytes)
    (outcome : AioResult × SegmentedDownload count) : Prop where
  failed : outcome.1 = .error → Phase honest remote outcome.2
  consistent : outcome.1 ≠ .error → Consistent honest remote outcome.2

theorem getNextSegmentBuffer_asked (frame : Frame honest remote index op)
    (phase : Transferring honest (segmentBytes remote count index)
      (op.segments index) (op.parts index))
    (writerEvent : (op.segments index).writerEvent = false)
    (poolEvent : (op.segments index).poolEvent = false)
    (requested :
      (op.endpoints (op.segments index).conn).sftp.disconnecting = false →
        Requested (op.segments index)
          ((op.endpoints (op.segments index).conn).sftp.liveFor index))
    (env : SegmentEnv) :
    Asked honest remote (op.getNextSegmentBuffer env index) := by
  obtain ⟨base, writer, stored, opened, bytes⟩ := phase.holds
  have asked : ∀ (change : SegmentHandler → SegmentHandler) (handed : Writer)
      (lease : Lease), change (op.segments index) =
        { op.segments index with
          writer := some handed
          buffer := lease
          writerEvent := (change (op.segments index)).writerEvent
          poolEvent := (change (op.segments index)).poolEvent } →
      handed.bytes ++ leaseBytes lease = writer.bytes ++ leaseBytes (op.segments index).buffer →
      Awaits (change (op.segments index)) →
      Consistent honest remote (op.updateSegment index change) := by
    intro change handed lease changed kept awaits
    refine Frame.consistent (frame.updateSegment (by rw [changed])
      (by rw [changed]) (by rw [changed]) (by rw [changed]) (by rw [changed])) ?_
    rw [updateSegment_segments, updateSegment_endpoints, updateSegment_parts]
    refine .transferring ?_ awaits ?_
    · rw [changed]
      refine ⟨phase.finalizing, phase.done, phase.incomplete, base, handed,
        stored, rfl, fun trust => ?_⟩
      rw [append_assoc, kept, ← append_assoc]
      exact bytes trust
    · rw [changed]
      exact fun connected =>
        (requested connected).of_eq rfl rfl rfl rfl rfl rfl
  rcases getNextSegmentBuffer_cases opened env with
    ⟨handed, given, ⟨capacity, -, got⟩ | got | got⟩ | ⟨-, change, got⟩
  · rw [got]
    refine ⟨fun failed => (by cases failed), fun _ => ?_⟩
    simp only
    apply asked _ handed (some { capacity := capacity, bytes := [] })
    · rfl
    · simpa using given
    · exact .inl ⟨rfl, writerEvent, poolEvent⟩
  · rw [got]
    refine ⟨fun failed => (by cases failed), fun _ => ?_⟩
    simp only
    apply asked _ handed none
    · rfl
    · simpa using given
    · exact .inr ⟨rfl, .inl ⟨rfl, poolEvent⟩⟩
  · rw [got]
    refine ⟨fun failed => (by cases failed), fun _ => ?_⟩
    simp only
    apply asked _ handed none
    · rfl
    · simpa using given
    · exact .inr ⟨rfl, .inr ⟨writerEvent, rfl⟩⟩
  · rw [got]
    refine ⟨fun _ => phase_of_fail ?_ (by decide), fun other => absurd rfl other⟩
    exact frame.unfinished

variable {segment : SegmentHandler} {live : List RequestKind}

theorem SegmentPhase.stall {bytes : Bytes} {part : Option Bytes} {stopped : Bool}
    (phase : SegmentPhase honest bytes segment part live stopped) (stallChannel : Option Channel) :
    SegmentPhase honest bytes { segment with stallChannel := stallChannel }
      part live stopped := by
  cases phase with
  | unopened phase requested =>
    refine .unopened ⟨phase.handle, phase.writer, phase.buffer,
      phase.finalizing, phase.done, phase.writerEvent, phase.poolEvent,
      phase.resumed, phase.incomplete, phase.part⟩ fun connected => ?_
    exact (requested connected).of_eq rfl rfl rfl rfl rfl rfl
  | transferring phase awaits requested =>
    refine .transferring ⟨phase.finalizing, phase.done, phase.incomplete,
      phase.holds⟩ awaits fun connected => ?_
    exact (requested connected).of_eq rfl rfl rfl rfl rfl rfl
  | flushing phase writerEvent requested =>
    exact .flushing ⟨phase.finalizing, phase.done, phase.complete,
      phase.outstanding, phase.requestOffset, phase.holds⟩ writerEvent requested
  | finished phase requested =>
    exact .finished ⟨phase.done, phase.outstanding, phase.writerEvent, phase.part⟩ requested

theorem Consistent.stall (consistent : Consistent honest remote op)
    (index : Fin count) (stallChannel : Option Channel) :
    Consistent honest remote (op.updateSegment index fun segment =>
      { segment with stallChannel := stallChannel }) := by
  refine Frame.consistent ((consistent.frame index).updateSegment rfl rfl rfl rfl rfl) ?_
  rw [updateSegment_segments]
  exact (consistent.phase index).stall stallChannel

variable {channel : Channel} {change : Client (Fin count) → Client (Fin count)}

theorem updateSftp_liveFor (live : ∀ index, (change (op.endpoints channel).sftp).liveFor index =
      (op.endpoints channel).sftp.liveFor index) (other : Channel) (index : Fin count) :
    ((op.updateSftp channel change).endpoints other).sftp.liveFor index =
      (op.endpoints other).sftp.liveFor index := by
  by_cases same : other = channel
  · rw [same, updateSftp_sftp, live]
  · rw [updateSftp_endpoints_of_ne _ _ _ same]

theorem Consistent.updateSftp (consistent : Consistent honest remote op) (channel : Channel)
    (live : ∀ index, (change (op.endpoints channel).sftp).liveFor index =
      (op.endpoints channel).sftp.liveFor index)
    (stopped : (op.endpoints channel).sftp.disconnecting = true →
      (change (op.endpoints channel).sftp).disconnecting = true) :
    Consistent honest remote (op.updateSftp channel change) := by
  have later : ∀ other, (op.endpoints other).sftp.disconnecting = true →
      ((op.updateSftp channel change).endpoints other).sftp.disconnecting =
        true := by
    intro other before
    by_cases same : other = channel
    · rw [same] at before ⊢
      rw [updateSftp_sftp]
      exact stopped before
    · rwa [updateSftp_endpoints_of_ne _ _ _ same]
  constructor
  · intro index
    have frame := consistent.frame index
    refine frame.change {
      opState := rfl
      segFailed := rfl
      result := rfl
      remoteFileSize := rfl
      concat := rfl
      segments := fun _ _ => rfl
      parts := fun _ _ => rfl
      offset := rfl
      length := rfl
      liveFor := fun other _ elsewhere => updateSftp_liveFor live elsewhere other
      stopped := later } ?_ ?_ rfl
    · intro elsewhere away
      rw [updateSftp_liveFor live]
      exact frame.elsewhere index elsewhere away
    · intro elsewhere _
      rw [updateSftp_pipe]
      rfl
  · intro index
    rw [updateSftp_segments, updateSftp_liveFor live]
    exact (consistent.phase index).stop (later _)

theorem Quiet.updateSftp (quiet : Quiet op) (channel : Channel)
    (live : ∀ index, (change (op.endpoints channel).sftp).liveFor index =
      (op.endpoints channel).sftp.liveFor index) :
    Quiet (op.updateSftp channel change) := by
  intro index
  obtain ⟨done, writerEvent, answered⟩ := quiet index
  refine ⟨done, writerEvent, fun other => ?_⟩
  rw [updateSftp_liveFor live]
  exact answered other

theorem Progress.of_eq (progress : Progress remote op)
    (opState : next.opState = op.opState) (result : next.result = op.result)
    (size : next.remoteFileSize = op.remoteFileSize)
    (parts : next.parts = op.parts) (concat : next.concat = op.concat)
    (merged : next.merged = op.merged) : Progress remote next := by
  cases progress with
  | joining joining =>
    refine .joining ⟨opState.trans joining.concat, ?_, size.trans joining.size, ?_, ?_⟩
    · rw [result]
      exact joining.unfinished
    · rw [parts]
      exact joining.parts
    · rw [concat]
      exact joining.writer
  | joined joined =>
    refine .joined ⟨result.trans joined.result, merged.trans joined.merged, ?_⟩
    rw [concat]
    exact joined.writer
  | failed failed =>
    obtain ⟨code, bad, ended⟩ := failed
    exact .failed ⟨code, bad, result.trans ended⟩

theorem Phase.updateSftp (phase : Phase honest remote op) (channel : Channel)
    (live : ∀ index, (change (op.endpoints channel).sftp).liveFor index =
      (op.endpoints channel).sftp.liveFor index)
    (stopped : (op.endpoints channel).sftp.disconnecting = true →
      (change (op.endpoints channel).sftp).disconnecting = true) :
    Phase honest remote (op.updateSftp channel change) := by
  cases phase with
  | segmented consistent =>
    exact .segmented (consistent.updateSftp channel live stopped)
  | merging concat quiet progress =>
    exact .merging concat (quiet.updateSftp channel live) fun trust =>
      (progress trust).of_eq rfl rfl rfl rfl rfl rfl
  | failed failed segFailed => exact .failed failed segFailed

theorem proceed_phase {handled : Continuation × SegmentedDownload count}
    (phase : Phase honest remote handled.2) :
    Phase honest remote (proceed channel handled) := by
  refine phase.updateSftp channel (fun index => ?_) ?_
  · simp
  · intro stopped
    cases handled.1 <;> simp_all [Client.proceed]

theorem Consistent.unstallChannel (consistent : Consistent honest remote op)
    (index : Fin count) : Consistent honest remote (op.unstallChannel index) := by
  unfold SegmentedDownload.unstallChannel
  split
  · exact consistent
  · rename_i channel _
    exact (consistent.updateSftp channel (fun _ => rfl) (fun stopped => stopped)).stall index none

structure Answered (honest : Prop) (remote : Bytes) (channel : Channel)
    (index : Fin count) (kind : RequestKind) (op : SegmentedDownload count) :
    Prop where
  frame : Frame honest remote index op
  mine : channel = (op.segments index).conn
  connected : (op.endpoints channel).sftp.disconnecting = false
  requested : Requested (op.segments index) (kind :: (op.endpoints channel).sftp.liveFor index)
  phase : Unopened honest (segmentBytes remote count index) (op.segments index) (op.parts index) ∨
    Transferring honest (segmentBytes remote count index) (op.segments index)
      (op.parts index) ∧ Awaits (op.segments index)

variable {kind : RequestKind} {sftp : Client (Fin count)}

theorem Consistent.popped (consistent : Consistent honest remote op)
    {handler : Option (Fin count)} (answered : (op.endpoints channel).sftp.answer =
      some (⟨handler, kind⟩, sftp)) (index : Fin count)
    (owner : ∀ other, other ≠ index → handler ≠ some other) :
    Frame honest remote index (op.updateSftp channel fun _ => sftp) := by
  obtain ⟨-, -, connected, still⟩ := answer_flags answered
  have frame := consistent.frame index
  have live : ∀ other, handler ≠ some other → ∀ elsewhere,
      ((op.updateSftp channel fun _ => sftp).endpoints elsewhere).sftp.liveFor
        other = (op.endpoints elsewhere).sftp.liveFor other := by
    intro other distinct elsewhere
    by_cases same : elsewhere = channel
    · rw [same, updateSftp_sftp]
      exact liveFor_of_answer_of_ne answered distinct
    · rw [updateSftp_endpoints_of_ne _ _ _ same]
  refine frame.change {
    opState := rfl
    segFailed := rfl
    result := rfl
    remoteFileSize := rfl
    concat := rfl
    segments := fun _ _ => rfl
    parts := fun _ _ => rfl
    offset := rfl
    length := rfl
    liveFor := fun other distinct => live other (owner other distinct)
    stopped := ?_ } ?_ ?_ rfl
  · intro elsewhere stopped
    by_cases same : elsewhere = channel
    · rw [same, connected] at stopped
      cases stopped
    · rwa [updateSftp_endpoints_of_ne _ _ _ same]
  · intro elsewhere away
    have none : (op.endpoints elsewhere).sftp.liveFor index = [] :=
      frame.elsewhere index elsewhere away
    by_cases same : elsewhere = channel
    · rw [same] at none ⊢
      rw [updateSftp_sftp]
      by_cases owned : handler = some index
      · rw [owned] at answered
        rw [liveFor_of_answer answered] at none
        cases none
      · rw [liveFor_of_answer_of_ne answered owned]
        exact none
    · rwa [updateSftp_endpoints_of_ne _ _ _ same]
  · intro elsewhere _
    rw [updateSftp_pipe]
    rfl

theorem Consistent.answered (consistent : Consistent honest remote op) {index : Fin count}
    (answered : (op.endpoints channel).sftp.answer = some (⟨some index, kind⟩, sftp)) :
    Answered honest remote channel index kind (op.updateSftp channel fun _ => sftp) := by
  obtain ⟨-, -, connected, still⟩ := answer_flags answered
  have head := liveFor_of_answer answered
  have mine : channel = (op.segments index).conn := by
    by_contra away
    rw [(consistent.frame index).elsewhere index channel away] at head
    cases head
  have frame := consistent.popped answered index
    fun other distinct same => distinct (some.inj same).symm
  have phase := consistent.phase index
  rw [← mine, head, connected] at phase
  refine ⟨frame, mine, ?_, ?_, ?_⟩
  · rw [updateSftp_sftp]
    exact still
  · rw [updateSftp_sftp]
    cases phase with
    | unopened phase requested => exact requested rfl
    | transferring phase awaits requested => exact requested rfl
    | flushing phase writerEvent requested => cases requested
    | finished phase requested => cases requested
  · cases phase with
    | unopened phase requested => exact .inl phase
    | transferring phase awaits requested => exact .inr ⟨phase, awaits⟩
    | flushing phase writerEvent requested => cases requested
    | finished phase requested => cases requested

theorem Consistent.discarded (consistent : Consistent honest remote op)
    (answered : (op.endpoints channel).sftp.answer = some (⟨none, kind⟩, sftp)) :
    Consistent honest remote (op.updateSftp channel fun _ => sftp) := by
  obtain ⟨-, -, connected, still⟩ := answer_flags answered
  refine consistent.updateSftp channel (fun index => ?_) ?_
  · exact liveFor_of_answer_of_ne answered (by simp)
  · simp [connected]

theorem processSegmentStatus_phase (answered : Answered honest remote channel index kind op)
    (env : SegmentEnv) (code : StatusCode) :
    Phase honest remote (op.processSegmentStatus env index code).2 := by
  have unfinished := answered.frame.unfinished
  unfold processSegmentStatus
  split
  · exact phase_of_fail unfinished (by decide)
  · split
    · simp only
      rw [if_neg]
      · refine phase_of_fail ?_ (by decide)
        exact unfinished
      · have incomplete :
            (op.segments index).received < (op.segments index).length := by
          rcases answered.phase with phase | ⟨phase, -⟩
          · exact phase.incomplete
          · exact phase.incomplete
        simpa using incomplete
    · exact phase_of_fail unfinished (by decide)

theorem Requested.opened (requested : Requested segment (kind :: live))
    (opens : ∀ offset size, kind ≠ .read offset size) :
    segment.outstanding = [] ∧
      segment.requestOffset = segment.offset + segment.received ∧ live = [] := by
  cases requested with
  | opening _ outstanding requestOffset opening =>
    exact ⟨outstanding, requestOffset, (cons.inj opening).2⟩
  | reading _ ranges reads _ _ _ _ =>
    cases ranges with
    | nil => cases reads
    | cons range rest =>
      exact absurd (cons.inj reads).1 (opens range.1 range.2)

variable {offset : Nat}

theorem Requested.answered {size : Nat}
    (requested : Requested segment (.read offset size :: live)) :
    segment.handle ≠ "" ∧ offset = segment.offset + segment.received ∧ 0 < size ∧
      ∃ ranges, live = readKinds ranges ∧
        segment.outstanding = size :: ranges.map Prod.snd ∧
        (∀ range ∈ ranges, 0 < range.2) ∧
        Tiles (offset + size) ranges segment.requestOffset ∧
        segment.requestOffset ≤ segment.offset + segment.length := by
  cases requested with
  | opening _ _ _ opening => cases opening
  | reading handle ranges reads outstanding positive tiles within =>
    cases ranges with
    | nil => cases reads
    | cons range rest =>
      obtain ⟨first, later⟩ := cons.inj reads
      obtain ⟨rfl, rfl⟩ := RequestKind.read.inj first
      refine ⟨handle, tiles.1, positive range mem_cons_self, rest, later,
        outstanding, fun other member => positive other
          (mem_cons_of_mem _ member), ?_, within⟩
      rw [tiles.1]
      exact tiles.2

theorem handled_phase {outcome : AioResult × SegmentedDownload count}
    (asked : Asked honest remote outcome) (env : SegmentEnv) (conn : Channel) :
    Phase honest remote (match outcome with
      | (.wait, op) => (Continuation.wait, op.stallChannel index)
      | (.error, op) => (Continuation.next, op)
      | (.ok, op) => (Continuation.next, op.requestSegments env conn)).2 := by
  obtain ⟨answer, next⟩ := outcome
  cases answer with
  | ok =>
    exact .segmented (requestSegments_consistent (asked.consistent (by simp)) env conn)
  | wait => exact .segmented ((asked.consistent (by simp)).stall index _)
  | error => exact asked.failed rfl

theorem Requested.ready (handle : segment.handle ≠ "") (outstanding : segment.outstanding = [])
    (requestOffset :
      segment.requestOffset = segment.offset + segment.received)
    (incomplete : segment.received < segment.length) :
    Requested segment [] := by
  refine .reading handle [] rfl outstanding (by simp) requestOffset.symm ?_
  rw [requestOffset]
  omega

theorem openWriter_asked (frame : Frame honest remote index op)
    {earlier : SegmentHandler} {handle : String} {content : Bytes}
    (phase : Unopened honest (segmentBytes remote count index) earlier (op.parts index))
    (segment : op.segments index = { earlier with handle := handle })
    (found : openFile (op.parts index) earlier.partSize = some content)
    (requested : Requested (op.segments index)
      ((op.endpoints (op.segments index).conn).sftp.liveFor index))
    (env : SegmentEnv) :
    Asked honest remote (getNextSegmentBuffer env index
      { op.updateSegment index (fun segment =>
          { segment with
            writer := some { offset := segment.partSize, bytes := [] } })
        with parts := Function.update op.parts index (some content) }) := by
  have opened : Frame honest remote index
      { op.updateSegment index (fun segment =>
          { segment with
            writer := some { offset := segment.partSize, bytes := [] } })
        with parts := update op.parts index (some content) } :=
    Frame.updatePart (frame.updateSegment rfl rfl rfl rfl rfl) (some content)
  refine getNextSegmentBuffer_asked opened ?_ ?_ ?_ ?_ env
  · simp only [updateSegment_segments, update_self, segment]
    refine ⟨phase.finalizing, phase.done, phase.incomplete, content, _, rfl,
      rfl, fun trust => ?_⟩
    simp [phase.buffer, phase.part trust content found]
  · simp only [updateSegment_segments, segment]
    exact phase.writerEvent
  · simp only [updateSegment_segments, segment]
    exact phase.poolEvent
  · intro _
    simp only [updateSegment_segments, updateSegment_endpoints]
    exact requested.of_eq rfl rfl rfl rfl rfl rfl

theorem onSegmentOpen_phase (answered : Answered honest remote channel index kind op)
    (opens : ∀ offset size, kind ≠ .read offset size) (env : SegmentEnv) {handle : String}
    (filled : handle ≠ "") :
    Phase honest remote (op.onSegmentOpen env index handle).2 := by
  obtain ⟨outstanding, requestOffset, none⟩ := answered.requested.opened opens
  rw [answered.mine] at none
  have frame : Frame honest remote index
      (op.updateSegment index fun segment => { segment with handle := handle }) :=
    answered.frame.updateSegment rfl rfl rfl rfl rfl
  unfold onSegmentOpen
  simp only [updateSegment_segments]
  rw [if_neg (by simpa using answered.frame.running)]
  rcases answered.phase with phase | ⟨phase, awaits⟩
  · simp only [phase.writer]
    split
    · rename_i content found _
      apply handled_phase
      refine openWriter_asked frame phase (updateSegment_segments _ _ _) found ?_ env
      rw [updateSegment_segments, updateSegment_endpoints, none]
      exact .ready filled outstanding requestOffset phase.incomplete
    · refine phase_of_fail ?_ (by decide)
      exact frame.unfinished
  · obtain ⟨base, writer, stored, opened, whole⟩ := phase.holds
    simp only [opened]
    refine .segmented (requestSegments_consistent (frame.consistent ?_) env _)
    rw [updateSegment_segments, updateSegment_endpoints, none]
    refine .transferring ⟨phase.finalizing, phase.done, phase.incomplete, base,
      writer, stored, opened, whole⟩ awaits fun _ => ?_
    exact .ready filled outstanding requestOffset phase.incomplete

theorem Answered.stop (answered : Answered honest remote channel index kind op)
    (outstanding : List Nat) :
    Consistent honest remote ((op.updateSegment index fun segment =>
        { segment with outstanding := outstanding }).updateSftp channel
          fun sftp => sftp.proceed .error) := by
  have mine := answered.mine
  subst mine
  have segment : (op.updateSegment index fun segment =>
      { segment with outstanding := outstanding }).segments index =
      { op.segments index with outstanding := outstanding } := by simp
  have live := fun other => @updateSftp_liveFor count (op.updateSegment index fun segment =>
      { segment with outstanding := outstanding })
    (op.segments index).conn (fun sftp => sftp.proceed .error) (fun _ => rfl) other
  have frame := answered.frame
  have change : Change op ((op.updateSegment index fun segment =>
      { segment with outstanding := outstanding }).updateSftp
        (op.segments index).conn fun sftp => sftp.proceed .error) index := {
    opState := rfl
    segFailed := rfl
    result := rfl
    remoteFileSize := rfl
    concat := rfl
    segments := fun other distinct => by
      rw [updateSftp_segments, updateSegment_segments_of_ne _ _ _ distinct]
    parts := fun _ _ => rfl
    offset := by rw [updateSftp_segments, segment]
    length := by rw [updateSftp_segments, segment]
    liveFor := fun other _ channel => live channel other
    stopped := by
      intro other stopped
      by_cases same : other = (op.segments index).conn
      · rw [same, updateSftp_sftp]
        rfl
      · rwa [updateSftp_endpoints_of_ne _ _ _ same] }
  refine (frame.change change ?_ ?_ ?_).consistent ?_
  · intro other away
    rw [updateSftp_segments, segment] at away
    rw [live]
    exact frame.elsewhere index other away
  · intro other connected
    have away : other ≠ (op.segments index).conn := by
      rintro rfl
      rw [updateSftp_sftp] at connected
      cases connected
    simp only [share, updateSftp_segments, segment, Ne.symm away,
      if_false, updateSftp_pipe, updateSegment_endpoints]
  · rw [updateSftp_segments, segment]
    rfl
  · rw [updateSftp_segments, segment, updateSftp_sftp]
    rcases answered.phase with phase | ⟨phase, awaits⟩
    · exact .unopened ⟨phase.handle, phase.writer, phase.buffer,
        phase.finalizing, phase.done, phase.writerEvent, phase.poolEvent,
        phase.resumed, phase.incomplete, phase.part⟩ fun free => by cases free
    · exact .transferring ⟨phase.finalizing, phase.done, phase.incomplete,
        phase.holds⟩ awaits fun free => by cases free

theorem updateSegment_outstanding (op : SegmentedDownload count) (index : Fin count) :
    (op.updateSegment index fun segment =>
      { segment with outstanding := (op.segments index).outstanding }) = op := by
  simp [updateSegment]

def takeBlock (op : SegmentedDownload count) (index : Fin count) (buffer : Buffer)
    (outstanding : List Nat) (data : Bytes) : SegmentedDownload count :=
  let op := op.updateSegment index fun segment =>
    { segment with outstanding := outstanding }
  (op.updateSegment index fun segment =>
    { segment with
      buffer := some { buffer with bytes := buffer.bytes ++ data }
      received := segment.received + data.length }).updatePipe
        (op.segments index).conn fun pipe =>
          { pipe with responseOffset := pipe.responseOffset + data.length }

theorem takeBlock_segments (op : SegmentedDownload count) (index : Fin count)
    (buffer : Buffer) (outstanding : List Nat) (data : Bytes) :
    (op.takeBlock index buffer outstanding data).segments index =
      { op.segments index with
        outstanding := outstanding
        buffer := some { buffer with bytes := buffer.bytes ++ data }
        received := (op.segments index).received + data.length } := by
  simp [takeBlock]

theorem takeBlock_sftp (op : SegmentedDownload count) (index : Fin count)
    (buffer : Buffer) (outstanding : List Nat) (data : Bytes) (channel : Channel) :
    ((op.takeBlock index buffer outstanding data).endpoints channel).sftp =
      (op.endpoints channel).sftp := by
  simp [takeBlock]

variable {data : Bytes}

theorem takeBlock_frame (frame : Frame honest remote index op) (buffer : Buffer)
    {outstanding : List Nat}
    (first : (op.segments index).outstanding = data.length :: outstanding) :
    Frame honest remote index (op.takeBlock index buffer outstanding data) := by
  have sftp := takeBlock_sftp op index buffer outstanding data
  have segment := takeBlock_segments op index buffer outstanding data
  have change : Change op (op.takeBlock index buffer outstanding data) index := {
    opState := rfl
    segFailed := rfl
    result := rfl
    remoteFileSize := rfl
    concat := rfl
    segments := fun other distinct => by
      simp [takeBlock, updateSegment_segments_of_ne _ _ _ distinct]
    parts := fun _ _ => rfl
    offset := by rw [segment]
    length := by rw [segment]
    liveFor := fun other _ channel => by rw [sftp]
    stopped := fun channel stopped => by rw [sftp]; exact stopped }
  refine frame.change change ?_ ?_ ?_
  · intro channel away
    rw [segment] at away
    rw [sftp]
    exact frame.elsewhere index channel away
  · intro channel _
    simp only [share, segment, first]
    by_cases same : channel = (op.segments index).conn
    · subst same
      simp [takeBlock]
      omega
    · simp [takeBlock, updatePipe_endpoints_of_ne _ _ _ same, Ne.symm same]
  · rw [segment]
    rfl

theorem takeBlock_phase {buffer : Buffer} {outstanding : List Nat}
    (answered : Answered honest remote channel index
      (.read offset data.length) op) (carries : honest → data <+: remote.drop offset)
    (phase : Transferring honest (segmentBytes remote count index)
      (op.segments index) (op.parts index)) (granted : (op.segments index).buffer = some buffer)
    (writerEvent : (op.segments index).writerEvent = false)
    (poolEvent : (op.segments index).poolEvent = false)
    (first : (op.segments index).outstanding = data.length :: outstanding) (env : SegmentEnv) :
    let op := op.takeBlock index buffer outstanding data
    Phase honest remote (if (op.segments index).received ≥ (op.segments index).length then
        (Continuation.next, op.finalizeSegment env index)
      else if FileTransfer.bufferFull (op.segments index).buffer then
        match op.getNextSegmentBuffer env index with
        | (.wait, op) => (.wait, op.stallChannel index)
        | (.error, op) => (.next, op)
        | (.ok, op') => (.next, op'.requestSegments env (op.segments index).conn)
      else
        (.next, op.requestSegments env (op.segments index).conn)).2 := by
  intro taken
  have frame := answered.frame
  obtain ⟨handle, position, positive, ranges, live, sizes, nonempty, tiles,
    within⟩ := answered.requested.answered
  rw [first] at sizes
  obtain ⟨-, rfl⟩ := cons.inj sizes
  rw [answered.mine] at live
  have bound := tiles.le
  have fits : (op.segments index).received + data.length ≤ (op.segments index).length := by omega
  have segment := takeBlock_segments op index buffer (ranges.map Prod.snd) data
  have sftp := takeBlock_sftp op index buffer (ranges.map Prod.snd) data
  have takenFrame := takeBlock_frame frame buffer first
  have bytes : honest → (segmentBytes remote count index).take
      ((op.segments index).received + data.length) =
        (segmentBytes remote count index).take (op.segments index).received ++
          data := by
    intro trust
    refine segmentBytes_take_append ?_ ?_
    · have start := carries trust
      rw [position, frame.offset] at start
      exact start
    · rw [← frame.length index]
      exact fits
  have holds : Holds honest ((segmentBytes remote count index).take
      ((op.segments index).received + data.length)) (taken.segments index)
      (taken.parts index) := by
    obtain ⟨base, writer, stored, opened, whole⟩ := phase.holds
    rw [segment]
    refine ⟨base, writer, stored, opened, fun trust => ?_⟩
    have before := whole trust
    rw [granted, leaseBytes_some] at before
    rw [bytes trust, ← before, leaseBytes_some, append_assoc,
      append_assoc, append_assoc]
  split
  · rename_i complete
    rw [segment] at complete
    simp only at complete
    have whole : (op.segments index).received + data.length =
        (op.segments index).length := by omega
    have none : ranges = [] := by
      cases ranges with
      | nil => rfl
      | cons range rest =>
        have size := nonempty range mem_cons_self
        have total := tiles.sum_eq
        simp only [map_cons, sum_cons] at total
        omega
    subst none
    refine finalizeSegment_phase takenFrame ?_ ?_ ?_ ?_ ?_ ?_ ?_ env
    · rw [segment]
      exact phase.done
    · rw [segment]
      exact whole
    · rw [segment]
      rfl
    · rw [segment]
      simp only
      rw [tiles_nil] at tiles
      omega
    · rw [segment]
      exact writerEvent
    · rw [segment, sftp]
      exact live
    · rw [whole, frame.length, ← segmentBytes_length index.isLt, take_length] at holds
      exact holds
  · rename_i incomplete
    rw [segment] at incomplete
    have ready : Transferring honest (segmentBytes remote count index)
        (taken.segments index) (taken.parts index) := by
      refine ⟨?_, ?_, ?_, ?_⟩
      · rw [segment]
        exact phase.finalizing
      · rw [segment]
        exact phase.done
      · rw [segment]
        exact Nat.lt_of_not_le incomplete
      · rw [segment] at holds ⊢
        exact holds
    have requested : Requested (taken.segments index)
        ((taken.endpoints (taken.segments index).conn).sftp.liveFor index) := by
      rw [segment, sftp]
      refine .reading handle ranges live rfl nonempty ?_ within
      simp only [← Nat.add_assoc, ← position]
      exact tiles
    split
    · apply handled_phase
      refine getNextSegmentBuffer_asked takenFrame ready ?_ ?_ (fun _ => requested) env
      · rw [segment]
        exact writerEvent
      · rw [segment]
        exact poolEvent
    · refine .segmented (requestSegments_consistent (takenFrame.consistent
        (.transferring ready ?_ fun _ => requested)) env _)
      rw [segment]
      exact .inl ⟨rfl, writerEvent, poolEvent⟩

theorem processSegmentData_phase {size : Nat}
    (answered : Answered honest remote channel index (.read offset size) op)
    (carries : honest → data <+: remote.drop offset) (env : SegmentEnv) :
    Phase honest remote (proceed channel (op.processSegmentData env index data)) := by
  have frame := answered.frame
  have stopped := answered.stop (op.segments index).outstanding
  rw [updateSegment_outstanding] at stopped
  unfold processSegmentData
  rw [if_neg (by simp [frame.running])]
  split
  · exact .segmented stopped
  · split
    · rename_i expected outstanding buffer first granted
      simp only
      obtain ⟨-, -, -, ranges, -, sizes, -⟩ := answered.requested.answered
      obtain ⟨rfl, -⟩ := cons.inj (first.symm.trans sizes)
      split
      · exact .segmented (answered.stop outstanding)
      · split
        · apply proceed_phase
          refine phase_of_fail ?_ (by decide)
          exact frame.unfinished
        · obtain rfl : data.length = expected := by omega
          apply proceed_phase
          rcases answered.phase with phase | ⟨phase, awaits⟩
          · simp [phase.buffer] at granted
          · rcases awaits with ⟨-, writerEvent, poolEvent⟩ | ⟨none, -⟩
            · exact takeBlock_phase answered carries phase granted writerEvent poolEvent first env
            · simp [granted] at none
    · exact .segmented stopped

theorem processReply_phase {reply : Reply}
    (answered : Answered honest remote channel index kind op) (allowed : kind.allows reply = true)
    (carries : honest → ∀ offset size data, kind = .read offset size →
      reply = .data data → data <+: remote.drop offset) (env : SegmentEnv) :
    Phase honest remote (proceed channel (op.processReply env index reply)) := by
  have unfinished := answered.frame.unfinished
  cases reply with
  | handle handle =>
    apply proceed_phase
    simp only [processReply]
    split
    · exact phase_of_fail unfinished (by decide)
    · rename_i filled
      refine onSegmentOpen_phase answered ?_ env filled
      rintro offset size rfl
      cases allowed
  | data data =>
    cases kind with
    | read offset size =>
      exact processSegmentData_phase answered
        (fun trust => carries trust offset size data rfl rfl) env
    | «open» => cases allowed
    | write offset bytes => cases allowed
    | fsetstat => cases allowed
    | close => cases allowed
  | status code =>
    exact proceed_phase (processSegmentStatus_phase answered env code)
  | failure => exact proceed_phase (phase_of_fail unfinished (by decide))

theorem onSegmentWriterAvailability_phase (consistent : Consistent honest remote op)
    (waited : (op.segments index).writerEvent = true) (env : SegmentEnv) :
    Phase honest remote ((op.updateSegment index fun segment =>
        { segment with writerEvent := false }).onSegmentWriterAvailability env index) := by
  have frame : Frame honest remote index (op.updateSegment index fun segment =>
      { segment with writerEvent := false }) :=
    (consistent.frame index).updateSegment rfl rfl rfl rfl rfl
  unfold onSegmentWriterAvailability
  rw [if_neg (by simp [(consistent.frame index).running])]
  cases consistent.phase index with
  | unopened phase requested => simp [phase.writerEvent] at waited
  | transferring phase awaits requested =>
    have poolEvent : (op.segments index).poolEvent = false := by
      rcases awaits with ⟨-, -, poolEvent⟩ | ⟨-, ⟨-, poolEvent⟩ | ⟨idle, -⟩⟩
      · exact poolEvent
      · exact poolEvent
      · simp [idle] at waited
    rw [if_neg (by simp [phase.finalizing])]
    have asked := getNextSegmentBuffer_asked frame (by
        rw [updateSegment_segments]
        exact ⟨phase.finalizing, phase.done, phase.incomplete, phase.holds⟩)
      (by rw [updateSegment_segments])
      (by rw [updateSegment_segments]; exact poolEvent)
      (by
        rw [updateSegment_segments]
        exact fun connected =>
          (requested connected).of_eq rfl rfl rfl rfl rfl rfl) env
    generalize getNextSegmentBuffer env index _ = outcome at asked ⊢
    obtain ⟨answer, next⟩ := outcome
    cases answer with
    | ok =>
      exact .segmented (requestSegments_consistent
        ((asked.consistent (by simp)).unstallChannel index) env _)
    | wait => exact .segmented (asked.consistent (by simp))
    | error => exact asked.failed rfl
  | flushing phase _ requested =>
    rw [if_pos (by simp [phase.finalizing])]
    refine finalizeSegment_phase frame ?_ ?_ ?_ ?_ ?_ ?_ ?_ env
    all_goals rw [updateSegment_segments]
    · exact phase.done
    · exact phase.complete
    · exact phase.outstanding
    · exact phase.requestOffset
    · exact requested
    · exact phase.holds
  | finished phase requested => simp [phase.writerEvent] at waited

theorem onSegmentPoolAvailability_phase (consistent : Consistent honest remote op)
    (waited : (op.segments index).poolEvent = true) (env : SegmentEnv) :
    Phase honest remote ((op.updateSegment index fun segment =>
        { segment with poolEvent := false }).onSegmentPoolAvailability env index) := by
  have frame : Frame honest remote index (op.updateSegment index fun segment =>
      { segment with poolEvent := false }) :=
    (consistent.frame index).updateSegment rfl rfl rfl rfl rfl
  unfold onSegmentPoolAvailability
  simp only [updateSegment_segments, updateSegment_updateSegment]
  rw [if_neg (by simp [(consistent.frame index).running])]
  cases consistent.phase index with
  | unopened phase requested => simp [phase.poolEvent] at waited
  | transferring phase awaits requested =>
    have empty : (op.segments index).buffer = none ∧
        (op.segments index).writerEvent = false := by
      rcases awaits with ⟨-, -, idle⟩ | ⟨empty, ⟨-, idle⟩ | ⟨writerEvent, -⟩⟩
      · simp [idle] at waited
      · simp [idle] at waited
      · exact ⟨empty, writerEvent⟩
    have granted : ∀ lease : Lease, leaseBytes lease = [] →
        Transferring honest (segmentBytes remote count index)
          { op.segments index with poolEvent := false, buffer := lease }
          (op.parts index) := by
      intro lease fresh
      refine ⟨phase.finalizing, phase.done, phase.incomplete, ?_⟩
      obtain ⟨base, writer, stored, opened, whole⟩ := phase.holds
      refine ⟨base, writer, stored, opened, fun trust => ?_⟩
      rw [fresh]
      have before := whole trust
      rwa [empty.1] at before
    rw [if_pos (by simp [empty.1, phase.finalizing, phase.done])]
    split
    · refine .segmented (Frame.consistent
        ((consistent.frame index).updateSegment rfl rfl rfl rfl rfl) ?_)
      rw [updateSegment_segments]
      have same := granted none rfl
      refine .transferring ⟨same.finalizing, same.done, same.incomplete, ?_⟩
        (.inr ⟨empty.1, .inr ⟨empty.2, rfl⟩⟩)
        fun connected => (requested connected).of_eq rfl rfl rfl rfl rfl rfl
      obtain ⟨base, writer, stored, opened, whole⟩ := phase.holds
      exact ⟨base, writer, stored, opened, whole⟩
    · rename_i capacity _
      refine .segmented (requestSegments_consistent (Consistent.unstallChannel (Frame.consistent
          ((consistent.frame index).updateSegment rfl rfl rfl rfl rfl) ?_)
        index) env _)
      rw [updateSegment_segments]
      exact .transferring (granted (some { capacity, bytes := [] }) rfl)
        (.inl ⟨rfl, empty.2, rfl⟩)
        fun connected => (requested connected).of_eq rfl rfl rfl rfl rfl rfl
  | flushing phase writerEvent requested =>
    rw [if_neg (by simp [phase.finalizing])]
    refine .segmented (frame.consistent ?_)
    rw [updateSegment_segments]
    exact .flushing ⟨phase.finalizing, phase.done, phase.complete,
      phase.outstanding, phase.requestOffset, phase.holds⟩ writerEvent requested
  | finished phase requested =>
    rw [if_neg (by simp [phase.done])]
    refine .segmented (frame.consistent ?_)
    rw [updateSegment_segments]
    exact .finished ⟨phase.done, phase.outstanding, phase.writerEvent, phase.part⟩ requested

section Migration

variable (op : SegmentedDownload count) {index : Fin count} (conn : Nat)

theorem migrateSegment_segments :
    (op.migrateSegment index conn).segments index =
      { op.segments index with
        handle := ""
        outstanding := []
        requestOffset := (op.segments index).offset + (op.segments index).received
        conn := some conn } := by
  simp [migrateSegment, closeHandle_segments]

theorem migrateSegment_segments_of_ne {other : Fin count} (distinct : other ≠ index) :
    (op.migrateSegment index conn).segments other = op.segments other := by
  simp [migrateSegment, closeHandle_segments_of_ne, updateSegment_segments_of_ne, distinct]

theorem migrateSegment_old (mine : (op.segments index).conn = none) :
    (op.migrateSegment index conn).endpoints none =
      { sftp :=
          if (op.segments index).handle = "" then
            (op.endpoints none).sftp.cancel index
          else
            ((op.endpoints none).sftp.cancel index).request none .close
        pipe := { (op.endpoints none).pipe with
          requestedOffset := subUInt64 (op.endpoints none).pipe.requestedOffset
            (op.segments index).outstanding.sum } } := by
  simp [migrateSegment, closeHandle_eq, mine, updateSftp, updatePipe]

theorem migrateSegment_new (mine : (op.segments index).conn = none) :
    (op.migrateSegment index conn).endpoints (some conn) =
      { op.endpoints (some conn) with
        sftp := (op.endpoints (some conn)).sftp.request (some index) .open } := by
  simp [migrateSegment, closeHandle_eq, mine, updateSftp, updatePipe]

theorem migrateSegment_of_ne (mine : (op.segments index).conn = none)
    {channel : Channel} (old : channel ≠ none) (new : channel ≠ some conn) :
    (op.migrateSegment index conn).endpoints channel = op.endpoints channel := by
  simp [migrateSegment, closeHandle_eq, mine, updateSftp, updatePipe, old, new]

theorem migrateSegment_disconnecting (mine : (op.segments index).conn = none)
    (channel : Channel) :
    ((op.migrateSegment index conn).endpoints channel).sftp.disconnecting =
      (op.endpoints channel).sftp.disconnecting := by
  by_cases old : channel = none
  · rw [old, migrateSegment_old op conn mine]
    simp only
    split <;> simp
  · by_cases new : channel = some conn
    · rw [new, migrateSegment_new op conn mine, request_disconnecting]
    · rw [migrateSegment_of_ne op conn mine old new]

theorem migrateSegment_change (mine : (op.segments index).conn = none) :
    Change op (op.migrateSegment index conn) index where
  opState := by simp [migrateSegment, closeHandle_eq]
  segFailed := by simp [migrateSegment, closeHandle_eq]
  result := by simp [migrateSegment, closeHandle_eq]
  remoteFileSize := by
    simp [migrateSegment, closeHandle_eq, updateSftp, updatePipe, updateSegment]
  concat := by
    simp [migrateSegment, closeHandle_eq, updateSftp, updatePipe, updateSegment]
  segments := fun other distinct => migrateSegment_segments_of_ne op conn distinct
  parts := by simp [migrateSegment, closeHandle_eq]
  offset := by rw [migrateSegment_segments]
  length := by rw [migrateSegment_segments]
  liveFor := by
    intro other distinct channel
    by_cases old : channel = none
    · rw [old, migrateSegment_old op conn mine]
      simp only
      split
      · exact liveFor_cancel_of_ne _ distinct
      · rw [liveFor_request_none, liveFor_cancel_of_ne _ distinct]
    · by_cases new : channel = some conn
      · rw [new, migrateSegment_new op conn mine]
        exact liveFor_request_of_ne _ distinct .open
      · rw [migrateSegment_of_ne op conn mine old new]
  stopped := by
    intro channel stopped
    rw [migrateSegment_disconnecting op conn mine, stopped]

end Migration

theorem migrateSegment_consistent (consistent : Consistent honest remote op)
    (mine : (op.segments index).conn = none) (finalizing : (op.segments index).finalizing = false)
    (done : (op.segments index).done = false) (conn : Nat) :
    Consistent honest remote (op.migrateSegment index conn) := by
  have frame := consistent.frame index
  have fresh : (op.endpoints (some conn)).sftp.liveFor index = [] :=
    frame.elsewhere index (some conn) (by simp [mine])
  have segment := @migrateSegment_segments _ op index conn
  have parts : (op.migrateSegment index conn).parts = op.parts := by
    simp [migrateSegment, closeHandle_eq]
  have segmentsDone :
      (op.migrateSegment index conn).segmentsDone = op.segmentsDone := by
    simp [migrateSegment, closeHandle_eq]
  refine (frame.change (migrateSegment_change op conn mine) ?_ ?_ ?_).consistent ?_
  · intro channel away
    rw [segment] at away
    by_cases old : channel = none
    · rw [old, migrateSegment_old op conn mine]
      simp only
      split <;> simp
    · rw [migrateSegment_of_ne op conn mine old away]
      exact frame.elsewhere index channel (by simpa [mine] using old)
  · intro channel connected
    rw [migrateSegment_disconnecting op conn mine] at connected
    by_cases old : channel = none
    · subst old
      -- The lost requests are among those the pipe has counted.
      have counted := frame.pipes none connected
      have among : share op none index ≤ ∑ other, share op none other :=
        Finset.single_le_sum (fun _ _ => Nat.zero_le _) (Finset.mem_univ index)
      have own : share op none index = (op.segments index).outstanding.sum := by
        simp [share, mine]
      have gone : share (op.migrateSegment index conn) none index = 0 := by
        simp [share, segment]
      rw [gone, migrateSegment_old op conn mine]
      simp only [subUInt64]
      rw [if_pos (by omega)]
      omega
    · have before : share op channel index = 0 := by
        simp [share, mine, Ne.symm old]
      have after : share (op.migrateSegment index conn) channel index = 0 := by
        simp [share, segment]
      rw [before, after]
      by_cases new : channel = some conn
      · rw [new, migrateSegment_new op conn mine]
      · rw [migrateSegment_of_ne op conn mine old new]
  · rw [segment, segmentsDone]
  · rw [segment, parts, migrateSegment_new op conn mine]
    have requested : ∀ segment : SegmentHandler, segment.handle = "" → segment.outstanding = [] →
        segment.requestOffset = segment.offset + segment.received →
        ((op.endpoints (some conn)).sftp.request (some index) .open).disconnecting = false →
        Requested segment (((op.endpoints (some conn)).sftp.request (some index)
          .open).liveFor index) := by
      intro segment handle outstanding requestOffset connected
      rw [request_disconnecting] at connected
      rw [liveFor_request connected, fresh]
      exact .opening handle outstanding requestOffset rfl
    cases consistent.phase index with
    | unopened phase _ =>
      exact .unopened ⟨rfl, phase.writer, phase.buffer, phase.finalizing,
        phase.done, phase.writerEvent, phase.poolEvent, phase.resumed,
        phase.incomplete, phase.part⟩ (requested _ rfl rfl rfl)
    | transferring phase awaits _ =>
      exact .transferring ⟨phase.finalizing, phase.done, phase.incomplete,
        phase.holds⟩ awaits (requested _ rfl rfl rfl)
    | flushing phase _ _ => simp [phase.finalizing] at finalizing
    | finished phase _ => simp [phase.done] at done

theorem Consistent.unrelated (consistent : Consistent honest remote op)
    (connections : List ConnectionState) {result : Option ReplyCode}
    (unfinished : result ≠ some .ok) :
    Consistent honest remote
      { op with connections := connections, result := result } where
  frame := fun index =>
    have frame := consistent.frame index
    { segmented := frame.segmented
      __ := frame
      unfinished := unfinished }
  phase := consistent.phase

theorem Progress.triggerReset (progress : Progress remote op) (bad : code ≠ .ok) :
    Progress remote (op.triggerReset code) := by
  cases progress with
  | joining joining =>
    exact .failed (failed_of_triggerReset joining.unfinished bad)
  | joined joined => exact .joined (joined.triggerReset code)
  | failed failed =>
    obtain ⟨earlier, wrong, ended⟩ := failed
    exact .failed ⟨earlier, wrong, by simp [SegmentedDownload.triggerReset, ended]⟩

theorem Phase.connections (positive : 0 < count) (phase : Phase honest remote op)
    (connections : List ConnectionState) :
    Phase honest remote { op with connections := connections } := by
  cases phase with
  | segmented consistent =>
    exact .segmented (consistent.unrelated connections
      (consistent.frame ⟨0, positive⟩).unfinished)
  | merging concat quiet progress =>
    exact .merging concat quiet fun trust =>
      (progress trust).of_eq rfl rfl rfl rfl rfl rfl
  | failed failed segFailed => exact .failed failed segFailed

theorem Phase.fail (positive : 0 < count) (phase : Phase honest remote op) (bad : code ≠ .ok) :
    Phase honest remote (op.fail code) := by
  cases phase with
  | segmented consistent =>
    exact phase_of_fail (consistent.frame ⟨0, positive⟩).unfinished bad
  | merging concat quiet progress =>
    refine .merging concat quiet fun trust => ?_
    have marked : Progress remote { op with segFailed := true } :=
      (progress trust).of_eq rfl rfl rfl rfl rfl rfl
    exact marked.triggerReset bad
  | failed failed segFailed =>
    obtain ⟨earlier, wrong, ended⟩ := failed
    refine .failed ⟨earlier, wrong, ?_⟩ fun _ => rfl
    exact (fail_sticky op code).result earlier ended

theorem startNextSegmentConnection_phase (positive : 0 < count) (phase : Phase honest remote op) :
    Phase honest remote op.startNextSegmentConnection := by
  unfold startNextSegmentConnection
  split
  · exact phase
  · split
    · exact phase.connections positive _
    · exact phase

theorem onSegmentConnectionReady_phase (positive : 0 < count)
    (phase : Phase honest remote op) (conn : Nat) :
    Phase honest remote (op.onSegmentConnectionReady conn) := by
  unfold onSegmentConnectionReady
  split
  · exact phase
  · rename_i active
    simp only [Bool.or_eq_true, decide_eq_true_eq, not_or, not_not] at active
    obtain ⟨segmented, running⟩ := active
    split
    · simp only
      split
      · rename_i movable
        apply startNextSegmentConnection_phase positive
        cases phase with
        | segmented consistent =>
          exact .segmented (migrateSegment_consistent consistent movable.1
            movable.2.2 movable.2.1 conn)
        | merging concat quiet progress => simp [segmented] at concat
        | failed failed segFailed => exact absurd (segFailed segmented) running
      · exact startNextSegmentConnection_phase positive phase
    · exact startNextSegmentConnection_phase positive phase

theorem onSegmentConnectionDropped_phase (positive : 0 < count) (phase : Phase honest remote op) :
    Phase honest remote op.onSegmentConnectionDropped := by
  unfold onSegmentConnectionDropped
  split
  · exact phase
  · exact phase.fail positive (by decide)

theorem Phase.disconnect (phase : Phase honest remote op) (channel : Channel) :
    Phase honest remote (op.disconnect channel) :=
  phase.updateSftp channel (fun _ => rfl) fun _ => rfl

theorem concatFinalize_merging (concat : op.opState = .concat) (quiet : Quiet op)
    (progress : honest → Progress remote op)
    (finalizing : op.concat.finalizing = true) (env : SegmentEnv) :
    Phase honest remote (op.concatFinalize env) := by
  refine .merging ?_ (quiet.of_same (concatFinalize_same env op)) ?_
  · rcases (concatFinalize_sticky env op).opState with same | later
    · exact same.trans concat
    · exact later
  · intro trust
    cases progress trust with
    | joining joining =>
      obtain ⟨writer, opened, -, whole⟩ := joining.writer
      exact concatFinalize_progress concat joining.unfinished joining.size
        joining.parts opened (whole finalizing) env
    | joined joined => exact .joined (joined.concatFinalize env)
    | failed failed =>
      obtain ⟨code, bad, ended⟩ := failed
      exact .failed ⟨code, bad, (concatFinalize_sticky env op).result code ended⟩

theorem concatPump_merging (concat : op.opState = .concat) (quiet : Quiet op)
    (progress : honest → Progress remote op) (env : SegmentEnv) (answers : List PumpAnswer) :
    Phase honest remote (concatPump env answers op) := by
  have sticky := concatPump_sticky env answers op
  refine .merging ?_ (quiet.of_same (concatPump_same env answers op)) ?_
  · rcases sticky.opState with same | later
    · exact same.trans concat
    · exact later
  · intro trust
    cases progress trust with
    | joining joining =>
      by_cases running : op.concat.finalizing = false
      · exact concatPump_progress env answers joining running
      · have still : concatPump env answers op = op := by
          cases answers <;> simp [concatPump, running]
        rw [still]
        exact .joining joining
    | joined joined => exact .joined (joined.concatPump env answers)
    | failed failed =>
      obtain ⟨code, bad, ended⟩ := failed
      exact .failed ⟨code, bad, sticky.result code ended⟩

end Handlers

def carries (remote : Bytes) (op : SegmentedDownload count) :
    Event count → Bool
  | .reply channel (.data data) _ =>
    match (op.endpoints channel).sftp.answer with
    | some (⟨_, .read offset _⟩, _) => data.isPrefixOf (remote.drop offset)
    | _ => true
  | _ => true

section Steps

variable {honest : Prop} {remote : Bytes} {op next : SegmentedDownload count}
  {event : Event count}

theorem Failed.step (failed : Failed op)
    (segFailed : op.opState = .segmented → op.segFailed = true)
    (taken : op.step event = some next) : Phase honest remote next := by
  have sticky := step_sticky taken
  obtain ⟨code, bad, ended⟩ := failed
  refine .failed ⟨code, bad, sticky.result code ended⟩ fun segmented => ?_
  rcases sticky.opState with same | concat
  · exact sticky.segFailed (segFailed (same.symm.trans segmented))
  · simp [concat] at segmented

theorem Phase.triggerReset (positive : 0 < count) (phase : Phase honest remote op)
    {code : ReplyCode} (bad : code ≠ .ok) :
    Phase honest remote (op.triggerReset code) := by
  cases phase with
  | segmented consistent =>
    have unfinished := (consistent.frame ⟨0, positive⟩).unfinished
    obtain ⟨earlier, wrong, ended⟩ := failed_of_triggerReset unfinished bad
    refine .segmented (consistent.unrelated op.connections ?_)
    intro ok
    exact wrong (some.inj (ended.symm.trans ok))
  | merging concat quiet progress =>
    exact .merging concat quiet fun trust => (progress trust).triggerReset bad
  | failed failed segFailed =>
    obtain ⟨earlier, wrong, ended⟩ := failed
    exact .failed ⟨earlier, wrong, (triggerReset_sticky op code).result earlier ended⟩ segFailed

theorem Quiet.reply (concat : op.opState = .concat) (quiet : Quiet op)
    (progress : honest → Progress remote op) {channel : Channel} {reply : Reply}
    {env : SegmentEnv} (taken : op.receive env channel reply = some next) :
    Phase honest remote next := by
  have phase : Phase honest remote op := .merging concat quiet progress
  obtain ⟨kind, sftp, -, ⟨answered, rfl⟩ | ⟨index, answered, -⟩⟩ := receive_eq_some taken
  · obtain ⟨-, -, connected, -⟩ := answer_flags answered
    refine phase.updateSftp channel (fun index => ?_) (by simp [connected])
    exact liveFor_of_answer_of_ne answered (by simp)
  · have live := liveFor_of_answer answered
    rw [(quiet index).2.2 channel] at live
    cases live

theorem Quiet.poolAvailability (concat : op.opState = .concat) (quiet : Quiet op)
    (progress : honest → Progress remote op) (env : SegmentEnv) (index : Fin count) :
    Phase honest remote ((op.updateSegment index fun segment =>
      { segment with poolEvent := false }).onSegmentPoolAvailability env index) := by
  have same : ∀ state : SegmentedDownload count, (state.segments index).done = true →
      state.onSegmentPoolAvailability env index = state := by
    intro state done
    simp [onSegmentPoolAvailability, done]
  rw [same _ (by simpa using (quiet index).1)]
  refine .merging concat ?_ fun trust =>
    (progress trust).of_eq rfl rfl rfl rfl rfl rfl
  intro other
  by_cases mine : other = index
  · rw [mine, updateSegment_segments]
    exact quiet index
  · rw [updateSegment_segments_of_ne _ _ _ mine]
    exact quiet other

theorem Progress.awaits (progress : Progress remote op) (writerEvent readerEvent : Bool) :
    Progress remote { op with concat := { op.concat with
      writerEvent := writerEvent, readerEvent := readerEvent } } := by
  cases progress with
  | joining joining => exact .joining { joining with writer := joining.writer }
  | joined joined => exact .joined ⟨joined.result, joined.merged, joined.writer⟩
  | failed failed => exact .failed failed

theorem step_phase (positive : 0 < count) (phase : Phase honest remote op)
    (honestly : honest → carries remote op event = true)
    (taken : op.step event = some next) : Phase honest remote next := by
  cases event with
  | reply channel reply env =>
    cases phase with
    | segmented consistent =>
      obtain ⟨kind, sftp, allowed, ⟨answered, rfl⟩ | ⟨index, answered, rfl⟩⟩ :=
        receive_eq_some taken
      · exact .segmented (consistent.discarded answered)
      · refine processReply_phase (consistent.answered answered) allowed ?_ env
        rintro trust offset size data rfl rfl
        have carried := honestly trust
        rw [carries, answered] at carried
        exact isPrefixOf_iff_prefix.mp carried
    | merging concat quiet progress => exact quiet.reply concat progress taken
    | failed failed segFailed => exact failed.step segFailed taken
  | writerAvailability index env =>
    cases phase with
    | segmented consistent =>
      obtain ⟨waited, rfl⟩ := some_of_guard taken
      exact onSegmentWriterAvailability_phase consistent waited env
    | merging concat quiet progress =>
      simp [step, (quiet index).2.1] at taken
    | failed failed segFailed => exact failed.step segFailed taken
  | poolAvailability index env =>
    cases phase with
    | segmented consistent =>
      obtain ⟨waited, rfl⟩ := some_of_guard taken
      exact onSegmentPoolAvailability_phase consistent waited env
    | merging concat quiet progress =>
      obtain ⟨-, rfl⟩ := some_of_guard taken
      exact quiet.poolAvailability concat progress env index
    | failed failed segFailed => exact failed.step segFailed taken
  | connectionReady conn =>
    obtain ⟨-, rfl⟩ := some_of_guard taken
    exact onSegmentConnectionReady_phase positive (phase.connections positive _) conn
  | connectionFailed conn =>
    obtain ⟨-, rfl⟩ := some_of_guard taken
    unfold onSegmentConnectionFailed
    split
    · exact phase.connections positive _
    · exact startNextSegmentConnection_phase positive (phase.connections positive _)
  | connectionDropped conn =>
    obtain ⟨-, rfl⟩ := some_of_guard taken
    exact onSegmentConnectionDropped_phase positive ((phase.connections positive _).disconnect _)
  | hostkeyMismatch conn =>
    obtain ⟨-, rfl⟩ := some_of_guard taken
    exact ((phase.connections positive _).disconnect _).fail positive (by decide)
  | concatWriterAvailability env =>
    cases phase with
    | segmented consistent =>
      simp [step, (consistent.frame ⟨0, positive⟩).concat] at taken
    | merging concat quiet progress =>
      simp only [step, ite_none_right_eq_some] at taken
      obtain ⟨-, taken⟩ := taken
      rw [if_neg (by simp [concat])] at taken
      have awaited := fun trust =>
        (progress trust).awaits false op.concat.readerEvent
      split at taken
      · rename_i finalizing
        cases taken
        refine concatFinalize_merging ?_ ?_ awaited finalizing env
        · exact concat
        · exact quiet
      · cases taken
        refine concatPump_merging ?_ ?_ awaited env env.pump
        · exact concat
        · exact quiet
    | failed failed segFailed => exact failed.step segFailed taken
  | concatReaderAvailability env =>
    cases phase with
    | segmented consistent =>
      simp [step, (consistent.frame ⟨0, positive⟩).concat] at taken
    | merging concat quiet progress =>
      simp only [step, ite_none_right_eq_some] at taken
      obtain ⟨-, taken⟩ := taken
      rw [if_neg (by simp [concat])] at taken
      cases taken
      have awaited := fun trust =>
        (progress trust).awaits op.concat.writerEvent false
      refine concatPump_merging ?_ ?_ awaited env env.pump
      · exact concat
      · exact quiet
    | failed failed segFailed => exact failed.step segFailed taken
  | channelDone =>
    simp only [step, some.injEq] at taken
    subst taken
    exact (phase.disconnect none).triggerReset positive (by decide)

end Steps

end SegmentedDownload

end FileZilla.Sftp
