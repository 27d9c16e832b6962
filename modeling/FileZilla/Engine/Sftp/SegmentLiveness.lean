import FileZilla.Engine.Sftp.SegmentWaits

namespace FileZilla.Sftp

open List Option

namespace SegmentedDownload

variable {count : Nat}

structure Alive (op : SegmentedDownload count) : Prop where
  blocked : Blocked (fun _ => True) op
  pending : (∃ index, (op.segments index).done = false) → Pending op

inductive Outcome (op : SegmentedDownload count) : Prop
  | failed (segFailed : op.segFailed = true)
  | merging (concat : op.opState = .concat)
  | alive (alive : Alive op)

open SegmentedDownload Client

section Handlers

variable {op : SegmentedDownload count} {index : Fin count} {env : SegmentEnv}

variable {among : Fin count → Prop} (channel : Channel) {change : SegmentHandler → SegmentHandler}

theorem Blocked.of_not (blocked : Blocked among op) (not : (op.segments index).done = false →
      (op.segments index).finalizing ≠ false) : Blocked (· ≠ index) op := by
  intro channel held
  obtain ⟨other, -, going, running, waits⟩ := blocked channel held
  refine ⟨other, ?_, going, running, waits⟩
  rintro rfl
  exact not going running

theorem Blocked.others (blocked : Blocked among op)
    (writerEvent : (op.segments index).writerEvent = false)
    (poolEvent : (op.segments index).poolEvent = false) :
    Blocked (· ≠ index) op := by
  intro channel held
  obtain ⟨other, -, going, running, stalls, event⟩ := blocked channel held
  refine ⟨other, ?_, going, running, stalls, event⟩
  rintro rfl
  simp [writerEvent, poolEvent] at event

theorem Blocked.all (blocked : Blocked among op) :
    Blocked (fun _ => True) op := by
  intro channel held
  obtain ⟨other, -, holds⟩ := blocked channel held
  exact ⟨other, trivial, holds⟩

structure Active (segment : SegmentHandler) : Prop where
  finalizing : segment.finalizing = false
  done : segment.done = false
  incomplete : segment.received < segment.length

def Driven (env : SegmentEnv) (op : SegmentedDownload count) (index : Fin count) :
    Prop :=
  Elsewhere op index ∨
    ((op.endpoints (op.segments index).conn).sftp.liveFor index ≠ [] ∧
      (op.endpoints (op.segments index).conn).sftp.disconnecting = false) ∨
    Sends env (op.endpoints (op.segments index).conn)

instance (env : SegmentEnv) (op : SegmentedDownload count) (index : Fin count) :
    Decidable (Driven env op index) :=
  inferInstanceAs (Decidable (_ ∨ (_ ∧ _) ∨ _))

theorem requestSegments_alive (running : op.segFailed = false)
    (active : Active (op.segments index)) (granted : (op.segments index).buffer.isSome = true)
    (requested :
      (op.endpoints (op.segments index).conn).sftp.disconnecting = false →
        Requested (op.segments index)
          ((op.endpoints (op.segments index).conn).sftp.liveFor index))
    {among : Fin count → Prop} (blocked : Blocked among op)
    (driven : Driven env op index) :
    Alive (op.requestSegments env (op.segments index).conn) := by
  have kept : ∀ among, Keeps among op (op.requestSegments env (op.segments index).conn) :=
    fun _ => requestSegments_keeps env _ op
  refine ⟨((kept among).blocked blocked).all, fun _ => ?_⟩
  rcases driven with elsewhere | ⟨live, connected⟩ | sends
  · exact (kept _).pending elsewhere.pending
  · exact (kept _).pending (blocked.pending active.done live connected)
  · by_cases live :
        (op.endpoints (op.segments index).conn).sftp.liveFor index = []
    · have waiting := requested sends.1
      rw [live] at waiting
      have ready : op.requestable (op.segments index).conn index = true := by
        rw [requestable_iff]
        cases waiting with
        | opening _ _ _ opening => cases opening
        | reading handle ranges reads _ _ tiles _ =>
          cases ranges with
          | cons range rest => cases reads
          | nil =>
            rw [tiles_nil] at tiles
            have incomplete := active.incomplete
            exact ⟨rfl, handle, active.finalizing, active.done, granted, by omega⟩
      exact requestSegments_pending running sends ready blocked
    · exact (kept _).pending (blocked.pending active.done live sends.1)

theorem Alive.keep {next : SegmentedDownload count} (alive : Alive op)
    (keeps : Keeps (fun _ => True) op next) : Alive next where
  blocked := keeps.blocked alive.blocked
  pending := by
    rintro ⟨index, going⟩
    refine keeps.pending (alive.pending ⟨index, ?_⟩)
    rw [← (keeps.segments index trivial).done, going]

theorem proceed_segments (handled : Continuation × SegmentedDownload count) :
    (proceed channel handled).segments = handled.2.segments := rfl

theorem proceed_next_keeps (op : SegmentedDownload count) :
    Keeps among op (proceed channel (.next, op)) where
  segments := fun _ _ => .of_eq rfl
  live := fun _ _ other live => by
    rw [proceed, updateSftp_liveFor fun _ => rfl]
    exact live
  waitRead := fun other free => by
    by_cases same : other = channel
    · rw [same] at free ⊢
      rw [proceed, updateSftp_sftp]
      exact free
    · rwa [proceed, updateSftp_endpoints_of_ne _ _ _ same]
  disconnecting := fun other connected => by
    by_cases same : other = channel
    · rw [same] at connected ⊢
      rw [proceed, updateSftp_sftp]
      exact connected
    · rwa [proceed, updateSftp_endpoints_of_ne _ _ _ same]
  connections := fun establishing => establishing

theorem Outcome.next (outcome : Outcome op) (channel : Channel) :
    Outcome (proceed channel (.next, op)) := by
  cases outcome with
  | failed segFailed => exact .failed segFailed
  | merging concat => exact .merging concat
  | alive alive => exact .alive (alive.keep (proceed_next_keeps channel op))

theorem stalled_alive {channel : Channel} (mine : channel = (op.segments index).conn)
    (going : (op.segments index).done = false) (running : (op.segments index).finalizing = false)
    (event : (op.segments index).writerEvent = true ∨
      (op.segments index).poolEvent = true)
    (blocked : Blocked (· ≠ index) op) :
    Alive (proceed channel (.wait, op.stallChannel index)) := by
  have segment : (proceed channel (.wait, op.stallChannel index)).segments index =
      { op.segments index with stallChannel := some (op.segments index).conn } := by
    rw [proceed_segments, stallChannel, updateSegment_segments]
  refine ⟨fun other held => ?_, fun _ => .inl ⟨index, ?_, ?_⟩⟩
  · by_cases same : other = channel
    · refine ⟨index, trivial, ?_, ?_, ?_, ?_⟩
      · rw [segment]
        exact going
      · rw [segment]
        exact running
      · rw [segment, same, mine]
      · rw [segment]
        exact event
    · rw [proceed, updateSftp_endpoints_of_ne _ _ _ same] at held
      obtain ⟨witness, distinct, still, transferring, stalls, waits⟩ := blocked other held
      have unchanged : (proceed channel (.wait, op.stallChannel index)).segments witness =
          op.segments witness := by
        rw [proceed_segments, stallChannel,
          updateSegment_segments_of_ne _ _ _ distinct]
      refine ⟨witness, trivial, ?_, ?_, ?_, ?_⟩
      · rw [unchanged]
        exact still
      · rw [unchanged]
        exact transferring
      · rw [unchanged]
        exact stalls
      · rw [unchanged]
        exact waits
  · rw [segment]
    exact going
  · rw [segment]
    rcases event with writerEvent | poolEvent
    · exact .inl writerEvent
    · exact .inr (.inl poolEvent)

theorem Driven.updateSegment (driven : Driven env op index)
    (conn : (change (op.segments index)).conn = (op.segments index).conn) :
    Driven env (op.updateSegment index change) index := by
  rcases driven with elsewhere | ⟨live, connected⟩ | sends
  · exact .inl ((updateSegment_keeps op index change).elsewhere elsewhere)
  · refine .inr (.inl ?_)
    rw [updateSegment_segments, conn]
    exact ⟨live, connected⟩
  · refine .inr (.inr ?_)
    rw [updateSegment_segments, conn]
    exact sends

open Outcome

theorem handled_outcome {channel : Channel} {writer : Writer}
    (mine : channel = (op.segments index).conn)
    (running : op.segFailed = false) (active : Active (op.segments index))
    (opened : (op.segments index).writer = some writer) (requested :
      (op.endpoints (op.segments index).conn).sftp.disconnecting = false →
        Requested (op.segments index)
          ((op.endpoints (op.segments index).conn).sftp.liveFor index))
    (blocked : Blocked (· ≠ index) op)
    (driven : grants env (op.segments index) = true → Driven env op index) :
    Outcome (proceed channel (match op.getNextSegmentBuffer env index with
      | (.wait, op) => (Continuation.wait, op.stallChannel index)
      | (.error, op) => (Continuation.next, op)
      | (.ok, op') =>
        (Continuation.next, op'.requestSegments env (op.segments index).conn))) := by
  have waits : ∀ change : SegmentHandler → SegmentHandler,
      (change (op.segments index)).conn = (op.segments index).conn →
      (change (op.segments index)).done = (op.segments index).done →
      (change (op.segments index)).finalizing = (op.segments index).finalizing →
      ((change (op.segments index)).writerEvent = true ∨
        (change (op.segments index)).poolEvent = true) →
      Outcome (proceed channel (.wait, (op.updateSegment index change).stallChannel index)) := by
    intro change conn done finalizing event
    refine .alive (stalled_alive ?_ ?_ ?_ ?_
      ((updateSegment_keeps op index change).blocked blocked))
    · rw [updateSegment_segments, conn]
      exact mine
    · rw [updateSegment_segments, done]
      exact active.done
    · rw [updateSegment_segments, finalizing]
      exact active.finalizing
    · rw [updateSegment_segments]
      exact event
  rcases getNextSegmentBuffer_cases opened env with
    ⟨handed, -, ⟨capacity, granted, got⟩ | got | got⟩ | ⟨-, change, got⟩
  · rw [got]
    refine next (.alive ?_) channel
    have segment := updateSegment_segments op index fun segment =>
      { segment with
        writer := some handed, buffer := some { capacity := capacity, bytes := [] } }
    have asked := @requestSegments_alive count (op.updateSegment index fun segment =>
        { segment with
          writer := some handed
          buffer := some { capacity := capacity, bytes := [] } }) index env
      running
      (by rw [segment]; exact ⟨active.finalizing, active.done, active.incomplete⟩)
      (by rw [segment]; rfl)
      (by
        rw [segment]
        exact fun connected =>
          (requested connected).of_eq rfl rfl rfl rfl rfl rfl) _
      ((updateSegment_keeps op index _).blocked blocked)
      ((driven granted).updateSegment rfl)
    rw [segment] at asked
    exact asked
  · rw [got]
    exact waits _ rfl rfl rfl (.inl rfl)
  · rw [got]
    exact waits _ rfl rfl rfl (.inr rfl)
  · rw [got]
    exact (failed rfl).next channel

theorem finishSegment_outcome {writer : Writer} (blocked : Blocked (· ≠ index) op)
    (driven : Elsewhere op index ∨
      ∀ other, other ≠ index → (op.segments other).done = true) :
    Outcome (op.finishSegment env index writer) := by
  unfold finishSegment
  simp only
  split
  · exact .merging (startConcat_sticky env _).2
  · have keeps := updateSegment_keeps op index fun segment =>
      { segment with writer := none, done := true }
    refine .alive ⟨(keeps.blocked blocked).all, ?_⟩
    rintro ⟨other, going⟩
    have distinct : other ≠ index := by
      rintro rfl
      simp at going
    rw [updateSegment_segments_of_ne _ _ _ distinct] at going
    rcases driven with elsewhere | others
    · exact (keeps.elsewhere elsewhere).pending
    · simp [others other distinct] at going

theorem finalizeSegment_outcome {writer : Writer}
    (opened : (op.segments index).writer = some writer) (going : (op.segments index).done = false)
    (blocked : Blocked (· ≠ index) op)
    (driven : flushes env (op.segments index) = true → Elsewhere op index ∨
      ∀ other, other ≠ index → (op.segments other).done = true) :
    Outcome (op.finalizeSegment env index) := by
  obtain ⟨handed, lease, -, ⟨change, failed⟩ | ⟨-, waits | ⟨flushed, ended⟩⟩⟩ :=
    finalizeSegment_cases opened env
  · rw [failed]
    exact .failed rfl
  · rw [waits]
    refine .alive ⟨((updateSegment_keeps op index _).blocked blocked).all,
      fun _ => .inl ⟨index, ?_, .inl ?_⟩⟩
    · rw [updateSegment_segments]
      exact going
    · rw [updateSegment_segments]
  · rw [ended]
    have keeps := updateSegment_keeps op index fun segment =>
      { segment with
        finalizing := true, writer := some handed, buffer := lease }
    refine finishSegment_outcome (keeps.blocked blocked) ?_
    rcases driven flushed with elsewhere | others
    · exact .inl (keeps.elsewhere elsewhere)
    · refine .inr fun other distinct => ?_
      rw [updateSegment_segments_of_ne _ _ _ distinct]
      exact others other distinct

def OpenGoesOn (env : SegmentEnv) (op : SegmentedDownload count)
    (index : Fin count) (handle : String) : Prop :=
  let segment := op.segments index
  handle = "" ∨
    if segment.writer.isSome then
      segment.buffer = none ∨ Driven env op index
    else
      openFile (op.parts index) segment.partSize = none ∨
        env.openWriter = false ∨
        (grants env { segment with
            writer := some { offset := segment.partSize, bytes := [] } } = true →
          Driven env op index)

/-- A block that arrives is followed by a read, by a wait or by a failure, or
there is something else to wait for. -/
def DataGoesOn (env : SegmentEnv) (channel : Channel)
    (op : SegmentedDownload count) (index : Fin count) (data : Bytes) : Prop :=
  let expected := (op.segments index).outstanding.headD 0
  let segment : SegmentHandler := { op.segments index with
    outstanding := (op.segments index).outstanding.tail
    buffer := (op.segments index).buffer.map fun buffer =>
      { buffer with bytes := buffer.bytes ++ data }
    received := (op.segments index).received + data.length }
  (op.segments index).buffer = none ∨
    if data.length > blocksize ∨ data.length > expected then
      Elsewhere (op.disconnect channel) index
    else if data.length < expected then
      True
    else if segment.received ≥ segment.length then
      flushes env segment = true → Elsewhere op index ∨
        ∀ other, other ≠ index → (op.segments other).done = true
    else
      (FileTransfer.bufferFull segment.buffer = true → grants env segment = true) →
        Driven env (op.updatePipe segment.conn fun pipe =>
          { pipe with responseOffset := pipe.responseOffset + data.length }) index

instance (env : SegmentEnv) (op : SegmentedDownload count) (index : Fin count)
    (handle : String) : Decidable (OpenGoesOn env op index handle) :=
  by delta OpenGoesOn; infer_instance

instance (env : SegmentEnv) (channel : Channel) (op : SegmentedDownload count)
    (index : Fin count) (data : Bytes) :
    Decidable (DataGoesOn env channel op index data) :=
  by delta DataGoesOn; infer_instance

theorem onSegmentOpen_outcome {remote : Bytes} {channel : Channel}
    {kind : RequestKind} {handle : String}
    (answered : Answered False remote channel index kind op)
    (opens : ∀ offset size, kind ≠ .read offset size) (filled : handle ≠ "")
    (blocked : Blocked (fun _ => True) op) (goesOn : OpenGoesOn env op index handle) :
    Outcome (proceed channel (op.onSegmentOpen env index handle)) := by
  obtain ⟨outstanding, requestOffset, none⟩ := answered.requested.opened opens
  rw [answered.mine] at none
  have running := answered.frame.running
  have ready : ∀ incomplete : (op.segments index).received < (op.segments index).length, Requested
        { op.segments index with handle := handle }
        ((op.endpoints (op.segments index).conn).sftp.liveFor index) := by
    intro incomplete
    rw [none]
    exact .ready filled outstanding requestOffset incomplete
  unfold onSegmentOpen
  simp only [updateSegment_segments]
  rw [if_neg (by simpa using running)]
  rcases answered.phase with phase | ⟨phase, awaits⟩
  · have others := blocked.others phase.writerEvent phase.poolEvent
    simp only [OpenGoesOn, phase.writer, filled, false_or, isSome_none,
      Bool.false_eq_true, if_false] at goesOn
    simp only [phase.writer]
    split
    · rename_i content found writable
      have driven := (goesOn.resolve_left fun missing => by
        rw [updateSegment_parts, missing] at found
        cases found).resolve_left (by simp [writable])
      let opened := { (op.updateSegment index fun segment =>
          { segment with handle := handle }).updateSegment index fun segment =>
            { segment with
              writer := some { offset := segment.partSize, bytes := [] } }
        with parts := Function.update (op.updateSegment index fun segment =>
          { segment with handle := handle }).parts index (some content) }
      have segment : opened.segments index = { op.segments index with
          handle := handle
          writer := some { offset := (op.segments index).partSize, bytes := [] } } := by
        simp [opened]
      have keeps : Keeps (· ≠ index) op opened := by
        have first := updateSegment_keeps op index fun segment =>
          { segment with handle := handle }
        have second := first.trans (updateSegment_keeps _ index fun segment =>
          { segment with
            writer := some { offset := segment.partSize, bytes := [] } })
        exact ⟨second.segments, second.live, second.waitRead,
          second.disconnecting, second.connections⟩
      have asked := @handled_outcome count opened index env channel
        { offset := (op.segments index).partSize, bytes := [] }
        (by rw [segment]; exact answered.mine) running
        (by rw [segment]; exact ⟨phase.finalizing, phase.done, phase.incomplete⟩)
        (by rw [segment]) (by
          rw [segment]
          exact fun _ => (ready phase.incomplete).of_eq rfl rfl rfl rfl rfl rfl)
        (keeps.blocked others)
        (by
          rw [segment]
          intro granted
          rcases driven granted with elsewhere | live | sends
          · exact .inl (keeps.elsewhere elsewhere)
          · exact .inr (.inl (by rw [segment]; exact live))
          · exact .inr (.inr (by rw [segment]; exact sends)))
      rw [segment] at asked
      exact asked
    · exact (failed rfl).next channel
  · obtain ⟨base, writer, stored, opened, -⟩ := phase.holds
    simp only [OpenGoesOn, opened, filled, false_or, isSome_some, if_true] at goesOn
    simp only [opened]
    apply Outcome.next
    rcases awaits with ⟨granted, -, -⟩ | ⟨empty, event⟩
    · have driven := goesOn.resolve_left fun empty => by
        simp [empty] at granted
      have sent := @requestSegments_alive count
        (op.updateSegment index fun segment => { segment with handle := handle })
        index env running
        (by
          rw [updateSegment_segments]
          exact ⟨phase.finalizing, phase.done, phase.incomplete⟩)
        (by rw [updateSegment_segments]; exact granted)
        (by rw [updateSegment_segments]; exact fun _ => ready phase.incomplete) _
        ((updateSegment_keeps_all op rfl rfl rfl rfl rfl rfl).blocked blocked)
        (driven.updateSegment rfl)
      rw [updateSegment_segments] at sent
      exact .alive sent
    · have waits : Waits op index := by
        refine ⟨phase.done, ?_⟩
        rcases event with ⟨writerEvent, -⟩ | ⟨-, poolEvent⟩
        · exact .inl writerEvent
        · exact .inr (.inl poolEvent)
      have kept := (@updateSegment_keeps_all count (fun _ => True) op index
        (fun segment => { segment with handle := handle }) rfl rfl rfl rfl
          rfl rfl).trans (requestSegments_keeps env (op.segments index).conn _)
      exact .alive ⟨kept.blocked blocked, fun _ => .inl ⟨index, kept.waits trivial waits⟩⟩

theorem disconnect_blocked (blocked : Blocked among op) (channel : Channel) :
    Blocked among (op.disconnect channel) := by
  intro other held
  refine blocked other ?_
  by_cases same : other = channel
  · rw [same, disconnect, updateSftp_sftp] at held
    rw [same]
    exact held
  · rwa [disconnect, updateSftp_endpoints_of_ne _ _ _ same] at held

theorem stop_keeps (outstanding : List Nat) :
    Keeps among (op.disconnect channel)
      (proceed channel (.error, op.updateSegment index fun segment =>
        { segment with outstanding := outstanding })) := by
  have stopped : proceed channel (.error, op.updateSegment index fun segment =>
      { segment with outstanding := outstanding }) =
      (op.disconnect channel).updateSegment index fun segment =>
        { segment with outstanding := outstanding } := rfl
  rw [stopped]
  exact updateSegment_keeps_all _ rfl rfl rfl rfl rfl rfl

theorem stop_alive (blocked : Blocked (fun _ => True) op) (channel : Channel)
    (outstanding : List Nat) (pending : Pending (op.disconnect channel)) :
    Alive (proceed channel (.error, op.updateSegment index fun segment =>
      { segment with outstanding := outstanding })) :=
  ⟨(stop_keeps channel outstanding).blocked (disconnect_blocked blocked channel),
    fun _ => (stop_keeps channel outstanding).pending pending⟩

theorem takeBlock_eq (op : SegmentedDownload count) (index : Fin count)
    (buffer : Buffer) (outstanding : List Nat) (data : Bytes) :
    op.takeBlock index buffer outstanding data =
      (op.updatePipe (op.segments index).conn fun pipe =>
        { pipe with
          responseOffset := pipe.responseOffset + data.length }).updateSegment
        index fun segment =>
          { segment with
            outstanding := outstanding
            buffer := some { buffer with bytes := buffer.bytes ++ data }
            received := segment.received + data.length } := by
  simp [takeBlock, updatePipe, updateSegment]

theorem takeBlock_outcome {remote : Bytes} {channel : Channel} {offset : Nat}
    {data : Bytes} {buffer : Buffer} {outstanding : List Nat}
    (answered : Answered False remote channel index (.read offset data.length) op)
    (phase : Transferring False (segmentBytes remote count index)
      (op.segments index) (op.parts index))
    (blocked : Blocked (· ≠ index) op)
    (first : (op.segments index).outstanding = data.length :: outstanding)
    (driven :
      let segment := { op.segments index with
        outstanding := outstanding
        buffer := some { buffer with bytes := buffer.bytes ++ data }
        received := (op.segments index).received + data.length }
      if segment.received ≥ segment.length then
        flushes env segment = true → Elsewhere op index ∨
          ∀ other, other ≠ index → (op.segments other).done = true
      else
        (FileTransfer.bufferFull segment.buffer = true → grants env segment = true) →
          Driven env (op.updatePipe segment.conn fun pipe =>
            { pipe with responseOffset := pipe.responseOffset + data.length })
            index) :
    let op := op.takeBlock index buffer outstanding data
    Outcome (proceed channel (if (op.segments index).received ≥ (op.segments index).length then
        (Continuation.next, op.finalizeSegment env index)
      else if FileTransfer.bufferFull (op.segments index).buffer then
        match op.getNextSegmentBuffer env index with
        | (.wait, op) => (.wait, op.stallChannel index)
        | (.error, op) => (.next, op)
        | (.ok, op') => (.next, op'.requestSegments env (op.segments index).conn)
      else
        (.next, op.requestSegments env (op.segments index).conn))) := by
  intro taken
  obtain ⟨base, writer, -, opened, -⟩ := phase.holds
  obtain ⟨handle, position, -, ranges, live, sizes, nonempty, tiles, within⟩ :=
    answered.requested.answered
  rw [first] at sizes
  obtain ⟨-, rfl⟩ := cons.inj sizes
  have segment := takeBlock_segments op index buffer (ranges.map Prod.snd) data
  have running : taken.segFailed = false := answered.frame.running
  have keeps : Keeps (· ≠ index) op taken := by
    simp only [taken, takeBlock_eq]
    exact (updatePipe_keeps op _ _).trans (updateSegment_keeps _ index _)
  have requested : Requested (taken.segments index)
      ((taken.endpoints (taken.segments index).conn).sftp.liveFor index) := by
    rw [segment, takeBlock_sftp, ← answered.mine, live]
    refine .reading handle ranges rfl rfl nonempty ?_ within
    simp only [← Nat.add_assoc, ← position]
    exact tiles
  have going : Driven env (op.updatePipe (op.segments index).conn fun pipe =>
      { pipe with responseOffset := pipe.responseOffset + data.length }) index →
      Driven env taken index := by
    intro driven
    simp only [taken, takeBlock_eq]
    exact driven.updateSegment rfl
  simp only at driven
  split
  · rename_i complete
    rw [segment] at complete
    rw [if_pos complete] at driven
    apply Outcome.next
    refine @finalizeSegment_outcome _ _ _ _ writer ?_ ?_ (keeps.blocked blocked) ?_
    · rw [segment]
      exact opened
    · rw [segment]
      exact phase.done
    · rw [segment]
      intro flushed
      rcases driven flushed with elsewhere | others
      · exact .inl (keeps.elsewhere elsewhere)
      · refine .inr fun other distinct => ?_
        rw [(keeps.segments other distinct).done]
        exact others other distinct
  · rename_i incomplete
    rw [segment] at incomplete
    rw [if_neg incomplete] at driven
    have active : Active (taken.segments index) := by
      rw [segment]
      exact ⟨phase.finalizing, phase.done, Nat.lt_of_not_le incomplete⟩
    split
    · rename_i full
      refine @handled_outcome _ _ _ _ _ writer ?_ running active ?_
        (fun _ => requested) (keeps.blocked blocked) ?_
      · rw [segment]
        exact answered.mine
      · rw [segment]
        exact opened
      · rw [segment]
        exact fun granted => going (driven fun _ => granted)
    · rename_i roomy
      apply Outcome.next
      refine .alive (requestSegments_alive running active ?_
        (fun _ => requested) (keeps.blocked blocked) (going (driven ?_)))
      · rw [segment]
        rfl
      · intro full
        rw [segment] at roomy
        exact absurd full roomy

theorem processSegmentData_outcome {remote : Bytes} {channel : Channel}
    {offset size : Nat} {data : Bytes}
    (answered : Answered False remote channel index (.read offset size) op)
    (blocked : Blocked (fun _ => True) op) (goesOn : DataGoesOn env channel op index data) :
    Outcome (proceed channel (op.processSegmentData env index data)) := by
  obtain ⟨handle, -, -, ranges, -, sizes, -⟩ := answered.requested.answered
  have same := updateSegment_outstanding op index
  obtain ⟨phase, awaits⟩ : Transferring False (segmentBytes remote count index)
      (op.segments index) (op.parts index) ∧ Awaits (op.segments index) := by
    rcases answered.phase with phase | transferring
    · exact absurd phase.handle handle
    · exact transferring
  unfold processSegmentData
  rw [if_neg (by simp [answered.frame.running])]
  rcases awaits with ⟨granted, writerEvent, poolEvent⟩ | ⟨empty, event⟩
  · obtain ⟨buffer, granted⟩ := isSome_iff_exists.mp granted
    simp only [DataGoesOn, sizes, granted, reduceCtorEq, false_or,
      headD_cons, tail_cons, map_some] at goesOn
    simp only [sizes, granted]
    by_cases large : data.length > blocksize ∨ data.length > size
    · rw [if_pos large] at goesOn
      have stopped := fun outstanding => @stop_alive count op index blocked
        channel outstanding goesOn.pending
      split
      · have alive := stopped (op.segments index).outstanding
        rw [same] at alive
        exact .alive alive
      · rename_i small
        rw [if_pos (large.resolve_left small)]
        exact .alive (stopped _)
    · rw [if_neg large] at goesOn
      rw [if_neg fun block => large (.inl block), if_neg fun read => large (.inr read)]
      by_cases short : data.length < size
      · rw [if_pos short]
        exact (failed rfl).next channel
      · rw [if_neg short] at goesOn ⊢
        obtain rfl : data.length = size := by
          have fits : ¬ data.length > size := fun read => large (.inr read)
          omega
        exact takeBlock_outcome answered phase (blocked.others writerEvent poolEvent) sizes goesOn
  · have waits : Waits (op.disconnect channel) index := by
      refine ⟨phase.done, ?_⟩
      rcases event with ⟨writerEvent, -⟩ | ⟨-, poolEvent⟩
      · exact .inl writerEvent
      · exact .inr (.inl poolEvent)
    have alive := @stop_alive count op index blocked channel
      (op.segments index).outstanding (.inl ⟨index, waits⟩)
    rw [same] at alive
    split
    · exact .alive alive
    · simp only [sizes, empty]
      exact .alive alive

def ReplyGoesOn (env : SegmentEnv) (channel : Channel)
    (op : SegmentedDownload count) (index : Fin count) : Reply → Prop
  | .handle handle => OpenGoesOn env op index handle
  | .data data => DataGoesOn env channel op index data
  | .status _ => True
  | .failure => True

instance (env : SegmentEnv) (channel : Channel) (op : SegmentedDownload count)
    (index : Fin count) :
    (reply : Reply) → Decidable (ReplyGoesOn env channel op index reply)
  | .handle handle => inferInstanceAs (Decidable (OpenGoesOn env op index handle))
  | .data data => inferInstanceAs (Decidable (DataGoesOn env channel op index data))
  | .status _ => .isTrue trivial
  | .failure => .isTrue trivial

theorem processReply_outcome {remote : Bytes} {channel : Channel}
    {kind : RequestKind} {reply : Reply} (answered : Answered False remote channel index kind op)
    (allowed : kind.allows reply = true) (blocked : Blocked (fun _ => True) op)
    (goesOn : ReplyGoesOn env channel op index reply) :
    Outcome (proceed channel (op.processReply env index reply)) := by
  cases reply with
  | handle handle =>
    simp only [processReply]
    split
    · exact (failed rfl).next channel
    · rename_i filled
      refine onSegmentOpen_outcome answered ?_ filled blocked goesOn
      rintro offset size rfl
      cases allowed
  | data data =>
    cases kind with
    | read offset size => exact processSegmentData_outcome answered blocked goesOn
    | «open» => cases allowed
    | write offset bytes => cases allowed
    | fsetstat => cases allowed
    | close => cases allowed
  | status code =>
    have incomplete :
        ¬ (op.segments index).received ≥ (op.segments index).length := by
      rcases answered.phase with phase | ⟨phase, -⟩
      · exact Nat.not_le_of_lt phase.incomplete
      · exact Nat.not_le_of_lt phase.incomplete
    simp only [processReply, processSegmentStatus]
    split
    · exact (failed rfl).next channel
    · split
      · rw [if_neg (by simpa using incomplete)]
        exact (failed rfl).next channel
      · exact (failed rfl).next channel
  | failure => exact (failed rfl).next channel

theorem waiting_alive (blocked : Blocked (fun _ => True) op)
    (going : (op.segments index).done = false)
    (done : (change (op.segments index)).done = (op.segments index).done)
    (finalizing : (change (op.segments index)).finalizing = (op.segments index).finalizing)
    (stallChannel : (change (op.segments index)).stallChannel = (op.segments index).stallChannel)
    (event : (change (op.segments index)).writerEvent = true ∨
      (change (op.segments index)).poolEvent = true) :
    Alive (op.updateSegment index change) := by
  refine ⟨fun channel held => ?_, fun _ => .inl ⟨index, ?_, ?_⟩⟩
  · obtain ⟨other, -, still, running, stalls, waits⟩ := blocked channel held
    by_cases same : other = index
    · subst same
      refine ⟨other, trivial, ?_⟩
      rw [updateSegment_segments]
      exact ⟨done.trans still, finalizing.trans running, stallChannel.trans stalls, event⟩
    · refine ⟨other, trivial, ?_⟩
      rw [updateSegment_segments_of_ne _ _ _ same]
      exact ⟨still, running, stalls, waits⟩
  · rw [updateSegment_segments]
    exact done.trans going
  · rw [updateSegment_segments]
    rcases event with writerEvent | poolEvent
    · exact .inl writerEvent
    · exact .inr (.inl poolEvent)

theorem unstallChannel_segments (op : SegmentedDownload count) (index : Fin count) :
    (op.unstallChannel index).segments index =
      { op.segments index with stallChannel := none } := by
  unfold unstallChannel
  split
  · rename_i free
    rw [← free]
  · simp

theorem unstallChannel_endpoint (op : SegmentedDownload count) (index : Fin count)
    (channel : Channel) :
    (op.unstallChannel index).endpoints channel =
      if (op.segments index).stallChannel = some channel then
        { op.endpoints channel with
          sftp := (op.endpoints channel).sftp.unblockRead }
      else
        op.endpoints channel := by
  unfold unstallChannel
  split
  · rename_i free
    simp [free]
  · rename_i held stalls
    rw [updateSegment_endpoints, stalls]
    by_cases same : channel = held
    · simp [same, updateSftp]
    · rw [updateSftp_endpoints_of_ne _ _ _ same, if_neg]
      simpa using fun eq => same eq.symm

theorem unstallChannel_keeps (op : SegmentedDownload count) (index : Fin count) :
    Keeps (· ≠ index) op (op.unstallChannel index) where
  segments := by
    intro other distinct
    unfold unstallChannel
    split
    · exact .of_eq rfl
    · exact .of_eq (updateSegment_segments_of_ne _ _ _ distinct)
  live := by
    intro other _ channel live
    rw [unstallChannel_endpoint]
    split <;> exact live
  waitRead := by
    intro channel free
    rw [unstallChannel_endpoint]
    split
    · rfl
    · exact free
  disconnecting := by
    intro channel connected
    rw [unstallChannel_endpoint]
    split <;> exact connected
  connections := by
    unfold unstallChannel
    split <;> exact id

theorem unstallChannel_blocked (blocked : Blocked (fun _ => True) op)
    (stallChannel : (change (op.segments index)).stallChannel =
      (op.segments index).stallChannel) :
    Blocked (· ≠ index) ((op.updateSegment index change).unstallChannel index) := by
  have keeps := (updateSegment_keeps op index change).trans
    (unstallChannel_keeps (op.updateSegment index change) index)
  intro channel held
  have before : (op.endpoints channel).sftp.waitRead = true := by
    by_contra free
    have after := keeps.waitRead channel (by simpa using free)
    simp [held] at after
  obtain ⟨other, -, still, running, stalls, waits⟩ := blocked channel before
  have distinct : other ≠ index := by
    rintro rfl
    rw [unstallChannel_endpoint, updateSegment_segments, stallChannel, stalls, if_pos rfl] at held
    cases held
  have alike := keeps.segments other distinct
  refine ⟨other, distinct, alike.done.trans still, alike.finalizing.trans running,
    alike.stallChannel.trans stalls, ?_⟩
  rw [alike.writerEvent, alike.poolEvent]
  exact waits

theorem resumed_alive {writer : Option Writer} {buffer : Buffer} {poolEvent : Bool}
    (changed : change (op.segments index) = { op.segments index with
      writer := writer
      buffer := some buffer
      writerEvent := false
      poolEvent := poolEvent })
    (running : op.segFailed = false) (active : Active (op.segments index))
    (requested :
      (op.endpoints (op.segments index).conn).sftp.disconnecting = false →
        Requested (op.segments index)
          ((op.endpoints (op.segments index).conn).sftp.liveFor index))
    (blocked : Blocked (fun _ => True) op) (driven : Driven env op index) :
    Alive (((op.updateSegment index change).unstallChannel index).requestSegments
      env (op.segments index).conn) := by
  have segment : ((op.updateSegment index change).unstallChannel
      index).segments index = { op.segments index with
        writer := writer
        buffer := some buffer
        stallChannel := none
        writerEvent := false
        poolEvent := poolEvent } := by
    rw [unstallChannel_segments, updateSegment_segments, changed]
  have endpoint := unstallChannel_endpoint (op.updateSegment index change) index
    (op.segments index).conn
  have live : ((((op.updateSegment index change).unstallChannel
      index).endpoints (op.segments index).conn).sftp.liveFor index) =
      (op.endpoints (op.segments index).conn).sftp.liveFor index := by
    rw [endpoint]
    split <;> rfl
  have connected : (((op.updateSegment index change).unstallChannel
      index).endpoints (op.segments index).conn).sftp.disconnecting =
      (op.endpoints (op.segments index).conn).sftp.disconnecting := by
    rw [endpoint]
    split <;> rfl
  have still : ((op.updateSegment index change).unstallChannel index).segFailed = false := by
    unfold unstallChannel
    split <;> exact running
  have keeps := (updateSegment_keeps op index change).trans
    (unstallChannel_keeps (op.updateSegment index change) index)
  have alive := @requestSegments_alive count
    ((op.updateSegment index change).unstallChannel index) index env still (by
      rw [segment]
      exact ⟨active.finalizing, active.done, active.incomplete⟩)
    (by rw [segment]; rfl)
    (by
      rw [segment]
      simp only
      rw [live, connected]
      exact fun free => (requested free).of_eq rfl rfl rfl rfl rfl rfl) _
    (unstallChannel_blocked blocked (by rw [changed]))
    (by
      rcases driven with elsewhere | waiting | sends
      · exact .inl (keeps.elsewhere elsewhere)
      · refine .inr (.inl ?_)
        rw [segment]
        simp only
        rw [live, connected]
        exact waiting
      · refine .inr (.inr ?_)
        rw [segment]
        simp only
        rw [endpoint]
        split <;> exact sends)
  rw [segment] at alive
  exact alive

def WriterGoesOn (env : SegmentEnv) (op : SegmentedDownload count) (index : Fin count) : Prop :=
  if (op.segments index).finalizing then
    flushes env (op.segments index) = true → Elsewhere op index ∨
      ∀ other, other ≠ index → (op.segments other).done = true
  else
    grants env (op.segments index) = true → Driven env op index

def PoolGoesOn (env : SegmentEnv) (op : SegmentedDownload count) (index : Fin count) : Prop :=
  (op.segments index).finalizing = false → (op.segments index).done = false →
    env.poolBuffer.isSome = true → Driven env op index

instance (env : SegmentEnv) (op : SegmentedDownload count) (index : Fin count) :
    Decidable (WriterGoesOn env op index) :=
  by delta WriterGoesOn; infer_instance

instance (env : SegmentEnv) (op : SegmentedDownload count) (index : Fin count) :
    Decidable (PoolGoesOn env op index) :=
  inferInstanceAs (Decidable (_ → _ → _ → _))

theorem onSegmentWriterAvailability_outcome {remote : Bytes}
    (consistent : Consistent False remote op) (waited : (op.segments index).writerEvent = true)
    (blocked : Blocked (fun _ => True) op) (goesOn : WriterGoesOn env op index) :
    Outcome ((op.updateSegment index fun segment =>
      { segment with writerEvent := false }).onSegmentWriterAvailability env index) := by
  have keeps := updateSegment_keeps op index fun segment =>
    { segment with writerEvent := false }
  have running := (consistent.frame index).running
  unfold onSegmentWriterAvailability
  unfold WriterGoesOn at goesOn
  rw [if_neg (by simp [running]), updateSegment_segments]
  cases consistent.phase index with
  | unopened phase requested => simp [phase.writerEvent] at waited
  | transferring phase awaits requested =>
    rw [if_neg (by simp [phase.finalizing])] at goesOn ⊢
    obtain ⟨base, writer, -, opened, -⟩ := phase.holds
    have active : Active (op.segments index) := ⟨phase.finalizing, phase.done, phase.incomplete⟩
    have segment := updateSegment_segments op index fun segment =>
      { segment with writerEvent := false }
    have still : ((op.updateSegment index fun segment =>
        { segment with writerEvent := false }).segments index).writer =
        some writer := by
      rw [segment]
      exact opened
    rcases getNextSegmentBuffer_cases still env with
      ⟨handed, -, ⟨capacity, granted, got⟩ | got | got⟩ | ⟨-, change, got⟩
    · rw [got]
      simp only [updateSegment_updateSegment, updateSegment_segments]
      rw [segment] at granted
      exact .alive (resumed_alive rfl running active requested blocked (goesOn granted))
    · rw [got]
      simp only [updateSegment_updateSegment]
      exact .alive (waiting_alive blocked phase.done rfl rfl rfl (.inl rfl))
    · rw [got]
      simp only [updateSegment_updateSegment]
      exact .alive (waiting_alive blocked phase.done rfl rfl rfl (.inr rfl))
    · rw [got]
      exact .failed rfl
  | flushing phase _ requested =>
    rw [if_pos (by simp [phase.finalizing])] at goesOn ⊢
    obtain ⟨base, writer, -, opened, -⟩ := phase.holds
    have others : Blocked (· ≠ index) op := blocked.of_not fun _ transferring => by
        simp [phase.finalizing] at transferring
    refine @finalizeSegment_outcome _ _ _ _ writer ?_ ?_ (keeps.blocked others) ?_
    · rw [updateSegment_segments]
      exact opened
    · rw [updateSegment_segments]
      exact phase.done
    · rw [updateSegment_segments]
      intro flushed
      rcases goesOn flushed with elsewhere | done
      · exact .inl (keeps.elsewhere elsewhere)
      · refine .inr fun other distinct => ?_
        rw [updateSegment_segments_of_ne _ _ _ distinct]
        exact done other distinct
  | finished phase requested => simp [phase.writerEvent] at waited

theorem onSegmentPoolAvailability_outcome {remote : Bytes}
    (consistent : Consistent False remote op)
    (waited : (op.segments index).poolEvent = true) (alive : Alive op)
    (goesOn : PoolGoesOn env op index) :
    Outcome ((op.updateSegment index fun segment =>
      { segment with poolEvent := false }).onSegmentPoolAvailability env index) := by
  have keeps := updateSegment_keeps op index fun segment =>
    { segment with poolEvent := false }
  have running := (consistent.frame index).running
  unfold onSegmentPoolAvailability
  unfold PoolGoesOn at goesOn
  simp only [updateSegment_segments, updateSegment_updateSegment]
  rw [if_neg (by simp [running])]
  cases consistent.phase index with
  | unopened phase requested => simp [phase.poolEvent] at waited
  | transferring phase awaits requested =>
    obtain ⟨empty, idle⟩ : (op.segments index).buffer = none ∧
        (op.segments index).writerEvent = false := by
      rcases awaits with ⟨-, -, none⟩ | ⟨empty, ⟨-, none⟩ | ⟨idle, -⟩⟩
      · simp [none] at waited
      · simp [none] at waited
      · exact ⟨empty, idle⟩
    have active : Active (op.segments index) := ⟨phase.finalizing, phase.done, phase.incomplete⟩
    rw [if_pos (by simp [empty, phase.finalizing, phase.done])]
    split
    · exact .alive (waiting_alive alive.blocked phase.done rfl rfl rfl (.inr rfl))
    · rename_i capacity granted
      have changed : { op.segments index with
          poolEvent := false, buffer := some { capacity, bytes := [] } } =
          { op.segments index with
            writer := (op.segments index).writer
            buffer := some { capacity, bytes := [] }
            writerEvent := false
            poolEvent := false } := by
        rw [← idle]
      exact .alive (resumed_alive changed running active requested
        alive.blocked (goesOn phase.finalizing phase.done (by simp [granted])))
  | flushing phase writerEvent requested =>
    rw [if_neg (by simp [phase.finalizing])]
    have others : Blocked (· ≠ index) op := alive.blocked.of_not fun _ transferring => by
        simp [phase.finalizing] at transferring
    refine .alive ⟨(keeps.blocked others).all, fun _ => .inl ⟨index, ?_, .inl ?_⟩⟩
    · rw [updateSegment_segments]
      exact phase.done
    · rw [updateSegment_segments]
      exact writerEvent
  | finished phase requested =>
    rw [if_neg (by simp [phase.done])]
    have others : Blocked (· ≠ index) op :=
      alive.blocked.of_not fun going => by simp [phase.done] at going
    refine .alive ⟨(keeps.blocked others).all, ?_⟩
    rintro ⟨other, going⟩
    have distinct : other ≠ index := by
      rintro rfl
      simp [phase.done] at going
    rw [updateSegment_segments_of_ne _ _ _ distinct] at going
    rcases alive.pending ⟨other, going⟩ with ⟨third, waits⟩ | establishing
    · have apart : third ≠ index := by
        rintro rfl
        exact absurd waits.1 (by simp [phase.done])
      exact .inl ⟨third, keeps.waits apart waits⟩
    · exact .inr establishing

theorem migrateSegment_waitRead (op : SegmentedDownload count) {index : Fin count}
    (conn : Nat) (mine : (op.segments index).conn = none) (channel : Channel) :
    ((op.migrateSegment index conn).endpoints channel).sftp.waitRead =
      (op.endpoints channel).sftp.waitRead := by
  by_cases old : channel = none
  · rw [old, migrateSegment_old op conn mine]
    simp only
    split <;> simp
  · by_cases new : channel = some conn
    · rw [new, migrateSegment_new op conn mine, request_waitRead]
    · rw [migrateSegment_of_ne op conn mine old new]

def Usable (op : SegmentedDownload count) (channel : Channel) : Prop :=
  (op.endpoints channel).sftp.waitRead = false ∧
    (op.endpoints channel).sftp.disconnecting = false

instance (op : SegmentedDownload count) (channel : Channel) :
    Decidable (Usable op channel) :=
  inferInstanceAs (Decidable (_ ∧ _))

theorem migrateSegment_alive (blocked : Blocked (fun _ => True) op)
    (mine : (op.segments index).conn = none)
    (going : (op.segments index).done = false) {conn : Nat}
    (usable : Usable op (some conn)) : Alive (op.migrateSegment index conn) := by
  have segment := @migrateSegment_segments count op index conn
  refine ⟨fun channel held => ?_, fun _ => .inl ⟨index, ?_, .inr (.inr ?_)⟩⟩
  · rw [migrateSegment_waitRead op conn mine] at held
    obtain ⟨other, -, waits⟩ := blocked channel held
    refine ⟨other, trivial, ?_⟩
    by_cases same : other = index
    · subst same
      rw [segment]
      exact waits
    · rw [migrateSegment_segments_of_ne op conn same]
      exact waits
  · rw [segment]
    exact going
  · unfold Answerable
    rw [segment]
    simp only
    rw [migrateSegment_new op conn mine, liveFor_request usable.2,
      request_waitRead, request_disconnecting]
    exact ⟨by simp, usable⟩

theorem startNextSegmentConnection_keeps (op : SegmentedDownload count) :
    Keeps (fun _ => True) op op.startNextSegmentConnection := by
  unfold startNextSegmentConnection
  split
  · exact .refl op
  · split
    · exact ⟨fun _ _ => .of_eq rfl, fun _ _ _ live => live, fun _ free => free,
        fun _ connected => connected, fun establishing => mem_append_left _ establishing⟩
    · exact .refl op

theorem startNextSegmentConnection_pending (segmented : op.opState = .segmented)
    (running : op.segFailed = false) (more : op.connections.length + 1 < count ∨ Pending op) :
    Pending op.startNextSegmentConnection := by
  rcases more with room | pending
  · unfold startNextSegmentConnection
    rw [if_neg (by simp [segmented, running]), if_pos room]
    exact .inr (mem_append_right _ mem_cons_self)
  · exact (startNextSegmentConnection_keeps op).pending pending

def Movable (op : SegmentedDownload count) (conn : Nat) : Prop :=
  ∃ index : Fin count, (index : Nat) = conn + 1 ∧
    (op.segments index).conn = none ∧ (op.segments index).done = false ∧
      (op.segments index).finalizing = false

instance (op : SegmentedDownload count) (conn : Nat) :
    Decidable (Movable op conn) :=
  inferInstanceAs (Decidable (∃ _, _ ∧ _ ∧ _ ∧ _))

def ConnectionGoesOn (op : SegmentedDownload count) (conn : Nat)
    (state : ConnectionState) : Prop :=
  op.connections.length + 1 < count ∨ Pending (op.setConnection conn state)

instance (op : SegmentedDownload count) (conn : Nat) (state : ConnectionState) :
    Decidable (ConnectionGoesOn op conn state) :=
  inferInstanceAs (Decidable (_ ∨ _))

def ReadyGoesOn (op : SegmentedDownload count) (conn : Nat) : Prop :=
  if Movable op conn then Usable op (some conn)
  else ConnectionGoesOn op conn .ready

instance (op : SegmentedDownload count) (conn : Nat) :
    Decidable (ReadyGoesOn op conn) :=
  by delta ReadyGoesOn; infer_instance

theorem startNextSegmentConnection_alive (blocked : Blocked (fun _ => True) op)
    (segmented : op.opState = .segmented) (running : op.segFailed = false)
    (more : op.connections.length + 1 < count ∨ Pending op) :
    Alive op.startNextSegmentConnection :=
  ⟨(startNextSegmentConnection_keeps op).blocked blocked,
    fun _ => startNextSegmentConnection_pending segmented running more⟩

theorem onSegmentConnectionReady_alive {conn : Nat} (blocked : Blocked (fun _ => True) op)
    (segmented : op.opState = .segmented) (running : op.segFailed = false)
    (goesOn : ReadyGoesOn op conn) :
    Alive ((op.setConnection conn .ready).onSegmentConnectionReady conn) := by
  have length : (op.setConnection conn .ready).connections.length =
      op.connections.length := length_set
  have going : ConnectionGoesOn op conn .ready →
      Alive (op.setConnection conn .ready).startNextSegmentConnection := by
    intro goesOn
    refine startNextSegmentConnection_alive blocked segmented running ?_
    rw [length]
    exact goesOn
  unfold onSegmentConnectionReady
  rw [if_neg (by
    rw [show (op.setConnection conn .ready).opState = .segmented from segmented,
      show (op.setConnection conn .ready).segFailed = false from running]
    decide)]
  unfold ReadyGoesOn at goesOn
  split
  · rename_i target
    simp only
    split
    · rename_i movable
      rw [if_pos ⟨⟨conn + 1, target⟩, rfl, movable⟩] at goesOn
      have moved := @migrateSegment_alive count
        (op.setConnection conn .ready) ⟨conn + 1, target⟩ blocked movable.1
        movable.2.1 conn goesOn
      exact moved.keep (startNextSegmentConnection_keeps _)
    · rename_i fixed
      rw [if_neg] at goesOn
      · exact going goesOn
      · rintro ⟨index, position, movable⟩
        have same : index = ⟨conn + 1, target⟩ := Fin.ext position
        rw [same] at movable
        exact fixed movable
  · rename_i missing
    rw [if_neg] at goesOn
    · exact going goesOn
    · rintro ⟨index, position, -⟩
      have inside := index.isLt
      omega

end Handlers

/-- The segments are downloaded and neither a failure nor a reset is under
way. -/
def Underway (op : SegmentedDownload count) : Prop :=
  op.opState = .segmented ∧ op.segFailed = false ∧ op.result = none

instance (op : SegmentedDownload count) : Decidable (Underway op) :=
  inferInstanceAs (Decidable (_ ∧ _ ∧ _))

def EventGoesOn (op : SegmentedDownload count) : Event count → Prop
  | .reply channel reply env =>
    ∀ answered ∈ (op.endpoints channel).sftp.answer, ∀ index ∈ answered.1.handler,
        ReplyGoesOn env channel (op.updateSftp channel fun _ => answered.2) index reply
  | .writerAvailability index env => WriterGoesOn env op index
  | .poolAvailability index env => PoolGoesOn env op index
  | .connectionReady conn => ReadyGoesOn op conn
  | .connectionFailed conn => ConnectionGoesOn op conn .failed
  | _ => True

instance (op : SegmentedDownload count) :
    (event : Event count) → Decidable (EventGoesOn op event)
  | .reply channel reply env =>
    inferInstanceAs (Decidable (∀ answered ∈ (op.endpoints channel).sftp.answer,
        ∀ index ∈ answered.1.handler,
          ReplyGoesOn env channel (op.updateSftp channel fun _ => answered.2) index reply))
  | .writerAvailability index env =>
    inferInstanceAs (Decidable (WriterGoesOn env op index))
  | .poolAvailability index env =>
    inferInstanceAs (Decidable (PoolGoesOn env op index))
  | .connectionReady conn => inferInstanceAs (Decidable (ReadyGoesOn op conn))
  | .connectionFailed conn =>
    inferInstanceAs (Decidable (ConnectionGoesOn op conn .failed))
  | .connectionDropped _ => .isTrue trivial
  | .hostkeyMismatch _ => .isTrue trivial
  | .concatWriterAvailability _ => .isTrue trivial
  | .concatReaderAvailability _ => .isTrue trivial
  | .channelDone => .isTrue trivial

/-- The event is not one that leaves nothing to wait for. -/
def GoesOn (op : SegmentedDownload count) (event : Event count) : Prop :=
  Underway op → EventGoesOn op event

instance (op : SegmentedDownload count) (event : Event count) :
    Decidable (GoesOn op event) :=
  inferInstanceAs (Decidable (_ → _))

section Steps

variable {op next : SegmentedDownload count} {event : Event count} {remote : Bytes}

theorem Underway.before (taken : op.step event = some next)
    (underway : Underway next) : Underway op := by
  obtain ⟨segmented, running, unended⟩ := underway
  have sticky := step_sticky taken
  refine ⟨?_, ?_, ?_⟩
  · rcases sticky.opState with same | concat
    · rw [← same, segmented]
    · simp [segmented] at concat
  · by_contra failed
    have later := sticky.segFailed (by simpa using failed)
    simp [running] at later
  · cases result : op.result with
    | none => rfl
    | some code =>
      have later := sticky.result code result
      simp [unended] at later

theorem Outcome.of_underway (outcome : Outcome next) (underway : Underway next) : Alive next := by
  obtain ⟨segmented, running, -⟩ := underway
  cases outcome with
  | failed segFailed => simp [running] at segFailed
  | merging concat => simp [segmented] at concat
  | alive alive => exact alive

variable {sftp : Client (Fin count)}

theorem popped_blocked (blocked : Blocked (fun _ => True) op) {channel : Channel}
    {request : Request (Fin count)}
    (answered : (op.endpoints channel).sftp.answer = some (request, sftp)) :
    Blocked (fun _ => True) (op.updateSftp channel fun _ => sftp) := by
  obtain ⟨-, free, -, -⟩ := answer_flags answered
  intro other held
  by_cases same : other = channel
  · rw [same, updateSftp_sftp, free] at held
    cases held
  · rw [updateSftp_endpoints_of_ne _ _ _ same] at held
    exact blocked other held

theorem discarded_keeps {channel : Channel} {kind : RequestKind}
    (answered : (op.endpoints channel).sftp.answer = some (⟨none, kind⟩, sftp)) :
    Keeps (fun _ => True) op (op.updateSftp channel fun _ => sftp) := by
  obtain ⟨-, free, -, connected⟩ := answer_flags answered
  refine ⟨fun _ _ => .of_eq rfl, fun index _ other live => ?_,
    fun other before => ?_, fun other before => ?_, id⟩
  · rw [updateSftp_liveFor fun index =>
      liveFor_of_answer_of_ne answered (by simp)]
    exact live
  · by_cases same : other = channel
    · rw [same, updateSftp_sftp, free]
    · rwa [updateSftp_endpoints_of_ne _ _ _ same]
  · by_cases same : other = channel
    · rw [same, updateSftp_sftp, connected]
    · rwa [updateSftp_endpoints_of_ne _ _ _ same]

theorem step_outcome (consistent : Consistent False remote op)
    (positive : 0 < count) (underway : Underway op) (alive : Alive op)
    (goesOn : EventGoesOn op event) (taken : op.step event = some next)
    (unended : next.result = none) : Outcome next := by
  obtain ⟨segmented, running, -⟩ := underway
  cases event with
  | reply channel reply env =>
    obtain ⟨kind, sftp, allowed, ⟨answered, rfl⟩ | ⟨index, answered, rfl⟩⟩ :=
      receive_eq_some taken
    · exact .alive (alive.keep (discarded_keeps answered))
    · exact processReply_outcome (consistent.answered answered) allowed
        (popped_blocked alive.blocked answered) (goesOn _ (by rw [answered]; rfl) index rfl)
  | writerAvailability index env =>
    obtain ⟨waited, rfl⟩ := some_of_guard taken
    exact onSegmentWriterAvailability_outcome consistent waited alive.blocked goesOn
  | poolAvailability index env =>
    obtain ⟨waited, rfl⟩ := some_of_guard taken
    exact onSegmentPoolAvailability_outcome consistent waited alive goesOn
  | connectionReady conn =>
    obtain ⟨-, rfl⟩ := some_of_guard taken
    exact .alive (onSegmentConnectionReady_alive alive.blocked segmented running goesOn)
  | connectionFailed conn =>
    obtain ⟨-, rfl⟩ := some_of_guard taken
    have length : (op.setConnection conn .failed).connections.length =
        op.connections.length := length_set
    unfold onSegmentConnectionFailed
    split
    · rename_i stopped
      simp [setConnection, segmented, running] at stopped
    · refine .alive (startNextSegmentConnection_alive alive.blocked segmented running ?_)
      rw [length]
      exact goesOn
  | connectionDropped conn =>
    obtain ⟨-, rfl⟩ := some_of_guard taken
    unfold onSegmentConnectionDropped
    split
    · rename_i stopped
      simp [setConnection, disconnect, segmented, running] at stopped
    · exact .failed rfl
  | hostkeyMismatch conn =>
    obtain ⟨-, rfl⟩ := some_of_guard taken
    exact .failed rfl
  | concatWriterAvailability env =>
    simp [step, (consistent.frame ⟨0, positive⟩).concat] at taken
  | concatReaderAvailability env =>
    simp [step, (consistent.frame ⟨0, positive⟩).concat] at taken
  | channelDone =>
    simp only [step, some.injEq] at taken
    subst taken
    simp [triggerReset] at unended

structure Lively (remote : Bytes) (op : SegmentedDownload count) : Prop where
  phase : Phase False remote op
  alive : Underway op → Alive op

theorem Lively.step (positive : 0 < count) (lively : Lively remote op)
    (goesOn : GoesOn op event) (taken : op.step event = some next) :
    Lively remote next := by
  refine ⟨step_phase positive lively.phase (fun trust => trust.elim) taken, ?_⟩
  intro underway
  have before := underway.before taken
  cases lively.phase with
  | segmented consistent =>
    exact (step_outcome consistent positive before (lively.alive before)
      (goesOn before) taken underway.2.2).of_underway underway
  | merging concat quiet progress => simp [before.1] at concat
  | failed failed segFailed =>
    exact absurd (segFailed before.1) (by simp [before.2.1])

theorem startSegmented_lively {total : Nat} {disk : Disk} {env : StartEnv} (positive : 0 < count)
    (idle : ∀ index, sftp.liveFor index = []) (free : sftp.waitRead = false)
    (connected : sftp.disconnecting = false) :
    Lively (List.replicate total 0) (startSegmented count total disk sftp env) := by
  have size : (replicate total (0 : UInt8)).length = total := length_replicate
  constructor
  · have phase := @startSegmented_phase count False (replicate total 0) disk
      sftp env positive idle (fun trust => trust.elim) (fun trust => trust.elim)
    rwa [size] at phase
  · intro underway
    rcases startSegmented_cases count total disk sftp env with
      ⟨-, transfer⟩ | ⟨manifest, started⟩
    · simp [underway.1] at transfer
    · rw [started] at underway ⊢
      split
      · rename_i all
        rw [if_pos all] at underway
        have concat := (startConcat_sticky env.toSegmentEnv
          (prepared count total disk sftp (keptParts total count disk) manifest)).2
        simp [underway.1] at concat
      · refine Alive.keep ⟨fun channel held => ?_, ?_⟩ (startNextSegmentConnection_keeps _)
        · by_cases primary : channel = none
          · rw [primary, opened_eq, updateSftp_sftp, (requests_flags _ _).2] at held
            simp [prepared, free] at held
          · rw [opened_elsewhere primary] at held
            cases held
        · rintro ⟨index, going⟩
          refine .inl ⟨index, going, .inr (.inr ?_)⟩
          rw [opened_segments] at going
          have mine : (initialSegment total count disk index).conn = none := rfl
          unfold Answerable
          rw [opened_segments, mine]
          refine ⟨?_, ?_, ?_⟩
          · rw [opened_liveFor idle, connected, going]
            decide
          · rw [opened_eq, updateSftp_sftp, (requests_flags _ _).2]
            exact free
          · rw [opened_disconnecting]
            exact connected

end Steps

end SegmentedDownload

end FileZilla.Sftp
