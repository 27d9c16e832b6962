import FileZilla.Engine.Sftp.SegmentInvariant

namespace FileZilla.Sftp

open List

namespace SegmentedDownload

variable {count : Nat}

/-! Merging the parts: what is written, what the reader still has and the parts
behind it are the remote file. -/

def Failed (op : SegmentedDownload count) : Prop :=
  ∃ code, code ≠ .ok ∧ op.result = some code

def readerBytes : Option Reader → Bytes
  | none => []
  | some reader => reader.remaining

def restBytes (remote : Bytes) (count part : Nat) : Bytes :=
  (List.range' part (count - part)).flatMap (segmentBytes remote count)

structure Joining (remote : Bytes) (op : SegmentedDownload count) : Prop where
  concat : op.opState = .concat
  unfinished : op.result ≠ some .ok
  size : op.remoteFileSize = remote.length
  parts : ∀ index : Fin count, op.parts index = some (segmentBytes remote count index)
  writer : ∃ writer, op.concat.writer = some writer ∧
    (op.concat.finalizing = false →
      op.concat.received = writer.bytes.length ∧ op.concat.part ≤ count ∧
        writer.bytes ++ readerBytes op.concat.reader ++
          restBytes remote count op.concat.part = remote) ∧
    (op.concat.finalizing = true → writer.bytes = remote)

structure Joined (remote : Bytes) (op : SegmentedDownload count) : Prop where
  result : op.result = some .ok
  merged : op.merged = some remote
  writer : op.concat.writer = none

inductive Progress (remote : Bytes) (op : SegmentedDownload count) : Prop
  | joining (joining : Joining remote op)
  | joined (joined : Joined remote op)
  | failed (failed : Failed op)

section Functions

variable {remote : Bytes} {op next : SegmentedDownload count} {env : SegmentEnv}

theorem failed_of_triggerReset (unfinished : op.result ≠ some .ok)
    {code : ReplyCode} (bad : code ≠ .ok) : Failed (op.triggerReset code) := by
  cases result : op.result with
  | none => exact ⟨code, bad, by simp [triggerReset, result]⟩
  | some earlier =>
    refine ⟨earlier, ?_, by simp [triggerReset, result]⟩
    rintro rfl
    exact unfinished result

theorem failed_of_fail (unfinished : op.result ≠ some .ok)
    {code : ReplyCode} (bad : code ≠ .ok) : Failed (op.fail code) :=
  @failed_of_triggerReset count { op with segFailed := true } unfinished code bad

theorem concatFinalize_progress {writer : Writer}
    (concat : op.opState = .concat) (unfinished : op.result ≠ some .ok)
    (size : op.remoteFileSize = remote.length) (parts : ∀ index : Fin count,
      op.parts index = some (segmentBytes remote count index))
    (opened : op.concat.writer = some writer) (whole : writer.bytes = remote)
    (env : SegmentEnv) : Progress remote (op.concatFinalize env) := by
  unfold concatFinalize
  simp only [opened]
  split
  · exact .failed (failed_of_triggerReset unfinished (by decide))
  · exact .joining {
      concat := concat
      unfinished := unfinished
      size := size
      parts := parts
      writer := ⟨writer, rfl, fun running => by simp at running,
        fun _ => whole⟩ }
  · cases result : op.result with
    | none =>
      exact .joined {
        result := by simp [triggerReset, deleteSegmentFiles]
        merged := by simp [triggerReset, deleteSegmentFiles, whole]
        writer := rfl }
    | some earlier =>
      refine .failed ⟨earlier, ?_, ?_⟩
      · rintro rfl
        exact unfinished result
      · simp [triggerReset, deleteSegmentFiles]

theorem concatReader_progress (joining : Joining remote op)
    (running : op.concat.finalizing = false) (env : SegmentEnv) :
    (∃ reader, (op.concatReader env).2 = some reader ∧
      (op.concatReader env).1.concat.reader = some reader ∧
      (op.concatReader env).1.concat.finalizing = false ∧
      Joining remote (op.concatReader env).1) ∨
    (op.concatReader env).2 = none ∧ Progress remote (op.concatReader env).1 := by
  obtain ⟨writer, opened, going, -⟩ := joining.writer
  obtain ⟨received, bound, total⟩ := going running
  unfold concatReader
  split
  · rename_i reader held
    exact .inl ⟨reader, rfl, held, running, joining⟩
  · rename_i held
    rw [held] at total
    split
    · rename_i last
      have whole : op.concat.part = count := by omega
      right
      split
      · exact ⟨rfl, .failed (failed_of_triggerReset joining.unfinished (by decide))⟩
      · refine ⟨rfl, concatFinalize_progress joining.concat joining.unfinished
          joining.size joining.parts opened ?_ env⟩
        simpa [readerBytes, restBytes, whole] using total
    · rename_i more
      have inside : op.concat.part < count := by omega
      have stored : op.parts op.concat.part = some (segmentBytes remote count op.concat.part) :=
        joining.parts ⟨op.concat.part, inside⟩
      split
      · rename_i content found _
        rw [stored] at found
        cases found
        left
        refine ⟨_, rfl, rfl, running, {
          __ := joining
          writer := ⟨writer, opened, fun _ => ⟨received, inside, ?_⟩,
            fun finalizing => by simp [running] at finalizing⟩ }⟩
        have left : count - op.concat.part = count - (op.concat.part + 1) + 1 := by
          omega
        rw [restBytes, left, range'_succ, flatMap_cons] at total
        simpa [readerBytes, restBytes] using total
      · exact .inr ⟨rfl, .failed (failed_of_triggerReset joining.unfinished (by decide))⟩

theorem concatPump_progress (env : SegmentEnv) (answers : List PumpAnswer)
    (joining : Joining remote op) (running : op.concat.finalizing = false) :
    Progress remote (concatPump env answers op) := by
  induction answers generalizing op with
  | nil =>
    unfold concatPump
    rw [if_pos (by simp [joining.concat, running])]
    rcases concatReader_progress joining running env with
      ⟨reader, picked, -, -, later⟩ | ⟨none, later⟩
    · generalize op.concatReader env = outcome at picked later ⊢
      obtain ⟨next, reader'⟩ := outcome
      obtain rfl : reader' = some reader := picked
      exact .joining { later with writer := later.writer }
    · generalize op.concatReader env = outcome at none later ⊢
      obtain ⟨next, reader'⟩ := outcome
      obtain rfl : reader' = Option.none := none
      exact later
  | cons answer rest ih =>
    unfold concatPump
    rw [if_pos (by simp [joining.concat, running])]
    rcases concatReader_progress joining running env with
      ⟨reader, picked, held, going, later⟩ | ⟨none, later⟩
    · generalize op.concatReader env = outcome at picked held going later ⊢
      obtain ⟨next, reader'⟩ := outcome
      obtain rfl : reader' = some reader := picked
      simp only at held going later ⊢
      obtain ⟨writer, opened, total, -⟩ := later.writer
      obtain ⟨received, bound, whole⟩ := total going
      have bytes := reader.getBuffer_bytes answer.getBuffer answer.chunk
      have ends := @Reader.getBuffer_end reader answer.getBuffer answer.chunk
      have waits := @Reader.getBuffer_wait reader answer.getBuffer answer.chunk
      rw [held] at whole
      generalize reader.getBuffer answer.getBuffer answer.chunk = got at bytes ends waits ⊢
      obtain ⟨result, rest', lease⟩ := got
      simp only at bytes ends waits ⊢
      cases result with
      | error =>
        exact .failed (failed_of_triggerReset later.unfinished (by decide))
      | wait =>
        rw [waits rfl, nil_append] at bytes
        exact .joining { later with
          writer := ⟨writer, opened, fun _ => ⟨received, bound, by
            simpa [readerBytes, bytes] using whole⟩,
            fun finalizing => by simp [going] at finalizing⟩ }
      | ok =>
        simp only
        by_cases empty : leaseEmpty lease = true
        · rw [if_pos empty]
          have joined : Joining remote
              { next with concat := { next.concat with reader := none } } :=
            { later with
              writer := ⟨writer, opened, fun _ => ⟨received, bound, by
                simpa [readerBytes, ends rfl empty] using whole⟩,
                fun finalizing => by simp [going] at finalizing⟩ }
          exact ih joined going
        · rw [if_neg empty]
          simp only [opened]
          have kept := writer.addBuffer_bytes lease answer.addBuffer
          have moved := @Writer.addBuffer_lease writer lease answer.addBuffer
          generalize writer.addBuffer lease answer.addBuffer = added at kept moved ⊢
          obtain ⟨result, handed, lease'⟩ := added
          simp only at kept moved ⊢
          have goes : leaseBytes lease' = [] → Joining remote
              { next with concat := { next.concat with
                reader := some rest'
                writer := some handed
                buffer := lease'
                received :=
                  next.concat.received + (leaseBytes lease).length } } := by
            intro none
            rw [none, append_nil] at kept
            exact { later with
              writer := ⟨handed, rfl, fun _ => ⟨by simp [received, kept], bound, by
                  simpa [readerBytes, kept, ← bytes] using whole⟩,
                fun finalizing => by simp [going] at finalizing⟩ }
          cases result with
          | error =>
            exact .failed (failed_of_triggerReset later.unfinished (by decide))
          | wait =>
            have joined := goes (moved (by simp))
            exact .joining { joined with writer := joined.writer }
          | ok => exact ih (goes (moved (by simp))) going
    · generalize op.concatReader env = outcome at none later ⊢
      obtain ⟨next, reader'⟩ := outcome
      obtain rfl : reader' = Option.none := none
      exact later

structure SameTransfers (op next : SegmentedDownload count) : Prop where
  segments : next.segments = op.segments
  endpoints : next.endpoints = op.endpoints

theorem SameTransfers.trans {last : SegmentedDownload count}
    (first : SameTransfers op next) (second : SameTransfers next last) :
    SameTransfers op last :=
  ⟨second.segments.trans first.segments, second.endpoints.trans first.endpoints⟩

theorem concatFinalize_same (env : SegmentEnv) (op : SegmentedDownload count) :
    SameTransfers op (op.concatFinalize env) := by
  unfold concatFinalize
  simp only
  split
  · exact ⟨rfl, rfl⟩
  · split <;> exact ⟨rfl, rfl⟩

theorem concatReader_same (env : SegmentEnv) (op : SegmentedDownload count) :
    SameTransfers op (op.concatReader env).1 := by
  unfold concatReader
  split
  · exact ⟨rfl, rfl⟩
  · split
    · split
      · exact ⟨rfl, rfl⟩
      · exact concatFinalize_same env op
    · split <;> exact ⟨rfl, rfl⟩

theorem concatPump_same (env : SegmentEnv) (answers : List PumpAnswer)
    (op : SegmentedDownload count) :
    SameTransfers op (concatPump env answers op) := by
  induction answers generalizing op with
  | nil =>
    have reader := concatReader_same env op
    unfold concatPump
    split
    · split
      · rename_i got
        rwa [got] at reader
      · rename_i got
        rw [got] at reader
        exact reader.trans ⟨rfl, rfl⟩
    · exact ⟨rfl, rfl⟩
  | cons answer rest ih =>
    have reader := concatReader_same env op
    unfold concatPump
    split
    · split
      · rename_i got
        rwa [got] at reader
      · rename_i got
        rw [got] at reader
        apply reader.trans
        simp only
        split
        · exact ⟨rfl, rfl⟩
        · exact ⟨rfl, rfl⟩
        · split
          · exact ⟨(ih _).segments, (ih _).endpoints⟩
          · split
            · exact ⟨rfl, rfl⟩
            · split
              · exact ⟨rfl, rfl⟩
              · exact ⟨rfl, rfl⟩
              · exact ⟨(ih _).segments, (ih _).endpoints⟩
    · exact ⟨rfl, rfl⟩

def Quiet (op : SegmentedDownload count) : Prop :=
  ∀ index, (op.segments index).done = true ∧
    (op.segments index).writerEvent = false ∧
    ∀ channel, (op.endpoints channel).sftp.liveFor index = []

theorem Quiet.of_same (quiet : Quiet op) (same : SameTransfers op next) :
    Quiet next := by
  intro index
  rw [same.segments, same.endpoints]
  exact quiet index

structure Closed (op next : SegmentedDownload count) : Prop where
  opState : next.opState = op.opState
  result : next.result = op.result
  remoteFileSize : next.remoteFileSize = op.remoteFileSize
  parts : next.parts = op.parts
  concat : next.concat = op.concat
  done : ∀ index, (next.segments index).done = (op.segments index).done
  writerEvent : ∀ index, (next.segments index).writerEvent = (op.segments index).writerEvent
  liveFor : ∀ channel index, (next.endpoints channel).sftp.liveFor index =
    (op.endpoints channel).sftp.liveFor index

theorem closeHandle_eq (op : SegmentedDownload count) (index : Fin count) :
    op.closeHandle index = (op.updateSftp (op.segments index).conn fun sftp =>
        if (op.segments index).handle = "" then sftp
        else sftp.request none .close).updateSegment index fun segment =>
          { segment with handle := "" } := by
  unfold closeHandle
  split
  · rename_i filled
    simp [if_neg filled]
  · rename_i empty
    have handle : (op.segments index).handle = "" := by simpa using empty
    have segment : { op.segments index with handle := "" } = op.segments index := by
      rw [← handle]
    simp [updateSftp, updateSegment, handle, segment]

theorem closeHandle_segments (op : SegmentedDownload count) (index : Fin count) :
    (op.closeHandle index).segments index =
      { op.segments index with handle := "" } := by
  rw [closeHandle_eq, updateSegment_segments, updateSftp_segments]

theorem closeHandle_segments_of_ne (op : SegmentedDownload count)
    {index other : Fin count} (distinct : other ≠ index) :
    (op.closeHandle index).segments other = op.segments other := by
  rw [closeHandle_eq, updateSegment_segments_of_ne _ _ _ distinct, updateSftp_segments]

theorem closeHandle_liveFor (op : SegmentedDownload count) (index other : Fin count)
    (channel : Channel) :
    ((op.closeHandle index).endpoints channel).sftp.liveFor other =
      (op.endpoints channel).sftp.liveFor other := by
  rw [closeHandle_eq, updateSegment_endpoints]
  by_cases same : channel = (op.segments index).conn
  · rw [same, updateSftp_sftp]
    split <;> simp
  · rw [updateSftp_endpoints_of_ne _ _ _ same]

theorem closeHandle_closed (op : SegmentedDownload count) (index : Fin count) :
    Closed op (op.closeHandle index) := by
  refine ⟨?_, ?_, ?_, ?_, ?_, ?_, ?_,
    fun channel other => closeHandle_liveFor op index other channel⟩
  any_goals rw [closeHandle_eq]
  any_goals rfl
  all_goals
    intro other
    by_cases same : other = index
    · simp [same]
    · rw [updateSegment_segments_of_ne _ _ _ same, updateSftp_segments]

theorem closeHandles_closed (indices : List (Fin count))
    (op : SegmentedDownload count) : Closed op (indices.foldl closeHandle op) := by
  induction indices generalizing op with
  | nil =>
    exact ⟨rfl, rfl, rfl, rfl, rfl, fun _ => rfl, fun _ => rfl, fun _ _ => rfl⟩
  | cons index rest ih =>
    have first := closeHandle_closed op index
    have later := ih (op.closeHandle index)
    exact {
      opState := later.opState.trans first.opState
      result := later.result.trans first.result
      remoteFileSize := later.remoteFileSize.trans first.remoteFileSize
      parts := later.parts.trans first.parts
      concat := later.concat.trans first.concat
      done := fun other => (later.done other).trans (first.done other)
      writerEvent := fun other =>
        (later.writerEvent other).trans (first.writerEvent other)
      liveFor := fun channel other =>
        (later.liveFor channel other).trans (first.liveFor channel other) }

theorem startConcat_quiet (quiet : Quiet op) (env : SegmentEnv) :
    Quiet (op.startConcat env) := by
  have closed := closeHandles_closed (finRange count)
    { op with opState := .concat }
  have still : Quiet ((finRange count).foldl closeHandle
      { op with opState := .concat }) := by
    intro index
    obtain ⟨done, writerEvent, live⟩ := quiet index
    exact ⟨(closed.done index).trans done, (closed.writerEvent index).trans writerEvent,
      fun channel => (closed.liveFor channel index).trans (live channel)⟩
  unfold startConcat
  simp only
  split
  · have same := concatPump_same env env.pump
      { (finRange count).foldl closeHandle { op with opState := .concat }
        with concat :=
          { ((finRange count).foldl closeHandle
              { op with opState := .concat }).concat with
            writer := some { offset := 0, bytes := [] }
            part := 0
            received := 0 } }
    exact still.of_same ⟨same.segments, same.endpoints⟩
  · exact still.of_same ⟨rfl, rfl⟩

theorem startConcat_progress (positive : 0 < count) (unfinished : op.result ≠ some .ok)
    (size : op.remoteFileSize = remote.length) (parts : ∀ index : Fin count,
      op.parts index = some (segmentBytes remote count index))
    (concat : op.concat = {}) (env : SegmentEnv) :
    Progress remote (op.startConcat env) := by
  have closed := closeHandles_closed (finRange count)
    { op with opState := .concat }
  unfold startConcat
  simp only
  generalize (finRange count).foldl closeHandle
    { op with opState := .concat } = started at closed ⊢
  have still : started.result ≠ some .ok := by
    rw [closed.result]
    exact unfinished
  have fresh : started.concat = {} := closed.concat.trans concat
  split
  · have joining : Joining remote { started with concat :=
        { started.concat with
          writer := some { offset := 0, bytes := [] }
          part := 0
          received := 0 } } := {
      concat := closed.opState
      unfinished := still
      size := closed.remoteFileSize.trans size
      parts := fun index => by
        simp only [closed.parts]
        exact parts index
      writer := by
        refine ⟨{ offset := 0, bytes := [] }, rfl, fun _ => ⟨rfl, Nat.zero_le _, ?_⟩,
          fun finalizing => by simp [fresh] at finalizing⟩
        have whole := @flatMap_segmentBytes _ _ remote (Nat.zero_le count) positive
        simpa [fresh, readerBytes, restBytes, segmentOffset] using whole }
    exact concatPump_progress env env.pump joining (by simp [fresh])
  · exact .failed (failed_of_triggerReset still (by decide))

theorem Joined.triggerReset (joined : Joined remote op) (code : ReplyCode) :
    Joined remote (op.triggerReset code) where
  result := by simp [SegmentedDownload.triggerReset, joined.result]
  __ := joined

theorem Joined.concatFinalize (joined : Joined remote op) (env : SegmentEnv) :
    Joined remote (op.concatFinalize env) := by
  unfold SegmentedDownload.concatFinalize
  simp only [joined.writer]
  have later : Joined remote
      { op with concat := { op.concat with finalizing := true } } :=
    ⟨joined.result, joined.merged, joined.writer⟩
  have reset := later.triggerReset .writeFailed
  exact ⟨reset.result, reset.merged, rfl⟩

theorem Joined.concatReader (joined : Joined remote op) (env : SegmentEnv) :
    Joined remote (op.concatReader env).1 := by
  unfold SegmentedDownload.concatReader
  split
  · exact joined
  · split
    · split
      · exact joined.triggerReset _
      · exact joined.concatFinalize env
    · split
      · exact ⟨joined.result, joined.merged, joined.writer⟩
      · exact joined.triggerReset _

theorem Joined.concatPump (joined : Joined remote op) (env : SegmentEnv)
    (answers : List PumpAnswer) :
    Joined remote (concatPump env answers op) := by
  induction answers generalizing op with
  | nil =>
    have reader := joined.concatReader env
    unfold SegmentedDownload.concatPump
    split
    · split
      · rename_i got
        rwa [got] at reader
      · rename_i got
        rw [got] at reader
        exact ⟨reader.result, reader.merged, reader.writer⟩
    · exact joined
  | cons answer rest ih =>
    have reader := joined.concatReader env
    unfold SegmentedDownload.concatPump
    split
    · split
      · rename_i got
        rwa [got] at reader
      · rename_i next picked got
        rw [got] at reader
        have gone : next.concat.writer = none := reader.writer
        simp only
        split
        · exact ⟨reader.result, reader.merged, reader.writer⟩
        · exact reader.triggerReset _
        · split
          · have later : Joined remote
                { next with concat := { next.concat with reader := none } } :=
              ⟨reader.result, reader.merged, reader.writer⟩
            exact ih later
          · simp only [gone]
            exact reader.triggerReset _
    · exact joined

end Functions

end SegmentedDownload

end FileZilla.Sftp
