import FileZilla.Guards
import FileZilla.Engine.Sftp.SegmentStart

namespace FileZilla.Sftp

namespace SegmentedDownload

variable {count : Nat}

section Updates

variable (op : SegmentedDownload count) (index : Fin count) (channel : Channel)
  (changeSegment : SegmentHandler → SegmentHandler)
  (changeSftp : Client (Fin count) → Client (Fin count))
  (changePipe : SegmentPipeState → SegmentPipeState)

@[simp] theorem updateSegment_segments :
    (op.updateSegment index changeSegment).segments index =
      changeSegment (op.segments index) := by
  simp [updateSegment]

theorem updateSegment_segments_of_ne {other : Fin count} (distinct : other ≠ index) :
    (op.updateSegment index changeSegment).segments other =
      op.segments other := by
  simp [updateSegment, distinct]

@[simp] theorem updateSegment_endpoints :
    (op.updateSegment index changeSegment).endpoints = op.endpoints := rfl

@[simp] theorem updateSegment_segFailed :
    (op.updateSegment index changeSegment).segFailed = op.segFailed := rfl

@[simp] theorem updateSegment_opState :
    (op.updateSegment index changeSegment).opState = op.opState := rfl

@[simp] theorem updateSegment_result :
    (op.updateSegment index changeSegment).result = op.result := rfl

@[simp] theorem updateSegment_parts :
    (op.updateSegment index changeSegment).parts = op.parts := rfl

@[simp] theorem updateSegment_connections :
    (op.updateSegment index changeSegment).connections = op.connections := rfl

@[simp] theorem updateSegment_segmentsDone :
    (op.updateSegment index changeSegment).segmentsDone = op.segmentsDone := rfl

@[simp] theorem updateSegment_updateSegment (later : SegmentHandler → SegmentHandler) :
    (op.updateSegment index changeSegment).updateSegment index later =
      op.updateSegment index fun segment => later (changeSegment segment) := by
  simp [updateSegment]

@[simp] theorem updateSftp_sftp :
    ((op.updateSftp channel changeSftp).endpoints channel).sftp =
      changeSftp (op.endpoints channel).sftp := by
  simp [updateSftp]

@[simp] theorem updateSftp_pipe (other : Channel) :
    ((op.updateSftp channel changeSftp).endpoints other).pipe = (op.endpoints other).pipe := by
  by_cases same : other = channel
  · simp [updateSftp, same]
  · simp [updateSftp, same]

theorem updateSftp_endpoints_of_ne {other : Channel} (distinct : other ≠ channel) :
    (op.updateSftp channel changeSftp).endpoints other =
      op.endpoints other := by
  simp [updateSftp, distinct]

@[simp] theorem updateSftp_segments :
    (op.updateSftp channel changeSftp).segments = op.segments := rfl

@[simp] theorem updateSftp_segFailed :
    (op.updateSftp channel changeSftp).segFailed = op.segFailed := rfl

@[simp] theorem updateSftp_opState :
    (op.updateSftp channel changeSftp).opState = op.opState := rfl

@[simp] theorem updateSftp_result :
    (op.updateSftp channel changeSftp).result = op.result := rfl

@[simp] theorem updateSftp_parts :
    (op.updateSftp channel changeSftp).parts = op.parts := rfl

@[simp] theorem updateSftp_connections :
    (op.updateSftp channel changeSftp).connections = op.connections := rfl

@[simp] theorem updateSftp_segmentsDone :
    (op.updateSftp channel changeSftp).segmentsDone = op.segmentsDone := rfl

@[simp] theorem updatePipe_pipe :
    ((op.updatePipe channel changePipe).endpoints channel).pipe =
      changePipe (op.endpoints channel).pipe := by
  simp [updatePipe]

@[simp] theorem updatePipe_sftp (other : Channel) :
    ((op.updatePipe channel changePipe).endpoints other).sftp = (op.endpoints other).sftp := by
  by_cases same : other = channel
  · simp [updatePipe, same]
  · simp [updatePipe, same]

theorem updatePipe_endpoints_of_ne {other : Channel} (distinct : other ≠ channel) :
    (op.updatePipe channel changePipe).endpoints other =
      op.endpoints other := by
  simp [updatePipe, distinct]

@[simp] theorem updatePipe_segments :
    (op.updatePipe channel changePipe).segments = op.segments := rfl

@[simp] theorem updatePipe_segFailed :
    (op.updatePipe channel changePipe).segFailed = op.segFailed := rfl

@[simp] theorem updatePipe_opState :
    (op.updatePipe channel changePipe).opState = op.opState := rfl

@[simp] theorem updatePipe_result :
    (op.updatePipe channel changePipe).result = op.result := rfl

@[simp] theorem updatePipe_parts :
    (op.updatePipe channel changePipe).parts = op.parts := rfl

@[simp] theorem updatePipe_connections :
    (op.updatePipe channel changePipe).connections = op.connections := rfl

@[simp] theorem updatePipe_segmentsDone :
    (op.updatePipe channel changePipe).segmentsDone = op.segmentsDone := rfl

end Updates

/-! What no function takes back: the first reset event, a failure, and that
the parts are being merged. -/

structure Sticky (op next : SegmentedDownload count) : Prop where
  result : ∀ code, op.result = some code → next.result = some code
  segFailed : op.segFailed = true → next.segFailed = true
  opState : next.opState = op.opState ∨ next.opState = .concat

namespace Sticky

variable {op next last : SegmentedDownload count}

theorem refl (op : SegmentedDownload count) : Sticky op op :=
  ⟨fun _ result => result, id, .inl rfl⟩

theorem trans (first : Sticky op next) (second : Sticky next last) :
    Sticky op last where
  result := fun code result => second.result code (first.result code result)
  segFailed := fun failed => second.segFailed (first.segFailed failed)
  opState := by
    rcases second.opState with same | concat
    · rw [same]
      exact first.opState
    · exact .inr concat

theorem after (later : Sticky next last) (result : next.result = op.result)
    (segFailed : next.segFailed = op.segFailed)
    (opState : next.opState = op.opState) : Sticky op last where
  result := fun code ended => later.result code (by rw [result, ended])
  segFailed := fun failed => later.segFailed (by rw [segFailed, failed])
  opState := by rw [← opState]; exact later.opState

theorem of_eq (result : next.result = op.result) (segFailed : next.segFailed = op.segFailed)
    (opState : next.opState = op.opState) : Sticky op next :=
  ⟨by simp [result], by simp [segFailed], .inl opState⟩

end Sticky

theorem triggerReset_sticky (op : SegmentedDownload count) (code : ReplyCode) :
    Sticky op (op.triggerReset code) :=
  ⟨fun _ result => by simp [triggerReset, result], id, .inl rfl⟩

theorem fail_sticky (op : SegmentedDownload count) (code : ReplyCode) :
    Sticky op (op.fail code) :=
  ⟨fun _ result => by simp [fail, triggerReset, result], fun _ => rfl, .inl rfl⟩

theorem updateSftp_sticky (op : SegmentedDownload count) (channel : Channel)
    (change : Client (Fin count) → Client (Fin count)) :
    Sticky op (op.updateSftp channel change) := .of_eq rfl rfl rfl

theorem updatePipe_sticky (op : SegmentedDownload count) (channel : Channel)
    (change : SegmentPipeState → SegmentPipeState) :
    Sticky op (op.updatePipe channel change) := .of_eq rfl rfl rfl

variable (env : SegmentEnv)

theorem concatFinalize_sticky
    (op : SegmentedDownload count) : Sticky op (op.concatFinalize env) := by
  unfold concatFinalize
  simp only
  split
  · exact .after (triggerReset_sticky _ _) rfl rfl rfl
  · split
    · exact .after (triggerReset_sticky _ _) rfl rfl rfl
    · exact .of_eq rfl rfl rfl
    · exact .after (triggerReset_sticky _ _) rfl rfl rfl

theorem concatReader_sticky (op : SegmentedDownload count) :
    Sticky op (op.concatReader env).1 := by
  unfold concatReader
  split
  · exact .refl op
  · split
    · split
      · exact triggerReset_sticky _ _
      · exact concatFinalize_sticky env op
    · split
      · exact .of_eq rfl rfl rfl
      · exact triggerReset_sticky _ _

theorem concatPump_sticky (answers : List PumpAnswer)
    (op : SegmentedDownload count) : Sticky op (concatPump env answers op) := by
  induction answers generalizing op with
  | nil =>
    have reader := concatReader_sticky env op
    unfold concatPump
    split
    · split
      · rename_i got
        rwa [got] at reader
      · rename_i got
        rw [got] at reader
        exact reader.trans (.of_eq rfl rfl rfl)
    · exact .refl op
  | cons answer rest ih =>
    have reader := concatReader_sticky env op
    unfold concatPump
    split
    · split
      · rename_i got
        rwa [got] at reader
      · rename_i got
        rw [got] at reader
        apply reader.trans
        simp only
        split
        · exact .of_eq rfl rfl rfl
        · exact triggerReset_sticky _ _
        · split
          · exact .after (ih _) rfl rfl rfl
          · split
            · exact triggerReset_sticky _ _
            · split
              · exact .after (triggerReset_sticky _ _) rfl rfl rfl
              · exact .of_eq rfl rfl rfl
              · exact .after (ih _) rfl rfl rfl
    · exact .refl op

theorem closeHandle_sticky (op : SegmentedDownload count) (index : Fin count) :
    Sticky op (op.closeHandle index) := by
  unfold closeHandle
  split
  · exact .of_eq rfl rfl rfl
  · exact .refl op

theorem foldl_sticky {step : SegmentedDownload count → Fin count →
      SegmentedDownload count}
    (sticky : ∀ op index, Sticky op (step op index)) (indices : List (Fin count))
    (op : SegmentedDownload count) : Sticky op (indices.foldl step op) := by
  induction indices generalizing op with
  | nil => exact .refl op
  | cons index rest ih => exact (sticky op index).trans (ih (step op index))

theorem startConcat_sticky (op : SegmentedDownload count) :
    Sticky op (op.startConcat env) ∧
      (op.startConcat env).opState = .concat := by
  have closed := foldl_sticky closeHandle_sticky (List.finRange count)
    { op with opState := .concat }
  have started : Sticky op { op with opState := .concat } :=
    ⟨fun _ result => result, id, .inr rfl⟩
  have merged : Sticky ({ op with opState := .concat } : SegmentedDownload count)
      (op.startConcat env) := by
    unfold startConcat
    simp only
    split
    · exact closed.trans (.after (concatPump_sticky env env.pump _) rfl rfl rfl)
    · exact closed.trans (triggerReset_sticky _ _)
  refine ⟨started.trans merged, ?_⟩
  rcases merged.opState with same | same <;> exact same

variable (index : Fin count)

theorem getNextSegmentBuffer_sticky (op : SegmentedDownload count) :
    Sticky op (op.getNextSegmentBuffer env index).2 := by
  unfold getNextSegmentBuffer
  split
  · exact fail_sticky _ _
  · simp only
    split
    · exact .after (fail_sticky _ _) rfl rfl rfl
    · exact .of_eq rfl rfl rfl
    · split
      · exact .of_eq rfl rfl rfl
      · exact .of_eq rfl rfl rfl

theorem finishSegment_sticky
    (writer : Writer) (op : SegmentedDownload count) :
    Sticky op (op.finishSegment env index writer) := by
  unfold finishSegment
  simp only
  split
  · exact .after (startConcat_sticky env _).1 rfl rfl rfl
  · exact .of_eq rfl rfl rfl

theorem finalizeSegment_sticky (op : SegmentedDownload count) :
    Sticky op (op.finalizeSegment env index) := by
  unfold finalizeSegment
  simp only
  split
  · exact .after (fail_sticky _ _) rfl rfl rfl
  · split
    · exact .after (fail_sticky _ _) rfl rfl rfl
    · exact .of_eq rfl rfl rfl
    · exact .after (finishSegment_sticky env index _ _) rfl rfl rfl

theorem sendSegmentReads_sticky (conn : Channel)
    (remaining : Nat) (op : SegmentedDownload count) :
    Sticky op (sendSegmentReads env conn remaining op).1 := by
  induction remaining generalizing op with
  | zero => exact .refl op
  | succ remaining ih =>
    unfold sendSegmentReads
    split
    · split
      · exact .refl op
      · exact .after (ih _) rfl rfl rfl
    · exact .refl op

theorem requestSegments_sticky (conn : Channel) (op : SegmentedDownload count) :
    Sticky op (op.requestSegments env conn) := by
  unfold requestSegments
  split
  · exact .refl op
  · have sent : Sticky op (sendSegmentReads env conn 2
        (op.updatePipe conn (measurePipe env))).1 :=
      (updatePipe_sticky op conn (measurePipe env)).trans (sendSegmentReads_sticky env conn 2 _)
    simp only
    split
    · exact sent.trans (updatePipe_sticky _ _ _)
    · exact sent

theorem unstallChannel_sticky (op : SegmentedDownload count)
    (index : Fin count) : Sticky op (op.unstallChannel index) := by
  unfold unstallChannel
  split
  · exact .refl op
  · exact .of_eq rfl rfl rfl

variable {op : SegmentedDownload count}

theorem handled_sticky {index : Fin count} {outcome : AioResult × SegmentedDownload count}
    (got : Sticky op outcome.2) (env : SegmentEnv) (conn : Channel) :
    Sticky op (match outcome with
      | (.wait, op) => (Continuation.wait, op.stallChannel index)
      | (.error, op) => (Continuation.next, op)
      | (.ok, op) => (Continuation.next, op.requestSegments env conn)).2 := by
  obtain ⟨answer, next⟩ := outcome
  cases answer with
  | ok => exact got.trans (requestSegments_sticky env conn next)
  | wait => exact got.trans (.of_eq rfl rfl rfl)
  | error => exact got

theorem onSegmentOpen_sticky
    (handle : String) (op : SegmentedDownload count) :
    Sticky op (op.onSegmentOpen env index handle).2 := by
  unfold onSegmentOpen
  simp only
  split
  · exact .of_eq rfl rfl rfl
  · split
    · exact .after (requestSegments_sticky env _ _) rfl rfl rfl
    · split
      · apply handled_sticky
        exact .after (getNextSegmentBuffer_sticky env _ _) rfl rfl rfl
      · exact .after (fail_sticky _ _) rfl rfl rfl

theorem processSegmentData_sticky
    (data : Bytes) (op : SegmentedDownload count) :
    Sticky op (op.processSegmentData env index data).2 := by
  unfold processSegmentData
  split
  · exact .refl op
  · split
    · exact .refl op
    · split
      · simp only
        split
        · exact .of_eq rfl rfl rfl
        · split
          · exact .after (fail_sticky _ _) rfl rfl rfl
          · split
            · exact .after (finalizeSegment_sticky env _ _) rfl rfl rfl
            · split
              · apply handled_sticky
                exact .after (getNextSegmentBuffer_sticky env _ _) rfl rfl rfl
              · exact .after (requestSegments_sticky env _ _) rfl rfl rfl
      · exact .refl op

theorem processSegmentStatus_sticky
    (code : StatusCode) (op : SegmentedDownload count) :
    Sticky op (op.processSegmentStatus env index code).2 := by
  unfold processSegmentStatus
  split
  · exact fail_sticky _ _
  · split
    · simp only
      split
      · exact .after (finalizeSegment_sticky env _ _) rfl rfl rfl
      · exact .after (fail_sticky _ _) rfl rfl rfl
    · exact fail_sticky _ _

theorem processReply_sticky (reply : Reply) (op : SegmentedDownload count) :
    Sticky op (op.processReply env index reply).2 := by
  cases reply with
  | handle handle =>
    simp only [processReply]
    split
    · exact fail_sticky _ _
    · exact onSegmentOpen_sticky env index handle op
  | data data => exact processSegmentData_sticky env index data op
  | status code => exact processSegmentStatus_sticky env index code op
  | failure => exact fail_sticky _ _

theorem onSegmentWriterAvailability_sticky (op : SegmentedDownload count) :
    Sticky op (op.onSegmentWriterAvailability env index) := by
  have got := getNextSegmentBuffer_sticky env index op
  unfold onSegmentWriterAvailability
  split
  · exact .refl op
  · split
    · exact finalizeSegment_sticky env index op
    · split
      · rename_i outcome
        rw [outcome] at got
        exact (got.trans (unstallChannel_sticky _ _)).trans (requestSegments_sticky env _ _)
      · rename_i outcome
        rwa [outcome] at got

theorem onSegmentPoolAvailability_sticky (op : SegmentedDownload count) :
    Sticky op (op.onSegmentPoolAvailability env index) := by
  unfold onSegmentPoolAvailability
  simp only
  split
  · exact .refl op
  · split
    · split
      · exact .of_eq rfl rfl rfl
      · apply Sticky.trans _ (requestSegments_sticky env _ _)
        exact .after (unstallChannel_sticky _ _) rfl rfl rfl
    · exact .refl op

theorem migrateSegment_sticky (conn : Nat) (op : SegmentedDownload count) :
    Sticky op (op.migrateSegment index conn) := by
  unfold migrateSegment
  simp only
  have closed := closeHandle_sticky
    (op.updateSftp (op.segments index).conn fun sftp => sftp.cancel index) index
  exact ((updateSftp_sticky op _ _).trans closed).trans (.of_eq rfl rfl rfl)

theorem startNextSegmentConnection_sticky (op : SegmentedDownload count) :
    Sticky op op.startNextSegmentConnection := by
  unfold startNextSegmentConnection
  split
  · exact .refl op
  · split
    · exact .of_eq rfl rfl rfl
    · exact .refl op

theorem onSegmentConnectionReady_sticky (conn : Nat) (op : SegmentedDownload count) :
    Sticky op (op.onSegmentConnectionReady conn) := by
  unfold onSegmentConnectionReady
  simp only
  split
  · exact .refl op
  · split
    · split
      · exact (migrateSegment_sticky _ conn op).trans (startNextSegmentConnection_sticky _)
      · exact startNextSegmentConnection_sticky op
    · exact startNextSegmentConnection_sticky op

theorem onSegmentConnectionFailed_sticky (op : SegmentedDownload count) :
    Sticky op op.onSegmentConnectionFailed := by
  unfold onSegmentConnectionFailed
  split
  · exact .refl op
  · exact startNextSegmentConnection_sticky op

theorem onSegmentConnectionDropped_sticky (op : SegmentedDownload count) :
    Sticky op op.onSegmentConnectionDropped := by
  unfold onSegmentConnectionDropped
  split
  · exact .refl op
  · exact fail_sticky op _

theorem receive_eq_some {next : SegmentedDownload count} {env : SegmentEnv} {channel : Channel}
    {reply : Reply} (taken : op.receive env channel reply = some next) :
    ∃ kind sftp, kind.allows reply = true ∧
      ((op.endpoints channel).sftp.answer = some (⟨none, kind⟩, sftp) ∧
          next = op.updateSftp channel (fun _ => sftp) ∨
        ∃ index, (op.endpoints channel).sftp.answer = some (⟨some index, kind⟩, sftp) ∧
          next = proceed channel (processReply env index reply
            (op.updateSftp channel fun _ => sftp))) := by
  unfold receive at taken
  split at taken
  · cases taken
  · rename_i request sftp answered
    obtain ⟨handler, kind⟩ := request
    split at taken
    · rename_i allowed
      refine ⟨kind, sftp, allowed, ?_⟩
      cases handler with
      | none => exact .inl ⟨answered, (Option.some.inj taken).symm⟩
      | some index =>
        exact .inr ⟨index, answered, (Option.some.inj taken).symm⟩
    · cases taken

theorem step_sticky {next : SegmentedDownload count} {event : Event count}
    (taken : op.step event = some next) : Sticky op next := by
  cases event with
  | reply channel reply env =>
    obtain ⟨kind, sftp, -, ⟨-, rfl⟩ | ⟨index, -, rfl⟩⟩ := receive_eq_some taken
    · exact .of_eq rfl rfl rfl
    · have handled := processReply_sticky env index reply (op.updateSftp channel fun _ => sftp)
      exact ((updateSftp_sticky op _ _).trans handled).trans (updateSftp_sticky _ _ _)
  | writerAvailability index env =>
    obtain ⟨-, rfl⟩ := some_of_guard taken
    exact .after (onSegmentWriterAvailability_sticky env index _) rfl rfl rfl
  | poolAvailability index env =>
    obtain ⟨-, rfl⟩ := some_of_guard taken
    exact .after (onSegmentPoolAvailability_sticky env index _) rfl rfl rfl
  | connectionReady conn =>
    obtain ⟨-, rfl⟩ := some_of_guard taken
    exact .after (onSegmentConnectionReady_sticky conn _) rfl rfl rfl
  | connectionFailed conn =>
    obtain ⟨-, rfl⟩ := some_of_guard taken
    exact .after (onSegmentConnectionFailed_sticky _) rfl rfl rfl
  | connectionDropped conn =>
    obtain ⟨-, rfl⟩ := some_of_guard taken
    exact .after (onSegmentConnectionDropped_sticky _) rfl rfl rfl
  | hostkeyMismatch conn =>
    obtain ⟨-, rfl⟩ := some_of_guard taken
    exact .after (fail_sticky _ _) rfl rfl rfl
  | concatWriterAvailability env =>
    simp only [step, Option.ite_none_right_eq_some] at taken
    obtain ⟨-, taken⟩ := taken
    split at taken
    · cases taken
      exact .of_eq rfl rfl rfl
    · split at taken
      · cases taken
        exact .after (concatFinalize_sticky env _) rfl rfl rfl
      · cases taken
        exact .after (concatPump_sticky env env.pump _) rfl rfl rfl
  | concatReaderAvailability env =>
    simp only [step, Option.ite_none_right_eq_some] at taken
    obtain ⟨-, taken⟩ := taken
    split at taken
    · cases taken
      exact .of_eq rfl rfl rfl
    · cases taken
      exact .after (concatPump_sticky env env.pump _) rfl rfl rfl
  | channelDone =>
    simp only [step, Option.some.injEq] at taken
    subst taken
    exact .after (triggerReset_sticky _ _) rfl rfl rfl

end SegmentedDownload

end FileZilla.Sftp
