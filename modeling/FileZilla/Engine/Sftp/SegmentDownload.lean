import FileZilla.Engine.Sftp.SegmentRun

namespace FileZilla.Sftp

open List

section Opens

variable {count : Nat} {index : Fin count}

theorem Client.requests_flags (indices : List (Fin count)) (sftp : Client (Fin count)) :
    (indices.foldl (fun sftp index => sftp.request (some index) .open)
        sftp).disconnecting = sftp.disconnecting ∧
      (indices.foldl (fun sftp index => sftp.request (some index) .open)
        sftp).waitRead = sftp.waitRead := by
  induction indices generalizing sftp with
  | nil => exact ⟨rfl, rfl⟩
  | cons head rest ih =>
    have later := ih (sftp.request (some head) .open)
    simpa using later

theorem Client.requests_liveFor (indices : List (Fin count)) (sftp : Client (Fin count)) :
    (indices.foldl (fun sftp index => sftp.request (some index) .open) sftp).liveFor index =
      sftp.liveFor index ++
        if sftp.disconnecting then []
        else List.replicate (indices.count index) .open := by
  induction indices generalizing sftp with
  | nil => simp
  | cons head rest ih =>
    rw [foldl_cons, ih, Client.request_disconnecting]
    cases connected : sftp.disconnecting with
    | true => simp [Client.request, connected]
    | false =>
      by_cases mine : index = head
      · subst mine
        rw [Client.liveFor_request connected, count_cons_self, append_assoc]
        rfl
      · rw [Client.liveFor_request_of_ne _ mine, count_cons_of_ne (Ne.symm mine)]

end Opens

namespace SegmentedDownload

variable {count : Nat}

theorem openSegments_eq (indices : List (Fin count)) (op : SegmentedDownload count) :
    indices.foldl openSegment op = op.updateSftp none fun sftp =>
        (indices.filter fun index => !(op.segments index).done).foldl
          (fun sftp index => sftp.request (some index) .open) sftp := by
  induction indices generalizing op with
  | nil => simp [updateSftp]
  | cons index rest ih =>
    rw [foldl_cons, ih]
    by_cases done : (op.segments index).done = true
    · simp [openSegment, done]
    · simp [openSegment, done, updateSftp]

section Start

variable {honest : Prop} {remote : Bytes} {disk : Disk}
  {sftp : Client (Fin count)} {env : StartEnv}

def Resumable (remote : Bytes) (count : Nat) (disk : Disk) : Prop :=
  readSegmentManifest remote.length count disk.manifest = true →
    ∀ index < count, ∀ content, disk.parts index = some content →
      content <+: segmentBytes remote count index

theorem resumedSize_le (total count : Nat) (disk : Disk) (index : Nat) :
    resumedSize total count disk index ≤ segmentLength total count index := by
  unfold resumedSize
  split
  · rename_i valid
    simp only [Bool.and_eq_true, all_eq_true, mem_range, decide_eq_true_eq] at valid
    exact valid.2 index (Nat.lt_succ_self index)
  · exact Nat.zero_le _

theorem partSize_le (resumable : Resumable remote count disk)
    (manifest : readSegmentManifest remote.length count disk.manifest = true)
    {index : Nat} (inside : index < count) :
    disk.partSize index ≤ segmentLength remote.length count index := by
  unfold Disk.partSize
  cases stored : disk.parts index with
  | none => exact Nat.zero_le _
  | some content =>
    have part := resumable manifest index inside content stored
    rw [← segmentBytes_length inside]
    exact part.length_le

theorem resumed_cases (resumable : Resumable remote count disk) :
    (readSegmentManifest remote.length count disk.manifest = true ∧
      resumeValid remote.length count disk = true ∧
      ∀ index < count, resumedSize remote.length count disk index = disk.partSize index) ∨
    (readSegmentManifest remote.length count disk.manifest = false ∧
      ∀ index, resumedSize remote.length count disk index = 0) := by
  cases manifest : readSegmentManifest remote.length count disk.manifest with
  | false =>
    right
    exact ⟨rfl, fun index => by simp [resumedSize, manifest]⟩
  | true =>
    left
    refine ⟨rfl, ?_, fun index inside => ?_⟩
    · simp only [resumeValid, manifest, Bool.true_and, all_eq_true,
        mem_range, decide_eq_true_eq]
      exact fun index inside => partSize_le resumable manifest inside
    · unfold resumedSize
      rw [if_pos]
      simp only [manifest, Bool.true_and, all_eq_true, mem_range, decide_eq_true_eq]
      intro earlier before
      exact partSize_le resumable manifest (by omega)

def prepared (count total : Nat) (disk : Disk) (sftp : Client (Fin count))
    (parts : Nat → Option Bytes) (manifest : Option String) :
    SegmentedDownload count where
  remoteFileSize := total
  segments := fun index => initialSegment total count disk index
  segmentsDone := ((List.finRange count).filter fun (index : Fin count) =>
    (initialSegment total count disk index).done).length
  endpoints := fun channel => if channel = none then { sftp := sftp } else {}
  opState := .segmented
  parts := parts
  manifest := manifest

def opened (count total : Nat) (disk : Disk) (sftp : Client (Fin count))
    (parts : Nat → Option Bytes) (manifest : Option String) :
    SegmentedDownload count :=
  (List.finRange count).foldl openSegment (prepared count total disk sftp parts manifest)

section Opened

variable {total : Nat} {parts : Nat → Option Bytes} {manifest : Option String}

theorem opened_eq : opened count total disk sftp parts manifest =
    (prepared count total disk sftp parts manifest).updateSftp none fun sftp =>
      ((List.finRange count).filter fun (index : Fin count) =>
        !(initialSegment total count disk index).done).foldl
          (fun sftp index => sftp.request (some index) .open) sftp :=
  openSegments_eq _ _

theorem opened_segments (index : Fin count) :
    (opened count total disk sftp parts manifest).segments index =
      initialSegment total count disk index := by
  rw [opened_eq]
  rfl

theorem opened_pipe (channel : Channel) :
    ((opened count total disk sftp parts manifest).endpoints channel).pipe = {} := by
  rw [opened_eq, updateSftp_pipe]
  simp only [prepared]
  split <;> rfl

theorem opened_disconnecting :
    ((opened count total disk sftp parts manifest).endpoints
      none).sftp.disconnecting = sftp.disconnecting := by
  rw [opened_eq, updateSftp_sftp]
  exact (Client.requests_flags _ _).1

theorem opened_liveFor (idle : ∀ index, sftp.liveFor index = []) (index : Fin count) :
    ((opened count total disk sftp parts manifest).endpoints none).sftp.liveFor index =
      if sftp.disconnecting || (initialSegment total count disk index).done then
        []
      else
        [.open] := by
  rw [opened_eq, updateSftp_sftp, Client.requests_liveFor]
  have base : ((prepared count total disk sftp parts manifest).endpoints none).sftp = sftp := rfl
  rw [base, idle, nil_append]
  cases connected : sftp.disconnecting with
  | true => rfl
  | false =>
    cases done : (initialSegment total count disk index).done with
    | true => simp [count_eq_zero_of_not_mem, done]
    | false =>
      have once : ((finRange count).filter fun (index : Fin count) =>
          !(initialSegment total count disk index).done).count index = 1 := by
        apply count_eq_one_of_mem
        · exact (nodup_finRange count).filter _
        · simp [done]
      rw [once]
      rfl

theorem opened_elsewhere {channel : Channel} (away : channel ≠ none) :
    (opened count total disk sftp parts manifest).endpoints channel = {} := by
  rw [opened_eq, updateSftp_endpoints_of_ne _ _ _ away]
  simp [prepared, away]

theorem opened_of_done
    (all : (prepared count total disk sftp parts manifest).segmentsDone = count) :
    opened count total disk sftp parts manifest =
      prepared count total disk sftp parts manifest := by
  have every : ∀ index ∈ finRange count,
      (initialSegment total count disk (index : Fin count)).done = true := by
    rw [← length_filter_eq_length_iff, length_finRange]
    exact all
  have none : (finRange count).filter (fun (index : Fin count) =>
      !(initialSegment total count disk index).done) = [] := by
    rw [filter_eq_nil_iff]
    intro index member
    simp [every index member]
  rw [opened_eq, none]
  simp [updateSftp]

end Opened

theorem opened_consistent (idle : ∀ index, sftp.liveFor index = [])
    {parts : Nat → Option Bytes} {manifest : Option String}
    (unfinished : honest → ∀ (index : Fin count) (content : Bytes),
      openFile (parts index) (resumedSize remote.length count disk index) = some content →
        content = (segmentBytes remote count index).take
          (resumedSize remote.length count disk index))
    (finished : honest → ∀ index : Fin count, segmentLength remote.length count index ≤
        resumedSize remote.length count disk index →
      parts index = some (segmentBytes remote count index)) :
    Consistent honest remote (opened count remote.length disk sftp parts manifest) := by
  have segment := @opened_segments count disk sftp remote.length parts manifest
  have shares : ∀ channel index,
      share (opened count remote.length disk sftp parts manifest) channel index =
        0 := by
    intro channel index
    simp [share, segment, initialSegment]
  have phase : ∀ index : Fin count, SegmentPhase honest (segmentBytes remote count index)
        ((opened count remote.length disk sftp parts manifest).segments index)
        ((opened count remote.length disk sftp parts manifest).parts index)
        (((opened count remote.length disk sftp parts manifest).endpoints
          ((opened count remote.length disk sftp parts manifest).segments
            index).conn).sftp.liveFor index)
        ((opened count remote.length disk sftp parts manifest).endpoints
          ((opened count remote.length disk sftp parts manifest).segments
            index).conn).sftp.disconnecting := by
    intro index
    have stored :
        (opened count remote.length disk sftp parts manifest).parts = parts := by
      rw [opened_eq]
      rfl
    have primary : (initialSegment remote.length count disk index).conn = none :=
      rfl
    rw [segment, stored, primary, opened_liveFor idle, opened_disconnecting]
    by_cases done : segmentLength remote.length count index ≤
        resumedSize remote.length count disk index
    · have completed : (initialSegment remote.length count disk index).done = true := by
        simp [initialSegment, done]
      rw [completed, Bool.or_true, if_pos rfl]
      exact .finished ⟨completed, rfl, rfl, fun trust => finished trust index done⟩ rfl
    · have going : (initialSegment remote.length count disk index).done = false := by
        simp [initialSegment, done]
      rw [going, Bool.or_false]
      refine .unopened ⟨rfl, rfl, rfl, rfl, going, rfl, rfl, rfl,
        Nat.lt_of_not_le done, fun trust content found =>
          unfinished trust index content found⟩ fun connected => ?_
      rw [connected]
      exact .opening rfl rfl rfl rfl
  have frame : ∀ index, Frame honest remote index
      (opened count remote.length disk sftp parts manifest) := by
    intro index
    refine {
      segmented := by rw [opened_eq]; rfl
      running := by rw [opened_eq]; rfl
      unfinished := by rw [opened_eq]; simp [prepared]
      size := by rw [opened_eq]; rfl
      concat := by rw [opened_eq]; rfl
      offset := fun other => by rw [segment]; rfl
      length := fun other => by rw [segment]; rfl
      others := fun other _ => phase other
      elsewhere := ?_
      pipes := ?_
      finished := ?_ }
    · intro other channel away
      rw [segment] at away
      rw [opened_elsewhere away]
      rfl
    · intro channel _
      rw [opened_pipe]
      simp [shares]
    · have counted : (opened count remote.length disk sftp parts
          manifest).segmentsDone = ((finRange count).filter fun (index : Fin count) =>
            (initialSegment remote.length count disk index).done).length := by
        rw [opened_eq]
        rfl
      rw [counted, ← toFinset_card_of_nodup
        ((nodup_finRange count).filter _), toFinset_filter, toFinset_finRange]
      simp only [segment]
  exact ⟨frame, phase⟩

def keptParts (total count : Nat) (disk : Disk) : Nat → Option Bytes :=
  if resumeValid total count disk then
    disk.parts
  else
    fun index => if index < maxSegmentCount then none else disk.parts index

theorem startSegmented_cases (count total : Nat) (disk : Disk)
    (sftp : Client (Fin count)) (env : StartEnv) :
    (Failed (startSegmented count total disk sftp env) ∧
      (startSegmented count total disk sftp env).opState = .transfer) ∨
    ∃ manifest, startSegmented count total disk sftp env =
      if (prepared count total disk sftp (keptParts total count disk)
          manifest).segmentsDone = count then
        (prepared count total disk sftp (keptParts total count disk)
          manifest).startConcat env.toSegmentEnv
      else
        (opened count total disk sftp (keptParts total count disk)
          manifest).startNextSegmentConnection := by
  unfold startSegmented
  simp only
  split
  · exact .inl ⟨⟨.error, by decide, rfl⟩, rfl⟩
  · split
    · refine .inl ⟨⟨.writeFailed, by decide, ?_⟩, ?_⟩
      · split <;> rfl
      · split <;> rfl
    · right
      cases valid : resumeValid total count disk with
      | true => exact ⟨disk.manifest, by simp only [keptParts, valid]; rfl⟩
      | false =>
        exact ⟨some (writeSegmentManifest total count), by
          simp only [keptParts, valid]; rfl⟩

theorem keptParts_unfinished (resumable : Resumable remote count disk)
    (index : Fin count) {content : Bytes}
    (found : openFile (keptParts remote.length count disk index)
      (resumedSize remote.length count disk index) = some content) :
    content = (segmentBytes remote count index).take
      (resumedSize remote.length count disk index) := by
  rcases resumed_cases resumable with ⟨manifest, valid, sizes⟩ | ⟨-, sizes⟩
  · rw [sizes index index.isLt] at found ⊢
    rw [keptParts, if_pos valid] at found
    cases stored : disk.parts index with
    | none =>
      have size : disk.partSize index = 0 := by simp [Disk.partSize, stored]
      rw [size, openFile, if_pos rfl] at found
      rw [size, take_zero]
      exact (Option.some.inj found).symm
    | some part =>
      have prefix' := resumable manifest index index.isLt part stored
      have size : disk.partSize index = part.length := by
        simp [Disk.partSize, stored]
      rw [size, ← prefix_iff_eq_take.mp prefix']
      rw [size, stored, openFile] at found
      split at found
      · rename_i empty
        rw [length_eq_zero_iff.mp empty]
        exact (Option.some.inj found).symm
      · simpa using found.symm
  · rw [sizes, openFile, if_pos rfl] at found
    rw [sizes, take_zero]
    exact (Option.some.inj found).symm

theorem keptParts_finished (resumable : Resumable remote count disk) (index : Fin count)
    (filled : 0 < segmentLength remote.length count index)
    (done : segmentLength remote.length count index ≤
      resumedSize remote.length count disk index) :
    keptParts remote.length count disk index = some (segmentBytes remote count index) := by
  rcases resumed_cases resumable with ⟨manifest, valid, sizes⟩ | ⟨-, sizes⟩
  · rw [sizes index index.isLt] at done
    rw [keptParts, if_pos valid]
    cases stored : disk.parts index with
    | none =>
      simp only [Disk.partSize, stored] at done
      omega
    | some part =>
      have prefix' := resumable manifest index index.isLt part stored
      simp only [Disk.partSize, stored] at done
      have whole := @segmentBytes_length count index remote index.isLt
      rw [prefix'.eq_of_length_le (by omega)]
  · rw [sizes] at done
    omega

theorem startSegmented_phase (positive : 0 < count) (idle : ∀ index, sftp.liveFor index = [])
    (resumable : honest → Resumable remote count disk)
    (filled : honest → ∀ index, 0 < segmentLength remote.length count index) :
    Phase honest remote (startSegmented count remote.length disk sftp env) := by
  have consistent := fun manifest =>
    @opened_consistent count honest remote disk sftp idle
      (keptParts remote.length count disk) manifest (fun trust index content found =>
        keptParts_unfinished (resumable trust) index found)
      (fun trust index done =>
        keptParts_finished (resumable trust) index (filled trust index) done)
  rcases startSegmented_cases count remote.length disk sftp env with
    ⟨failed, transfer⟩ | ⟨manifest, started⟩
  · exact .failed failed fun segmented => by simp [transfer] at segmented
  · rw [started]
    split
    · rename_i all
      have still := consistent manifest
      rw [opened_of_done all] at still
      exact startConcat_phase positive still all env.toSegmentEnv
    · exact startNextSegmentConnection_phase positive (.segmented (consistent manifest))

end Start

section Runs

variable {remote : Bytes} {disk : Disk} {sftp : Client (Fin count)}
  {env : StartEnv} {trace : List (SegmentedDownload count × Event count)}
  {op : SegmentedDownload count}

theorem run_phase {honest : Prop} (positive : 0 < count) (idle : ∀ index, sftp.liveFor index = [])
    (resumable : honest → Resumable remote count disk)
    (filled : honest → ∀ index, 0 < segmentLength remote.length count index)
    (run : Run step (startSegmented count remote.length disk sftp env) trace op)
    (honestly : honest → ∀ taken ∈ trace, carries remote taken.1 taken.2 = true) :
    Phase honest remote op := by
  refine run.invariant_of_forall (startSegmented_phase positive idle resumable filled)
    (fun state event next phase allowed taken =>
      step_phase positive phase allowed taken) ?_
  exact fun taken member trust => honestly trust taken member

/-- A segmented download that reports success has merged the remote file. No
segment is empty, as `le_of_segmentCount` says of the counts in use. -/
theorem segmented_intact (several : 1 < count) (filled : count ≤ remote.length)
    (idle : ∀ index, sftp.liveFor index = []) (resumable : Resumable remote count disk)
    (run : Run step (startSegmented count remote.length disk sftp env) trace op)
    (honestly : ∀ taken ∈ trace, carries remote taken.1 taken.2 = true)
    (ok : op.result = some .ok) : op.merged = some remote := by
  have positive : 0 < count := Nat.lt_of_succ_lt several
  have phase : Phase True remote op := run_phase positive idle
    (fun _ => resumable) (fun _ => segmentLength_pos positive filled) run fun _ => honestly
  cases phase with
  | segmented consistent =>
    exact absurd ok (consistent.frame ⟨0, positive⟩).unfinished
  | merging concat quiet progress =>
    cases progress trivial with
    | joining joining => exact absurd ok joining.unfinished
    | joined joined => exact joined.merged
    | failed failed =>
      obtain ⟨code, bad, ended⟩ := failed
      exact absurd (Option.some.inj (ended.symm.trans ok)) bad
  | failed failed segFailed =>
    obtain ⟨code, bad, ended⟩ := failed
    exact absurd (Option.some.inj (ended.symm.trans ok)) bad

end Runs

/-- Three bytes in two segments, the second of which moves to a connection of
its own. -/
theorem segmented_intact_three_bytes :
    ∃ trace op, Run step (startSegmented 2 3 {} {} {}) trace op ∧
      op.result = some .ok ∧ op.merged = some [10, 20, 30] := by
  let events : List (Event 2) := [.reply none (.handle "a") {},
    .reply none (.handle "b") {}, .connectionReady 0,
    .reply (some 0) (.handle "c") {}, .reply none (.data [10, 20]) {},
    .reply (some 0) (.data [30]) { pump := [{ chunk := 1 }, {}, {}, {}] }]
  obtain ⟨trace, op, run, checked⟩ := @exists_run_of_execute _ _ step
    (startSegmented 2 3 {} {} {}) events (fun trace op => op.result == some .ok &&
      trace.all fun taken => carries [10, 20, 30] taken.1 taken.2)
    (by decide +kernel)
  simp only [Bool.and_eq_true, beq_iff_eq, all_eq_true] at checked
  exact ⟨trace, op, run, checked.1, segmented_intact (by decide) (by decide)
    (by decide) (fun manifest => by cases manifest) run checked.2 checked.1⟩

/-- The reads of a segment its channel still has to answer. -/
def reads (op : SegmentedDownload count) (index : Fin count) :
    List (Nat × Nat) :=
  ((op.endpoints (op.segments index).conn).sftp.liveFor index).filterMap fun
      | .read offset size => some (offset, size)
      | _ => none

structure SegmentAccounted (op : SegmentedDownload count) (index : Fin count) :
    Prop where
  total : (op.segments index).offset + (op.segments index).received +
    (op.segments index).outstanding.sum = (op.segments index).requestOffset
  within : (op.segments index).requestOffset ≤
    (op.segments index).offset + (op.segments index).length
  outstanding : (op.segments index).outstanding = (op.reads index).map Prod.snd
  tiles : Tiles ((op.segments index).offset + (op.segments index).received)
    (op.reads index) (op.segments index).requestOffset

def PipeAccounted (op : SegmentedDownload count) (channel : Channel) : Prop :=
  (op.endpoints channel).pipe.requestedOffset =
    (op.endpoints channel).pipe.responseOffset + ∑ index, share op channel index

theorem reads_of_readKinds (ranges : List (Nat × Nat)) :
    (readKinds ranges).filterMap (fun
      | RequestKind.read offset size => some (offset, size)
      | _ => none) = ranges := by
  induction ranges with
  | nil => rfl
  | cons range rest ih => simpa [readKinds] using ih

theorem Requested.accounted {op : SegmentedDownload count} {index : Fin count}
    (incomplete : (op.segments index).received < (op.segments index).length)
    (requested : Requested (op.segments index)
      ((op.endpoints (op.segments index).conn).sftp.liveFor index)) :
    SegmentAccounted op index := by
  cases requested with
  | opening handle outstanding requestOffset opening =>
    have none : op.reads index = [] := by
      rw [reads, opening]
      rfl
    refine ⟨?_, ?_, ?_, ?_⟩
    · rw [outstanding, requestOffset]
      rfl
    · rw [requestOffset]
      omega
    · rw [none, outstanding]
      rfl
    · rw [none, requestOffset]
      exact tiles_nil.mpr rfl
  | reading handle ranges live outstanding positive tiles within =>
    have same : op.reads index = ranges := by
      rw [reads, live]
      exact reads_of_readKinds ranges
    refine ⟨?_, within, by rw [same, outstanding], by rw [same]; exact tiles⟩
    rw [outstanding]
    exact tiles.sum_eq

theorem SegmentPhase.accounted {honest : Prop} {bytes : Bytes}
    {op : SegmentedDownload count} {index : Fin count}
    (phase : SegmentPhase honest bytes (op.segments index) (op.parts index)
      ((op.endpoints (op.segments index).conn).sftp.liveFor index)
      (op.endpoints (op.segments index).conn).sftp.disconnecting)
    (going : (op.segments index).done = false)
    (connected :
      (op.endpoints (op.segments index).conn).sftp.disconnecting = false) :
    SegmentAccounted op index := by
  cases phase with
  | unopened phase requested =>
    exact (requested connected).accounted phase.incomplete
  | transferring phase awaits requested =>
    exact (requested connected).accounted phase.incomplete
  | flushing phase writerEvent live =>
    have none : op.reads index = [] := by
      rw [reads, live]
      rfl
    refine ⟨?_, ?_, ?_, ?_⟩
    · rw [phase.outstanding, phase.requestOffset, phase.complete]
      rfl
    · rw [phase.requestOffset]
    · rw [none, phase.outstanding]
      rfl
    · rw [none, phase.requestOffset, phase.complete]
      exact tiles_nil.mpr rfl
  | finished phase live => simp [phase.done] at going

/-- The accounts are right for every channel that was not stopped. -/
theorem segments_accounted {total : Nat} {disk : Disk}
    {sftp : Client (Fin count)} {env : StartEnv}
    {trace : List (SegmentedDownload count × Event count)}
    {op : SegmentedDownload count} (positive : 0 < count)
    (idle : ∀ index, sftp.liveFor index = [])
    (run : Run step (startSegmented count total disk sftp env) trace op)
    (segmented : op.opState = .segmented) (running : op.segFailed = false) :
    (∀ index, (op.segments index).done = false →
      (op.endpoints (op.segments index).conn).sftp.disconnecting = false →
        SegmentAccounted op index) ∧
    ∀ channel, (op.endpoints channel).sftp.disconnecting = false →
      PipeAccounted op channel := by
  have size : (replicate total (0 : UInt8)).length = total := length_replicate
  rw [← size] at run
  have phase : Phase False (replicate total 0) op :=
    run_phase positive idle (fun trust => trust.elim) (fun trust => trust.elim)
      run fun trust => trust.elim
  cases phase with
  | segmented consistent =>
    refine ⟨fun index going connected => ?_, fun channel connected => ?_⟩
    · exact (consistent.phase index).accounted going connected
    · exact (consistent.frame ⟨0, positive⟩).pipes channel connected
  | merging concat quiet progress => simp [segmented] at concat
  | failed failed segFailed =>
    exact absurd (segFailed segmented) (by simp [running])

theorem segments_accounted_two_bytes :
    ∃ trace op, Run step (startSegmented 2 3 {} {} {}) trace op ∧
      SegmentAccounted op 0 ∧ PipeAccounted op none := by
  let events : List (Event 2) := [.reply none (.handle "a") {},
    .reply none (.handle "b") {}, .connectionReady 0]
  obtain ⟨trace, op, run, checked⟩ := @exists_run_of_execute _ _ step
    (startSegmented 2 3 {} {} {}) events
    (fun _ op => decide (op.opState = .segmented ∧ op.segFailed = false ∧
      (op.segments 0).done = false ∧
      (op.endpoints (op.segments 0).conn).sftp.disconnecting = false ∧
      (op.endpoints none).sftp.disconnecting = false))
    (by decide +kernel)
  obtain ⟨segmented, running, going, mine, primary⟩ := of_decide_eq_true checked
  have accounted := segments_accounted (by decide) (by decide) run segmented running
  exact ⟨trace, op, run, accounted.1 0 going mine, accounted.2 none primary⟩

/-- A block that is larger than what was asked for stops its channel, but not
before the request was taken off the books. -/
theorem not_segments_accounted :
    ¬ ∀ (trace : List (SegmentedDownload 2 × Event 2)) (op : SegmentedDownload 2),
      Run step (startSegmented 2 3 {} {} {}) trace op →
      op.opState = .segmented → op.segFailed = false →
      (∀ index, (op.segments index).done = false → SegmentAccounted op index) ∧
        ∀ channel, PipeAccounted op channel := by
  intro always
  let events : List (Event 2) := [.reply none (.handle "a") {},
    .reply none (.handle "b") {}, .reply none (.data [1, 2, 3]) {}]
  obtain ⟨trace, op, run, checked⟩ := @exists_run_of_execute _ _ step
    (startSegmented 2 3 {} {} {}) events
    (fun _ op => decide (op.opState = .segmented ∧ op.segFailed = false ∧
      (op.segments 0).done = false ∧
      (op.segments 0).offset + (op.segments 0).received +
        (op.segments 0).outstanding.sum ≠ (op.segments 0).requestOffset))
    (by decide +kernel)
  obtain ⟨segmented, running, going, wrong⟩ := of_decide_eq_true checked
  exact wrong ((always trace op run segmented running).1 0 going).total

end SegmentedDownload

end FileZilla.Sftp
