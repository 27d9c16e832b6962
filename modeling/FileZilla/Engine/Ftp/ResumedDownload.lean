import FileZilla.Engine.Ftp.FileTransfer

namespace FileZilla

namespace FtpTransfer

open Ftp (Capability FtpCommand TransferEndReason)

variable {Time : Type}

theorem toNat_eq_toInt {size : Int64} (known : 0 ≤ size) :
    (size.toUInt64.toNat : Int) = size.toInt := by
  rw [Int64.toNat_toUInt64_of_le known]
  exact Int.toNat_of_nonneg (Int64.le_iff_toInt_le.mp known)

def SameSize (localSize : UInt64) (remoteSize : Int64) : Prop :=
  localSize ≠ nosize ∧ (localSize.toNat : Int) = remoteSize.toInt

theorem sameSize_iff {localSize : UInt64} {remoteSize : Int64}
    (same : remoteSize.toUInt64 = localSize) : SameSize localSize remoteSize ↔ 0 ≤ remoteSize := by
  subst same
  constructor
  · intro known
    rw [Int64.le_iff_toInt_le, ← known.2]
    exact Int.natCast_nonneg _
  · intro known
    refine ⟨fun missing => ?_, toNat_eq_toInt known⟩
    have unknown : remoteSize = -1 := by
      rw [← Int64.toInt64_toUInt64 remoteSize, missing]
      decide
    subst unknown
    cases known

namespace CFtpFileTransferOpData

variable {limit : UInt64} {capability : Capability} {localSize : UInt64} {remoteSize : Int64}

open Reply

theorem resumeDecision_ok_iff :
    resumeDecision limit capability localSize remoteSize = .ends .ok ↔
      limit ≤ localSize ∧ remoteSize.toUInt64 = localSize ∧ capability ≠ .no := by
  unfold resumeDecision
  split
  case isFalse small => simp [small]
  case isTrue large =>
    cases capability with
    | yes =>
      by_cases same : remoteSize.toUInt64 = localSize
      · simp [large, same]
      · simp [same, criticalError, error, ok]
    | no => simp
    | unknown =>
      by_cases same : remoteSize.toUInt64 = localSize
      · simp [large, same]
      · by_cases less : remoteSize.toUInt64 < localSize
        · simp [same, less]
        · simp [same, less]

theorem resumeDecision_passes (same : remoteSize.toUInt64 = localSize) :
    resumeDecision limit capability localSize remoteSize = .passes ↔
      ¬ (limit ≤ localSize ∧ capability ≠ .no) := by
  unfold resumeDecision
  split
  case isFalse small => simp [small]
  case isTrue large => cases capability <;> simp [large, same]

/-- A capability that is not known to be absent keeps a file of this size from being resumed. -/
def Blocks (capabilities : TransferCapabilities) (localSize : UInt64) : Prop :=
  (4294967296 ≤ localSize ∧ capabilities.resume4GBbug ≠ .no) ∨
    (2147483648 ≤ localSize ∧ capabilities.resume2GBbug ≠ .no)

variable {env : FileTransferEnv Time} {capabilities : TransferCapabilities}
  {self : CFtpFileTransferOpData Time}

theorem resumeRounds_ok_iff :
    self.resumeRounds capabilities = .ends .ok ↔
      self.remoteFileSize.toUInt64 = self.localFileSize ∧
        Blocks capabilities self.localFileSize := by
  by_cases same : self.remoteFileSize.toUInt64 = self.localFileSize
  · by_cases first : 4294967296 ≤ self.localFileSize ∧ capabilities.resume4GBbug ≠ .no
    · have decided := resumeDecision_ok_iff.mpr ⟨first.1, same, first.2⟩
      simp [resumeRounds, decided, same, Blocks, first]
    · have passes := (resumeDecision_passes same).mpr first
      rw [resumeRounds, passes]
      simp only [resumeDecision_ok_iff, same, true_and, Blocks, first, false_or]
  · simp only [same, false_and, iff_false, resumeRounds]
    intro ends
    split at ends
    · exact same (resumeDecision_ok_iff.mp ends).2.1
    · exact same (resumeDecision_ok_iff.mp ends).2.1

structure Continues (op : CFtpFileTransferOpData Time) (handled : Handled Time) : Prop where
  reply : handled.reply ≠ .ok
  download : handled.op.download = op.download
  opState : handled.op.opState ≠ .mfmt

theorem startDownload_continues (state : self.opState ≠ .mfmt) :
    Continues self (self.startDownload env capabilities) := by
  unfold startDownload
  dsimp only
  split
  · exact ⟨by simp [criticalError, error, ok], rfl, state⟩
  · split
    · exact ⟨by simp [error, ok], rfl, state⟩
    · exact ⟨by simp [startTransfer, continued, ok], rfl, by simp [startTransfer]⟩

theorem sendCommand_continues {command : FtpCommand} (state : self.opState ≠ .mfmt) :
    Continues self (self.sendCommand env capabilities command) := by
  refine ⟨?_, rfl, state⟩
  simp only [sendCommand]
  split <;> simp [wouldBlock, error, ok]

/-- The capability test, in the state that `Send` calls it in -/
theorem testResumeCapability_ok_iff (download : self.download = true) :
    (self.testResumeCapability capabilities).reply = .ok ↔
      self.remoteFileSize.toUInt64 = self.localFileSize ∧
        Blocks capabilities self.localFileSize := by
  rw [← resumeRounds_ok_iff]
  simp only [testResumeCapability, download, Bool.not_true, Bool.false_eq_true, if_false]
  cases self.resumeRounds capabilities with
  | passes => simp [continued, ok]
  | ends code => simp
  | tests => simp [startTransfer, continued, ok]

theorem testResumeCapability_op (state : self.opState ≠ .mfmt) :
    (self.testResumeCapability capabilities).op.download = self.download ∧
      (self.testResumeCapability capabilities).op.opState ≠ .mfmt := by
  unfold testResumeCapability
  split
  · exact ⟨rfl, state⟩
  · split
    · exact ⟨rfl, state⟩
    · exact ⟨rfl, state⟩
    · exact ⟨rfl, by simp [startTransfer]⟩

/-- A resumed download ends without a transfer. -/
def EndsUnsent (capabilities : TransferCapabilities) (env : FileTransferEnv Time)
    (op : CFtpFileTransferOpData Time) : Prop :=
  op.opState = .resumetest ∧ op.resume = true ∧ op.remoteFileSize.toUInt64 = env.localSize ∧
    Blocks capabilities env.localSize

theorem asked_localFileSize (resume : self.resume = true) :
    (self.asked env).localFileSize = env.localSize := by
  simp [asked, resume]

theorem endsUnsent_iff (tests : self.resume = true ∧ self.opState = .resumetest)
    (download : self.download = true) :
    ((self.asked env).testResumeCapability capabilities).reply = .ok ↔
      EndsUnsent capabilities env self := by
  have asks : (self.asked env).download = true := download
  rw [testResumeCapability_ok_iff asks, asked_localFileSize tests.1]
  exact ⟨fun same => ⟨tests.2, tests.1, same⟩, fun ends => ends.2.2⟩

theorem sendDownload_cases (download : self.download = true) (state : self.opState ≠ .mfmt) :
    ((self.sendDownload env capabilities).reply = .ok ↔ EndsUnsent capabilities env self) ∧
      (self.sendDownload env capabilities).op.download = true ∧
      (self.sendDownload env capabilities).op.opState ≠ .mfmt := by
  have continues {op : CFtpFileTransferOpData Time} (same : op.download = true)
      (other : op.opState ≠ .mfmt) (sends : ¬ EndsUnsent capabilities env self)
      (known : TransferCapabilities) :
      ((op.startDownload env known).reply = .ok ↔ EndsUnsent capabilities env self) ∧
        (op.startDownload env known).op.download = true ∧
        (op.startDownload env known).op.opState ≠ .mfmt := by
    have continues := @startDownload_continues _ env known op other
    exact ⟨⟨fun ok => absurd ok continues.reply, fun ends => absurd ends sends⟩,
      continues.download.trans same, continues.opState⟩
  have asks : (self.asked env).download = true := download
  have kept : (self.asked env).opState ≠ .mfmt := state
  unfold sendDownload
  dsimp only
  split
  case isFalse starts =>
    exact continues asks kept (fun ends => starts ⟨ends.2.1, ends.1⟩) capabilities
  case isTrue tests =>
    have ok := @endsUnsent_iff _ env capabilities self tests download
    obtain ⟨same, other⟩ := @testResumeCapability_op _ capabilities _ kept
    split
    case isTrue ends => exact ⟨ok, same.trans download, other⟩
    case isFalse passes =>
      rw [not_or, not_not] at passes
      apply continues (same.trans download) other
      intro ends
      exact absurd (passes.1.symm.trans (ok.mpr ends)) (by simp [Reply.continued, Reply.ok])

theorem checkOverwrite_continues (state : self.opState ≠ .mfmt) :
    Continues self (self.checkOverwrite env capabilities) := by
  have reply : (self.checkOverwriteFile env capabilities).reply = .ok ∨
      (self.checkOverwriteFile env capabilities).reply = .wouldBlock := by
    unfold checkOverwriteFile
    dsimp only
    split
    · exact .inl rfl
    · split
      · exact .inl rfl
      · exact .inr rfl
  have op : (self.checkOverwriteFile env capabilities).op.download = self.download ∧
      (self.checkOverwriteFile env capabilities).op.opState = self.opState := by
    unfold checkOverwriteFile
    dsimp only
    repeat' split
    all_goals exact ⟨rfl, rfl⟩
  unfold checkOverwrite
  dsimp only
  split
  case isTrue ok =>
    exact ⟨by simp [Reply.continued, Reply.ok], op.1, fun same => state (op.2.symm.trans same)⟩
  case isFalse blocks =>
    exact ⟨blocks, op.1, fun same => state (op.2.symm.trans same)⟩

theorem Continues.of_continued {op : CFtpFileTransferOpData Time}
    {pushed : Option FileTransferSub} (download : op.download = self.download)
    (state : op.opState ≠ .mfmt) :
    Continues self { reply := .continued, op, capabilities, pushed } :=
  ⟨by simp [continued, ok], download, state⟩

open Continues

theorem toMdtmOrResumetest_continues {wants : Bool} :
    Continues self (self.toMdtmOrResumetest env capabilities wants) := by
  unfold toMdtmOrResumetest
  split
  · exact of_continued rfl (by simp)
  · have continues := @checkOverwrite_continues _ env capabilities
      { self with opState := .resumetest } (by simp)
    exact ⟨continues.reply, continues.download, continues.opState⟩

theorem useEntry_continues {entry : CDirentry Time} :
    Continues self (self.useEntry env capabilities entry) := by
  have continues := @toMdtmOrResumetest_continues _ env capabilities
    { self with
      remoteFileSize := Int64.ofInt entry.size
      remoteFileTime := entry.time.or self.remoteFileTime }
    (!(entry.time.any env.hasTime) && self.wantsTime env capabilities)
  exact ⟨continues.reply, continues.download, continues.opState⟩

theorem parseResponse_continues {code : Nat} {response : WString} (state : self.opState ≠ .mfmt) :
    Continues self (self.parseResponse env capabilities code response) := by
  have asks (op : CFtpFileTransferOpData Time) (same : op.download = self.download)
      (tests : op.opState = .resumetest) : Continues self (op.checkOverwrite env capabilities) := by
    have other : op.opState ≠ .mfmt := by simp [tests]
    have continues := @checkOverwrite_continues _ env capabilities op other
    exact ⟨continues.reply, continues.download.trans same, continues.opState⟩
  unfold parseResponse
  split
  case h_1 =>
    split
    · split
      · exact asks _ rfl rfl
      · exact of_continued rfl (by simp)
    · dsimp only
      split
      · exact of_continued rfl (by simp)
      · exact of_continued rfl (by simp)
  case h_2 =>
    dsimp only
    split
    · exact asks _ rfl rfl
    · exact asks _ rfl rfl
  case h_3 same => exact absurd same state
  case h_4 => exact ⟨by simp [internalError, error, ok], rfl, state⟩

variable {prevResult : Reply}

theorem onWaitcwd_continues :
    Continues self (self.onWaitcwd env capabilities prevResult) := by
  have next (wants : Bool) := @toMdtmOrResumetest_continues _ env capabilities
    { self with remotePath := env.currentPath } wants
  have uses (entry : CDirentry Time) := @useEntry_continues _ env capabilities
    { self with remotePath := env.currentPath } entry
  unfold onWaitcwd
  split
  · dsimp only
    split
    · split
      · exact of_continued rfl (by simp)
      · exact ⟨(next _).reply, (next _).download, (next _).opState⟩
    · split
      · exact of_continued rfl (by simp)
      · split
        · exact ⟨(uses _).reply, (uses _).download, (uses _).opState⟩
        · exact of_continued rfl (by simp)
  · exact of_continued rfl (by simp)

theorem onWaitlist_continues :
    Continues self (self.onWaitlist env capabilities prevResult) := by
  unfold onWaitlist
  dsimp only
  split
  · split
    · split
      · exact of_continued rfl (by simp)
      · exact toMdtmOrResumetest_continues
    · split
      · exact useEntry_continues
      · exact of_continued rfl (by simp)
  · exact of_continued rfl (by simp)

theorem or_criticalError_ne_ok (code : Reply) : code ||| criticalError ≠ ok := by
  intro ok
  have bits := (Nat.or_eq_zero_iff.mp ok).2
  cases bits

theorem onWaitresumetest_continues (state : self.opState ≠ .mfmt) :
    Continues self (self.onWaitresumetest capabilities prevResult) := by
  unfold onWaitresumetest
  split
  case isTrue failed =>
    split
    · exact ⟨or_criticalError_ne_ok prevResult, rfl, state⟩
    · exact ⟨failed, rfl, state⟩
  case isFalse => exact of_continued rfl (by simp)

theorem subcommandResult_continues (state : self.opState ≠ .mfmt)
    (waits : self.opState ≠ .waittransfer) :
    Continues self (self.subcommandResult env capabilities prevResult) := by
  unfold subcommandResult
  split
  case h_1 => exact onWaitcwd_continues
  case h_2 => exact onWaitlist_continues
  case h_3 same => exact absurd same waits
  case h_4 => exact onWaitresumetest_continues state
  case h_5 => exact of_continued rfl state

theorem send_continues (state : self.opState ≠ .mfmt)
    (transfers : self.opState ≠ .resumetest) (sends : self.opState ≠ .transfer) :
    Continues self (self.send env capabilities) := by
  unfold send
  split
  · exact of_continued rfl (by simp)
  · exact sendCommand_continues state
  · exact sendCommand_continues state
  · contradiction
  · contradiction
  · contradiction
  · exact ⟨by simp [error, ok], rfl, state⟩

theorem send_cases (download : self.download = true) (state : self.opState ≠ .mfmt) :
    ((self.send env capabilities).reply = .ok ↔ EndsUnsent capabilities env self) ∧
      (self.send env capabilities).op.download = true ∧
      (self.send env capabilities).op.opState ≠ .mfmt := by
  by_cases transfers : self.opState = .resumetest ∨ self.opState = .transfer
  · have same : self.send env capabilities = self.sendDownload env capabilities := by
      rcases transfers with tests | sends
      · simp [send, tests, download]
      · simp [send, sends, download]
    rw [same]
    exact sendDownload_cases download state
  · rw [not_or] at transfers
    have continues := @send_continues _ env capabilities self state transfers.1 transfers.2
    exact ⟨⟨fun ok => absurd ok continues.reply, fun ends => absurd ends.1 transfers.1⟩,
      continues.download.trans download, continues.opState⟩

theorem setFileExistsAction_op {action : FileExistsAction} (download : self.download = true)
    (state : self.opState ≠ .mfmt) :
    (self.setFileExistsAction env capabilities action).op.download = true ∧
      (self.setFileExistsAction env capabilities action).op.opState ≠ .mfmt := by
  cases action with
  | overwrite | skip => exact ⟨download, state⟩
  | overwriteNewer =>
    simp only [setFileExistsAction]
    split
    · split <;> exact ⟨download, state⟩
    · exact ⟨download, state⟩
  | overwriteSize =>
    simp only [setFileExistsAction]
    split <;> exact ⟨download, state⟩
  | overwriteSizeOrNewer =>
    simp only [setFileExistsAction]
    split
    · split <;> exact ⟨download, state⟩
    · exact ⟨download, state⟩
  | resume =>
    simp only [setFileExistsAction]
    split
    · exact ⟨download, state⟩
    · split <;> exact ⟨download, state⟩
  | rename newName newWriter =>
    simp only [setFileExistsAction, renameTo, download, if_true]
    split
    · exact ⟨download, state⟩
    · have continues := @checkOverwrite_continues _ env capabilities self state
      exact ⟨continues.download.trans download, continues.opState⟩

end CFtpFileTransferOpData

namespace FileTransfer

open CFtpFileTransferOpData

variable {self next : FileTransfer Time} {event : FileTransferEvent Time} {handled : Handled Time}

structure Downloading (transfer : FileTransfer Time) : Prop where
  download : transfer.op.download = true
  opState : transfer.op.opState ≠ .mfmt

/-- The operation itself, not the user, ends a download without having transferred the file. -/
structure EndsWell (transfer : FileTransfer Time) (event : FileTransferEvent Time)
    (handled : Handled Time) : Prop where
  called : transfer.call event = some handled
  ok : handled.reply = .ok
  untransferred : transfer.op.opState ≠ .waittransfer
  unasked : ∀ action env, event ≠ .fileExists action env

/-- If the operation ends a download well, then the file is there and has the size that the
remote file is known to have. -/
def CompletesRightly (transfer : FileTransfer Time) (event : FileTransferEvent Time) : Prop :=
  ∀ handled, EndsWell transfer event handled → SameSize event.localSize transfer.op.remoteFileSize

/-- A resumed download finds that its file has a size with the bits of a remote size that is not
known, as a file has that is not there. -/
def MistakesUnknown (transfer : FileTransfer Time) (event : FileTransferEvent Time) : Prop :=
  ∃ env, event = .send env ∧ transfer.awaited = .nextCommand ∧
    EndsUnsent transfer.capabilities env transfer.op ∧ transfer.op.remoteFileSize < 0

theorem call_send {env : FileTransferEnv Time} (called : self.call (.send env) = some handled) :
    self.awaited = .nextCommand ∧ handled = self.op.send env self.capabilities := by
  simp only [call, Option.ite_none_right_eq_some, Option.some.injEq] at called
  exact ⟨called.1, called.2.symm⟩

theorem endsWell_send (downloading : Downloading self) (ends : EndsWell self event handled) :
    ∃ env, event = .send env ∧ self.awaited = .nextCommand ∧
      EndsUnsent self.capabilities env self.op := by
  have called := ends.called
  cases event with
  | send env =>
    obtain ⟨awaited, rfl⟩ := call_send called
    exact ⟨env, rfl, awaited, (send_cases downloading.download downloading.opState).1.mp ends.ok⟩
  | reply code response env =>
    obtain ⟨-, rfl⟩ := some_of_guard called
    exact absurd ends.ok (parseResponse_continues downloading.opState).reply
  | subcommand prevResult reason env =>
    obtain ⟨-, rfl⟩ := some_of_guard called
    have state : { self.op with transferEndReason := reason }.opState ≠ .mfmt :=
      downloading.opState
    exact absurd ends.ok (subcommandResult_continues state ends.untransferred).reply
  | fileExists action env => exact absurd rfl (ends.unasked action env)
  | learned capabilities => exact absurd called (by simp [call])

theorem completesRightly_iff (downloading : Downloading self) :
    CompletesRightly self event ↔ ¬ MistakesUnknown self event := by
  constructor
  · rintro completes ⟨env, rfl, awaited, ends, unknown⟩
    have ok := (send_cases downloading.download downloading.opState).1.mpr ends
    have called : self.call (.send env) = some (self.op.send env self.capabilities) := by
      simp [call, awaited]
    have same := completes _
      { called
        ok
        untransferred := fun waits => absurd (ends.1.symm.trans waits) (by simp)
        unasked := fun _ _ => by simp }
    exact absurd ((sameSize_iff ends.2.2.1).mp same) (Int64.not_le.mpr unknown)
  · intro knows handled ends
    obtain ⟨env, rfl, awaited, unsent⟩ := endsWell_send downloading ends
    apply (sameSize_iff unsent.2.2.1).mpr
    by_contra unknown
    exact knows ⟨env, rfl, awaited, unsent, Int64.not_le.mp unknown⟩

theorem settle_op (handled : Handled Time) : (self.settle handled).op = handled.op := by
  unfold settle
  dsimp only
  split
  · rfl
  · split <;> rfl

theorem call_downloading (downloading : Downloading self) (called : self.call event = some handled) :
    handled.op.download = true ∧ handled.op.opState ≠ .mfmt := by
  obtain ⟨download, state⟩ := downloading
  cases event with
  | send env =>
    obtain ⟨-, rfl⟩ := call_send called
    exact (send_cases download state).2
  | reply code response env =>
    obtain ⟨-, rfl⟩ := some_of_guard called
    have continues := @parseResponse_continues _ env self.capabilities self.op code response state
    exact ⟨continues.download.trans download, continues.opState⟩
  | subcommand prevResult reason env =>
    obtain ⟨-, rfl⟩ := some_of_guard called
    by_cases transferred : self.op.opState = .waittransfer
    · simp [subcommandResult, transferred, onWaittransfer, download]
    · have continues := @subcommandResult_continues _ env self.capabilities
        { self.op with transferEndReason := reason } prevResult state transferred
      exact ⟨continues.download.trans download, continues.opState⟩
  | fileExists action env =>
    obtain ⟨-, rfl⟩ := some_of_guard called
    exact setFileExistsAction_op download state
  | learned capabilities => exact absurd called (by simp [call])

theorem step_downloading (downloading : Downloading self) (taken : self.step event = some next) :
    Downloading next := by
  unfold step at taken
  split at taken
  · contradiction
  · split at taken
    · cases taken
      exact ⟨downloading.download, downloading.opState⟩
    · obtain ⟨handled, called, rfl⟩ := Option.map_eq_some_iff.mp taken
      obtain ⟨download, state⟩ := call_downloading downloading called
      constructor
      · rw [settle_op]
        exact download
      · rw [settle_op]
        exact state

theorem download_completes_iff {binary : Bool} {remotePath : CServerPath} {remoteFile : WString}
    {env : FileTransferEnv Time} {capabilities : TransferCapabilities}
    {trace : List (FileTransfer Time × FileTransferEvent Time)}
    (run : Run step (start true binary remotePath remoteFile env capabilities) trace self) :
    ∀ taken ∈ trace, CompletesRightly taken.1 taken.2 ↔ ¬ MistakesUnknown taken.1 taken.2 := by
  intro taken member
  obtain ⟨earlier, later, rfl⟩ := List.append_of_mem member
  have downloading : Downloading taken.1 := by
    apply run.before.invariant
    · exact ⟨rfl, by simp [start]⟩
    · intro state event next downloading taken
      exact step_downloading downloading taken
  exact completesRightly_iff downloading

/-- A file of which 5000 bytes are there, while the size of the remote file is not known -/
def partialFile : FileTransfer Unit :=
  start true true ⟨none, .unix⟩ (wide "a") { localSize := 5000 } {}

def resumed : FileTransfer Unit :=
  { partialFile with
    op := { partialFile.op with opState := .resumetest, resume := true }
    awaited := .nextCommand }

theorem resumed_reachable : ∃ trace, Run step partialFile trace resumed := by
  obtain ⟨trace, state, run, same⟩ := @exists_run_of_execute _ _ step partialFile
      [.send { localSize := 5000 }, .subcommand .ok .successful
        { localSize := 5000, dirDidExist := true }, .fileExists .resume {}]
      (fun _ state => state = resumed) (by decide)
  obtain rfl : state = resumed := of_decide_eq_true same
  exact ⟨trace, run⟩

theorem download_completes_iff_resumed :
    ∃ trace, Run step partialFile trace resumed ∧
      ∀ taken ∈ trace, CompletesRightly taken.1 taken.2 ↔ ¬ MistakesUnknown taken.1 taken.2 := by
  obtain ⟨trace, run⟩ := resumed_reachable
  exact ⟨trace, run, download_completes_iff run⟩

/-- The file is gone when the transfer is about to start. -/
theorem download_completes_without_file :
    ∃ trace state, Run step partialFile trace state ∧ state.ended = some .ok ∧
      ∃ taken ∈ trace, taken.2.localSize = nosize ∧ ¬ CompletesRightly taken.1 taken.2 := by
  obtain ⟨trace, run⟩ := resumed_reachable
  have taken : resumed.step (.send {}) = some { resumed with
      op := { resumed.op with localFileSize := nosize }
      ended := some .ok } := by
    decide
  refine ⟨_, _, .step run taken, rfl, (resumed, .send {}), by simp, rfl, ?_⟩
  intro completes
  have same := completes (resumed.op.send {} resumed.capabilities) ⟨rfl, rfl, by decide, by simp⟩
  exact same.1 rfl

end FileTransfer

end FtpTransfer

end FileZilla
