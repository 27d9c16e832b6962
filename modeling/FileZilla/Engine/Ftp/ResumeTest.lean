import FileZilla.Engine.Ftp.ResumedDownload
import FileZilla.Engine.Ftp.TransferChannels

namespace FileZilla

namespace FtpTransfer

open Ftp (Capability Channels DataConnection EndCode FtpCommand RawTransfer TransferEndReason)

variable {Time : Type}

/-- What `read` with room for two bytes gives. No byte is the end of the data. -/
inductive SocketRead
  | bytes (count : Fin 3)
  | again
  | failed

structure ResumeTestSocket where
  received : Nat := 0
  connection : DataConnection := {}

namespace ResumeTestSocket

def transferEnd (reason : TransferEndReason) (self : ResumeTestSocket) : ResumeTestSocket :=
  { self with connection := self.connection.transferEnd reason }

/-- The loop of `OnReceive` for a resume test -/
def readLoop : List SocketRead → ResumeTestSocket → ResumeTestSocket
  | [], self => self
  | .again :: _, self => self
  | .failed :: _, self => self.transferEnd .transferFailure
  | .bytes count :: rest, self =>
    if count.val = 0 then
      self.transferEnd (if self.received = 1 then .successful else .failedResumetest)
    else
      let self := { self with received := self.received + count }
      if 1 < self.received then self.transferEnd .failedResumetest else readLoop rest self

/-- `OnReceive`. What arrives after the end is thrown away. -/
def onReceive (reads : List SocketRead) (self : ResumeTestSocket) : ResumeTestSocket :=
  if self.connection.transferEndReason = .none then self.readLoop reads else self

def receive (calls : List (List SocketRead)) : ResumeTestSocket :=
  calls.foldl (fun self reads => self.onReceive reads) {}

structure CountsBytes (socket : ResumeTestSocket) : Prop where
  open_ : socket.connection.transferEndReason = .none → socket.received ≤ 1
  successful : socket.connection.transferEndReason = .successful → socket.received = 1
  failed : socket.connection.transferEndReason = .failedResumetest → socket.received ≠ 1

theorem readLoop_countsBytes {reads : List SocketRead} {self : ResumeTestSocket}
    (running : self.connection.transferEndReason = .none) (few : self.received ≤ 1) :
    CountsBytes (self.readLoop reads) := by
  have ends {socket : ResumeTestSocket} (alive : socket.connection.transferEndReason = .none)
      (reason : TransferEndReason) :
      (socket.transferEnd reason).connection.transferEndReason = reason ∧
        (socket.transferEnd reason).received = socket.received := by
    simp [transferEnd, DataConnection.transferEnd, alive]
  induction reads generalizing self with
  | nil => exact ⟨fun _ => few, by simp [readLoop, running], by simp [readLoop, running]⟩
  | cons read rest ih =>
    cases read with
    | again => exact ⟨fun _ => few, by simp [readLoop, running], by simp [readLoop, running]⟩
    | failed =>
      obtain ⟨reason, -⟩ := ends running .transferFailure
      simp only [readLoop]
      exact ⟨by simp [reason], by simp [reason], by simp [reason]⟩
    | bytes count =>
      simp only [readLoop]
      split
      case isTrue =>
        by_cases one : self.received = 1
        · obtain ⟨reason, received⟩ := ends running .successful
          rw [if_pos one]
          exact ⟨by simp [reason], fun _ => received.trans one, by simp [reason]⟩
        · obtain ⟨reason, received⟩ := ends running .failedResumetest
          rw [if_neg one]
          exact ⟨by simp [reason], by simp [reason], fun _ => by simp [received, one]⟩
      case isFalse =>
        split
        case isTrue many =>
          have alive : { self with received := self.received + count }.connection.transferEndReason
              = .none := running
          obtain ⟨reason, received⟩ := ends alive .failedResumetest
          refine ⟨by simp [reason], by simp [reason], fun _ => ?_⟩
          rw [received]
          exact Nat.ne_of_gt many
        case isFalse single => exact ih running (Nat.not_lt.mp single)

theorem onReceive_countsBytes {self : ResumeTestSocket} (counts : CountsBytes self)
    (reads : List SocketRead) : CountsBytes (self.onReceive reads) := by
  unfold onReceive
  split
  case isTrue running => exact readLoop_countsBytes running (counts.open_ running)
  case isFalse => exact counts

theorem receive_countsBytes (calls : List (List SocketRead)) : CountsBytes (receive calls) := by
  have every (self : ResumeTestSocket) (counts : CountsBytes self) :
      CountsBytes (calls.foldl (fun self reads => self.onReceive reads) self) := by
    induction calls generalizing self with
    | nil => exact counts
    | cons reads rest ih => exact ih _ (onReceive_countsBytes counts reads)
  apply every
  exact ⟨fun _ => Nat.zero_le _, by simp, by simp⟩

end ResumeTestSocket

inductive ResumeBug
  | twoGB
  | fourGB
  deriving DecidableEq

namespace TransferCapabilities

def resumeBug (self : TransferCapabilities) : ResumeBug → Capability
  | .twoGB => self.resume2GBbug
  | .fourGB => self.resume4GBbug

def setResumeBug (capability : Capability) (self : TransferCapabilities) :
    ResumeBug → TransferCapabilities
  | .twoGB => { self with resume2GBbug := capability }
  | .fourGB => { self with resume4GBbug := capability }

end TransferCapabilities

namespace CFtpFileTransferOpData

variable {env : FileTransferEnv Time} {capabilities : TransferCapabilities}
  {self : CFtpFileTransferOpData Time}

def testedBug (capabilities : TransferCapabilities) (localSize : UInt64) (remoteSize : Int64) :
    Option ResumeBug :=
  match resumeDecision 4294967296 capabilities.resume4GBbug localSize remoteSize with
  | .tests => some .fourGB
  | .ends _ => none
  | .passes =>
    match resumeDecision 2147483648 capabilities.resume2GBbug localSize remoteSize with
    | .tests => some .twoGB
    | _ => none

/-- `Send` of a resumed download with this local size -/
structure Resumes (op : CFtpFileTransferOpData Time) (env : FileTransferEnv Time)
    (localSize : UInt64) : Prop where
  download : op.download = true
  resume : op.resume = true
  opState : op.opState = .resumetest
  localSize : env.localSize = localSize

variable {localSize : UInt64} {remoteSize : Int64}

theorem resumeDecision_tests_iff {limit : UInt64} {capability : Capability} :
    resumeDecision limit capability localSize remoteSize = .tests ↔
      limit ≤ localSize ∧ capability = .unknown ∧ localSize < remoteSize.toUInt64 := by
  unfold resumeDecision
  split
  case isFalse small => simp [small]
  case isTrue large =>
    cases capability with
    | no => simp
    | yes =>
      dsimp only
      split <;> simp
    | unknown =>
      have order : localSize < remoteSize.toUInt64 ↔
          ¬ remoteSize.toUInt64 < localSize ∧ remoteSize.toUInt64 ≠ localSize := by
        simp only [UInt64.lt_iff_toNat_lt, ne_eq, ← UInt64.toNat_inj]
        omega
      by_cases less : remoteSize.toUInt64 < localSize
      · simp [less, order]
      · by_cases same : remoteSize.toUInt64 = localSize
        · simp [same]
        · simp [less, same, order, large]

theorem resumeRounds_tests_iff :
    self.resumeRounds capabilities = .tests ↔
      (testedBug capabilities self.localFileSize self.remoteFileSize).isSome := by
  unfold resumeRounds testedBug
  split
  case h_1 passes =>
    rw [passes]
    cases resumeDecision 2147483648 capabilities.resume2GBbug self.localFileSize
      self.remoteFileSize <;> simp
  case h_2 decided =>
    cases first : resumeDecision 4294967296 capabilities.resume4GBbug self.localFileSize
      self.remoteFileSize with
    | passes => exact absurd first decided
    | ends code => simp
    | tests => simp

theorem startDownload_opState (state : self.opState = .resumetest) :
    (self.startDownload env capabilities).op.opState ≠ .waitresumetest := by
  unfold startDownload
  dsimp only
  split
  · simp [state]
  · split
    · simp [state]
    · simp [startTransfer]

theorem send_resumed (resumes : Resumes self env localSize) :
    self.send env capabilities = self.sendDownload env capabilities := by
  simp [send, resumes.opState, resumes.download]

/-- A test is started where `testedBug` says so, and then the size is kept. -/
theorem send_tests (resumes : Resumes self env localSize)
    (tested : (testedBug capabilities localSize self.remoteFileSize).isSome) :
    (self.send env capabilities).op.opState = .waitresumetest ∧
      (self.send env capabilities).op.localFileSize = localSize := by
  have size : (self.asked env).localFileSize = localSize :=
    (asked_localFileSize resumes.resume).trans resumes.localSize
  have asks : (self.asked env).download = true := resumes.download
  have rounds : (self.asked env).resumeRounds capabilities = .tests := by
    rw [resumeRounds_tests_iff, size]
    exact tested
  have tests : (self.asked env).testResumeCapability capabilities =
      { self.asked env with
        opState := .waitresumetest
        resumeOffset := (self.asked env).remoteFileSize - 1
        transferSocket := some { mode := .resumetest } }.startTransfer capabilities
        (self.asked env).retr := by
    simp only [testResumeCapability, asks, rounds, Bool.not_true, Bool.false_eq_true, if_false]
  have sends : self.send env capabilities =
      (self.asked env).testResumeCapability capabilities := by
    rw [send_resumed resumes]
    simp only [sendDownload, resumes.resume, resumes.opState, tests, and_self, if_true]
    rw [if_pos (.inr (by simp [startTransfer]))]
  rw [sends, tests]
  exact ⟨rfl, size⟩

theorem send_untested (resumes : Resumes self env localSize)
    (untested : testedBug capabilities localSize self.remoteFileSize = none) :
    (self.send env capabilities).op.opState ≠ .waitresumetest := by
  have size : (self.asked env).localFileSize = localSize :=
    (asked_localFileSize resumes.resume).trans resumes.localSize
  have asks : (self.asked env).download = true := resumes.download
  have state : (self.asked env).opState = .resumetest := resumes.opState
  have rounds : (self.asked env).resumeRounds capabilities ≠ .tests := by
    intro tests
    have some := resumeRounds_tests_iff.mp tests
    rw [size] at some
    exact absurd some (by simp [asked, untested])
  have kept : ((self.asked env).testResumeCapability capabilities).op.opState = .resumetest := by
    simp only [testResumeCapability, asks, Bool.not_true, Bool.false_eq_true, if_false]
    cases decided : (self.asked env).resumeRounds capabilities with
    | passes => exact state
    | ends code => exact state
    | tests => exact absurd decided rounds
  rw [send_resumed resumes]
  simp only [sendDownload, resumes.resume, resumes.opState, and_self, if_true]
  split
  · rw [kept]
    simp
  · exact startDownload_opState kept

theorem testedBug_fourGB :
    testedBug capabilities localSize remoteSize = some .fourGB ↔
      4294967296 ≤ localSize ∧ capabilities.resume4GBbug = .unknown ∧
        localSize < remoteSize.toUInt64 := by
  rw [← resumeDecision_tests_iff]
  unfold testedBug
  split
  case h_1 tests => simp [tests]
  case h_2 ends => simp [ends]
  case h_3 passes =>
    rw [passes]
    split <;> simp

theorem testedBug_twoGB (tested : testedBug capabilities localSize remoteSize = some .twoGB) :
    2147483648 ≤ localSize ∧ capabilities.resume2GBbug = .unknown ∧
      localSize < remoteSize.toUInt64 := by
  rw [← resumeDecision_tests_iff]
  unfold testedBug at tested
  split at tested
  · simp at tested
  · simp at tested
  · split at tested
    case h_1 tests => exact tests
    case h_2 => simp at tested

theorem testedBug_none (four : 4294967296 ≤ localSize → capabilities.resume4GBbug ≠ .unknown)
    (two : 2147483648 ≤ localSize → capabilities.resume2GBbug ≠ .unknown) :
    testedBug capabilities localSize remoteSize = none := by
  cases tested : testedBug capabilities localSize remoteSize with
  | none => rfl
  | some bug =>
    cases bug with
    | fourGB =>
      obtain ⟨large, unknown, -⟩ := testedBug_fourGB.mp tested
      exact absurd unknown (four large)
    | twoGB =>
      obtain ⟨large, unknown, -⟩ := testedBug_twoGB tested
      exact absurd unknown (two large)

def rawTransfer (self : CFtpFileTransferOpData Time) : RawTransfer where
  cmd := self.retr
  binary := self.binary
  resumeOffset := self.resumeOffset.toInt

end CFtpFileTransferOpData

def endReply : EndCode → Reply
  | .ok => .ok
  | .criticalError => .criticalError
  | .disconnected => .error ||| .disconnected
  | _ => .error

/-- A test transfer from its command on, with what its data connection has read. That one also
ends for other reasons than those of the test. -/
structure TestTransfer (op : CFtpFileTransferOpData Time) where
  calls : List (List SocketRead)
  channels : Channels
  trace : List (Channels × Ftp.ChannelEvent)
  run : Run Channels.step (Channels.start op.rawTransfer) trace channels
  reads : ∀ reason, channels.connection.transferEndReason = reason →
    reason = .successful ∨ reason = .failedResumetest →
    (ResumeTestSocket.receive calls).connection.transferEndReason = reason
  code : EndCode
  ended : channels.ended = some code

namespace TestTransfer

open CFtpFileTransferOpData

variable {op : CFtpFileTransferOpData Time} {capabilities : TransferCapabilities}
  {env : FileTransferEnv Time} (test : TestTransfer op)

def result (env : FileTransferEnv Time)
    (capabilities : TransferCapabilities) : Handled Time :=
  { op with
    transferEndReason := test.channels.transfer.transferEndReason }.subcommandResult env
    capabilities (endReply test.code)

def Completes : Prop :=
  test.code = .ok

def FailsResumetest : Prop :=
  test.code = .error ∧ test.channels.transfer.transferEndReason = .failedResumetest

variable {test : TestTransfer op}

theorem Completes.received (completes : test.Completes) :
    (ResumeTestSocket.receive test.calls).received = 1 := by
  have rightly := (Channels.run_coherent test.run).ends test.code test.ended
  have successful := (rightly.ok.mp completes).2.2
  apply (ResumeTestSocket.receive_countsBytes test.calls).successful
  exact test.reads _ successful (.inl rfl)

theorem Completes.result (completes : test.Completes) (waits : op.opState = .waitresumetest) :
    (test.result env capabilities).capabilities = op.setTested capabilities .no := by
  have ok : test.code = .ok := completes
  simp [TestTransfer.result, subcommandResult, waits, ok, endReply, onWaitresumetest, setTested]

theorem FailsResumetest.result (fails : test.FailsResumetest)
    (waits : op.opState = .waitresumetest) :
    (test.result env capabilities).capabilities = op.setTested capabilities .yes := by
  simp [TestTransfer.result, subcommandResult, waits, fails.1, fails.2, endReply, onWaitresumetest,
    setTested, Reply.error, Reply.ok]

theorem exists_completes (op : CFtpFileTransferOpData Time) :
    ∃ test : TestTransfer op, test.Completes := by
  obtain ⟨trace, channels, run, ended⟩ :=
    @exists_run_of_execute _ _ Channels.step (Channels.start op.rawTransfer)
      [.reply 1 {}, .connectionEnd .successful, .transferEnd {}, .reply 2 {}]
      (fun _ channels => channels.ended = some .ok ∧
        channels.connection.transferEndReason = .successful) rfl
  obtain ⟨ok, successful⟩ := of_decide_eq_true ended
  refine ⟨⟨[[.bytes 1, .bytes 0]], channels, trace, run, ?_, .ok, ok⟩, rfl⟩
  intro reason same _
  exact successful.symm.trans same

end TestTransfer

/-- What a test finds out is remembered for the capability that it is about, and is not asked
again. -/
structure RecordsTest (bug : ResumeBug) (op : CFtpFileTransferOpData Time)
    (capabilities : TransferCapabilities) (localSize : UInt64) : Prop where
  completed : ∀ test : TestTransfer op, test.Completes → ∀ env,
    (ResumeTestSocket.receive test.calls).received = 1 ∧
      (test.result env capabilities).capabilities = capabilities.setResumeBug .no bug
  failed : ∀ test : TestTransfer op, test.FailsResumetest → ∀ env,
    (test.result env capabilities).capabilities = capabilities.setResumeBug .yes bug
  once : ∀ test : TestTransfer op, test.Completes ∨ test.FailsResumetest →
    ∀ env (later : CFtpFileTransferOpData Time) laterEnv, later.Resumes laterEnv localSize →
    (later.send laterEnv (test.result env capabilities).capabilities).op.opState ≠ .waitresumetest

namespace CFtpFileTransferOpData

variable {env : FileTransferEnv Time} {capabilities : TransferCapabilities}
  {self : CFtpFileTransferOpData Time}

open TransferCapabilities

theorem setTested_large {capability : Capability} (large : 4294967296 < self.localFileSize) :
    self.setTested capabilities capability = capabilities.setResumeBug capability .fourGB := by
  simp [setTested, large, setResumeBug]

theorem setTested_small {capability : Capability} (small : ¬ 4294967296 < self.localFileSize) :
    self.setTested capabilities capability = capabilities.setResumeBug capability .twoGB := by
  simp [setTested, small, setResumeBug]

theorem send_known {localSize : UInt64} (resumes : Resumes self env localSize)
    (four : 4294967296 ≤ localSize → capabilities.resume4GBbug ≠ .unknown)
    (two : 2147483648 ≤ localSize → capabilities.resume2GBbug ≠ .unknown) :
    (self.send env capabilities).op.opState ≠ .waitresumetest :=
  send_untested resumes (testedBug_none four two)

variable {localSize : UInt64} {op : CFtpFileTransferOpData Time}

theorem recordsTest_fourGB (waits : op.opState = .waitresumetest)
    (size : op.localFileSize = localSize) (large : 4294967296 < localSize)
    (known : capabilities.resume2GBbug ≠ .unknown) :
    RecordsTest .fourGB op capabilities localSize where
  completed test completes env := by
    refine ⟨completes.received, ?_⟩
    rw [completes.result waits, setTested_large (size ▸ large)]
  failed test fails env := by
    rw [fails.result waits, setTested_large (size ▸ large)]
  once test ends env later laterEnv resumes := by
    rcases ends with completes | fails
    · rw [completes.result waits, setTested_large (size ▸ large)]
      exact send_known resumes (fun _ => by simp [setResumeBug])
        fun _ => known
    · rw [fails.result waits, setTested_large (size ▸ large)]
      exact send_known resumes (fun _ => by simp [setResumeBug])
        fun _ => known

theorem recordsTest_twoGB (waits : op.opState = .waitresumetest)
    (size : op.localFileSize = localSize) (small : ¬ 4294967296 < localSize)
    (known : 4294967296 ≤ localSize → capabilities.resume4GBbug ≠ .unknown) :
    RecordsTest .twoGB op capabilities localSize where
  completed test completes env := by
    refine ⟨completes.received, ?_⟩
    rw [completes.result waits, setTested_small (size ▸ small)]
  failed test fails env := by
    rw [fails.result waits, setTested_small (size ▸ small)]
  once test ends env later laterEnv resumes := by
    rcases ends with completes | fails
    · rw [completes.result waits, setTested_small (size ▸ small)]
      exact send_known resumes known fun _ => by simp [setResumeBug]
    · rw [fails.result waits, setTested_small (size ▸ small)]
      exact send_known resumes known fun _ => by simp [setResumeBug]

/-- The result of a test for files of more than 4 GB is remembered, and no further test follows
if the other capability is known; of the other tests it is if the file is not larger than
4 GB. -/
theorem resumeTest_recorded_iff {bug : ResumeBug} (resumes : Resumes self env localSize)
    (tested : testedBug capabilities localSize self.remoteFileSize = some bug) :
    RecordsTest bug (self.send env capabilities).op capabilities localSize ↔
      (bug = .fourGB ∧ 4294967296 < localSize ∧ capabilities.resume2GBbug ≠ .unknown) ∨
        (bug = .twoGB ∧ localSize ≤ 4294967296) := by
  obtain ⟨waits, size⟩ := @send_tests _ env capabilities self localSize resumes (by simp [tested])
  constructor
  · intro records
    obtain ⟨test, completes⟩ := TestTransfer.exists_completes (self.send env capabilities).op
    have stored := (records.completed test completes env).2
    rw [completes.result waits] at stored
    cases bug with
    | fourGB =>
      obtain ⟨least, unknown, larger⟩ := testedBug_fourGB.mp tested
      have large : 4294967296 < localSize := by
        by_contra small
        rw [setTested_small (size ▸ small)] at stored
        have four := congrArg resume4GBbug stored
        simp [setResumeBug, unknown] at four
      refine .inl ⟨rfl, large, fun other => ?_⟩
      have again := records.once test (.inl completes) env self env resumes
      rw [completes.result waits, stored] at again
      apply again
      apply (send_tests resumes _).1
      have passes : resumeDecision 4294967296 .no localSize self.remoteFileSize = .passes := by
        simp [resumeDecision]
      have middle : (2147483648 : UInt64) ≤ 4294967296 := by decide
      have tests := resumeDecision_tests_iff.mpr ⟨UInt64.le_trans middle least, other, larger⟩
      simp only [testedBug, setResumeBug, passes, tests, Option.isSome_some]
    | twoGB =>
      refine .inr ⟨rfl, UInt64.not_lt.mp fun large => ?_⟩
      obtain ⟨-, unknown, -⟩ := testedBug_twoGB tested
      rw [setTested_large (size ▸ large)] at stored
      have two := congrArg resume2GBbug stored
      simp [setResumeBug, unknown] at two
  · rintro (⟨rfl, large, known⟩ | ⟨rfl, small⟩)
    · exact recordsTest_fourGB waits size large known
    · apply recordsTest_twoGB waits size (UInt64.not_lt.mpr small)
      intro large unknown
      have larger : localSize < self.remoteFileSize.toUInt64 := (testedBug_twoGB tested).2.2
      have four := testedBug_fourGB.mpr ⟨large, unknown, larger⟩
      cases four.symm.trans tested

def fourOfFive : CFtpFileTransferOpData Unit where
  opState := .resumetest
  download := true
  resume := true
  remotePath := ⟨none, .unix⟩
  remoteFile := wide "a"
  remoteFileSize := 5368709120

theorem fourOfFive_resumes (localSize : UInt64) :
    Resumes fourOfFive { localSize } localSize :=
  ⟨rfl, rfl, rfl, rfl⟩

theorem resumeTest_recorded_iff_threeGB :
    RecordsTest .twoGB (fourOfFive.send { localSize := 3221225472 } {}).op {} 3221225472 := by
  have small : (3221225472 : UInt64) ≤ 4294967296 := by decide
  exact (resumeTest_recorded_iff (fourOfFive_resumes 3221225472) (by decide)).mpr
    (.inr ⟨rfl, small⟩)

/-- At 4 GB exactly, the result of the test is not stored where it is looked for. -/
theorem resumeTest_misfiled :
    testedBug {} 4294967296 fourOfFive.remoteFileSize = some .fourGB ∧
      ¬ RecordsTest .fourGB (fourOfFive.send { localSize := 4294967296 } {}).op {}
        4294967296 := by
  refine ⟨by decide, fun records => ?_⟩
  obtain ⟨test, completes⟩ :=
    TestTransfer.exists_completes (fourOfFive.send { localSize := 4294967296 } {}).op
  have stored := (records.completed test completes {}).2
  rw [completes.result (by decide)] at stored
  have four := congrArg resume4GBbug stored
  cases four

end CFtpFileTransferOpData

end FtpTransfer

end FileZilla
